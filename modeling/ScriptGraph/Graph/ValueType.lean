/-!
The value types of a graph.
-/

namespace ScriptGraph

/-- What a socket, a variable or a slot of an event can carry. -/
inductive ValueType where
  | bool
  | int
  | float
  | float2
  | float3
  | float4
  | float4x4
deriving DecidableEq, Inhabited

namespace ValueType

/-- Every value type, in the order of declaration. -/
def all : List ValueType := [bool, int, float, float2, float3, float4, float4x4]

/-- The name under which a type is written. -/
def name : ValueType → String
  | bool => "bool"
  | int => "int"
  | float => "float"
  | float2 => "float2"
  | float3 => "float3"
  | float4 => "float4"
  | float4x4 => "float4x4"

/-- The name with a capital letter, as listings show it. -/
def title : ValueType → String
  | bool => "Bool"
  | int => "Int"
  | float => "Float"
  | float2 => "Float2"
  | float3 => "Float3"
  | float4 => "Float4"
  | float4x4 => "Float4x4"

/-- The type with a given name. -/
def ofName? (name : String) : Option ValueType := all.find? (·.name == name)

/-- The number of scalar components; a scalar has one. -/
def componentCount : ValueType → Nat
  | bool | int | float => 1
  | float2 => 2
  | float3 => 3
  | float4 => 4
  | float4x4 => 16

theorem ofName?_name (t : ValueType) : ofName? t.name = some t := by cases t <;> decide

end ValueType

end ScriptGraph
