import ScriptGraph.Graph.ValueType
import ScriptGraph.Numeric.Layout

/-!
Constants of a graph: literals on value inputs and the static parameters of nodes.
-/

namespace ScriptGraph

/-- A typed constant. -/
inductive Literal where
  | bool (value : Bool)
  | int (value : Int32)
  | float (value : Single)
  | float2 (components : Vector Single 2)
  | float3 (components : Vector Single 3)
  | float4 (components : Vector Single 4)
  | float4x4 (components : Vector Single 16)
deriving DecidableEq

namespace Literal

/-- The type of a constant. -/
def valueType : Literal → ValueType
  | bool _ => .bool
  | int _ => .int
  | float _ => .float
  | float2 _ => .float2
  | float3 _ => .float3
  | float4 _ => .float4
  | float4x4 _ => .float4x4

/-- The number behind an `int`. -/
def toInt? : Literal → Option Int32
  | int value => some value
  | _ => none

/-- The number behind a scalar, an `int` rounded to the nearest float. -/
def toSingle? : Literal → Option Single
  | float value => some value
  | int value => some (.ofInt value.toInt)
  | _ => none

/-- The float components; `bool` and `int` have none. -/
def components : Literal → List Single
  | bool _ | int _ => []
  | float value => [value]
  | float2 v => v.toList
  | float3 v => v.toList
  | float4 v => v.toList
  | float4x4 v => v.toList

/-- A vector with the entries of a list that has the right length. -/
def vectorOf? (n : Nat) (components : List Single) : Option (Vector Single n) :=
  if h : components.length = n then some ⟨components.toArray, by simpa using h⟩ else none

/-- The constant of a float type with the given components, if their number is right. -/
def ofComponents? (type : ValueType) (components : List Single) : Option Literal :=
  match type with
  | .bool | .int => none
  | .float => match components with
    | [value] => some (float value)
    | _ => none
  | .float2 => (vectorOf? 2 components).map float2
  | .float3 => (vectorOf? 3 components).map float3
  | .float4 => (vectorOf? 4 components).map float4
  | .float4x4 => (vectorOf? 16 components).map float4x4

/-- A vector of three components. -/
def triple (x y z : Single) : Literal := float3 #v[x, y, z]

/-- A vector of four components. -/
def quadruple (x y z w : Single) : Literal := float4 #v[x, y, z, w]

/-- The identity matrix. -/
def identityMatrix : Vector Single 16 :=
  Vector.ofFn fun i => if i.val / 4 = i.val % 4 then .one else .zero

/-- A constant as listings show it. -/
def render : Literal → String
  | bool value => toString value
  | int value => toString value.toInt
  | float value => value.render .listing
  | vector =>
    "(" ++ String.intercalate ", " (vector.components.map (·.render .listing)) ++ ")"

end Literal

/-- The value that storage starts with when nothing else is said. -/
def ValueType.default : ValueType → Literal
  | bool => .bool false
  | int => .int 0
  | float => .float .zero
  | float2 => .float2 (Vector.replicate 2 .zero)
  | float3 => .float3 (Vector.replicate 3 .zero)
  | float4 => .float4 (Vector.replicate 4 .zero)
  | float4x4 => .float4x4 Literal.identityMatrix

/-- A static parameter of a node. -/
inductive ConfigValue where
  | int (value : Int32)
  | intList (values : List Int32)
  | bool (value : Bool)
  | float (value : Single)
  | text (value : String)
deriving DecidableEq

namespace ConfigValue

/-- The number behind an `int`. -/
def toInt? : ConfigValue → Option Int32
  | int value => some value
  | _ => none

/-- The numbers behind a list. -/
def toIntList? : ConfigValue → Option (List Int32)
  | intList values => some values
  | _ => none

/-- The text, if it is one. -/
def toText? : ConfigValue → Option String
  | text value => some value
  | _ => none

/-- A parameter as listings show it. Texts stand between quotes and are not escaped. -/
def render : ConfigValue → String
  | int value => toString value.toInt
  | intList values => "[" ++ String.intercalate ", " (values.map fun v => toString v.toInt) ++ "]"
  | bool value => toString value
  | float value => value.render .listing
  | text value => "\"" ++ value ++ "\""

end ConfigValue

end ScriptGraph
