import ScriptGraph.Graph.Op
import ScriptGraph.Source.Syntax

/-!
The methods and members of the host that are lowered directly. They are known by the simple name
of the declaring type and their own name; namespaces do not matter.
-/

namespace ScriptGraph

/-- How grave a log message is. -/
inductive Severity where
  | info
  | warning
  | error
deriving DecidableEq

/-- The severity as messages show it. -/
def Severity.title : Severity → String
  | info => "Info"
  | warning => "Warning"
  | error => "Error"

/-- The number that stands for a severity on a node. -/
def Severity.level : Severity → Int32
  | info => 0
  | warning => 1
  | error => 2

/-- A host method with a lowering of its own. -/
inductive HostMethod where
  | delay
  | setActive
  | log (severity : Severity)
  | translate
  | rotate
  | lookAt
  | setPositionAndRotation
  /-- Euler angles in degrees, as three numbers or one vector. -/
  | quaternionEuler
  | quaternionInverse
  | distance
  /-- A function that is one node, its arguments in order. -/
  | math (op : Op)
  | listAdd
  | listInsert
  | listRemoveAt
  | listClear
deriving DecidableEq

namespace HostMethod

/-- The functions of vector types that are one node. -/
def vectorFunction? : String → Option Op
  | "Normalize" => some .mathNormalize
  | "Dot" => some .mathDot
  | "Cross" => some .mathCross
  | "Lerp" | "LerpUnclamped" => some .mathMix
  | "Min" => some .mathMin
  | "Max" => some .mathMax
  | _ => none

/-- The functions of numbers that are one node. -/
def scalarFunction? : String → Option Op
  | "Sin" => some .mathSin
  | "Cos" => some .mathCos
  | "Tan" => some .mathTan
  | "Asin" => some .mathAsin
  | "Acos" => some .mathAcos
  | "Atan" => some .mathAtan
  | "Atan2" => some .mathAtan2
  | "Sqrt" => some .mathSqrt
  | "Abs" => some .mathAbs
  | "Min" => some .mathMin
  | "Max" => some .mathMax
  | "Floor" => some .mathFloor
  | "Clamp" => some .mathClamp
  | "Lerp" | "LerpUnclamped" => some .mathMix
  | _ => none

/-- The method of a type with a given name. -/
def ofNames? (type method : String) : Option HostMethod :=
  match type, method with
  | "Task", "Delay" => some delay
  | "GameObject", "SetActive" => some setActive
  | "Debug", "Log" => some (log .info)
  | "Debug", "LogWarning" => some (log .warning)
  | "Debug", "LogError" => some (log .error)
  | "Transform", "Translate" => some translate
  | "Transform", "Rotate" => some rotate
  | "Transform", "LookAt" => some lookAt
  | "Transform", "SetPositionAndRotation" => some setPositionAndRotation
  | "Quaternion", "Euler" => some quaternionEuler
  | "Quaternion", "Inverse" => some quaternionInverse
  | "Vector2", "Distance" | "Vector3", "Distance" | "Vector4", "Distance" => some distance
  | "Vector2", name | "Vector3", name | "Vector4", name => (vectorFunction? name).map math
  | "Mathf", name => (scalarFunction? name).map math
  | "List", "Add" => some listAdd
  | "List", "Insert" => some listInsert
  | "List", "RemoveAt" => some listRemoveAt
  | "List", "Clear" => some listClear
  | _, _ => none

/-- The method behind a symbol. -/
def recognize? (m : MethodSymbol) : Option HostMethod := ofNames? m.declaringType.name m.name

/-- The method as messages show it. -/
def title : HostMethod → String
  | delay => "Delay"
  | setActive => "SetActive"
  | log severity => "Log(" ++ severity.title ++ ")"
  | translate => "Translate"
  | rotate => "Rotate"
  | lookAt => "LookAt"
  | setPositionAndRotation => "SetPositionAndRotation"
  | quaternionEuler => "QuaternionEuler"
  | quaternionInverse => "QuaternionInverse"
  | distance => "Distance"
  | math op => "Math(" ++ op.title ++ ")"
  | listAdd => "ListAdd"
  | listInsert => "ListInsert"
  | listRemoveAt => "ListRemoveAt"
  | listClear => "ListClear"

/-- Whether the method acts when it is run, so that it takes a flow and hands one on. -/
def hasFlowEffect : HostMethod → Bool
  | quaternionEuler | quaternionInverse | distance | math _ => false
  | _ => true

end HostMethod

/-- A host member with a lowering of its own. -/
inductive HostProperty where
  | position
  | localPosition
  | rotation
  | localRotation
  | localScale
  | lossyScale
  /-- A component of a vector. -/
  | component (index : Nat)
  | normalized
  | magnitude
  | listCount
  | deltaTime
  | time
  /-- The same object as the receiver. -/
  | transform
  /-- The same object as the receiver. -/
  | gameObject
deriving DecidableEq

namespace HostProperty

/-- The members of vectors. -/
def vectorMember? : String → Option HostProperty
  | "x" => some (component 0)
  | "y" => some (component 1)
  | "z" => some (component 2)
  | "w" => some (component 3)
  | "normalized" => some normalized
  | "magnitude" => some magnitude
  | _ => none

/-- The member of a type with a given name. -/
def ofNames? (type member : String) : Option HostProperty :=
  match type, member with
  | "Transform", "position" => some position
  | "Transform", "localPosition" => some localPosition
  | "Transform", "rotation" => some rotation
  | "Transform", "localRotation" => some localRotation
  | "Transform", "localScale" => some localScale
  | "Transform", "lossyScale" => some lossyScale
  | "Vector2", name | "Vector3", name | "Vector4", name | "Quaternion", name => vectorMember? name
  | "List", "Count" => some listCount
  | "Time", "deltaTime" => some deltaTime
  | "Time", "time" => some time
  | _, "transform" => some transform
  | _, "gameObject" => some gameObject
  | _, _ => none

/-- The member behind a symbol. -/
def recognize? (m : MemberSymbol) : Option HostProperty := ofNames? m.declaringType.name m.name

/-- The member as messages show it. -/
def title : HostProperty → String
  | position => "Position"
  | localPosition => "LocalPosition"
  | rotation => "Rotation"
  | localRotation => "LocalRotation"
  | localScale => "LocalScale"
  | lossyScale => "LossyScale"
  | component index => "Component(" ++ toString index ++ ")"
  | normalized => "Normalized"
  | magnitude => "Magnitude"
  | listCount => "ListCount"
  | deltaTime => "DeltaTime"
  | time => "Time"
  | transform => "Transform"
  | gameObject => "GameObject"

/-- Whether the member can be assigned. -/
def isWritable : HostProperty → Bool
  | position | localPosition | rotation | localRotation | localScale => true
  | _ => false

end HostProperty

namespace HostType

/-- The value type that carries a host type. -/
def valueType? (t : HostType) : Option ValueType :=
  match t.name with
  | "Boolean" | "bool" => some .bool
  | "Int32" | "int" | "Int16" | "short" | "Byte" | "byte" => some .int
  | "Single" | "float" | "Double" | "double" => some .float
  | "Vector2" => some .float2
  | "Vector3" => some .float3
  | "Vector4" | "Quaternion" | "Color" => some .float4
  | "Matrix4x4" => some .float4x4
  | _ => none

/-- Whether values of the type are objects, known to a graph by their target numbers. -/
def isObject (t : HostType) : Bool := t.name = "GameObject" || t.name = "Transform"

/-- The value type that carries a host type in storage; an object is carried by its number. -/
def storageType? (t : HostType) : Option ValueType :=
  t.valueType?.or (if t.isObject then some .int else none)

end HostType

/-- The value type of the result of an expression. -/
def Expression.valueType? (e : Expression) : Option ValueType :=
  e.resultType.bind HostType.storageType?

end ScriptGraph
