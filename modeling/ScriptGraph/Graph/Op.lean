import ScriptGraph.Graph.ValueType

/-!
The operations of a graph and the sockets each of them declares.
-/

namespace ScriptGraph

/-- The kind of a node. -/
inductive Op where
  | eventOnStart
  | eventOnTick
  | eventReceive
  | eventSend
  | flowBranch
  | flowSequence
  | flowFor
  | flowWhile
  | flowSwitch
  | flowWaitAll
  | flowSetDelay
  | variableGet
  | variableSet
  | pointerGet
  | pointerSet
  | debugLog
  | mathAdd
  | mathSub
  | mathMul
  | mathDiv
  | mathRem
  | mathNeg
  | mathAbs
  | mathFloor
  | mathMin
  | mathMax
  | mathClamp
  | mathMix
  | mathSqrt
  | mathSin
  | mathCos
  | mathTan
  | mathAsin
  | mathAcos
  | mathAtan
  | mathAtan2
  | mathRad
  | mathDeg
  | mathLt
  | mathLe
  | mathGt
  | mathGe
  | mathEq
  | mathAnd
  | mathOr
  | mathNot
  | mathSelect
  | mathSwitch
  | mathCombine2
  | mathCombine3
  | mathCombine4
  | mathExtract2
  | mathExtract3
  | mathExtract4
  | mathDot
  | mathCross
  | mathLength
  | mathNormalize
  | mathMatMul
  | mathInverse
  | mathTransform
  | mathMatDecompose
  | mathQuatMul
  | typeFloatToInt
  | typeIntToFloat
deriving DecidableEq, Inhabited

namespace Op

/-- Every operation, in the order of declaration. -/
def all : List Op :=
  [eventOnStart, eventOnTick, eventReceive, eventSend, flowBranch, flowSequence, flowFor,
   flowWhile, flowSwitch, flowWaitAll, flowSetDelay, variableGet, variableSet, pointerGet,
   pointerSet, debugLog, mathAdd, mathSub, mathMul, mathDiv, mathRem, mathNeg, mathAbs,
   mathFloor, mathMin, mathMax, mathClamp, mathMix, mathSqrt, mathSin, mathCos, mathTan,
   mathAsin, mathAcos, mathAtan, mathAtan2, mathRad, mathDeg, mathLt, mathLe, mathGt, mathGe,
   mathEq, mathAnd, mathOr, mathNot, mathSelect, mathSwitch, mathCombine2, mathCombine3,
   mathCombine4, mathExtract2, mathExtract3, mathExtract4, mathDot, mathCross, mathLength,
   mathNormalize, mathMatMul, mathInverse, mathTransform, mathMatDecompose, mathQuatMul,
   typeFloatToInt, typeIntToFloat]

/-- The identifier of an operation. -/
def name : Op → String
  | eventOnStart => "event/onStart"
  | eventOnTick => "event/onTick"
  | eventReceive => "event/receive"
  | eventSend => "event/send"
  | flowBranch => "flow/branch"
  | flowSequence => "flow/sequence"
  | flowFor => "flow/for"
  | flowWhile => "flow/while"
  | flowSwitch => "flow/switch"
  | flowWaitAll => "flow/waitAll"
  | flowSetDelay => "flow/setDelay"
  | variableGet => "variable/get"
  | variableSet => "variable/set"
  | pointerGet => "pointer/get"
  | pointerSet => "pointer/set"
  | debugLog => "debug/log"
  | mathAdd => "math/add"
  | mathSub => "math/sub"
  | mathMul => "math/mul"
  | mathDiv => "math/div"
  | mathRem => "math/rem"
  | mathNeg => "math/neg"
  | mathAbs => "math/abs"
  | mathFloor => "math/floor"
  | mathMin => "math/min"
  | mathMax => "math/max"
  | mathClamp => "math/clamp"
  | mathMix => "math/mix"
  | mathSqrt => "math/sqrt"
  | mathSin => "math/sin"
  | mathCos => "math/cos"
  | mathTan => "math/tan"
  | mathAsin => "math/asin"
  | mathAcos => "math/acos"
  | mathAtan => "math/atan"
  | mathAtan2 => "math/atan2"
  | mathRad => "math/rad"
  | mathDeg => "math/deg"
  | mathLt => "math/lt"
  | mathLe => "math/le"
  | mathGt => "math/gt"
  | mathGe => "math/ge"
  | mathEq => "math/eq"
  | mathAnd => "math/and"
  | mathOr => "math/or"
  | mathNot => "math/not"
  | mathSelect => "math/select"
  | mathSwitch => "math/switch"
  | mathCombine2 => "math/combine2"
  | mathCombine3 => "math/combine3"
  | mathCombine4 => "math/combine4"
  | mathExtract2 => "math/extract2"
  | mathExtract3 => "math/extract3"
  | mathExtract4 => "math/extract4"
  | mathDot => "math/dot"
  | mathCross => "math/cross"
  | mathLength => "math/length"
  | mathNormalize => "math/normalize"
  | mathMatMul => "math/matMul"
  | mathInverse => "math/inverse"
  | mathTransform => "math/transform"
  | mathMatDecompose => "math/matDecompose"
  | mathQuatMul => "math/quatMul"
  | typeFloatToInt => "type/floatToInt"
  | typeIntToFloat => "type/intToFloat"

/-- The operation with a given identifier. -/
def ofName? (name : String) : Option Op := all.find? (·.name == name)

/-- The identifier as one word with capital letters, as messages show it. -/
def title (op : Op) : String := String.join ((op.name.splitOn "/").map String.capitalize)

/-- The place of an operation in the order of declaration. -/
def ordinal (op : Op) : Nat := all.idxOf op

end Op

/-- How the type of a value output is known when the node is made. -/
inductive OutputType where
  | exact (type : ValueType)
  | sameAsInput (input : String)
  /-- Said by whoever makes the node. -/
  | assigned

/-- The sockets an operation takes beyond its declared ones. -/
inductive DynamicSockets where
  | none
  | numberedFlowOutputs
  | numberedFlowInputs
  | numberedValueInputs
  /-- One value input for each token of the `pointer` parameter. -/
  | templateValueInputs
  /-- One value input for each token of the `message` parameter. -/
  | messageValueInputs
  | eventValueOutputs
  | eventValueInputs
deriving DecidableEq

/-- The parameters and sockets an operation declares. -/
structure Schema where
  config : List String := []
  valuesIn : List String := []
  valuesOut : List (String × OutputType) := []
  flowsIn : List String := []
  flowsOut : List String := []
  dynamic : DynamicSockets := .none

namespace Schema

/-- A function of the given inputs whose result has a fixed type. -/
def function (inputs : List String) (result : ValueType) : Schema :=
  { valuesIn := inputs, valuesOut := [("value", .exact result)] }

/-- A function whose result has the type of its input `a`. -/
def likeFirst (inputs : List String) : Schema :=
  { valuesIn := inputs, valuesOut := [("value", .sameAsInput "a")] }

/-- Splits a vector into its components. -/
def split (outputs : List String) : Schema :=
  { valuesIn := ["a"], valuesOut := outputs.map fun o => (o, .exact .float) }

end Schema

/-- The declaration of an operation. -/
def Op.schema : Op → Schema
  | eventOnStart => { flowsOut := ["out"] }
  | eventOnTick =>
    { flowsOut := ["out"]
      valuesOut := [("timeSinceStart", .exact .float), ("timeSinceLastTick", .exact .float)] }
  | eventReceive => { config := ["event"], flowsOut := ["out"], dynamic := .eventValueOutputs }
  | eventSend =>
    { config := ["event"], flowsIn := ["in"], flowsOut := ["out"], dynamic := .eventValueInputs }
  | flowBranch => { valuesIn := ["condition"], flowsIn := ["in"], flowsOut := ["true", "false"] }
  | flowSequence => { flowsIn := ["in"], dynamic := .numberedFlowOutputs }
  | flowFor =>
    { config := ["initialIndex"]
      valuesIn := ["startIndex", "endIndex"]
      valuesOut := [("index", .exact .int)]
      flowsIn := ["in"]
      flowsOut := ["loopBody", "completed"] }
  | flowWhile =>
    { valuesIn := ["condition"], flowsIn := ["in"], flowsOut := ["loopBody", "completed"] }
  | flowSwitch =>
    { config := ["cases"]
      valuesIn := ["selection"]
      flowsIn := ["in"]
      flowsOut := ["default"]
      dynamic := .numberedFlowOutputs }
  | flowWaitAll =>
    { config := ["inputFlows"]
      valuesOut := [("remainingInputs", .exact .int)]
      flowsIn := ["reset"]
      flowsOut := ["out", "completed"]
      dynamic := .numberedFlowInputs }
  | flowSetDelay =>
    { valuesIn := ["duration"]
      valuesOut := [("lastDelayIndex", .exact .int)]
      flowsIn := ["in", "cancel"]
      flowsOut := ["out", "err", "done"] }
  | variableGet => { config := ["variable"], valuesOut := [("value", .assigned)] }
  | variableSet =>
    { config := ["variable"], valuesIn := ["value"], flowsIn := ["in"], flowsOut := ["out"] }
  | pointerGet =>
    { config := ["pointer", "type"]
      valuesOut := [("value", .assigned), ("isValid", .exact .bool)]
      dynamic := .templateValueInputs }
  | pointerSet =>
    { config := ["pointer", "type"]
      valuesIn := ["value"]
      flowsIn := ["in"]
      flowsOut := ["out", "err"]
      dynamic := .templateValueInputs }
  | debugLog =>
    { config := ["severity", "message"]
      flowsIn := ["in"]
      flowsOut := ["out"]
      dynamic := .messageValueInputs }
  | mathAdd | mathSub | mathMul | mathDiv | mathRem | mathMin | mathMax | mathAtan2 | mathAnd
  | mathOr | mathMatMul | mathCross => .likeFirst ["a", "b"]
  | mathNeg | mathAbs | mathFloor | mathSqrt | mathSin | mathCos | mathTan | mathAsin | mathAcos
  | mathAtan | mathRad | mathDeg | mathNot | mathNormalize | mathInverse => .likeFirst ["a"]
  | mathLt | mathLe | mathGt | mathGe | mathEq => .function ["a", "b"] .bool
  | mathClamp | mathMix => .likeFirst ["a", "b", "c"]
  | mathSelect => .likeFirst ["condition", "a", "b"]
  | mathSwitch =>
    { config := ["cases"]
      valuesIn := ["selection", "default"]
      valuesOut := [("value", .sameAsInput "default")]
      dynamic := .numberedValueInputs }
  | mathCombine2 => .function ["a", "b"] .float2
  | mathCombine3 => .function ["a", "b", "c"] .float3
  | mathCombine4 => .function ["a", "b", "c", "d"] .float4
  | mathExtract2 => .split ["0", "1"]
  | mathExtract3 => .split ["0", "1", "2"]
  | mathExtract4 => .split ["0", "1", "2", "3"]
  | mathDot => .function ["a", "b"] .float
  | mathLength => .function ["a"] .float
  | mathTransform => .function ["a", "b"] .float4
  | mathMatDecompose =>
    { valuesIn := ["a"]
      valuesOut :=
        [("translation", .exact .float3), ("rotation", .exact .float4), ("scale", .exact .float3),
         ("isValid", .exact .bool)] }
  | mathQuatMul => .function ["a", "b"] .float4
  | typeFloatToInt => .function ["a"] .int
  | typeIntToFloat => .function ["a"] .float

end ScriptGraph
