import ScriptGraph.Context
import ScriptGraph.Graph.Template

/-!
Reading and writing the host through pointer paths.
-/

namespace ScriptGraph.Pattern

open Build

namespace Pointer

/-- The token of the addressed object. -/
def nodeIndex : String := "nodeIndex"

/-- The path to a property of an object. -/
def path (property : String) : String := "/nodes/\x7bnodeIndex\x7d/" ++ property

/-- The local position. -/
def position : String := path "translation"

/-- The local rotation. -/
def rotation : String := path "rotation"

/-- The local scale. -/
def scale : String := path "scale"

/-- The local matrix. -/
def matrix : String := path "matrix"

/-- The world matrix. -/
def globalMatrix : String := path "globalMatrix"

/-- Whether the object is seen. -/
def visible : String := path "extensions/KHR_node_visibility/visible"

/-- Whether the object can be picked. -/
def selectable : String := path "extensions/KHR_node_selectability/selectable"

end Pointer

/-- The terminals of a read. -/
structure PointerGet where
  node : NodeId
  target : ValueIn
  value : ValueOut
  isValid : ValueOut

/-- The terminals of a write. -/
structure PointerSet where
  node : NodeId
  target : ValueIn
  value : ValueIn
  flowIn : FlowIn
  flowOut : FlowOut

/-- Restricts the sockets of the given tokens to whole numbers. -/
def restrictTokens (node : NodeId) : List String → Build Unit
  | [] => return ()
  | name :: names => do
    restrict (node.valueIn name) (.only .int)
    restrictTokens node names

/-- Sets the path and the type of a pointer node. -/
def configurePointer (node : NodeId) (template : String) (type : ValueType) : Build Unit := do
  configure node "pointer" (.text template)
  configure node "type" (.text type.name)
  restrictTokens node (Template.names template)

/-- Reads through a path. -/
def pointerGet (template : String) (type : ValueType) : Build PointerGet := do
  let node ← createNode .pointerGet
  configurePointer node template type
  let value := node.valueOut "value"
  expect value (.exact type)
  return { node, target := node.valueIn Pointer.nodeIndex, value,
           isValid := node.valueOut "isValid" }

/-- Writes through a path. -/
def pointerSet (template : String) (type : ValueType) : Build PointerSet := do
  let node ← createNode .pointerSet
  configurePointer node template type
  let value := node.valueIn "value"
  restrict value (.only type)
  return { node, target := node.valueIn Pointer.nodeIndex, value,
           flowIn := node.flowIn "in", flowOut := node.flowOut "out" }

end ScriptGraph.Pattern
