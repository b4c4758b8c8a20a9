import ScriptGraph.Pattern.Pointer
import ScriptGraph.Pattern.Quaternion

/-!
Positions, rotations and scales of objects, in local and in world space. Every pattern leaves its
`target` to the caller; where a pattern reads several paths, the target stands for all of them.
-/

namespace ScriptGraph.Pattern

open Build

/-- The terminals of reading a property. -/
structure PropertyGet where
  target : ValueIn
  value : ValueOut

/-- The terminals of writing a property. -/
structure PropertySet where
  target : ValueIn
  value : ValueIn
  flowIn : FlowIn
  flowOut : FlowOut

/-- A write through a path as a write of a property. -/
def PointerSet.toProperty (s : PointerSet) : PropertySet :=
  { target := s.target, value := s.value, flowIn := s.flowIn, flowOut := s.flowOut }

/-- Reads the local position. -/
def localPositionGet : Build PropertyGet := do
  let read ← pointerGet Pointer.position .float3
  return { target := read.target, value := ← convertPosition read.value }

/-- Writes the local position. -/
def localPositionSet : Build PropertySet := do
  let write ← pointerSet Pointer.position .float3
  return { write.toProperty with value := ← positionInto write.value }

/-- Reads the local rotation. -/
def localRotationGet : Build PropertyGet := do
  let read ← pointerGet Pointer.rotation .float4
  return { target := read.target, value := ← convertRotation read.value }

/-- Writes the local rotation. -/
def localRotationSet : Build PropertySet := do
  let write ← pointerSet Pointer.rotation .float4
  return { write.toProperty with value := ← rotationInto write.value }

/-- Reads the local scale. -/
def localScaleGet : Build PropertyGet := do
  let read ← pointerGet Pointer.scale .float3
  return { target := read.target, value := read.value }

/-- Writes the local scale. -/
def localScaleSet : Build PropertySet := do
  return (← pointerSet Pointer.scale .float3).toProperty

/-- Reads the world matrix and takes it apart. -/
def worldMatrix : Build (PointerGet × NodeId) := do
  let matrix ← pointerGet Pointer.globalMatrix .float4x4
  let parts ← createNode .mathMatDecompose
  connect (parts.valueIn "a") matrix.value
  return (matrix, parts)

/-- Reads the world position. -/
def worldPositionGet : Build PropertyGet := do
  let (matrix, parts) ← worldMatrix
  return { target := matrix.target, value := ← convertPosition (parts.valueOut "translation") }

/-- Reads the world rotation. -/
def worldRotationGet : Build PropertyGet := do
  let (matrix, parts) ← worldMatrix
  return { target := matrix.target, value := ← convertRotation (parts.valueOut "rotation") }

/-- Reads the world scale. -/
def worldScaleGet : Build PropertyGet := do
  let (matrix, parts) ← worldMatrix
  return { target := matrix.target, value := parts.valueOut "scale" }

/-- Feeds the first three sockets of a combination from the first three parts of a split. -/
def connectThree (combined split : NodeId) : Build Unit :=
  connectAll combined ["a", "b", "c"]
    [split.valueOut "0", split.valueOut "1", split.valueOut "2"]

/-- Writes the world position. The matrix of the parent is the world matrix times the inverse of
the local one; its inverse takes the point to the space of the parent. -/
def worldPositionSet : Build PropertySet := do
  let world ← pointerGet Pointer.globalMatrix .float4x4
  let own ← pointerGet Pointer.matrix .float4x4
  let write ← pointerSet Pointer.position .float3
  let ownInverse ← unary .mathInverse own.value
  let parent ← binary .mathMatMul world.value ownInverse
  let parentInverse ← unary .mathInverse parent
  let split ← createNode .mathExtract3
  let value ← positionInto (split.valueIn "a")
  let point ← createNode .mathCombine4
  connectThree point split
  setLiteral (point.valueIn "d") (.float .one)
  let transformed ← createNode .mathTransform
  connect (transformed.valueIn "a") parentInverse
  connect (transformed.valueIn "b") (point.valueOut "value")
  let localPoint ← createNode .mathExtract4
  connect (localPoint.valueIn "a") (transformed.valueOut "value")
  let moved ← createNode .mathCombine3
  connectThree moved localPoint
  connect write.value (moved.valueOut "value")
  return { target := .link [world.target, own.target, write.target], value,
           flowIn := write.flowIn, flowOut := write.flowOut }

/-- Writes the world rotation. The rotation of the parent is the world rotation times the inverse
of the local one; the new local rotation is its inverse times the value. -/
def worldRotationSet : Build PropertySet := do
  let (matrix, parts) ← worldMatrix
  let own ← pointerGet Pointer.rotation .float4
  let write ← pointerSet Pointer.rotation .float4
  let ownInverse ← invert own.value
  let parent ← multiply (parts.valueOut "rotation") ownInverse
  let parentInverse ← invert parent
  let product ← createNode .mathQuatMul
  connect (product.valueIn "a") parentInverse
  connect write.value (product.valueOut "value")
  let value ← rotationInto (product.valueIn "b")
  return { target := .link [matrix.target, own.target, write.target], value,
           flowIn := write.flowIn, flowOut := write.flowOut }

/-- Shows or hides an object: first whether it is seen, then whether it can be picked. -/
def activeSet : Build PropertySet := do
  let visible ← pointerSet Pointer.visible .bool
  let selectable ← pointerSet Pointer.selectable .bool
  connectFlow visible.flowOut selectable.flowIn
  return { target := .link [visible.target, selectable.target],
           value := .link [visible.value, selectable.value],
           flowIn := visible.flowIn, flowOut := selectable.flowOut }

/-- The terminals of a change of an object whose operands are already wired. -/
structure TransformAction where
  target : ValueIn
  flowIn : FlowIn
  flowOut : FlowOut

/-- Adds an offset to the local position. -/
def translate (offset : ValueOut) : Build TransformAction := do
  let current ← localPositionGet
  let write ← localPositionSet
  let moved ← binary .mathAdd current.value offset
  connect write.value moved
  return { target := .link [current.target, write.target], flowIn := write.flowIn,
           flowOut := write.flowOut }

/-- Rotates an object in its own space. -/
def rotate (rotation : ValueOut) : Build TransformAction := do
  let current ← localRotationGet
  let write ← localRotationSet
  let rotated ← multiply current.value rotation
  connect write.value rotated
  return { target := .link [current.target, write.target], flowIn := write.flowIn,
           flowOut := write.flowOut }

/-- Turns an object toward a point of the world and keeps it upright. -/
def lookAt (point : ValueOut) : Build TransformAction := do
  let position ← worldPositionGet
  let write ← worldRotationSet
  let direction ← binary .mathSub point position.value
  let (dx, dy, dz) ← extract3 direction
  let yaw ← binary .mathAtan2 dx dz
  let horizontal ← createNode .mathCombine2
  connect (horizontal.valueIn "a") dx
  connect (horizontal.valueIn "b") dz
  let ground ← unary .mathLength (horizontal.valueOut "value")
  let rise ← binary .mathAtan2 dy ground
  let pitch ← binaryLiteral .mathMul rise (.float .minusOne)
  let euler ← createNode .mathCombine3
  connect (euler.valueIn "a") pitch
  connect (euler.valueIn "b") yaw
  setLiteral (euler.valueIn "c") (.float .zero)
  let rotation ← fromEulerRadians (euler.valueOut "value")
  connect write.value rotation
  return { target := .link [position.target, write.target], flowIn := write.flowIn,
           flowOut := write.flowOut }

end ScriptGraph.Pattern
