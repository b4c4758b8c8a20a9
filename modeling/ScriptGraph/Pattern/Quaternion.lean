import ScriptGraph.Pattern.Space

/-!
Rotations as quaternions.
-/

namespace ScriptGraph.Pattern

open Build

/-- The signs that turn a unit quaternion into its inverse. -/
def conjugateFlip : Literal := .quadruple .minusOne .minusOne .minusOne .one

/-- One half. -/
def half : Single := ⟨0x3F000000⟩

/-- The three components of a vector. -/
def extract3 (vector : ValueOut) : Build (ValueOut × ValueOut × ValueOut) := do
  let node ← createNode .mathExtract3
  connect (node.valueIn "a") vector
  return (node.valueOut "0", node.valueOut "1", node.valueOut "2")

/-- A vector of four components. -/
def combine4 (a b c d : ValueOut) : Build ValueOut := do
  let node ← createNode .mathCombine4
  connectAll node componentSockets [a, b, c, d]
  return node.valueOut "value"

/-- The rotation of Euler angles in radians, about Z, then X, then Y. With the sines and cosines of
the half angles it is `A + B * (1, -1, -1, 1)`, where
`A = (sx cy cz, cx sy cz, cx cy sz, cx cy cz)` and `B = (cx sy sz, sx cy sz, sx sy cz, sx sy sz)`. -/
def fromEulerRadians (euler : ValueOut) : Build ValueOut := do
  let halved ← binaryLiteral .mathMul euler (.triple half half half)
  let sin ← unary .mathSin halved
  let cos ← unary .mathCos halved
  let (sx, sy, sz) ← extract3 sin
  let (cx, cy, cz) ← extract3 cos
  let a0 ← combine4 sx cx cx cx
  let a1 ← combine4 cy sy cy cy
  let a2 ← combine4 cz cz sz cz
  let b0 ← combine4 cx sx sx sx
  let b1 ← combine4 sy cy sy sy
  let b2 ← combine4 sz sz cz sz
  let a01 ← binary .mathMul a0 a1
  let aTerm ← binary .mathMul a01 a2
  let b01 ← binary .mathMul b0 b1
  let b012 ← binary .mathMul b01 b2
  let bTerm ← binaryLiteral .mathMul b012 (.quadruple .one .minusOne .minusOne .one)
  binary .mathAdd aTerm bTerm

/-- The rotation of Euler angles in degrees. -/
def fromEulerDegrees (euler : ValueOut) : Build ValueOut := do
  fromEulerRadians (← unary .mathRad euler)

/-- The inverse of a unit quaternion. -/
def invert (rotation : ValueOut) : Build ValueOut := binaryLiteral .mathMul rotation conjugateFlip

/-- The product `a * b`: rotates by `b`, then by `a`. -/
def multiply (a b : ValueOut) : Build ValueOut := binary .mathQuatMul a b

end ScriptGraph.Pattern
