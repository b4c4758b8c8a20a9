import ScriptGraph.Pattern.Arithmetic

/-!
The passage between the left-handed space of the host and the right-handed one of the graph. Both
flips undo themselves, so reading and writing use the same ones.
-/

namespace ScriptGraph

/-- Minus one. -/
def Single.minusOne : Single := Single.one.neg

namespace Pattern

open Build

/-- The signs that flip a position. -/
def positionFlip : Literal := .triple .minusOne .one .one

/-- The signs that flip a rotation. -/
def rotationFlip : Literal := .quadruple .one .minusOne .minusOne .one

/-- A multiplication by constant signs. -/
def flip (factor : Literal) : Build (ValueIn × ValueOut) := do
  let node ← createNode .mathMul
  setLiteral (node.valueIn "b") factor
  return (node.valueIn "a", node.valueOut "value")

/-- A value after the flip; the value itself when spaces are not converted. -/
def convert (factor : Literal) (value : ValueOut) : Build ValueOut := do
  if (← get).options.spaceConversion then
    let (input, output) ← flip factor
    connect input value
    return output
  else return value

/-- An input that feeds `sink` after the flip; the sink itself when spaces are not converted. -/
def convertInto (factor : Literal) (sink : ValueIn) : Build ValueIn := do
  if (← get).options.spaceConversion then
    let (input, output) ← flip factor
    connect sink output
    return input
  else return sink

/-- A position in the other space. -/
def convertPosition : ValueOut → Build ValueOut := convert positionFlip

/-- A rotation in the other space. -/
def convertRotation : ValueOut → Build ValueOut := convert rotationFlip

/-- An input for a position of the other space. -/
def positionInto : ValueIn → Build ValueIn := convertInto positionFlip

/-- An input for a rotation of the other space. -/
def rotationInto : ValueIn → Build ValueIn := convertInto rotationFlip

end Pattern

end ScriptGraph
