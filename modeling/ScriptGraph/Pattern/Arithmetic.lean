import ScriptGraph.Context

/-!
Patterns of one value node.
-/

namespace ScriptGraph.Pattern

open Build

/-- An operation on one value. -/
def unary (op : Op) (a : ValueOut) : Build ValueOut := do
  let node ← createNode op
  connect (node.valueIn "a") a
  return node.valueOut "value"

/-- An operation on two values. -/
def binary (op : Op) (a b : ValueOut) : Build ValueOut := do
  let node ← createNode op
  connect (node.valueIn "a") a
  connect (node.valueIn "b") b
  return node.valueOut "value"

/-- An operation on a value and a constant. -/
def binaryLiteral (op : Op) (a : ValueOut) (b : Literal) : Build ValueOut := do
  let node ← createNode op
  connect (node.valueIn "a") a
  setLiteral (node.valueIn "b") b
  return node.valueOut "value"

/-- One of two values, by a condition. -/
def select (condition ifTrue ifFalse : ValueOut) : Build ValueOut := do
  let node ← createNode .mathSelect
  connect (node.valueIn "condition") condition
  connect (node.valueIn "a") ifTrue
  connect (node.valueIn "b") ifFalse
  return node.valueOut "value"

/-- The sockets of the components of a vector. -/
def componentSockets : List String := ["a", "b", "c", "d"]

/-- Feeds sockets of a node from outputs, in order. -/
def connectAll (node : NodeId) : List String → List ValueOut → Build Unit
  | socket :: sockets, part :: parts => do
    connect (node.valueIn socket) part
    connectAll node sockets parts
  | _, _ => return ()

/-- A vector of two to four components; other numbers are declined. -/
def combine? (parts : List ValueOut) : Build (Option ValueOut) := do
  let op? : Option Op := match parts.length with
    | 2 => some .mathCombine2
    | 3 => some .mathCombine3
    | 4 => some .mathCombine4
    | _ => none
  match op? with
  | none => return none
  | some op =>
    let node ← createNode op
    connectAll node componentSockets parts
    return some (node.valueOut "value")

/-- The components of a vector of two to four; other numbers are declined. -/
def extract? (vector : ValueOut) (count : Nat) : Build (Option (List ValueOut)) := do
  let op? : Option Op := match count with
    | 2 => some .mathExtract2
    | 3 => some .mathExtract3
    | 4 => some .mathExtract4
    | _ => none
  match op? with
  | none => return none
  | some op =>
    let node ← createNode op
    connect (node.valueIn "a") vector
    return some ((List.range count).map fun i => node.valueOut (toString i))

end ScriptGraph.Pattern
