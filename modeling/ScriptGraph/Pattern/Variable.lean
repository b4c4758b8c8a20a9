import ScriptGraph.Context

/-!
Reading and writing variables.
-/

namespace ScriptGraph.Pattern

open Build

/-- The terminals of a write to a variable. -/
structure VariableSet where
  node : NodeId
  value : ValueIn
  flowIn : FlowIn
  flowOut : FlowOut

/-- Reads a variable. The output has the declared type of the variable. -/
def getVariable (id : Nat) : Build ValueOut := do
  let node ← createNode .variableGet
  configure node "variable" (.int (.ofNat id))
  let value := node.valueOut "value"
  if let some v := (← get).graph.vars[id]? then
    expect value (.exact v.valueType)
  return value

/-- Writes a variable. -/
def setVariable (id : Nat) : Build VariableSet := do
  let node ← createNode .variableSet
  configure node "variable" (.int (.ofNat id))
  return { node, value := node.valueIn "value", flowIn := node.flowIn "in",
           flowOut := node.flowOut "out" }

/-- Writes a variable from an output. -/
def setVariableFrom (id : Nat) (value : ValueOut) : Build VariableSet := do
  let set ← setVariable id
  connect set.value value
  return set

/-- Writes a constant to a variable. -/
def setVariableStatic (id : Nat) (value : Literal) : Build VariableSet := do
  let set ← setVariable id
  setLiteral set.value value
  return set

end ScriptGraph.Pattern
