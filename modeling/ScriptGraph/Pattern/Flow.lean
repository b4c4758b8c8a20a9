import ScriptGraph.Pattern.Arithmetic
import ScriptGraph.Pattern.Variable

/-!
Loops, waits and delays.
-/

namespace ScriptGraph.Pattern

open Build

/-- The terminals of a counting loop that is one node. The end is excluded. -/
structure ForLoop where
  node : NodeId
  start : ValueIn
  stop : ValueIn
  index : ValueOut
  flowIn : FlowIn
  loopBody : FlowOut
  completed : FlowOut

/-- A counting loop that is one node. -/
def forLoop (initialIndex : Int32) : Build ForLoop := do
  let node ← createNode .flowFor
  configure node "initialIndex" (.int initialIndex)
  return { node, start := node.valueIn "startIndex", stop := node.valueIn "endIndex",
           index := node.valueOut "index", flowIn := node.flowIn "in",
           loopBody := node.flowOut "loopBody", completed := node.flowOut "completed" }

/-- The terminals of a counting loop with any step. It goes on while the counter is on the near side
of the end, seen from the start. A body that does not lead to `nextStep` ends the loop. -/
structure SteppedFor where
  start : ValueIn
  stop : ValueIn
  step : ValueIn
  flowIn : FlowIn
  nextStep : FlowIn
  index : ValueOut
  /-- The variable that counts. -/
  counter : Nat
  loopBody : FlowOut
  completed : FlowOut

/-- A counting loop with any step, made of a variable and a branch. -/
def steppedFor : Build SteppedFor := do
  let name ← uniqueName "ForLoopIndex"
  let counter ← declareVariable name (some (.int 0)) .int
  let first ← setVariable counter
  let branch ← createNode .flowBranch
  connectFlow first.flowOut (branch.flowIn "in")
  let index ← getVariable counter
  let direction ← createNode .mathLe
  let below ← createNode .mathLt
  let above ← createNode .mathGt
  connect (below.valueIn "a") index
  connect (above.valueIn "a") index
  let condition ←
    select (direction.valueOut "value") (below.valueOut "value") (above.valueOut "value")
  connect (branch.valueIn "condition") condition
  let step ← createNode .mathAdd
  connect (step.valueIn "a") index
  let advance ← setVariableFrom counter (step.valueOut "value")
  connectFlow advance.flowOut (branch.flowIn "in")
  return {
    start := .link [first.value, direction.valueIn "a"]
    stop := .link [direction.valueIn "b", below.valueIn "b", above.valueIn "b"]
    step := step.valueIn "b"
    flowIn := first.flowIn
    nextStep := advance.flowIn
    index, counter
    loopBody := branch.flowOut "true"
    completed := branch.flowOut "false" }

/-- The terminals of a loop that runs a body and then a step in every pass. -/
structure SteppedWhile where
  condition : ValueIn
  flowIn : FlowIn
  body : FlowOut
  step : FlowOut
  completed : FlowOut

/-- A loop that runs a body and then a step in every pass. -/
def steppedWhile : Build SteppedWhile := do
  let node ← createNode .flowWhile
  let sequence ← createNode .flowSequence
  connectFlow (node.flowOut "loopBody") (sequence.flowIn "in")
  return { condition := node.valueIn "condition", flowIn := node.flowIn "in",
           body := sequence.flowOut "0", step := sequence.flowOut "1",
           completed := node.flowOut "completed" }

/-- The tick event and the sequence that hands its flow to every subscriber. An output counts as
taken once it is handed out. The sequence comes with the first subscriber. -/
structure TickChain where
  event : NodeId
  sequence : Option NodeId := none
  nextOutput : Nat := 0

namespace TickChain

/-- A tick event without subscribers. -/
def new : Build TickChain := return { event := ← createNode .eventOnTick }

/-- The chain that is there, or a new one. -/
def getOrNew : Option TickChain → Build TickChain
  | some chain => return chain
  | none => new

/-- The sequence behind the event, made now if there is none. -/
def getSequence (t : TickChain) : Build NodeId := do
  match t.sequence with
  | some sequence => return sequence
  | none =>
    let sequence ← createNode .flowSequence
    connectFlow (t.event.flowOut "out") (sequence.flowIn "in")
    return sequence

/-- Takes the next output. -/
def nextFlow (t : TickChain) : Build (FlowOut × TickChain) := do
  let sequence ← t.getSequence
  return (sequence.flowOut (toString t.nextOutput),
    { t with sequence := some sequence, nextOutput := t.nextOutput + 1 })

end TickChain

/-- The terminals of a flow that rests until a condition holds. -/
structure Wait where
  condition : ValueIn
  flowIn : FlowIn
  flowOut : FlowOut

/-- Waits until a condition holds: it is checked at once and then at every tick. A flag tells
whether the wait is going on, so that ticks pass by a wait that is not. -/
def waitUntil (tick : Option TickChain) : Build (Wait × TickChain) := do
  let name ← uniqueName "WaitPending"
  let pending ← declareVariable name (some (.bool false)) .bool
  let arm ← setVariableStatic pending (.bool true)
  let check ← createNode .flowBranch
  connectFlow arm.flowOut (check.flowIn "in")
  let disarm ← setVariableStatic pending (.bool false)
  connectFlow (check.flowOut "true") disarm.flowIn
  let (tickOut, tick) ← (← TickChain.getOrNew tick).nextFlow
  let gate ← createNode .flowBranch
  let isPending ← getVariable pending
  connect (gate.valueIn "condition") isPending
  connectFlow tickOut (gate.flowIn "in")
  connectFlow (gate.flowOut "true") (check.flowIn "in")
  return ({ condition := check.valueIn "condition", flowIn := arm.flowIn,
            flowOut := disarm.flowOut }, tick)

/-- Waits as long as a condition holds. -/
def waitWhile (tick : Option TickChain) : Build (Wait × TickChain) := do
  let (wait, tick) ← waitUntil tick
  let negation ← createNode .mathNot
  connect wait.condition (negation.valueOut "value")
  return ({ wait with condition := negation.valueIn "a" }, tick)

/-- The terminals of a delay. -/
structure Delay where
  node : NodeId
  duration : ValueIn
  flowIn : FlowIn
  /-- Goes on at once. -/
  started : FlowOut
  /-- Goes on after the delay. -/
  done : FlowOut

/-- A delay in seconds. -/
def delaySeconds : Build Delay := do
  let node ← createNode .flowSetDelay
  return { node, duration := node.valueIn "duration", flowIn := node.flowIn "in",
           started := node.flowOut "out", done := node.flowOut "done" }

/-- A delay in milliseconds; a whole number of them is made a float first. -/
def delayMilliseconds (integral : Bool) : Build Delay := do
  let delay ← delaySeconds
  let scale ← createNode .mathDiv
  setLiteral (scale.valueIn "b") (.float (.ofInt 1000))
  connect delay.duration (scale.valueOut "value")
  if integral then
    let convert ← createNode .typeIntToFloat
    connect (scale.valueIn "a") (convert.valueOut "value")
    return { delay with duration := convert.valueIn "a" }
  else return { delay with duration := scale.valueIn "a" }

end ScriptGraph.Pattern
