import ScriptGraph.Pattern.BoundedList
import ScriptGraph.Pattern.Transform
import ScriptGraph.Source.Constant
import ScriptGraph.Source.Names

/-!
The state of lowering: the graph under construction and what the names of the source stand for.
-/

namespace ScriptGraph

open Pattern

/-- Where control leaves a statement. Open flows go on with the next statement, returned ones have
left the method. -/
structure Exits where
  «open» : List FlowOut := []
  returned : List FlowOut := []

namespace Exits

/-- One open flow. -/
def one (flow : FlowOut) : Exits := { «open» := [flow] }

/-- One returned flow. -/
def ofReturn (flow : FlowOut) : Exits := { returned := [flow] }

/-- The exits of two arms. -/
def merge (a b : Exits) : Exits :=
  { «open» := a.open ++ b.open, returned := a.returned ++ b.returned }

/-- All flows that leave, open ones first. -/
def tails (e : Exits) : List FlowOut := e.open ++ e.returned

end Exits

/-- What the names of a method stand for. -/
structure Frame where
  method : String
  /-- Names of values: parameters and the counters of loop nodes. -/
  bindings : Dict ValueOut := Dict.empty
  /-- Names of variables. -/
  locals : Dict Nat := Dict.empty
  /-- The variable for the result, if somebody asks for it. -/
  returnVariable : Option Nat := none

/-- The state of lowering. -/
structure Lowering where
  context : Context := {}
  /-- The variables of the scalar fields. -/
  fields : Dict Nat := Dict.empty
  /-- The lists of the list fields. -/
  lists : Dict BoundedList := Dict.empty
  /-- The frames of the methods being lowered, the innermost first. -/
  frames : List Frame := []
  tick : Option TickChain := none

/-- A step of lowering. -/
abbrev Lower := StateM Lowering

instance : MonadLift Build Lower where
  monadLift step := fun s =>
    let (result, context) := step s.context
    (result, { s with context })

/-- What a call leaves behind: its result, and the flow to go on with. -/
structure Invocation where
  value : Option ValueOut := none
  flow : Option FlowOut := none

namespace Lower

open Build

/-- The frame of the method being lowered. -/
def frame? : Lower (Option Frame) := return (← get).frames.head?

/-- Changes the frame of the method being lowered. -/
def modifyFrame (f : Frame → Frame) : Lower Unit :=
  modify fun s => { s with frames := match s.frames with
    | [] => []
    | frame :: rest => f frame :: rest }

/-- The class name or method that diagnostics belong to. -/
def currentMethod : Lower String := return (← get).context.diagnostics.method

/-- Runs a step in a frame of its own. -/
def withFrame {α : Type} (frame : Frame) (step : Lower α) : Lower α := do
  modify fun s => { s with frames := frame :: s.frames }
  let result ← step
  modify fun s => { s with frames := s.frames.tail }
  return result

/-- Runs a step in the frame of a callee, to which diagnostics belong meanwhile. -/
def inCallee {α : Type} (frame : Frame) (step : Lower α) : Lower α := do
  let caller ← currentMethod
  setMethod frame.method
  let result ← withFrame frame step
  setMethod caller
  return result

/-- A step on the list of a field; `none` if there is none. -/
def onList? {α : Type} (name : String) (step : ListBuild α) : Lower (Option α) := do
  match (← get).lists.find? name with
  | none => return none
  | some list =>
    let (result, list) ← step.run list
    modify fun s => { s with lists := s.lists.insert name list }
    return some result

/-- The node of the tick event. -/
def tickNode : Lower NodeId := do
  let chain ← TickChain.getOrNew (← get).tick
  modify fun s => { s with tick := some chain }
  return chain.event

/-- A flow of its own behind the tick event. -/
def tickFlow : Lower FlowOut := do
  let (flow, chain) ← (← TickChain.getOrNew (← get).tick).nextFlow
  modify fun s => { s with tick := some chain }
  return flow

/-- The number of an object as a constant; an object without one is noted. -/
def objectLiteral (object : ObjectRef) : Lower ValueOut := do
  match ← targetOf? object with
  | some id => createLiteral (.int (.ofNat id.toNat))
  | none =>
    unresolved ("no target id for " ++ object.render)
    createUnknownLiteral

/-- Leads several flows to one input. -/
def connectFlows : List FlowOut → FlowIn → Lower Unit
  | [], _ => return ()
  | flow :: flows, target => do
    connectFlow flow target
    connectFlows flows target

/-- One flow that goes on wherever one of the given ones arrives. -/
def join (flows : List FlowOut) : Lower FlowOut := do
  let sequence ← createNode .flowSequence
  connectFlows flows (sequence.flowIn "in")
  return sequence.flowOut "0"

/-- Writes a variable as the next step of a flow. -/
def storeVariable (id : Nat) (value : ValueOut) (flow : FlowOut) : Lower FlowOut := do
  let write ← setVariableFrom id value
  connectFlow flow write.flowIn
  return write.flowOut

/-- A local of the current method, kept in a variable named after both. -/
def declareLocal (name : String) (type : ValueType) : Lower Nat := do
  let method := ((← frame?).map (·.method)).getD ""
  let id ← declareVariable (method ++ "_" ++ name) (some type.default) type
  modifyFrame fun frame =>
    { frame with bindings := frame.bindings.erase name, locals := frame.locals.insert name id }
  return id

/-- The variable that a plain name writes: a local or a field. -/
def variableOf? (name : String) : Lower (Option Nat) := do
  let own := (← frame?).bind (·.locals.find? name)
  return own.or ((← get).fields.find? name)

/-- Whether the first child is the object itself, or there is none. -/
def onSelf (e : Expression) : Bool :=
  match e.children with
  | [] => true
  | receiver :: _ => receiver.unwrapped.kind = .this

/-- The list field that an expression names. -/
def listName? (e : Expression) : Lower (Option String) := do
  let e := e.unwrapped
  let name? : Option String :=
    if e.kind = .identifier then e.name
    else if e.kind = .memberAccess && onSelf e then e.member.map (·.name)
    else none
  return name?.filter ((← get).lists.contains ·)

/-- Brings a value to the shape of another operand: an `int` becomes a float, and a float fills the
components of a vector. -/
def coerce (value : ValueOut) (own other : Option ValueType) : Lower ValueOut := do
  match own, other with
  | some own, some other =>
    let value ←
      if own = .int && other ≠ .int && other ≠ .bool then unary .typeIntToFloat value
      else pure value
    if (own = .int || own = .float) && (other = .float2 || other = .float3 || other = .float4) then
      return (← combine? (List.replicate other.componentCount value)).getD value
    else return value
  | _, _ => return value

end Lower

end ScriptGraph
