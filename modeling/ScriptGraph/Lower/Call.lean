import ScriptGraph.Lower.Value
import ScriptGraph.Source.Message

/-!
Calls: methods of the host, and methods of the class, which are put in place of their calls.

A call is lowered either as a step of a flow or as a value without one. Inlining takes the names of
the methods that are being inlined, so that no method is inlined into itself.
-/

namespace ScriptGraph

open Pattern Build

/-- How to lower the body of a method of the class, given the methods being inlined. -/
structure Inliner where
  /-- A body as a step of a flow. -/
  block : List String → List Statement → FlowOut → Lower Exits
  /-- The expression that a body returns. -/
  value : List String → Expression → Lower (Option ValueOut)

namespace Method

/-- The expression of a body that only returns one. -/
def returned? (m : Method) : Option Expression :=
  match m.body with
  | [s] => if s.kind = .returnStatement then s.expression? else none
  | _ => none

end Method

namespace ScriptClass

/-- The method of the class that a call runs. -/
def callee? (c : ScriptClass) (call : Expression) : Option Method := do
  let method ← call.method
  if Lower.onSelf call || method.declaringType.name = c.name then c.method? method.name else none

/-- Whether a call has to be a step of a flow. -/
def needsFlow (c : ScriptClass) (call : Expression) : Bool :=
  match call.method.bind HostMethod.recognize? with
  | some method => method.hasFlowEffect
  | none => (c.callee? call).any (·.returned?.isNone)

end ScriptClass

namespace Lower

/-- Feeds sockets from values, each brought to the shape of the result. -/
def connectCoerced (node : NodeId) (result : Option ValueType) :
    List String → List ValueOut → List Expression → Lower Unit
  | socket :: sockets, value :: values, argument :: arguments => do
    let value ← coerce value argument.valueType? result
    connect (node.valueIn socket) value
    connectCoerced node result sockets values arguments
  | _, _, _ => return ()

/-- A function that is one node. -/
def lowerFunction (e : Expression) (low : Below e.size) (op : Op) : Lower (Option ValueOut) := do
  let some values ← lowerAll low (arguments e) size_arguments_lt | return none
  let sockets := op.schema.valuesIn
  if values.length ≠ sockets.length then
    malformed (op.name ++ " takes " ++ toString sockets.length ++ " argument(s), got " ++
      toString values.length)
    return none
  else
    let node ← createNode op
    connectCoerced node e.valueType? sockets values (arguments e)
    return some (node.valueOut "value")

/-- The distance of two points. -/
def lowerDistance (e : Expression) (low : Below e.size) : Lower (Option ValueOut) := do
  let some values ← lowerAll low (arguments e) size_arguments_lt | return none
  match values with
  | [a, b] =>
    let offset ← binary .mathSub a b
    return some (← unary .mathLength offset)
  | _ =>
    malformed "Distance takes two arguments"
    return none

/-- Values brought to floats. -/
def coerceAll : List ValueOut → List Expression → Lower (List ValueOut)
  | value :: values, argument :: arguments => do
    let part ← coerce value argument.valueType? (some .float)
    return part :: (← coerceAll values arguments)
  | _, _ => return []

/-- A vector given by one argument or by its components. -/
def lowerVector (e : Expression) (low : Below e.size) (count : Nat) : Lower (Option ValueOut) := do
  let some values ← lowerAll low (arguments e) size_arguments_lt | return none
  match values with
  | [vector] => return some vector
  | values =>
    if values.length = count then combine? (← coerceAll values (arguments e))
    else
      malformed ("expected 1 or " ++ toString count ++ " arguments, got " ++
        toString values.length)
      return none

/-- The first argument of a call. -/
def lowerFirst (e : Expression) (low : Below e.size) : Lower (Option ValueOut) :=
  match given : arguments e with
  | [] => return none
  | argument :: _ => low argument (size_arguments_lt argument (by simp [given]))

/-- The second argument of a call. -/
def lowerSecond (e : Expression) (low : Below e.size) : Lower (Option ValueOut) :=
  match given : arguments e with
  | _ :: argument :: _ => low argument (size_arguments_lt argument (by simp [given]))
  | _ => return none

/-- A method of the host that is a value. -/
def lowerPureMethod (e : Expression) (low : Below e.size) : HostMethod → Lower (Option ValueOut)
  | .math op => lowerFunction e low op
  | .distance => lowerDistance e low
  | .quaternionEuler => do
    let some euler ← lowerVector e low 3 | return none
    return some (← fromEulerDegrees euler)
  | .quaternionInverse => do
    let some rotation ← lowerFirst e low | return none
    return some (← invert rotation)
  | _ => return none

/-- A step between a flow input and a flow output. -/
abbrev Step := FlowIn × FlowOut

/-- A delay. -/
def lowerDelay (e : Expression) (low : Below e.size) : Lower (Option Step) := do
  match given : arguments e with
  | [] =>
    malformed "Delay without duration"
    return none
  | argument :: _ =>
    let some duration ← low argument (size_arguments_lt argument (by simp [given])) | return none
    let delay ← delayMilliseconds (argument.valueType? ≠ some .float)
    connect delay.duration duration
    return some (delay.flowIn, delay.done)

/-- A change of the receiver whose operands are already wired. -/
def lowerAction (e : Expression) (low : Below e.size) (action : Build TransformAction) :
    Lower (Option Step) := do
  let object ← lowerReceiver e low
  let action ← action
  connect action.target object
  return some (action.flowIn, action.flowOut)

/-- Shows or hides the receiver. -/
def lowerSetActive (e : Expression) (low : Below e.size) : Lower (Option Step) := do
  let some value ← lowerFirst e low | return none
  let object ← lowerReceiver e low
  let write ← activeSet
  connect write.target object
  connect write.value value
  return some (write.flowIn, write.flowOut)

/-- The point to look at: that of an object, or a given one. -/
def lowerLookTarget (e : Expression) (low : Below e.size) : Lower (Option ValueOut) := do
  match given : arguments e with
  | [] => return none
  | argument :: _ =>
    have small := size_arguments_lt argument (by simp [given])
    if argument.resultType.any HostType.isObject then
      let object ← lowerObject low argument small
      let position ← worldPositionGet
      connect position.target object
      return some position.value
    else low argument small

/-- Moves and turns the receiver. -/
def lowerSetPositionAndRotation (e : Expression) (low : Below e.size) : Lower (Option Step) := do
  let position? ← lowerFirst e low
  let rotation? ← lowerSecond e low
  match position?, rotation? with
  | some position, some rotation =>
    let object ← lowerReceiver e low
    let moving ← worldPositionSet
    let turning ← worldRotationSet
    connect (.link [moving.target, turning.target]) object
    connect moving.value position
    connect turning.value rotation
    connectFlow moving.flowOut turning.flowIn
    return some (moving.flowIn, turning.flowOut)
  | _, _ => return none

/-- A step of a list with the given arguments; `none` when their number is wrong. -/
def listStep? (method : HostMethod) (values : List ValueOut) : Option (ListBuild Step) :=
  match method, values with
  | .listAdd, [value] => some do
    let add ← BoundedList.addItem
    connect add.value value
    return (add.flowIn, add.flowOut)
  | .listInsert, [index, value] => some do
    let insert ← BoundedList.insertItem
    connect insert.index index
    connect insert.value value
    return (insert.flowIn, insert.flowOut)
  | .listRemoveAt, [index] => some do
    let remove ← BoundedList.removeItem
    connect remove.index index
    return (remove.flowIn, remove.flowOut)
  | .listClear, [] => some BoundedList.clear
  | _, _ => none

/-- A call on a list field. -/
def lowerListCall (e : Expression) (low : Below e.size) (method : HostMethod) :
    Lower (Option Step) := do
  let name? ← match e.child? 0 with
    | some receiver => listName? receiver
    | none => pure none
  match name? with
  | none =>
    unsupported "list call on something other than a list field"
    return none
  | some name =>
    let some values ← lowerAll low (arguments e) size_arguments_lt | return none
    match listStep? method values with
    | some step => onList? name step
    | none =>
      malformed (method.title ++ " with " ++ toString values.length ++ " argument(s)")
      return none

/-- Whether a character is a brace. Templates cannot hold braces of a text, so they are dropped. -/
def isBrace (c : Char) : Bool := c = '\x7b' || c = '\x7d'

/-- Feeds the slots of a log node from the given number on and returns the rest of the template. A
slot without a value stays open. -/
def lowerParts {bound : Nat} (low : Below bound) (node : NodeId) : Nat →
    (parts : List MessagePart) → (∀ e, .value e ∈ parts → e.size < bound) → Lower String
  | _, [], _ => return ""
  | slot, .text content :: parts, small => do
    let rest ← lowerParts low node slot parts fun e member => small e (List.mem_cons_of_mem _ member)
    return String.ofList (content.toList.filter (!isBrace ·)) ++ rest
  | slot, .value e :: parts, small => do
    if let some value ← low e (small e List.mem_cons_self) then
      connect (node.valueIn (toString slot)) value
    let rest ← lowerParts low node (slot + 1) parts
      fun e member => small e (List.mem_cons_of_mem _ member)
    return "\x7b" ++ toString slot ++ "\x7d" ++ rest

theorem size_messageParts_lt {e : Expression} :
    ∀ part, .value part ∈ Expression.messagePartsAll (arguments e) → part.size < e.size := by
  intro part member
  have inside := Expression.size_le_of_mem_messagePartsAll _ member
  have : Expression.sizeAll (arguments e) ≤ Expression.sizeAll e.children := by
    unfold arguments
    cases e.children with
    | nil => simp
    | cons first rest => simp [Expression.sizeAll]
  rw [Expression.size_eq e]
  omega

/-- A log message. -/
def lowerLog (e : Expression) (low : Below e.size) (severity : Severity) : Lower Step := do
  let node ← createNode .debugLog
  let template ←
    lowerParts low node 0 (Expression.messagePartsAll (arguments e)) size_messageParts_lt
  configure node "severity" (.int severity.level)
  configure node "message" (.text template)
  return (node.flowIn "in", node.flowOut "out")

/-- A method of the host that is a step of a flow. -/
def lowerStepMethod (e : Expression) (low : Below e.size) : HostMethod → Lower (Option Step)
  | .delay => lowerDelay e low
  | .setActive => lowerSetActive e low
  | .log severity => return some (← lowerLog e low severity)
  | .translate => do
    let some offset ← lowerVector e low 3 | return none
    lowerAction e low (translate offset)
  | .rotate => do
    let some euler ← lowerVector e low 3 | return none
    lowerAction e low (do rotate (← fromEulerDegrees euler))
  | .lookAt => do
    let some point ← lowerLookTarget e low | return none
    lowerAction e low (lookAt point)
  | .setPositionAndRotation => lowerSetPositionAndRotation e low
  | .math _ | .distance | .quaternionEuler | .quaternionInverse => return none
  | method => lowerListCall e low method

/-- A method of the host. -/
def lowerHostMethod (e : Expression) (low : Below e.size) (symbol : MethodSymbol)
    (method : HostMethod) (flow : Option FlowOut) : Lower Invocation := do
  if !method.hasFlowEffect then
    return { value := ← lowerPureMethod e low method, flow }
  else
    match flow with
    | none =>
      unsupported (symbol.declaringType.name ++ "." ++ symbol.name ++ " used as a value")
      return {}
    | some flow =>
      match ← lowerStepMethod e low method with
      | none => return { flow := some flow }
      | some (start, stop) =>
        connectFlow flow start
        return { flow := some stop }

/-- Copies parameters into locals that start with the passed value, so that reads and writes share
them. Those the body writes are copied; with `all` also those whose value may change later. -/
def copyParameters (written : List String) (all : Bool) :
    List Parameter → FlowOut → Lower FlowOut
  | [], flow => return flow
  | parameter :: parameters, flow => do
    let frame ← frame?
    match frame.bind (·.bindings.find? parameter.name), parameter.paramType.storageType? with
    | some bound, some type =>
      if written.contains parameter.name || (all && !bound.address.node.isPlaceholder) then
        let id ← declareLocal parameter.name type
        let flow ← storeVariable id bound flow
        copyParameters written all parameters flow
      else copyParameters written all parameters flow
    | _, _ => copyParameters written all parameters flow

/-- Binds parameters to the values of arguments; an argument without one leaves its parameter
unbound. -/
def bindArguments {bound : Nat} (low : Below bound) : List Parameter → (es : List Expression) →
    (∀ e ∈ es, e.size < bound) → Dict ValueOut → Lower (Dict ValueOut)
  | parameter :: parameters, e :: es, small, bindings => do
    let bindings ← match ← low e (small e List.mem_cons_self) with
      | some value => pure (bindings.insert parameter.name value)
      | none => pure bindings
    bindArguments low parameters es (fun e member => small e (List.mem_cons_of_mem _ member))
      bindings
  | _, _, _, bindings => return bindings

/-- The variable for the result of a method, if its type can be stored. -/
def declareResult (callee : Method) : Lower (Option Nat) := do
  match callee.returnType.bind HostType.storageType? with
  | none => return none
  | some type =>
    return some (← declareVariable (callee.name ++ "_return") (some type.default) type)

/-- The flow after an inlined body: it waits for a tail of the body and for the sequence that runs
the body. -/
def continueAfter (sequence : NodeId) (tails : List FlowOut) : Lower FlowOut := do
  if tails.isEmpty then return sequence.flowOut "1"
  else
    let wait ← createNode .flowWaitAll
    configure wait "inputFlows" (.int 2)
    connectFlows tails (wait.flowIn "0")
    connectFlow (sequence.flowOut "1") (wait.flowIn "1")
    return wait.flowOut "out"

/-- A method of the class in place of its call. As a step of a flow the whole body is inlined, as a
value only a body that returns one expression. -/
def lowerCallee (inliner : Inliner) (active : List String) (e : Expression) (low : Below e.size)
    (callee : Method) (flow : Option FlowOut) : Lower Invocation := do
  let limit := (← get).context.options.maxInlineDepth
  if active.contains callee.name || limit ≤ active.length then
    unsupported ("call to '" ++ callee.name ++ "' not inlined: recursion or depth limit " ++
      toString limit ++ " reached")
    return { flow }
  else
    let bindings ←
      bindArguments low callee.parameters (arguments e) size_arguments_lt Dict.empty
    let active := callee.name :: active
    match flow with
    | none =>
      match callee.returned? with
      | none =>
        unsupported ("'" ++ callee.name ++ "' has statements and cannot be inlined into an expression")
        return {}
      | some body =>
        return { value := ← inCallee { method := callee.name, bindings } (inliner.value active body) }
    | some flow =>
      let returnVariable ← declareResult callee
      let sequence ← createNode .flowSequence
      connectFlow flow (sequence.flowIn "in")
      let exits ← inCallee { method := callee.name, bindings, returnVariable } do
        let entry ← copyParameters (Statement.assignedNames callee.body) true callee.parameters
          (sequence.flowOut "0")
        inliner.block active callee.body entry
      let next ← continueAfter sequence exits.tails
      match returnVariable with
      | none => return { flow := some next }
      | some id => return { value := some (← getVariable id), flow := some next }

/-- A call, as a step of a flow if one is given, else as a value. -/
def lowerInvocation (c : ScriptClass) (inliner : Inliner) (active : List String) (e : Expression)
    (low : Below e.size) (flow : Option FlowOut) : Lower Invocation := do
  match e.method with
  | none =>
    malformed "invocation without method symbol"
    return { flow }
  | some symbol =>
    match HostMethod.recognize? symbol, c.callee? e with
    | some method, _ => lowerHostMethod e low symbol method flow
    | none, some callee => lowerCallee inliner active e low callee flow
    | none, none =>
      unresolved ("call to unknown method " ++ symbol.declaringType.name ++ "." ++ symbol.name)
      return { flow }

end Lower

end ScriptGraph
