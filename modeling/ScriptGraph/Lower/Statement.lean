import ScriptGraph.Lower.Expression
import ScriptGraph.Source.Loop

/-!
Lowering statements. A statement takes a flow and tells where control leaves it.
-/

namespace ScriptGraph

open Pattern Build

namespace Lower

/-- The node of a compound assignment. -/
def compoundOperator? : String → Option Op
  | "+=" => some .mathAdd
  | "-=" => some .mathSub
  | "*=" => some .mathMul
  | "/=" => some .mathDiv
  | "%=" => some .mathRem
  | _ => none

section Steps

variable (c : ScriptClass) (inliner : Inliner) (active : List String)

/-- The write of a property of the host. -/
def propertySet : HostProperty → Build PropertySet
  | .position => worldPositionSet
  | .localPosition => localPositionSet
  | .rotation => worldRotationSet
  | .localRotation => localRotationSet
  | _ => localScaleSet

/-- Writes a member: a field of the class or a property of the host. -/
def storeMember (target : Expression) (value : ValueOut) (flow : FlowOut) : Lower FlowOut := do
  match target.member with
  | none =>
    malformed "member access without member"
    return flow
  | some member =>
    let fields := (← get).fields
    let field? := if onSelf target then fields.find? member.name else none
    match field?, (HostProperty.recognize? member).filter (·.isWritable) with
    | some id, _ => storeVariable id value flow
    | none, none =>
      unsupported ("assignment to member '" ++ member.declaringType.name ++ "." ++ member.name ++ "'")
      return flow
    | none, some property =>
      let object ← lowerReceiver target fun e _ => lowerExpression c inliner active e
      let write ← propertySet property
      connect write.target object
      connect write.value value
      connectFlow flow write.flowIn
      return write.flowOut

/-- Writes an element of a list field. -/
def storeElement (target : Expression) (value : ValueOut) (flow : FlowOut) : Lower FlowOut := do
  match target.children with
  | collection :: index :: _ =>
    match ← listName? collection with
    | none =>
      unsupported "element assignment on something other than a list field"
      return flow
    | some name =>
      let some index ← lowerExpression c inliner active index | return flow
      let some write ← onList? name BoundedList.setItemChecked | return flow
      connect write.index index
      connect write.value value
      connectFlow flow write.flowIn
      return write.flowOut
  | _ =>
    malformed "element access without collection and index"
    return flow

/-- Writes a value to a target and returns the flow to go on with. -/
def store (target : Expression) (value : ValueOut) (flow : FlowOut) : Lower FlowOut := do
  match target.kind with
  | .identifier =>
    let name := target.name.getD ""
    match ← variableOf? name with
    | some id => storeVariable id value flow
    | none =>
      unresolved ("assignment to unknown name '" ++ name ++ "'")
      return flow
  | .memberAccess => storeMember c inliner active target value flow
  | .elementAccess => storeElement c inliner active target value flow
  | other =>
    unsupported ("assignment to " ++ other.title)
    return flow

/-- An assignment. A compound one computes with the current value of its target. -/
def lowerAssignment (e : Expression) (flow : FlowOut) : Lower FlowOut := do
  match e.children with
  | target :: source :: _ =>
    let target := target.unwrapped
    let (value?, flow) ← lowerWithFlow c inliner active source flow
    let some value := value? | return flow
    match compoundOperator? e.operatorToken with
    | none => store c inliner active target value flow
    | some op =>
      let some current ← lowerExpression c inliner active target | return flow
      let value ← coerce value source.valueType? target.valueType?
      let value ← binary op current value
      store c inliner active target value flow
  | _ =>
    malformed "assignment without both operands"
    return flow

/-- An increment or a decrement. -/
def lowerIncrement (e : Expression) (flow : FlowOut) : Lower FlowOut := do
  let delta? : Option Int32 := match e.operatorToken with
    | "++" => some 1
    | "--" => some (-1)
    | _ => none
  match delta?, e.children with
  | none, _ =>
    unsupported ("unary '" ++ e.operatorToken ++ "' used as a statement")
    return flow
  | some _, [] =>
    malformed "increment without operand"
    return flow
  | some delta, target :: _ =>
    let target := target.unwrapped
    let some current ← lowerExpression c inliner active target | return flow
    let step : Literal :=
      if target.valueType? = some .float then .float (.ofInt delta.toInt) else .int delta
    let value ← binaryLiteral .mathAdd current step
    store c inliner active target value flow

/-- A wait for a condition. -/
def lowerWait (e : Expression) (flow : FlowOut) : Lower FlowOut := do
  let wait? : Option (Option TickChain → Build (Wait × TickChain)) :=
    if e.typeName? = some "WaitUntil" then some waitUntil
    else if e.typeName? = some "WaitWhile" then some waitWhile
    else none
  match wait? with
  | none =>
    unsupported ("await of '" ++ e.typeName?.getD "<unknown>" ++ "'")
    return flow
  | some build =>
    let condition? ← match e.child? 0 with
      | some condition => lowerExpression c inliner active condition
      | none => pure none
    match condition? with
    | none =>
      malformed "wait without a condition"
      return flow
    | some condition =>
      let (wait, tick) ← build (← get).tick
      modify fun s => { s with tick := some tick }
      connect wait.condition condition
      connectFlow flow wait.flowIn
      return wait.flowOut

/-- A call as a statement. -/
def lowerCallStatement (e : Expression) (flow : FlowOut) : Lower FlowOut := do
  return (← lowerCall c inliner active e (some flow)).flow.getD flow

/-- An expression as a statement. -/
def lowerExpressionStatement (s : Statement) (flow : FlowOut) : Lower FlowOut := do
  match s.expression? with
  | none =>
    malformed "expression statement without expression"
    return flow
  | some e =>
    let e := e.unwrapped
    match e.kind with
    | .methodInvocation => lowerCallStatement c inliner active e flow
    | .await =>
      match (e.child? 0).map (·.unwrapped) with
      | some inner =>
        if inner.kind = .methodInvocation then lowerCallStatement c inliner active inner flow
        else if inner.kind = .objectCreation then lowerWait c inliner active inner flow
        else
          unsupported "await of something other than a call"
          return flow
      | none =>
        unsupported "await of something other than a call"
        return flow
    | .assignment => lowerAssignment c inliner active e flow
    | .postfixUnary | .prefixUnary => lowerIncrement c inliner active e flow
    | other =>
      unsupported (other.title ++ " used as a statement")
      return flow

/-- The declarations of locals, one after the other. -/
def lowerDeclarators : List Statement → FlowOut → Lower FlowOut
  | [], flow => return flow
  | declarator :: rest, flow => do
    match declarator.expression?.bind fun e => e.name.map (e, ·) with
    | none =>
      malformed "variable declarator without a name"
      lowerDeclarators rest flow
    | some (declared, name) =>
      let initializer := (declarator.child? .initializer).bind (·.expression?)
      let type? := (declared.resultType.or (initializer.bind (·.resultType))).bind
        HostType.storageType?
      match type?, initializer with
      | none, _ =>
        unsupported ("local '" ++ name ++ "' has no supported type")
        lowerDeclarators rest flow
      | some type, none =>
        let _ ← declareLocal name type
        lowerDeclarators rest flow
      | some type, some e =>
        let id ← declareLocal name type
        let (value?, flow) ← lowerWithFlow c inliner active e flow
        match value? with
        | none => lowerDeclarators rest flow
        | some value => lowerDeclarators rest (← storeVariable id value flow)

/-- A declaration of locals. -/
def lowerDeclaration (s : Statement) (flow : FlowOut) : Lower FlowOut :=
  lowerDeclarators c inliner active (s.children.filter (·.kind = .variableDeclarator)) flow

/-- A return. The value is stored if somebody asks for it. -/
def lowerReturn (s : Statement) (flow : FlowOut) : Lower Exits := do
  let frame ← frame?
  match s.expression?, frame.bind (·.returnVariable) with
  | some e, some target =>
    let (value?, flow) ← lowerWithFlow c inliner active e flow
    match value? with
    | none => return .ofReturn flow
    | some value => return .ofReturn (← storeVariable target value flow)
  | _, _ => return .ofReturn flow

/-- What the counter of a loop stands for. -/
inductive Counter where
  | value (output : ValueOut)
  | variable (id : Nat)

/-- Binds a name to what it stands for. -/
def Counter.bind (name : String) (frame : Frame) : Option Counter → Frame
  | none => frame
  | some (.value output) => { frame with bindings := frame.bindings.insert name output }
  | some (.variable id) => { frame with locals := frame.locals.insert name id }

/-- What a name stands for in a frame. -/
def Counter.of? (name : String) (frame : Frame) : Option Counter :=
  match frame.bindings.find? name with
  | some output => some (.value output)
  | none => (frame.locals.find? name).map .variable

/-- Lets a name stand for a counter, and returns what it stood for. -/
def bindCounter (name : String) (counter : Counter) : Lower (Option Counter) := do
  let previous := (← frame?).bind (Counter.of? name)
  modifyFrame fun frame =>
    let cleared := match frame.bindings.find? name with
      | some _ => { frame with bindings := frame.bindings.erase name }
      | none => { frame with locals := frame.locals.erase name }
    Counter.bind name cleared (some counter)
  return previous

/-- Lets a name stand for what it stood for before. -/
def unbindCounter (name : String) (previous : Option Counter) : Lower Unit :=
  modifyFrame fun frame =>
    let cleared := { frame with
      bindings := frame.bindings.erase name
      locals := frame.locals.erase name }
    Counter.bind name cleared previous

/-- How to lower the body of a loop or an arm. -/
abbrev Body := FlowOut → Lower Exits

/-- A loop that one node runs. -/
def lowerCanonicalLoop (l : CountingLoop) (body : Body) (flow : FlowOut) : Lower Exits := do
  let start? ← lowerExpression c inliner active l.start
  let stop? ← lowerExpression c inliner active l.bound
  match start?, stop? with
  | some start, some stop =>
    let first := ((l.start.constant? (some .int)).bind Literal.toInt?).getD 0
    let native ← forLoop first
    connect native.start start
    connect native.stop stop
    connectFlow flow native.flowIn
    let shadowed ← bindCounter l.counter (.value native.index)
    let exits ← body native.loopBody
    unbindCounter l.counter shadowed
    return { «open» := [native.completed], returned := exits.returned }
  | _, _ => return .one flow

/-- The excluded end of a loop: one beyond a bound that is included. -/
def loopEnd (comparison : Comparison) (bound : ValueOut) : Lower ValueOut :=
  match comparison with
  | .lt | .gt => return bound
  | .le => binaryLiteral .mathAdd bound (.int 1)
  | .ge => binaryLiteral .mathSub bound (.int 1)

/-- Feeds the step of a loop. -/
def lowerLoopStep (step : ValueIn) : LoopStep → Lower Unit
  | .constant amount => setLiteral step (.int amount)
  | .computed amount negate => do
    match ← lowerExpression c inliner active amount with
    | none => return ()
    | some value =>
      let value ← if negate then unary .mathNeg value else pure value
      connect step value

/-- A loop with a variable for its counter. A counter that is not declared by the loop keeps its
last value. -/
def lowerSteppedLoop (l : CountingLoop) (body : Body) (flow : FlowOut) : Lower Exits := do
  let outer? ← if l.declared then pure none else variableOf? l.counter
  let start? ← lowerExpression c inliner active l.start
  let bound? ← lowerExpression c inliner active l.bound
  match start?, bound? with
  | some start, some bound =>
    let stop ← loopEnd l.comparison bound
    let loop ← steppedFor
    connect loop.start start
    connect loop.stop stop
    lowerLoopStep c inliner active loop.step l.step
    connectFlow flow loop.flowIn
    let shadowed ← bindCounter l.counter (.variable loop.counter)
    let exits ← body loop.loopBody
    unbindCounter l.counter shadowed
    connectFlows exits.open loop.nextStep
    match outer? with
    | none => return { «open» := [loop.completed], returned := exits.returned }
    | some id =>
      let completed ← storeVariable id loop.index loop.completed
      return { «open» := [completed], returned := exits.returned }
  | _, _ => return .one flow

/-- A loop. -/
def lowerLoop (s : Statement) (body : Body) (flow : FlowOut) : Lower Exits := do
  match CountingLoop.ofStatement? s with
  | none =>
    unsupported "for loop is not a counting loop over an int counter"
    return .one flow
  | some l =>
    if l.start.valueType?.any (· ≠ .int) then
      unsupported ("for loop counter '" ++ l.counter ++ "' is not an int")
      return .one flow
    else if l.isCanonical then lowerCanonicalLoop c inliner active l body flow
    else lowerSteppedLoop c inliner active l body flow

/-- A branch. A missing arm leaves its flow open. -/
def lowerBranch (s : Statement) (thenArm elseArm : Option Body) (flow : FlowOut) :
    Lower Exits := do
  match (s.child? .condition).bind (·.expression?) with
  | none =>
    malformed "if statement without condition"
    return .one flow
  | some condition =>
    match ← lowerExpression c inliner active condition with
    | none =>
      unsupported "if condition could not be lowered; statement skipped"
      return .one flow
    | some condition =>
      let branch ← createNode .flowBranch
      connect (branch.valueIn "condition") condition
      connectFlow flow (branch.flowIn "in")
      let arm (body? : Option Body) (socket : String) : Lower Exits :=
        match body? with
        | some body => body (branch.flowOut socket)
        | none => return .one (branch.flowOut socket)
      let thenExits ← arm thenArm "true"
      let elseExits ← arm elseArm "false"
      return thenExits.merge elseExits

end Steps

/-- How to lower the blocks below a size. -/
abbrev BlocksBelow (bound : Nat) :=
  (block : List Statement) → Statement.sizeAll block < bound → FlowOut → Lower Exits

/-- The arm of a clause. -/
def arm? (s : Statement) (blocks : BlocksBelow s.size) (clause : StatementKind) : Option Body :=
  match found : s.child? clause with
  | some body => some (blocks body.children (Statement.sizeAll_child_lt found))
  | none => none

/-- One statement, given how to lower smaller blocks. -/
def statementStep (c : ScriptClass) (inliner : Inliner) (active : List String) (s : Statement)
    (blocks : BlocksBelow s.size) (flow : FlowOut) : Lower Exits := do
  match s.kind with
  | .expression => return .one (← lowerExpressionStatement c inliner active s flow)
  | .declaration => return .one (← lowerDeclaration c inliner active s flow)
  | .assignment =>
    match s.expression? with
    | some e => return .one (← lowerAssignment c inliner active e flow)
    | none =>
      malformed "assignment statement without expression"
      return .one flow
  | .ifStatement =>
    lowerBranch c inliner active s (arm? s blocks .thenClause) (arm? s blocks .elseClause) flow
  | .returnStatement => lowerReturn c inliner active s flow
  | .block => blocks s.children (Statement.sizeAll_children_lt s) flow
  | .forLoop =>
    lowerLoop c inliner active s
      (blocks (CountingLoop.bodyOf s) (CountingLoop.sizeAll_bodyOf_lt s)) flow
  | other =>
    malformed ("structural " ++ other.title ++ " record outside its parent")
    return .one flow

mutual

/-- Lowers a statement. -/
def lowerStatement (c : ScriptClass) (inliner : Inliner) (active : List String) (s : Statement)
    (flow : FlowOut) : Lower Exits :=
  statementStep c inliner active s
    (fun block _ flow => lowerBlock c inliner active block (.one flow)) flow
termination_by (s.size, 1)
decreasing_by exact Prod.Lex.left _ _ (by assumption)

/-- Lowers statements in order, after the given exits. Flows that come together enter the next
statement as one; statements that no flow reaches are noted and left out. -/
def lowerBlock (c : ScriptClass) (inliner : Inliner) (active : List String)
    (block : List Statement) (before : Exits) : Lower Exits :=
  match block with
  | [] => return before
  | s :: rest => do
    let entering? ← match before.open with
      | [] => pure none
      | [flow] => pure (some flow)
      | flows => some <$> join flows
    match entering? with
    | none =>
      unsupported (toString (rest.length + 1) ++
        " unreachable statement(s) after every path returned")
      return before
    | some entry =>
      let exits ← lowerStatement c inliner active s entry
      lowerBlock c inliner active rest
        { exits with returned := before.returned ++ exits.returned }
termination_by (Statement.sizeAll block, 2 * block.length)
decreasing_by
  · rw [Statement.sizeAll, Prod.lex_def, List.length_cons]
    omega
  · have := Statement.size_pos s
    rw [Statement.sizeAll]
    exact Prod.Lex.left _ _ (by omega)

end

/-- The inliner for a number of further levels. -/
def inliner (c : ScriptClass) : Nat → Inliner
  | 0 => { block := fun _ _ flow => return .one flow, value := fun _ _ => return none }
  | levels + 1 =>
    { block := fun active block flow => lowerBlock c (inliner c levels) active block (.one flow)
      value := fun active e => lowerExpression c (inliner c levels) active e }

end Lower

end ScriptGraph
