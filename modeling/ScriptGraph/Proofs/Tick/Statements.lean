import Mathlib
import ScriptGraph.Proofs.Lower.Lockstep.Blocks
import ScriptGraph.Proofs.Tick.Values

/-!
Statements take outputs behind the tick event for their waits, and for nothing else: also those that stand in the
bodies of inlined methods.
-/

namespace ScriptGraph

open Pattern Build

namespace Lower

variable {α β : Type} {base : Nat}

/-- The step takes no node away, and as long as the numbers of nodes suffice those who are served after it and were
not served before are waits. -/
structure Subscribes (base : Nat) (step : Lower α) : Prop where
  size_le : ∀ s : Lowering, s.context.graph.nodes.size ≤ (step s).2.context.graph.nodes.size
  gains : ∀ (s : Lowering) (journal : List Subscriber), s.context.graph.Identified →
    base ≤ s.context.graph.nodes.size → (step s).2.context.graph.nodes.size ≤ 0x100000000 →
      s.context.Serves base s.tick journal → ∃ more, (∀ subscriber ∈ more, subscriber.isUpdate = false) ∧
        s.context.Gains base journal more (step s).2.tick (step s).2.context

theorem Quiet.subscribes {step : Lower α} (quiet : Quiet base step) : Subscribes base step where
  size_le := quiet.size_le
  gains s journal identified le inRange serves := by
    obtain ⟨remains, serves, waits⟩ := quiet.quiet s journal identified le inRange serves
    refine ⟨[], fun _ member => absurd member List.not_mem_nil, remains, ?_, rfl, waits⟩
    simpa using serves.mono (le.trans (quiet.size_le s))

namespace Subscribes

/-- The nodes of the waits of the first step are settled when the second one begins. -/
theorem bind {step : Lower α} {next : α → Lower β} (first : Subscribes base step)
    (second : ∀ base a, Subscribes base (next a)) : Subscribes base (step >>= next) where
  size_le s := (first.size_le s).trans ((second base (step s).1).size_le (step s).2)
  gains s journal identified le inRange serves := by
    have middle := (second base (step s).1).size_le (step s).2
    obtain ⟨more, waits, gains⟩ := first.gains s journal identified le (middle.trans inRange) serves
    obtain ⟨more', waits', gains'⟩ := (second _ (step s).1).gains (step s).2 (journal ++ more)
      gains.remains.identified le_rfl inRange gains.serves
    refine ⟨more ++ more', fun subscriber member => ?_, gains.trans
      { gains' with remains := gains'.remains.mono (le.trans (first.size_le s)) }⟩
    exact (List.mem_append.1 member).elim (waits subscriber) (waits' subscriber)

/-- Nobody is served after the first step who was not served before. -/
theorem quietBind {step : Lower α} {next : α → Lower β} (first : Quiet base step)
    (second : ∀ a, Subscribes base (next a)) : Subscribes base (step >>= next) where
  size_le s := (first.size_le s).trans ((second (step s).1).size_le (step s).2)
  gains s journal identified le inRange serves := by
    have middle := (second (step s).1).size_le (step s).2
    obtain ⟨remains, serves, waits⟩ := first.quiet s journal identified le (middle.trans inRange) serves
    obtain ⟨more, only, gains⟩ := (second (step s).1).gains (step s).2 journal remains.identified
      (le.trans (first.size_le s)) inRange serves
    exact ⟨more, only, remains.trans gains.remains, gains.serves, waits ▸ gains.numbers, waits ▸ gains.waits⟩

theorem pure (a : α) : Subscribes base (Pure.pure a) := (Quiet.pure a).subscribes

theorem getBind {next : Lowering → Lower β} (second : ∀ s, Subscribes base (next s)) :
    Subscribes base (get >>= next) :=
  ⟨fun s => (second s).size_le s, fun s => (second s).gains s⟩

theorem note (kind : DiagnosticKind) (message : String) (a : α) :
    Subscribes base (do Build.report kind message; return a : Lower α) :=
  (Quiet.note kind message a).subscribes

theorem withFrame {step : Lower α} (frame : Frame) (subscribes : Subscribes base step) :
    Subscribes base (withFrame frame step) :=
  .quietBind (.modify (fun _ => rfl) fun _ => rfl) fun _ => .bind subscribes fun _ _ =>
    .quietBind (.modify (fun _ => rfl) fun _ => rfl) fun _ => .pure _

theorem inCallee {step : Lower α} (frame : Frame) (subscribes : Subscribes base step) :
    Subscribes base (inCallee frame step) :=
  .getBind fun _ => .quietBind (.lift (quiet_setMethod _)) fun _ => .bind (.withFrame frame subscribes) fun _ _ =>
    .quietBind (.lift (quiet_setMethod _)) fun _ => .pure _

end Subscribes

end Lower

/-- What is inlined serves nobody but waits, and as a value nobody. -/
structure Inliner.Serves (inliner : Inliner) : Prop where
  block : ∀ base active block flow, Lower.Subscribes base (inliner.block active block flow)
  value : ∀ base active e, Lower.Quiet base (inliner.value active e)

namespace Lower

variable {base : Nat} {c : ScriptClass} {inliner : Inliner} {active : List String}

section Callees

variable {e : Expression} {low : Below e.size}

theorem quiet_createNode {op : Op} (other : op ≠ .eventOnTick) :
    Quiet base (@liftM (StateT Context Id) (StateT Lowering Id) _ NodeId (createNode op)) :=
  .node other fun _ _ _ => .pure _

theorem quiet_copyParameters (written : List String) (all : Bool) (parameters : List Parameter) (flow : FlowOut) :
    Quiet base (copyParameters written all parameters flow) := by
  induction parameters generalizing flow with
  | nil => exact .pure flow
  | cons parameter parameters ih =>
    refine .bind quiet_frame? fun frame => ?_
    split
    · split
      · exact .bind (quiet_declareLocal _ _) fun _ => .bind (quiet_storeVariable _ _ _) fun flow => ih flow
      · exact ih flow
    · exact ih flow

theorem quiet_declareResult (callee : Method) : Quiet base (declareResult callee) := by
  unfold declareResult
  split
  · exact .pure none
  · exact .bind (.lift (quiet_declareVariable _ _ _)) fun _ => .pure _

theorem quiet_continueAfter (sequence : NodeId) (tails : List FlowOut) :
    Quiet base (continueAfter sequence tails) := by
  unfold continueAfter
  split
  · exact .pure _
  · refine .node (by decide) fun wait _ own => .bind (.lift (quiet_configure own _ _)) fun _ => ?_
    exact .bind (quiet_connectFlows _ _) fun _ => .bind (.lift (quiet_connectFlow _ _)) fun _ => .pure _

/-- A method of the class in place of a call for its value. -/
theorem quiet_lowerCallee (serves : inliner.Serves) (quiet : Below.Quiet low) (callee : Method) :
    Quiet base (lowerCallee inliner active e low callee none) := by
  refine .getBind fun s => ?_
  dsimp only
  split
  · exact .note _ _ _
  · refine .bind (quiet_bindArguments quiet _ _ _ _) fun bindings => ?_
    split
    · exact .note _ _ _
    · exact .bind (.inCallee _ (serves.value _ _ _)) fun _ => .pure _

/-- A method of the class in place of its call, with the waits of its body. -/
theorem subscribes_lowerCallee (serves : inliner.Serves) (quiet : Below.Quiet low) (callee : Method)
    (flow : Option FlowOut) : Subscribes base (lowerCallee inliner active e low callee flow) := by
  cases flow with
  | none => exact (quiet_lowerCallee serves quiet callee).subscribes
  | some flow =>
    refine .getBind fun s => ?_
    dsimp only
    split
    · exact .note _ _ _
    · refine .quietBind (quiet_bindArguments quiet _ _ _ _) fun bindings => ?_
      refine .quietBind (quiet_declareResult callee) fun returnVariable => ?_
      refine .quietBind (quiet_createNode (by decide)) fun node => ?_
      refine .quietBind (.lift (quiet_connectFlow _ _)) fun _ => ?_
      refine .bind (.inCallee _ (.quietBind (quiet_copyParameters _ _ _ _) fun entry => serves.block _ _ _ entry))
        fun _ exits => .quietBind (quiet_continueAfter _ _) fun next => ?_
      cases returnVariable with
      | none => exact .pure _
      | some id => exact .quietBind (.lift (quiet_getVariable id)) fun _ => .pure _

theorem quiet_lowerInvocation (serves : inliner.Serves) (quiet : Below.Quiet low) :
    Quiet base (lowerInvocation c inliner active e low none) := by
  unfold lowerInvocation
  split
  · exact .note _ _ _
  · split
    · next found => exact quiet_lowerHostMethod quiet found none
    · exact quiet_lowerCallee serves quiet _
    · exact .note _ _ _

theorem subscribes_lowerInvocation (serves : inliner.Serves) (quiet : Below.Quiet low) (flow : Option FlowOut) :
    Subscribes base (lowerInvocation c inliner active e low flow) := by
  unfold lowerInvocation
  split
  · exact .note _ _ _
  · split
    · next found => exact (quiet_lowerHostMethod quiet found flow).subscribes
    · exact subscribes_lowerCallee serves quiet _ flow
    · exact .note _ _ _

theorem quiet_expressionStep (serves : inliner.Serves) (quiet : Below.Quiet low) :
    Quiet base (expressionStep c inliner active e low) := by
  obtain ⟨kind, name, type, method, member, literal, operator, children⟩ := e
  cases kind with
  | parenthesized =>
    cases children with
    | nil => exact .note _ _ none
    | cons inner _ => exact quiet base inner _
  | literal => exact quiet_lowerLiteral
  | identifier => exact quiet_lowerIdentifier c
  | this => exact .bind (quiet_objectLiteral .self) fun _ => .pure _
  | memberAccess => exact quiet_lowerMemberAccess quiet
  | methodInvocation => exact .bind (quiet_lowerInvocation serves quiet) fun _ => .pure _
  | binary => exact quiet_lowerBinary quiet
  | unary => exact quiet_lowerUnary quiet
  | prefixUnary => exact quiet_lowerUnary quiet
  | objectCreation => exact quiet_lowerConstruction quiet
  | elementAccess => exact quiet_lowerElement quiet
  | cast => exact quiet_lowerCast quiet
  | await =>
    cases children with
    | nil => exact .pure none
    | cons inner _ => exact quiet base inner _
  | postfixUnary => exact .note _ _ none
  | assignment => exact .note _ _ none

end Callees

theorem quiet_lowerExpression (serves : inliner.Serves) (base : Nat) (e : Expression) :
    Quiet base (lowerExpression c inliner active e) := by
  rw [lowerExpression]
  exact quiet_expressionStep serves fun base smaller _ => quiet_lowerExpression serves base smaller
termination_by e.size

/-- A wait is made, and what follows takes no further output. -/
theorem subscribes_waits {build : Option TickChain → Build (Wait × TickChain)} (waits : GainsWait build)
    {next : Wait → Lower α} (quiet : ∀ base wait, Quiet base (next wait)) :
    Subscribes base (do
      let (wait, tick) ← build (← get).tick
      modify fun s => { s with tick := some tick }
      next wait) := by
  let made (s : Lowering) : Lowering :=
    { s with context := (build s.tick s.context).2, tick := some (build s.tick s.context).1.2 }
  have grown (s : Lowering) := (quiet 0 (build s.tick s.context).1.1).size_le (made s)
  refine ⟨fun s => (waits.grows s.tick s.context).trans (grown s), fun s journal identified le inRange serves => ?_⟩
  obtain ⟨poll, gains⟩ := waits.gains identified le serves ((grown s).trans inRange)
  obtain ⟨remains, serves, same⟩ := (quiet _ (build s.tick s.context).1.1).quiet (made s) (journal ++ [.wait poll])
    gains.remains.identified le_rfl inRange gains.serves
  refine ⟨[.wait poll], by simp [Subscriber.isUpdate], gains.remains.trans ?_, serves.mono (grown s), gains.numbers,
    same.trans gains.waits⟩
  exact remains.mono (le.trans (waits.grows s.tick s.context))

theorem quiet_bindCounter (name : String) (counter : Counter) : Quiet base (bindCounter name counter) :=
  .bind quiet_frame? fun _ => .bind (.modifyFrame _) fun _ => .pure _

theorem quiet_unbindCounter (name : String) (previous : Option Counter) : Quiet base (unbindCounter name previous) :=
  .modifyFrame _

theorem quiet_loopEnd (comparison : Comparison) (bound : ValueOut) : Quiet base (loopEnd comparison bound) := by
  cases comparison with
  | lt => exact .pure bound
  | gt => exact .pure bound
  | le => exact .lift (quiet_binaryLiteral (by decide) _ _)
  | ge => exact .lift (quiet_binaryLiteral (by decide) _ _)

section Statements

variable (serves : inliner.Serves)

include serves

theorem quiet_smaller (e : Expression) :
    Below.Quiet (fun smaller _ => lowerExpression c inliner active smaller : Below e.size) :=
  fun base smaller _ => quiet_lowerExpression serves base smaller

theorem subscribes_lowerCall (e : Expression) (flow : Option FlowOut) :
    Subscribes base (lowerCall c inliner active e flow) :=
  subscribes_lowerInvocation serves (quiet_smaller serves e) flow

theorem subscribes_lowerWithFlow (e : Expression) (flow : FlowOut) :
    Subscribes base (lowerWithFlow c inliner active e flow) := by
  unfold lowerWithFlow
  dsimp only
  split
  · exact .pure _
  · split
    · exact .bind (subscribes_lowerCall serves _ _) fun _ _ => .pure _
    · exact .quietBind (quiet_lowerExpression serves _ e) fun _ => .pure _

theorem quiet_storeMember (target : Expression) (value : ValueOut) (flow : FlowOut) :
    Quiet base (storeMember c inliner active target value flow) := by
  have silent (property : HostProperty) (base : Nat) : Build.Quiet base (propertySet property) := by
    unfold propertySet
    split <;> simp
  unfold storeMember
  split
  · exact .note _ _ _
  · refine .getBind fun s => ?_
    dsimp only
    split
    · exact quiet_storeVariable _ _ _
    · exact .note _ _ _
    · refine .bind (quiet_lowerReceiver (quiet_smaller serves target)) fun object => ?_
      refine .bind (.lift (silent _ _)) fun write => .bind (.lift (quiet_connect _ _)) fun _ => ?_
      exact .bind (.lift (quiet_connect _ _)) fun _ => .bind (.lift (quiet_connectFlow _ _)) fun _ => .pure _

theorem quiet_storeElement (target : Expression) (value : ValueOut) (flow : FlowOut) :
    Quiet base (storeElement c inliner active target value flow) := by
  unfold storeElement
  split
  · refine .bind (quiet_listName? _) fun name? => ?_
    cases name? with
    | none => exact .note _ _ _
    | some name =>
      refine .bind (quiet_lowerExpression serves _ _) fun index? => ?_
      cases index? with
      | none => exact .pure _
      | some index =>
        refine .bind (quiet_onList? name BoundedList.quiet_setItemChecked) fun write? => ?_
        cases write? with
        | none => exact .pure _
        | some write =>
          refine .bind (.lift (quiet_connect _ _)) fun _ => .bind (.lift (quiet_connect _ _)) fun _ => ?_
          exact .bind (.lift (quiet_connectFlow _ _)) fun _ => .pure _
  · exact .note _ _ _

theorem quiet_store (target : Expression) (value : ValueOut) (flow : FlowOut) :
    Quiet base (store c inliner active target value flow) := by
  unfold store
  split
  · refine .bind (quiet_variableOf? _) fun id? => ?_
    cases id? with
    | some id => exact quiet_storeVariable _ _ _
    | none => exact .note _ _ _
  · exact quiet_storeMember serves _ _ _
  · exact quiet_storeElement serves _ _ _
  · exact .note _ _ _

theorem subscribes_lowerAssignment (e : Expression) (flow : FlowOut) :
    Subscribes base (lowerAssignment c inliner active e flow) := by
  unfold lowerAssignment
  split
  · refine .bind (subscribes_lowerWithFlow serves _ _) fun _ result => ?_
    obtain ⟨value?, flow⟩ := result
    cases value? with
    | none => exact .pure _
    | some value =>
      dsimp only
      split
      · exact (quiet_store serves _ _ _).subscribes
      · next op found =>
        have other : op ≠ .eventOnTick := by
          unfold compoundOperator? at found
          split at found <;> cases found <;> decide
        refine .quietBind (quiet_lowerExpression serves _ _) fun current? => ?_
        cases current? with
        | none => exact .pure _
        | some current =>
          refine .quietBind (quiet_coerce _ _ _) fun value => ?_
          refine .quietBind (.lift (quiet_binary other _ _)) fun value => ?_
          exact (quiet_store serves _ _ _).subscribes
  · exact .note _ _ _

theorem quiet_lowerIncrement (e : Expression) (flow : FlowOut) :
    Quiet base (lowerIncrement c inliner active e flow) := by
  unfold lowerIncrement
  dsimp only
  split
  · exact .note _ _ _
  · exact .note _ _ _
  · refine .bind (quiet_lowerExpression serves _ _) fun current? => ?_
    cases current? with
    | none => exact .pure _
    | some current =>
      exact .bind (.lift (quiet_binaryLiteral (by decide) _ _)) fun value => quiet_store serves _ _ _

/-- A wait takes the next output behind the tick event. -/
theorem subscribes_lowerWait (e : Expression) (flow : FlowOut) :
    Subscribes base (lowerWait c inliner active e flow) := by
  unfold lowerWait
  dsimp only
  split
  · exact .note _ _ _
  · next build found =>
    have waits : GainsWait build := by
      split at found
      · cases found
        exact gainsWait_waitUntil
      · split at found
        · cases found
          exact gainsWait_waitWhile
        · cases found
    split
    · refine .quietBind (quiet_lowerExpression serves _ _) fun condition? => ?_
      cases condition? with
      | none => exact .note _ _ _
      | some condition =>
        have wired (base : Nat) (wait : Wait) : Quiet base (do
            connect wait.condition condition
            connectFlow flow wait.flowIn
            return wait.flowOut : Lower FlowOut) :=
          .bind (.lift (quiet_connect _ _)) fun _ => .bind (.lift (quiet_connectFlow _ _)) fun _ => .pure _
        exact subscribes_waits waits wired
    · exact .note _ _ _

theorem subscribes_lowerCallStatement (e : Expression) (flow : FlowOut) :
    Subscribes base (lowerCallStatement c inliner active e flow) :=
  .bind (subscribes_lowerCall serves _ _) fun _ _ => .pure _

theorem subscribes_lowerExpressionStatement (s : Statement) (flow : FlowOut) :
    Subscribes base (lowerExpressionStatement c inliner active s flow) := by
  unfold lowerExpressionStatement
  split
  · exact .note _ _ _
  · dsimp only
    split
    · exact subscribes_lowerCallStatement serves _ _
    · split
      · split
        · exact subscribes_lowerCallStatement serves _ _
        · split
          · exact subscribes_lowerWait serves _ _
          · exact .note _ _ _
      · exact .note _ _ _
    · exact subscribes_lowerAssignment serves _ _
    · exact (quiet_lowerIncrement serves _ _).subscribes
    · exact (quiet_lowerIncrement serves _ _).subscribes
    · exact .note _ _ _

theorem subscribes_lowerDeclarators (declarators : List Statement) (flow : FlowOut) :
    Subscribes base (lowerDeclarators c inliner active declarators flow) := by
  induction declarators generalizing base flow with
  | nil => exact .pure flow
  | cons declarator rest ih =>
    unfold lowerDeclarators
    split
    · exact .quietBind (.lift (quiet_malformed _)) fun _ => ih flow
    · dsimp only
      split
      · exact .quietBind (.lift (quiet_unsupported _)) fun _ => ih flow
      · exact .quietBind (quiet_declareLocal _ _) fun _ => ih flow
      · refine .quietBind (quiet_declareLocal _ _) fun id => ?_
        refine .bind (subscribes_lowerWithFlow serves _ _) fun _ result => ?_
        obtain ⟨value?, flow⟩ := result
        cases value? with
        | none => exact ih flow
        | some value => exact .quietBind (quiet_storeVariable _ _ _) fun flow => ih flow

theorem subscribes_lowerReturn (s : Statement) (flow : FlowOut) :
    Subscribes base (lowerReturn c inliner active s flow) := by
  refine .quietBind quiet_frame? fun frame => ?_
  split
  · refine .bind (subscribes_lowerWithFlow serves _ _) fun _ result => ?_
    obtain ⟨value?, flow⟩ := result
    cases value? with
    | none => exact .pure _
    | some value => exact .quietBind (quiet_storeVariable _ _ _) fun flow => .pure _
  · exact .pure _

theorem subscribes_lowerCanonicalLoop (l : CountingLoop) {body : Body}
    (inside : ∀ base flow, Subscribes base (body flow)) (flow : FlowOut) :
    Subscribes base (lowerCanonicalLoop c inliner active l body flow) := by
  refine .quietBind (quiet_lowerExpression serves _ _) fun start? =>
    .quietBind (quiet_lowerExpression serves _ _) fun stop? => ?_
  split
  · refine .quietBind (.lift (quiet_forLoop _)) fun native => .quietBind (.lift (quiet_connect _ _)) fun _ => ?_
    refine .quietBind (.lift (quiet_connect _ _)) fun _ => .quietBind (.lift (quiet_connectFlow _ _)) fun _ => ?_
    refine .quietBind (quiet_bindCounter _ _) fun shadowed => .bind (inside _ _) fun _ exits => ?_
    exact .quietBind (quiet_unbindCounter _ _) fun _ => .pure _
  · exact .pure _

theorem quiet_lowerLoopStep (step : ValueIn) (amount : LoopStep) :
    Quiet base (lowerLoopStep c inliner active step amount) := by
  cases amount with
  | constant amount => exact .lift (quiet_setLiteral _ _)
  | computed amount negate =>
    refine .bind (quiet_lowerExpression serves _ amount) fun value? => ?_
    cases value? with
    | none => exact .pure ()
    | some value =>
      dsimp only
      split
      · exact .bind (.lift (quiet_unary (by decide) _)) fun _ => .lift (quiet_connect _ _)
      · exact .lift (quiet_connect _ _)

theorem subscribes_lowerSteppedLoop (l : CountingLoop) {body : Body}
    (inside : ∀ base flow, Subscribes base (body flow)) (flow : FlowOut) :
    Subscribes base (lowerSteppedLoop c inliner active l body flow) := by
  unfold lowerSteppedLoop
  extract_lets rest
  have goesOn (outer? : Option Nat) : Subscribes base (rest outer?) := by
    refine .quietBind (quiet_lowerExpression serves _ _) fun start? =>
      .quietBind (quiet_lowerExpression serves _ _) fun stop? => ?_
    split
    · refine .quietBind (quiet_loopEnd _ _) fun stop => .quietBind (.lift quiet_steppedFor) fun loop => ?_
      refine .quietBind (.lift (quiet_connect _ _)) fun _ => .quietBind (.lift (quiet_connect _ _)) fun _ => ?_
      refine .quietBind (quiet_lowerLoopStep serves _ _) fun _ => .quietBind (.lift (quiet_connectFlow _ _)) fun _ => ?_
      refine .quietBind (quiet_bindCounter _ _) fun shadowed => .bind (inside _ _) fun _ exits => ?_
      refine .quietBind (quiet_unbindCounter _ _) fun _ => .quietBind (quiet_connectFlows _ _) fun _ => ?_
      cases outer? with
      | none => exact .pure _
      | some id => exact .quietBind (quiet_storeVariable _ _ _) fun _ => .pure _
    · exact .pure _
  split
  · exact goesOn none
  · exact .quietBind (quiet_variableOf? _) goesOn

theorem subscribes_lowerLoop (s : Statement) {body : Body} (inside : ∀ base flow, Subscribes base (body flow))
    (flow : FlowOut) : Subscribes base (lowerLoop c inliner active s body flow) := by
  unfold lowerLoop
  split
  · exact .note _ _ _
  · split
    · exact .note _ _ _
    · split
      · exact subscribes_lowerCanonicalLoop serves _ inside flow
      · exact subscribes_lowerSteppedLoop serves _ inside flow

theorem subscribes_lowerBranch (s : Statement) {thenArm elseArm : Option Body}
    (insideThen : ∀ body, thenArm = some body → ∀ base flow, Subscribes base (body flow))
    (insideElse : ∀ body, elseArm = some body → ∀ base flow, Subscribes base (body flow)) (flow : FlowOut) :
    Subscribes base (lowerBranch c inliner active s thenArm elseArm flow) := by
  unfold lowerBranch
  split
  · exact .note _ _ _
  · refine .quietBind (quiet_lowerExpression serves _ _) fun condition? => ?_
    cases condition? with
    | none => exact .note _ _ _
    | some condition =>
      refine .quietBind (quiet_createNode (by decide)) fun branch => ?_
      refine .quietBind (.lift (quiet_connect _ _)) fun _ => .quietBind (.lift (quiet_connectFlow _ _)) fun _ => ?_
      refine .bind ?_ fun _ _ => .bind ?_ fun _ _ => .pure _
      · cases thenArm with
        | some body => exact insideThen body rfl _ _
        | none => exact .pure _
      · cases elseArm with
        | some body => exact insideElse body rfl _ _
        | none => exact .pure _

theorem subscribes_statementStep (s : Statement) {blocks : BlocksBelow s.size}
    (inside : ∀ block small base flow, Subscribes base (blocks block small flow)) (flow : FlowOut) :
    Subscribes base (statementStep c inliner active s blocks flow) := by
  have arms (clause : StatementKind) (body : Body) (found : arm? s blocks clause = some body) (base : Nat)
      (flow : FlowOut) : Subscribes base (body flow) := by
    unfold arm? at found
    split at found <;> cases found
    exact inside _ _ base flow
  unfold statementStep
  split
  · exact .bind (subscribes_lowerExpressionStatement serves _ _) fun _ _ => .pure _
  · exact .bind (subscribes_lowerDeclarators serves _ _) fun _ _ => .pure _
  · split
    · exact .bind (subscribes_lowerAssignment serves _ _) fun _ _ => .pure _
    · exact .note _ _ _
  · exact subscribes_lowerBranch serves s (arms _) (arms _) flow
  · exact subscribes_lowerReturn serves _ _
  · exact inside _ _ _ flow
  · exact subscribes_lowerLoop serves s (inside _ _) flow
  · exact .note _ _ _

end Statements

theorem quiet_entering (before : Exits) : Quiet base (entering before) := by
  unfold entering
  split
  · exact .pure none
  · exact .pure _
  · exact .bind (quiet_join _) fun _ => .pure _

mutual

theorem subscribes_lowerStatement (serves : inliner.Serves) (base : Nat) (s : Statement) (flow : FlowOut) :
    Subscribes base (lowerStatement c inliner active s flow) := by
  rw [lowerStatement]
  exact subscribes_statementStep serves s
    (fun block _ base flow => subscribes_lowerBlock serves base block (.one flow)) flow
termination_by (s.size, 1)
decreasing_by exact Prod.Lex.left _ _ (by assumption)

theorem subscribes_lowerBlock (serves : inliner.Serves) (base : Nat) (block : List Statement) (before : Exits) :
    Subscribes base (lowerBlock c inliner active block before) := by
  match block with
  | [] =>
    rw [lowerBlock]
    exact .pure before
  | s :: rest =>
    rw [lowerBlock_cons]
    refine .quietBind (quiet_entering before) fun entering? => ?_
    cases entering? with
    | none => exact .note _ _ _
    | some entry =>
      exact .bind (subscribes_lowerStatement serves base s entry) fun base _ => subscribes_lowerBlock serves base rest _
termination_by (Statement.sizeAll block, 2 * block.length)
decreasing_by
  · rw [Statement.sizeAll, Prod.lex_def, List.length_cons]
    omega
  · have := Statement.size_pos s
    rw [Statement.sizeAll]
    exact Prod.Lex.left _ _ (by omega)

end

/-- At every depth, what is inlined serves nobody but waits. -/
theorem serves_inliner (c : ScriptClass) : ∀ levels : Nat, (Lower.inliner c levels).Serves
  | 0 => ⟨fun _ _ _ _ => .pure _, fun _ _ _ => .pure _⟩
  | levels + 1 => ⟨fun base _ block _ => subscribes_lowerBlock (serves_inliner c levels) base block _,
      fun base _ e => quiet_lowerExpression (serves_inliner c levels) base e⟩

end Lower

end ScriptGraph
