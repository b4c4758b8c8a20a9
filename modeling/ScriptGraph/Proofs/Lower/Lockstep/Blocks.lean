import Mathlib
import ScriptGraph.Proofs.Lower.Lockstep.Values

/-!
Calls of the class's own methods, statements and blocks keep pace, given that the inliners do where they are
asked: for methods that are not being inlined, while the limit is not reached.
-/

namespace ScriptGraph

open Pattern Build

/-- The inliners keep pace on every method that may be inlined here. -/
def Inliner.Alike (v : Limits) (c : ScriptClass) (active stack : List String) (own other : Inliner) : Prop :=
  ∀ callee ∈ c.methods, callee.name ∉ active → active.length < v.own →
    (∀ block flow, Lower.Alike v (callee.name :: stack) (own.block (callee.name :: active) block flow)
      (other.block (callee.name :: active) block flow)) ∧
    ∀ e, Lower.Alike v (callee.name :: stack) (own.value (callee.name :: active) e)
      (other.value (callee.name :: active) e)

theorem ScriptClass.mem_of_callee? {c : ScriptClass} {e : Expression} {callee : Method}
    (found : c.callee? e = some callee) : callee ∈ c.methods := by
  obtain ⟨symbol, _, found⟩ := Option.bind_eq_some_iff.1 found
  split at found
  · exact List.mem_of_find?_eq_some found
  · cases found

namespace Lower

variable {α β : Type} {v : Limits} {c : ScriptClass} {active stack : List String} {inliner inliner' : Inliner}

section Callees

variable {e : Expression} {low low' : Below e.size}

theorem alike_copyParameters (written : List String) (all : Bool) (parameters : List Parameter) (flow : FlowOut) :
    Alike v stack (copyParameters written all parameters flow) (copyParameters written all parameters flow) := by
  induction parameters generalizing flow with
  | nil => exact .pure flow
  | cons parameter parameters ih =>
    refine .bind alike_frame? fun frame => ?_
    split
    · split
      · exact .bind (alike_declareLocal _ _) fun _ => .bind (alike_storeVariable _ _ _) fun flow => ih flow
      · exact ih flow
    · exact ih flow

theorem alike_declareResult (callee : Method) : Alike v stack (declareResult callee) (declareResult callee) := by
  unfold declareResult
  split
  · exact .pure none
  · exact .bind (.lift (plain_declareVariable _ _ _)) fun _ => .pure _

theorem alike_continueAfter (sequence : NodeId) (tails : List FlowOut) :
    Alike v stack (continueAfter sequence tails) (continueAfter sequence tails) := by
  unfold continueAfter
  split
  · exact .pure _
  · refine .bind (.lift (plain_createNode _)) fun wait => .bind (.lift (plain_configure _ _ _)) fun _ => ?_
    exact .bind (alike_connectFlows _ _) fun _ => .bind (.lift (plain_connectFlow _ _)) fun _ => .pure _

/-- A refused call is refused under the other limit too, or it tells the limits apart. -/
theorem alike_refused (callee : String) (a : α) {y : Lower α}
    (same : v.other = v.own → y = do unsupported (refusal callee v.own); return a) :
    Alike v stack (do unsupported (refusal callee v.own); return a) y := by
  rcases v.refused with equal | told
  · rw [same equal]
    exact .note _ _ a
  · -- The note names the limit, so what the other run does is of no concern.
    intro s under here
    refine ⟨(Alike.note .unsupported (refusal callee v.own) a s under here).1, fun fine => absurd fine ?_⟩
    show ¬ v.fine (s.context.diagnostics.entries.push _).toList
    rw [Array.toList_push]
    exact told _ _ _

/-- A method of the class in place of its call. -/
theorem alike_lowerCallee (inlined : Inliner.Alike v c active stack inliner inliner')
    (alike : Below.Alike v stack low low') {callee : Method} (declared : callee ∈ c.methods) (flow : Option FlowOut) :
    Alike v stack (lowerCallee inliner active e low callee flow) (lowerCallee inliner' active e low' callee flow) := by
  refine .getBindUnder fun s under => ?_
  have under : s.context.options.maxInlineDepth = v.own := under
  have under' : (s.withLimit v.other).context.options.maxInlineDepth = v.other := rfl
  dsimp only
  rw [under, under']
  have own_le := v.own_le
  by_cases refused : (active.contains callee.name || decide (v.own ≤ active.length)) = true
  · rw [if_pos refused]
    refine alike_refused callee.name ({ flow } : Invocation) fun equal => ?_
    rw [equal, if_pos refused]
    rfl
  · have open' : ¬ (active.contains callee.name || decide (v.other ≤ active.length)) = true := by
      simp only [Bool.or_eq_true, decide_eq_true_eq, not_or] at refused ⊢
      exact ⟨refused.1, by omega⟩
    rw [if_neg refused, if_neg open']
    simp only [Bool.or_eq_true, decide_eq_true_eq, List.contains_iff_mem, not_or, Nat.not_le] at refused
    obtain ⟨blocks, values⟩ := inlined callee declared refused.1 refused.2
    refine .bind (alike_bindArguments alike _ _ _ _) fun bindings => ?_
    cases flow with
    | none =>
      dsimp only
      split
      · exact .note _ _ _
      · exact .bind (.inCallee (values _)) fun _ => .pure _
    | some flow =>
      refine .bind (alike_declareResult callee) fun returnVariable => .bind (.lift (plain_createNode _)) fun node => ?_
      refine .bind (.lift (plain_connectFlow _ _)) fun _ => ?_
      refine .bind (.inCallee (.bind (alike_copyParameters _ _ _ _) fun entry => blocks _ entry)) fun exits => ?_
      refine .bind (alike_continueAfter _ _) fun next => ?_
      cases returnVariable with
      | none => exact .pure _
      | some id => exact .bind (.lift (plain_getVariable id)) fun _ => .pure _

theorem alike_lowerInvocation (inlined : Inliner.Alike v c active stack inliner inliner')
    (alike : Below.Alike v stack low low') (flow : Option FlowOut) :
    Alike v stack (lowerInvocation c inliner active e low flow) (lowerInvocation c inliner' active e low' flow) := by
  unfold lowerInvocation
  split
  · exact .note _ _ _
  · split
    · exact alike_lowerHostMethod alike _ _ flow
    · next found => exact alike_lowerCallee inlined alike (ScriptClass.mem_of_callee? found) flow
    · exact .note _ _ _

theorem alike_expressionStep (inlined : Inliner.Alike v c active stack inliner inliner')
    (alike : Below.Alike v stack low low') :
    Alike v stack (expressionStep c inliner active e low) (expressionStep c inliner' active e low') := by
  obtain ⟨kind, name, type, method, member, literal, operator, children⟩ := e
  cases kind with
  | parenthesized =>
    cases children with
    | nil => exact .note _ _ none
    | cons inner _ => exact alike inner _
  | literal => exact alike_lowerLiteral
  | identifier => exact alike_lowerIdentifier c
  | this => exact .bind (alike_objectLiteral .self) fun _ => .pure _
  | memberAccess => exact alike_lowerMemberAccess alike
  | methodInvocation => exact .bind (alike_lowerInvocation inlined alike none) fun _ => .pure _
  | binary => exact alike_lowerBinary alike
  | unary => exact alike_lowerUnary alike
  | prefixUnary => exact alike_lowerUnary alike
  | objectCreation => exact alike_lowerConstruction alike
  | elementAccess => exact alike_lowerElement alike
  | cast => exact alike_lowerCast alike
  | await =>
    cases children with
    | nil => exact .pure none
    | cons inner _ => exact alike inner _
  | postfixUnary => exact .note _ _ none
  | assignment => exact .note _ _ none

end Callees

theorem alike_lowerExpression (inlined : Inliner.Alike v c active stack inliner inliner') (e : Expression) :
    Alike v stack (lowerExpression c inliner active e) (lowerExpression c inliner' active e) := by
  rw [lowerExpression, lowerExpression]
  exact alike_expressionStep inlined fun smaller _ => alike_lowerExpression inlined smaller
termination_by e.size

theorem alike_lowerCall (inlined : Inliner.Alike v c active stack inliner inliner') (e : Expression)
    (flow : Option FlowOut) :
    Alike v stack (lowerCall c inliner active e flow) (lowerCall c inliner' active e flow) :=
  alike_lowerInvocation inlined (fun smaller _ => alike_lowerExpression inlined smaller) flow

theorem alike_lowerWithFlow (inlined : Inliner.Alike v c active stack inliner inliner') (e : Expression)
    (flow : FlowOut) :
    Alike v stack (lowerWithFlow c inliner active e flow) (lowerWithFlow c inliner' active e flow) := by
  unfold lowerWithFlow
  dsimp only
  split
  · exact .pure _
  · split
    · exact .bind (alike_lowerCall inlined _ _) fun _ => .pure _
    · exact .bind (alike_lowerExpression inlined e) fun _ => .pure _

section Writes

variable (inlined : Inliner.Alike v c active stack inliner inliner')

include inlined

theorem alike_storeMember (target : Expression) (value : ValueOut) (flow : FlowOut) :
    Alike v stack (storeMember c inliner active target value flow) (storeMember c inliner' active target value flow) := by
  have plain (property : HostProperty) : Plain (propertySet property) := by
    unfold propertySet
    split <;> simp
  unfold storeMember
  split
  · exact .note _ _ _
  · refine .getBind (fun _ _ => rfl) fun s => ?_
    dsimp only
    split
    · exact alike_storeVariable _ _ _
    · exact .note _ _ _
    · refine .bind (alike_lowerReceiver fun e _ => alike_lowerExpression inlined e) fun object => ?_
      refine .bind (.lift (plain _)) fun write => .bind (.lift (plain_connect _ _)) fun _ => ?_
      exact .bind (.lift (plain_connect _ _)) fun _ => .bind (.lift (plain_connectFlow _ _)) fun _ => .pure _

theorem alike_storeElement (target : Expression) (value : ValueOut) (flow : FlowOut) :
    Alike v stack (storeElement c inliner active target value flow)
      (storeElement c inliner' active target value flow) := by
  unfold storeElement
  split
  · refine .bind (alike_listName? _) fun name? => ?_
    cases name? with
    | none => exact .note _ _ _
    | some name =>
      refine .bind (alike_lowerExpression inlined _) fun index? => ?_
      cases index? with
      | none => exact .pure _
      | some index =>
        refine .bind (alike_onList? name BoundedList.plain_setItemChecked) fun write? => ?_
        cases write? with
        | none => exact .pure _
        | some write =>
          refine .bind (.lift (plain_connect _ _)) fun _ => .bind (.lift (plain_connect _ _)) fun _ => ?_
          exact .bind (.lift (plain_connectFlow _ _)) fun _ => .pure _
  · exact .note _ _ _

theorem alike_store (target : Expression) (value : ValueOut) (flow : FlowOut) :
    Alike v stack (store c inliner active target value flow) (store c inliner' active target value flow) := by
  unfold store
  split
  · refine .bind (alike_variableOf? _) fun id? => ?_
    cases id? with
    | some id => exact alike_storeVariable _ _ _
    | none => exact .note _ _ _
  · exact alike_storeMember inlined _ _ _
  · exact alike_storeElement inlined _ _ _
  · exact .note _ _ _

theorem alike_lowerAssignment (e : Expression) (flow : FlowOut) :
    Alike v stack (lowerAssignment c inliner active e flow) (lowerAssignment c inliner' active e flow) := by
  unfold lowerAssignment
  split
  · refine .bind (alike_lowerWithFlow inlined _ _) fun result => ?_
    obtain ⟨value?, flow⟩ := result
    cases value? with
    | none => exact .pure _
    | some value =>
      dsimp only
      split
      · exact alike_store inlined _ _ _
      · refine .bind (alike_lowerExpression inlined _) fun current? => ?_
        cases current? with
        | none => exact .pure _
        | some current =>
          refine .bind (alike_coerce _ _ _) fun value => .bind (.lift (plain_binary _ _ _)) fun value => ?_
          exact alike_store inlined _ _ _
  · exact .note _ _ _

theorem alike_lowerIncrement (e : Expression) (flow : FlowOut) :
    Alike v stack (lowerIncrement c inliner active e flow) (lowerIncrement c inliner' active e flow) := by
  unfold lowerIncrement
  dsimp only
  split
  · exact .note _ _ _
  · exact .note _ _ _
  · refine .bind (alike_lowerExpression inlined _) fun current? => ?_
    cases current? with
    | none => exact .pure _
    | some current =>
      exact .bind (.lift (plain_binaryLiteral _ _ _)) fun value => alike_store inlined _ _ _

theorem alike_lowerWait (e : Expression) (flow : FlowOut) :
    Alike v stack (lowerWait c inliner active e flow) (lowerWait c inliner' active e flow) := by
  unfold lowerWait
  dsimp only
  split
  · exact .note _ _ _
  · next build found =>
    have plain (tick : Option TickChain) : Plain (build tick) := by
      split at found
      · cases found
        exact plain_waitUntil tick
      · split at found
        · cases found
          exact plain_waitWhile tick
        · cases found
    split
    · refine .bind (alike_lowerExpression inlined _) fun condition? => ?_
      cases condition? with
      | none => exact .note _ _ _
      | some condition =>
        refine .getBind (fun _ _ => rfl) fun s => .bind (.lift (plain s.tick)) fun wait => ?_
        refine .bind (.modify (fun _ _ => rfl) fun s => .setTick s _) fun _ => ?_
        exact .bind (.lift (plain_connect _ _)) fun _ => .bind (.lift (plain_connectFlow _ _)) fun _ => .pure _
    · exact .note _ _ _

theorem alike_lowerCallStatement (e : Expression) (flow : FlowOut) :
    Alike v stack (lowerCallStatement c inliner active e flow) (lowerCallStatement c inliner' active e flow) :=
  .bind (alike_lowerCall inlined _ _) fun _ => .pure _

theorem alike_lowerExpressionStatement (s : Statement) (flow : FlowOut) :
    Alike v stack (lowerExpressionStatement c inliner active s flow)
      (lowerExpressionStatement c inliner' active s flow) := by
  unfold lowerExpressionStatement
  split
  · exact .note _ _ _
  · dsimp only
    split
    · exact alike_lowerCallStatement inlined _ _
    · split
      · split
        · exact alike_lowerCallStatement inlined _ _
        · split
          · exact alike_lowerWait inlined _ _
          · exact .note _ _ _
      · exact .note _ _ _
    · exact alike_lowerAssignment inlined _ _
    · exact alike_lowerIncrement inlined _ _
    · exact alike_lowerIncrement inlined _ _
    · exact .note _ _ _

theorem alike_lowerDeclarators (declarators : List Statement) (flow : FlowOut) :
    Alike v stack (lowerDeclarators c inliner active declarators flow)
      (lowerDeclarators c inliner' active declarators flow) := by
  induction declarators generalizing flow with
  | nil => exact .pure flow
  | cons declarator rest ih =>
    unfold lowerDeclarators
    split
    · exact .bind (.lift (plain_malformed _)) fun _ => ih flow
    · dsimp only
      split
      · exact .bind (.lift (plain_unsupported _)) fun _ => ih flow
      · exact .bind (alike_declareLocal _ _) fun _ => ih flow
      · refine .bind (alike_declareLocal _ _) fun id => .bind (alike_lowerWithFlow inlined _ _) fun result => ?_
        obtain ⟨value?, flow⟩ := result
        cases value? with
        | none => exact ih flow
        | some value => exact .bind (alike_storeVariable _ _ _) fun flow => ih flow

theorem alike_lowerReturn (s : Statement) (flow : FlowOut) :
    Alike v stack (lowerReturn c inliner active s flow) (lowerReturn c inliner' active s flow) := by
  refine .bind alike_frame? fun frame => ?_
  split
  · refine .bind (alike_lowerWithFlow inlined _ _) fun result => ?_
    obtain ⟨value?, flow⟩ := result
    cases value? with
    | none => exact .pure _
    | some value => exact .bind (alike_storeVariable _ _ _) fun flow => .pure _
  · exact .pure _

end Writes

section Counters

/-- A frame in which a name stands for a counter. -/
def Counter.enter (name : String) (counter : Counter) (frame : Frame) : Frame :=
  Counter.bind name (match frame.bindings.find? name with
    | some _ => { frame with bindings := frame.bindings.erase name }
    | none => { frame with locals := frame.locals.erase name }) (some counter)

/-- A frame in which a name stands for what it stood for before. -/
def Counter.leave (name : String) (previous : Option Counter) (frame : Frame) : Frame :=
  Counter.bind name { frame with bindings := frame.bindings.erase name, locals := frame.locals.erase name } previous

theorem Counter.method_bind (name : String) (frame : Frame) (counter : Option Counter) :
    (Counter.bind name frame counter).method = frame.method := by
  unfold Counter.bind
  split <;> rfl

theorem Counter.method_enter (name : String) (counter : Counter) (frame : Frame) :
    (Counter.enter name counter frame).method = frame.method := by
  rw [Counter.enter, Counter.method_bind]
  split <;> rfl

/-- A counter is bound under its own name only, and only if it is a value. -/
theorem Counter.bindings_enter {name other : String} {counter : Counter} {frame : Frame}
    (different : ∀ output, counter = .value output → other ≠ name)
    (unbound : frame.bindings.find? other = none) :
    (Counter.enter name counter frame).bindings.find? other = none := by
  have cleared : (match frame.bindings.find? name with
      | some _ => ({ frame with bindings := frame.bindings.erase name } : Frame)
      | none => { frame with locals := frame.locals.erase name }).bindings.find? other = none := by
    split
    · rw [Dict.find?_erase, unbound, ite_self]
    · exact unbound
  rcases counter with output | id
  · rw [Counter.enter, Counter.bind, Dict.find?_insert, if_neg (different output rfl), cleared]
  · exact cleared

/-- After its loop a counter binds no name that was not bound before. -/
theorem Counter.narrows_leave {name : String} {counter : Counter} {frame after : Frame}
    (narrows : (Counter.enter name counter frame).Narrows after) :
    frame.Narrows (Counter.leave name (Counter.of? name frame) after) := by
  refine ⟨?_, fun other unbound => ?_⟩
  · exact (Counter.method_bind ..).trans (narrows.method.trans (Counter.method_enter ..))
  · have erased : (after.bindings.erase name).find? other = none := by
      rw [Dict.find?_erase]
      split
      · rfl
      · next different =>
        exact narrows.bindings other (Counter.bindings_enter (fun _ _ => different) unbound)
    rcases previous : Counter.of? name frame with _ | output | id
    · exact erased
    · -- The name was bound to a value before, so it is not the other one.
      have bound : frame.bindings.find? name = some output := by
        unfold Counter.of? at previous
        split at previous
        · next found =>
          cases previous
          exact found
        · simp at previous
      have different : other ≠ name := by
        rintro rfl
        rw [bound] at unbound
        cases unbound
      rw [Counter.leave, Counter.bind, Dict.find?_insert, if_neg different]
      exact erased
    · exact erased

theorem frames_modifyFrame (f : Frame → Frame) (s : Lowering) :
    (modifyFrame f s).2.frames = s.frames.modifyHead f := by
  obtain ⟨context, fields, lists, frames, tick⟩ := s
  cases frames <;> rfl

theorem frames_bindCounter (name : String) (counter : Counter) (s : Lowering) :
    (bindCounter name counter s).2.frames = s.frames.modifyHead (Counter.enter name counter) :=
  frames_modifyFrame _ s

/-- A step during which a name stands for a counter, and what follows it. -/
theorem alike_counting {x y : Lower α} {f g : α → Lower β} (name : String) (counter : Counter)
    (body : Alike v stack x y) (next : ∀ a, Alike v stack (f a) (g a)) :
    Alike v stack
      (do
        let shadowed ← bindCounter name counter
        let a ← x
        unbindCounter name shadowed
        f a)
      (do
        let shadowed ← bindCounter name counter
        let a ← y
        unbindCounter name shadowed
        g a) := by
  have bracket : Alike v stack
      (do
        let shadowed ← bindCounter name counter
        let a ← x
        unbindCounter name shadowed
        return a)
      (do
        let shadowed ← bindCounter name counter
        let a ← y
        unbindCounter name shadowed
        return a) := by
    rintro ⟨context, fields, lists, frames, tick⟩ under here
    -- What the name stood for is read before the body and restored after it, so the body is all that matters.
    let change (previous : Option Counter) (s : Lowering) : Lowering := (unbindCounter name previous s).2
    have frames_change (previous : Option Counter) (s : Lowering) :
        (change previous s).frames = s.frames.modifyHead (Counter.leave name previous) := frames_modifyFrame _ s
    cases frames with
    | nil =>
      obtain ⟨continues, same⟩ := body ⟨context, fields, lists, [], tick⟩ under here
      refine ⟨⟨continues.context, continues.fields, continues.lists, ?_⟩, fun fine => ?_⟩
      · have none := List.forall₂_nil_left_iff.1 continues.frames
        show List.Forall₂ _ [] (change _ _).frames
        rw [frames_change, none]
        exact .nil
      · exact congrArg (fun r : α × Lowering => (r.1, change none r.2)) (same fine)
    | cons frame frames =>
      let inside : Lowering := ⟨context, fields, lists, Counter.enter name counter frame :: frames, tick⟩
      have within : inside.stack = stack := by
        rw [← here]
        exact congrArg (· :: _) (Counter.method_enter name counter frame)
      obtain ⟨continues, same⟩ := body inside under within
      refine ⟨⟨continues.context, continues.fields, continues.lists, ?_⟩, fun fine => ?_⟩
      · obtain ⟨after, rest, head, tail, shape⟩ := List.forall₂_cons_left_iff.1 continues.frames
        show List.Forall₂ _ _ (change (Counter.of? name frame) (x inside).2).frames
        rw [frames_change, shape]
        exact .cons (Counter.narrows_leave head) tail
      · exact congrArg (fun r : α × Lowering => (r.1, change (Counter.of? name frame) r.2)) (same fine)
  exact bracket.bind next

end Counters

section Loops

variable (inlined : Inliner.Alike v c active stack inliner inliner')

include inlined

theorem alike_lowerCanonicalLoop (l : CountingLoop) {body body' : Body}
    (alike : ∀ flow, Alike v stack (body flow) (body' flow)) (flow : FlowOut) :
    Alike v stack (lowerCanonicalLoop c inliner active l body flow)
      (lowerCanonicalLoop c inliner' active l body' flow) := by
  refine .bind (alike_lowerExpression inlined _) fun start? => .bind (alike_lowerExpression inlined _) fun stop? => ?_
  split
  · refine .bind (.lift (plain_forLoop _)) fun native => .bind (.lift (plain_connect _ _)) fun _ => ?_
    refine .bind (.lift (plain_connect _ _)) fun _ => .bind (.lift (plain_connectFlow _ _)) fun _ => ?_
    exact alike_counting _ _ (alike _) fun _ => .pure _
  · exact .pure _

omit inlined in
theorem alike_loopEnd (comparison : Comparison) (bound : ValueOut) :
    Alike v stack (loopEnd comparison bound) (loopEnd comparison bound) := by
  cases comparison with
  | lt => exact .pure bound
  | gt => exact .pure bound
  | le => exact .lift (plain_binaryLiteral _ _ _)
  | ge => exact .lift (plain_binaryLiteral _ _ _)

theorem alike_lowerLoopStep (step : ValueIn) (amount : LoopStep) :
    Alike v stack (lowerLoopStep c inliner active step amount) (lowerLoopStep c inliner' active step amount) := by
  cases amount with
  | constant amount => exact .lift (plain_setLiteral _ _)
  | computed amount negate =>
    refine .bind (alike_lowerExpression inlined amount) fun value? => ?_
    cases value? with
    | none => exact .pure ()
    | some value =>
      dsimp only
      split
      · exact .bind (.lift (plain_unary _ _)) fun _ => .lift (plain_connect _ _)
      · exact .lift (plain_connect _ _)

theorem alike_lowerSteppedLoop (l : CountingLoop) {body body' : Body}
    (alike : ∀ flow, Alike v stack (body flow) (body' flow)) (flow : FlowOut) :
    Alike v stack (lowerSteppedLoop c inliner active l body flow)
      (lowerSteppedLoop c inliner' active l body' flow) := by
  unfold lowerSteppedLoop
  extract_lets rest rest'
  have goesOn (outer? : Option Nat) : Alike v stack (rest outer?) (rest' outer?) := by
    refine .bind (alike_lowerExpression inlined _) fun start? =>
      .bind (alike_lowerExpression inlined _) fun stop? => ?_
    split
    · refine .bind (alike_loopEnd _ _) fun stop => .bind (.lift plain_steppedFor) fun loop => ?_
      refine .bind (.lift (plain_connect _ _)) fun _ => .bind (.lift (plain_connect _ _)) fun _ => ?_
      refine .bind (alike_lowerLoopStep inlined _ _) fun _ => .bind (.lift (plain_connectFlow _ _)) fun _ => ?_
      refine alike_counting _ _ (alike _) fun exits => .bind (alike_connectFlows _ _) fun _ => ?_
      cases outer? with
      | none => exact .pure _
      | some id => exact .bind (alike_storeVariable _ _ _) fun _ => .pure _
    · exact .pure _
  split
  · exact goesOn none
  · exact .bind (alike_variableOf? _) goesOn

theorem alike_lowerLoop (s : Statement) {body body' : Body}
    (alike : ∀ flow, Alike v stack (body flow) (body' flow)) (flow : FlowOut) :
    Alike v stack (lowerLoop c inliner active s body flow) (lowerLoop c inliner' active s body' flow) := by
  unfold lowerLoop
  split
  · exact .note _ _ _
  · split
    · exact .note _ _ _
    · split
      · exact alike_lowerCanonicalLoop inlined _ alike flow
      · exact alike_lowerSteppedLoop inlined _ alike flow

end Loops

section Blocks

/-- The flow that enters a statement after the given exits, if one does. -/
def entering (before : Exits) : Lower (Option FlowOut) :=
  match before.open with
  | [] => pure none
  | [flow] => pure (some flow)
  | flows => some <$> join flows

theorem lowerBlock_cons (c : ScriptClass) (inliner : Inliner) (active : List String) (s : Statement)
    (rest : List Statement) (before : Exits) :
    lowerBlock c inliner active (s :: rest) before = (do
      match ← entering before with
      | none =>
        unsupported (toString (rest.length + 1) ++ " unreachable statement(s) after every path returned")
        return before
      | some entry =>
        let exits ← lowerStatement c inliner active s entry
        lowerBlock c inliner active rest { exits with returned := before.returned ++ exits.returned }) := by
  rw [lowerBlock, entering]
  rcases before with ⟨_ | ⟨flow, _ | ⟨second, flows⟩⟩, returned⟩ <;> rfl

variable (inlined : Inliner.Alike v c active stack inliner inliner')

include inlined

/-- Both runs have the arm, and keep pace in it. -/
def Body.Alike (v : Limits) (stack : List String) (own other : Option Body) : Prop :=
  Option.Rel (fun body body' => ∀ flow, Lower.Alike v stack (body flow) (body' flow)) own other

omit inlined in
theorem alike_arm? (s : Statement) {blocks blocks' : BlocksBelow s.size}
    (alike : ∀ block small flow, Alike v stack (blocks block small flow) (blocks' block small flow))
    (clause : StatementKind) : Body.Alike v stack (arm? s blocks clause) (arm? s blocks' clause) := by
  unfold arm?
  split
  · exact .some fun flow => alike _ _ flow
  · exact .none

theorem alike_lowerBranch (s : Statement) {thenArm thenArm' elseArm elseArm' : Option Body}
    (alikeThen : Body.Alike v stack thenArm thenArm') (alikeElse : Body.Alike v stack elseArm elseArm')
    (flow : FlowOut) :
    Alike v stack (lowerBranch c inliner active s thenArm elseArm flow)
      (lowerBranch c inliner' active s thenArm' elseArm' flow) := by
  unfold lowerBranch
  split
  · exact .note _ _ _
  · refine .bind (alike_lowerExpression inlined _) fun condition? => ?_
    cases condition? with
    | none => exact .note _ _ _
    | some condition =>
      refine .bind (.lift (plain_createNode _)) fun branch => .bind (.lift (plain_connect _ _)) fun _ => ?_
      refine .bind (.lift (plain_connectFlow _ _)) fun _ => .bind ?_ fun _ => .bind ?_ fun _ => .pure _
      · cases alikeThen with
        | some alike => exact alike _
        | none => exact .pure _
      · cases alikeElse with
        | some alike => exact alike _
        | none => exact .pure _

theorem alike_statementStep (s : Statement) {blocks blocks' : BlocksBelow s.size}
    (alike : ∀ block small flow, Alike v stack (blocks block small flow) (blocks' block small flow))
    (flow : FlowOut) :
    Alike v stack (statementStep c inliner active s blocks flow) (statementStep c inliner' active s blocks' flow) := by
  unfold statementStep
  split
  · exact .bind (alike_lowerExpressionStatement inlined _ _) fun _ => .pure _
  · exact .bind (alike_lowerDeclarators inlined _ _) fun _ => .pure _
  · split
    · exact .bind (alike_lowerAssignment inlined _ _) fun _ => .pure _
    · exact .note _ _ _
  · exact alike_lowerBranch inlined s (alike_arm? s alike _) (alike_arm? s alike _) flow
  · exact alike_lowerReturn inlined _ _
  · exact alike _ _ flow
  · exact alike_lowerLoop inlined s (alike _ _) flow
  · exact .note _ _ _

end Blocks

theorem alike_entering (before : Exits) : Alike v stack (entering before) (entering before) := by
  unfold entering
  split
  · exact .pure none
  · exact .pure _
  · exact .bind (alike_join _) fun _ => .pure _

mutual

theorem alike_lowerStatement (inlined : Inliner.Alike v c active stack inliner inliner') (s : Statement)
    (flow : FlowOut) :
    Alike v stack (lowerStatement c inliner active s flow) (lowerStatement c inliner' active s flow) := by
  rw [lowerStatement, lowerStatement]
  exact alike_statementStep inlined s (fun block _ flow => alike_lowerBlock inlined block (.one flow)) flow
termination_by (s.size, 1)
decreasing_by exact Prod.Lex.left _ _ (by assumption)

theorem alike_lowerBlock (inlined : Inliner.Alike v c active stack inliner inliner') (block : List Statement)
    (before : Exits) :
    Alike v stack (lowerBlock c inliner active block before) (lowerBlock c inliner' active block before) := by
  match block with
  | [] =>
    rw [lowerBlock, lowerBlock]
    exact .pure before
  | s :: rest =>
    rw [lowerBlock_cons, lowerBlock_cons]
    refine .bind (alike_entering before) fun entering? => ?_
    cases entering? with
    | none => exact .note _ _ _
    | some entry => exact .bind (alike_lowerStatement inlined s entry) fun exits => alike_lowerBlock inlined rest _
termination_by (Statement.sizeAll block, 2 * block.length)
decreasing_by
  · rw [Statement.sizeAll, Prod.lex_def, List.length_cons]
    omega
  · have := Statement.size_pos s
    rw [Statement.sizeAll]
    exact Prod.Lex.left _ _ (by omega)

end

/-- Lowering keeps pace with itself. -/
theorem alike_inliner (c : ScriptClass) : ∀ (levels : Nat) (active stack : List String),
    Inliner.Alike v c active stack (Lower.inliner c levels) (Lower.inliner c levels)
  | 0, _, _ => fun _ _ _ _ => ⟨fun _ _ => .pure _, fun _ => .pure _⟩
  | levels + 1, _, _ => fun _ _ _ _ =>
    ⟨fun block _ => alike_lowerBlock (alike_inliner c levels _ _) block _,
      fun e => alike_lowerExpression (alike_inliner c levels _ _) e⟩

end Lower

end ScriptGraph
