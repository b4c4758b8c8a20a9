import ScriptGraph.Lower.Statement
import ScriptGraph.Proofs.Lower.Calls

/-!
What is known after expressions, statements and blocks were lowered.

A statement takes a flow that leads nowhere yet and leaves such flows: each of them is led on by one
statement, or by none.
-/

namespace ScriptGraph

namespace Lower

variable {c : ScriptClass} {inliner : Inliner} {active : List String}

section Expressions

theorem values_expressionStep (reliable : Reliable inliner) (e : Expression) {low : Below e.size}
    (valued : Below.Valued low) : Values (expressionStep c inliner active e low) := by
  unfold expressionStep
  split
  · exact valued _ _
  · split
    · exact values_lowerLiteral
    · exact values_lowerIdentifier c
    · intro w facts exits s knows
      exact (gives_objectLiteral .self knows).bind fun _ _ k => .pure k
    · exact values_lowerMemberAccess valued
    · intro w facts exits s knows
      refine (invokes_lowerInvocation reliable valued c active none knows).bind fun result s k => ?_
      obtain ⟨none, k⟩ := k
      rw [Option.isSome_none, Eq.comm, Option.isSome_eq_false_iff, Option.isNone_iff_eq_none] at none
      rw [none] at k
      exact .pure k
    · exact values_lowerBinary valued
    · exact values_lowerUnary valued
    · exact values_lowerUnary valued
    · exact values_lowerConstruction valued
    · exact values_lowerElement valued
    · exact values_lowerCast valued
    · split
      · exact fun _ _ _ _ knows => .pure knows
      · exact valued _ _
    · exact fun _ _ _ _ knows => .liftBind (knows_note knows) fun _ _ k => .pure k
    · exact fun _ _ _ _ knows => .liftBind (knows_note knows) fun _ _ k => .pure k
    · exact fun _ _ _ _ knows => .liftBind (knows_note knows) fun _ _ k => .pure k

/-- Every expression gives a value or none. -/
theorem values_lowerExpression (reliable : Reliable inliner) (e : Expression) :
    Values (lowerExpression c inliner active e) := by
  rw [lowerExpression]
  exact values_expressionStep reliable e fun smaller _ => values_lowerExpression reliable smaller
termination_by e.size

/-- A call that takes a flow hands one on. -/
theorem ensures_lowerCall (reliable : Reliable inliner) (e : Expression) {w : Scope} {facts : List Fact}
    {exits : List FlowOut} {s : Lowering} {flow : FlowOut} (knows : s.Knows w facts (flow :: exits)) :
    Ensures (lowerCall c inliner active e (some flow)) s fun result s' => ∃ next,
      result.flow = some next ∧ s'.Knows w (result.value.toList.map .out ++ facts) (next :: exits) := by
  have valued : Below.Valued fun (smaller : Expression) (_ : smaller.size < e.size) =>
      lowerExpression c inliner active smaller := fun smaller _ => values_lowerExpression reliable smaller
  refine (invokes_lowerInvocation reliable valued c active (some flow) knows).mono ?_
  rintro ⟨value, next?⟩ s' ⟨same, k⟩
  cases next? with
  | none => cases same
  | some next => exact ⟨next, rfl, k⟩

theorem continues_lowerWithFlow (reliable : Reliable inliner) (e : Expression) :
    Continues (lowerWithFlow c inliner active e) (fun result => result.1.toList.map .out)
      (fun result => [result.2]) := by
  intro w facts exits s flow knows
  unfold lowerWithFlow
  dsimp only
  split
  · exact .pure knows
  · split
    · refine (ensures_lowerCall reliable _ knows).bind ?_
      rintro ⟨value, _⟩ s' ⟨next, rfl, k⟩
      exact .pure k
    · exact (values_lowerExpression reliable e knows).bind fun _ _ k => .pure k

end Expressions

/-- In any scope, the step writes a value as the next step of a flow. -/
def Stores (step : ValueOut → FlowOut → Lower FlowOut) : Prop :=
  ∀ ⦃w : Scope⦄ ⦃facts : List Fact⦄ ⦃exits : List FlowOut⦄ ⦃s : Lowering⦄ (value : ValueOut)
    (flow : FlowOut), s.Knows w (.out value :: facts) (flow :: exits) →
      Ensures (step value flow) s fun next s' => s'.Knows w facts (next :: exits)

section Writes

theorem known_propertySet (property : HostProperty) {w : Scope} {facts : List Fact} {exits : List FlowOut}
    {c : Context} (known : Known w facts exits c) :
    Ensures (propertySet property) c fun write c' =>
      Known w (write.facts ++ facts) (write.flowOut :: exits) c' := by
  unfold propertySet
  split
  · exact known.worldPositionSet
  · exact known.localPositionSet
  · exact known.worldRotationSet
  · exact known.localRotationSet
  · exact known.localScaleSet

theorem stores_storeMember (reliable : Reliable inliner) (target : Expression) :
    Stores (storeMember c inliner active target) := by
  intro w facts exits s value flow knows
  unfold storeMember
  rcases target.member with _ | member
  · exact .liftBind (knows_note knows) fun _ _ k => .pure (k.weaken (by simp +contextual))
  · refine .getBind ?_
    dsimp only
    rcases field : (if onSelf target then s.fields.find? member.name else none) with _ | id
    · split
      · next absurd => cases absurd
      · exact .liftBind (knows_note knows) fun _ _ k => .pure (k.weaken (by simp +contextual))
      · next property _ _ =>
        refine (gives_lowerReceiver (fun smaller _ => values_lowerExpression reliable smaller) knows).bind
          fun object s k => ?_
        refine .liftBind (known_propertySet property k.known.enter) fun write _ inner => ?_
        refine .liftBind (inner.connect (t := write.target) (by simp +contextual) (by simp))
          fun _ _ inner => ?_
        refine .liftBind (inner.connect (t := write.value) (by simp +contextual) (by simp))
          fun _ _ inner => ?_
        refine .liftBind (inner.connectFlow (.swap ..) (by simp)) fun _ _ inner => .pure ?_
        exact k.advance (k.known.leave inner (by simp +contextual [or_imp]))
    · have found : s.fields.find? member.name = some id := by
        split at field
        · exact field
        · cases field
      refine (ensures_storeVariable knows ?_ (by simp)).mono fun _ _ k => k.weaken (by simp +contextual)
      exact List.mem_append_left _ (Lowering.row_mem_facts found)

theorem stores_storeElement (reliable : Reliable inliner) (target : Expression) :
    Stores (storeElement c inliner active target) := by
  intro w facts exits s value flow knows
  unfold storeElement
  split
  · next collection index _ _ =>
    refine ensures_listName?.bind ?_
    rintro name? _ rfl
    cases name? with
    | none => exact .liftBind (knows_note knows) fun _ _ k => .pure (k.weaken (by simp +contextual))
    | some name =>
      refine (values_lowerExpression reliable index knows).bind fun index? s k => ?_
      cases index? with
      | none => exact .pure (k.weaken (by simp +contextual))
      | some index =>
        refine (ensures_onList? (fun write => write.facts) (fun write => [write.flowOut]) k.enter
          fun l ready => k.enter.known.setItemChecked ready).bind fun write? s' inner => ?_
        cases write? with
        | none => exact .pure (k.leave inner (by simp +contextual))
        | some write =>
          refine .liftBind (knows_connect (t := write.index) inner (by simp +contextual) (by simp))
            fun _ _ inner => ?_
          refine .liftBind (knows_connect (t := write.value) inner (by simp +contextual) (by simp))
            fun _ _ inner => ?_
          refine .liftBind (knows_connectFlow inner (.swap ..) (by simp)) fun _ _ inner => .pure ?_
          exact k.leave inner (by simp +contextual)
  · exact .liftBind (knows_note knows) fun _ _ k => .pure (k.weaken (by simp +contextual))

theorem stores_store (reliable : Reliable inliner) (target : Expression) :
    Stores (store c inliner active target) := by
  intro w facts exits s value flow knows
  unfold store
  split
  · refine ensures_variableOf?.bind ?_
    rintro id? _ ⟨rfl, declared⟩
    cases id? with
    | none => exact .liftBind (knows_note knows) fun _ _ k => .pure (k.weaken (by simp +contextual))
    | some id =>
      refine (ensures_storeVariable knows ?_ (by simp)).mono fun _ _ k => k.weaken (by simp +contextual)
      exact List.mem_append_left _ (declared id rfl)
  · exact stores_storeMember reliable target value flow knows
  · exact stores_storeElement reliable target value flow knows
  · exact .liftBind (knows_note knows) fun _ _ k => .pure (k.weaken (by simp +contextual))

theorem computes_compoundOperator {token : String} {op : Op} (found : compoundOperator? token = some op) :
    op.Computes ["a", "b"] := by
  unfold compoundOperator? at found
  split at found <;> first | (cases found; decide) | cases found

theorem passes_lowerAssignment (reliable : Reliable inliner) (e : Expression) :
    Passes (lowerAssignment c inliner active e) := by
  intro w facts exits s flow knows
  unfold lowerAssignment
  split
  · next target source _ _ =>
    refine (continues_lowerWithFlow reliable source flow knows).bind fun ⟨value?, next⟩ s k => ?_
    cases value? with
    | none => exact .pure k
    | some value =>
      dsimp only
      split
      · exact stores_store reliable _ value next k
      · next op found =>
        refine (values_lowerExpression reliable target.unwrapped k).bind fun current? s k => ?_
        cases current? with
        | none => exact .pure (k.weaken (by simp +contextual))
        | some current =>
          refine (gives_coerce k (by simp)).bind fun operand s k => ?_
          refine .liftBind (k.known.binary (computes_compoundOperator found) (by simp) (by simp))
            fun result _ k' => ?_
          exact stores_store reliable _ result next (k.advance (k'.weaken (by simp +contextual [or_imp])))
  · exact .liftBind (knows_note knows) fun _ _ k => .pure k

theorem passes_lowerIncrement (reliable : Reliable inliner) (e : Expression) :
    Passes (lowerIncrement c inliner active e) := by
  intro w facts exits s flow knows
  unfold lowerIncrement
  dsimp only
  split
  · exact .liftBind (knows_note knows) fun _ _ k => .pure k
  · exact .liftBind (knows_note knows) fun _ _ k => .pure k
  · next target _ _ _ =>
    refine (values_lowerExpression reliable target.unwrapped knows).bind fun current? s k => ?_
    cases current? with
    | none => exact .pure k
    | some current =>
      refine .liftBind (k.known.binaryLiteral (by decide) (by simp)) fun result _ k' => ?_
      exact stores_store reliable _ result flow (k.replace k')

end Writes

section Steps

/-- A wait behind the tick event, its condition still to be fed. -/
def Waits (build : Option Pattern.TickChain → Build (Pattern.Wait × Pattern.TickChain)) : Prop :=
  ∀ ⦃w : Scope⦄ ⦃facts : List Fact⦄ ⦃exits : List FlowOut⦄ ⦃c : Context⦄ (tick : Option Pattern.TickChain),
    Known (w.ticking tick) facts exits c → Pattern.TickChain.Timed tick facts →
      Ensures (build tick) c fun result c' => Known (w.ticking (some result.2))
        (.entry result.1.flowIn :: result.1.condition.sockets.map .input ++ result.2.times ++ facts)
        (result.1.flowOut :: exits) c'

theorem waits_waitUntil : Waits Pattern.waitUntil := by
  intro w facts exits c tick known timed
  refine (known.waitUntil timed).mono ?_
  rintro result c' ⟨check, same, k⟩
  rw [same]
  exact k.weaken (by simp +contextual)

/-- Builds a wait and feeds its condition. -/
theorem ensures_wait {build : Option Pattern.TickChain → Build (Pattern.Wait × Pattern.TickChain)}
    (waits : Waits build) {w : Scope} {facts : List Fact} {exits : List FlowOut} {s : Lowering}
    {condition : ValueOut} {flow : FlowOut} (knows : s.Knows w (.out condition :: facts) (flow :: exits)) :
    Ensures (do
      let (wait, tick) ← build (← get).tick
      modify fun s => { s with tick := some tick }
      Build.connect wait.condition condition
      Build.connectFlow flow wait.flowIn
      return wait.flowOut : Lower FlowOut) s fun next s' => s'.Knows w facts (next :: exits) := by
  refine .getBind ?_
  refine .liftBind (waits s.tick knows.enter.known (s.timed_facts.mono (by simp +contextual)))
    fun ⟨wait, tick⟩ c inner => .modifyBind ?_
  have inner : ({ s with context := c, tick := some tick } : Lowering).Knows (w.enter s.context)
      (.entry wait.flowIn :: wait.condition.sockets.map .input ++ enter (.out condition :: facts))
      (wait.flowOut :: flow :: exits) := by
    refine ⟨inner.weaken fun f member => ?_, knows.even⟩
    rcases List.mem_append.1 member with own | rest
    · rcases Lowering.mem_facts_tick (s := s) own with time | old
      · exact List.mem_append_left _ (List.mem_append_right _ time)
      · exact List.mem_append_right _ (List.mem_append_left _ old)
    · revert rest
      simp +contextual [or_imp]
  refine .liftBind (knows_connect (t := wait.condition) inner (by simp +contextual) (by simp))
    fun _ _ inner => ?_
  exact .liftBind (knows_connectFlow inner (.swap ..) (by simp)) fun _ _ inner =>
    .pure (knows.leave inner (by simp +contextual))

theorem passes_lowerWait (reliable : Reliable inliner) (e : Expression) :
    Passes (lowerWait c inliner active e) := by
  intro w facts exits s flow knows
  unfold lowerWait
  dsimp only
  split
  · exact .liftBind (knows_note knows) fun _ _ k => .pure k
  · next build chosen =>
    have waits : Waits build := by
      split at chosen
      · cases chosen
        exact waits_waitUntil
      · split at chosen
        · cases chosen
          exact fun _ _ _ _ tick known timed => known.waitWhile timed
        · cases chosen
    split
    · next condition _ =>
      refine (values_lowerExpression reliable condition knows).bind fun condition? s k => ?_
      cases condition? with
      | none => exact .liftBind (knows_note k) fun _ _ k => .pure k
      | some condition => exact ensures_wait waits k
    · exact .liftBind (knows_note knows) fun _ _ k => .pure k

theorem passes_lowerCallStatement (reliable : Reliable inliner) (e : Expression) :
    Passes (lowerCallStatement c inliner active e) := by
  intro w facts exits s flow knows
  refine (ensures_lowerCall reliable e knows).bind ?_
  rintro ⟨value, _⟩ s' ⟨next, rfl, k⟩
  exact .pure (k.weaken (by simp +contextual))

theorem passes_lowerExpressionStatement (reliable : Reliable inliner) (s : Statement) :
    Passes (lowerExpressionStatement c inliner active s) := by
  intro w facts exits s' flow knows
  have noted {kind : DiagnosticKind} {message : String} :
      Ensures (do Build.report kind message; return flow : Lower FlowOut) s' fun next s'' =>
        s''.Knows w facts (next :: exits) :=
    .liftBind (knows_note knows) fun _ _ k => .pure k
  unfold lowerExpressionStatement
  split
  · exact noted
  · dsimp only
    split
    · exact passes_lowerCallStatement reliable _ flow knows
    · split
      · split
        · exact passes_lowerCallStatement reliable _ flow knows
        · split
          · exact passes_lowerWait reliable _ flow knows
          · exact noted
      · exact noted
    · exact passes_lowerAssignment reliable _ flow knows
    · exact passes_lowerIncrement reliable _ flow knows
    · exact passes_lowerIncrement reliable _ flow knows
    · exact noted

theorem passes_lowerDeclarators (reliable : Reliable inliner) (declarators : List Statement) :
    Passes (lowerDeclarators c inliner active declarators) := by
  induction declarators with
  | nil => exact fun _ _ _ _ _ knows => .pure knows
  | cons declarator rest ih =>
    intro w facts exits s flow knows
    unfold lowerDeclarators
    split
    · exact .liftBind (knows_note knows) fun _ _ k => ih flow k
    · dsimp only
      split
      · exact .liftBind (knows_note knows) fun _ _ k => ih flow k
      · exact (ensures_declareLocal knows).bind fun _ _ k => ih flow (k.weaken (by simp +contextual))
      · next e _ _ =>
        refine (ensures_declareLocal knows).bind fun id _ k => ?_
        refine (continues_lowerWithFlow reliable e flow k).bind fun ⟨value?, next⟩ s k => ?_
        cases value? with
        | none => exact ih next (k.weaken (by simp +contextual))
        | some value =>
          refine (ensures_storeVariable k (by simp) (by simp)).bind fun next _ k => ?_
          exact ih next (k.weaken (by simp +contextual))

theorem continues_lowerReturn (reliable : Reliable inliner) (s : Statement) :
    Continues (lowerReturn c inliner active s) (fun _ => []) Exits.tails := by
  intro w facts exits s' flow knows
  refine ensures_frame?.bind ?_
  rintro frame _ ⟨rfl, rfl⟩
  split
  · next e target _ asked =>
    obtain ⟨frame, top, asked⟩ := Option.bind_eq_some_iff.1 asked
    have knows := knows.remembered (Lowering.result_mem_facts top asked)
    refine (continues_lowerWithFlow reliable e flow knows).bind fun ⟨value?, next⟩ s k => ?_
    cases value? with
    | none => exact .pure (k.weaken (by simp +contextual))
    | some value =>
      refine (ensures_storeVariable k (by simp) (by simp)).bind fun next _ k => .pure ?_
      exact k.weaken (by simp +contextual)
  · exact .pure knows

end Steps

section Counters

/-- What is known of a counter. -/
def Counter.facts : Counter → List Fact
  | .value output => [.out output]
  | .variable id => [.row id]

theorem Counter.mem_facts_bind {name : String} {frame : Frame} {counter? : Option Counter} {f : Fact}
    (member : f ∈ (Counter.bind name frame counter?).facts) :
    f ∈ frame.facts ∨ f ∈ counter?.toList.flatMap Counter.facts := by
  unfold Counter.bind at member
  split at member
  · exact .inl member
  · simp only [Frame.facts, List.mem_append, List.mem_map] at member ⊢
    rcases member with ⟨v, place, rfl⟩ | row
    · rcases Dict.mem_values_insert place with rfl | old
      · exact .inr (by simp [Counter.facts])
      · exact .inl (.inl ⟨v, old, rfl⟩)
    · exact .inl (.inr row)
  · simp only [Frame.facts, List.mem_append, List.mem_map] at member ⊢
    rcases member with out | ⟨id, place | result, rfl⟩
    · exact .inl (.inl out)
    · rcases Dict.mem_values_insert place with rfl | old
      · exact .inr (by simp [Counter.facts])
      · exact .inl (.inr ⟨id, .inl old, rfl⟩)
    · exact .inl (.inr ⟨id, .inr result, rfl⟩)

theorem Counter.mem_facts_erase {frame : Frame} {name : String} {f : Fact}
    (member : f ∈ ({ frame with
      bindings := frame.bindings.erase name, locals := frame.locals.erase name } : Frame).facts) :
    f ∈ frame.facts := by
  simp only [Frame.facts, List.mem_append, List.mem_map] at member ⊢
  rcases member with ⟨v, place, rfl⟩ | ⟨id, place | result, rfl⟩
  · exact .inl ⟨v, Dict.mem_values_erase place, rfl⟩
  · exact .inr ⟨id, .inl (Dict.mem_values_erase place), rfl⟩
  · exact .inr ⟨id, .inr result, rfl⟩

variable {w : Scope} {facts : List Fact} {exits : List FlowOut} {s : Lowering} {name : String}

/-- A name comes to stand for a counter; what it stood for stays known. -/
theorem ensures_bindCounter {counter : Counter} (knows : s.Knows w facts exits)
    (counts : ∀ f ∈ counter.facts, f ∈ facts) :
    Ensures (bindCounter name counter) s fun previous s' =>
      s'.Knows w (previous.toList.flatMap Counter.facts ++ facts) exits := by
  refine ensures_frame?.bind ?_
  rintro _ _ ⟨rfl, rfl⟩
  have remembered : s.Knows w
      ((s.frames.head?.bind (Counter.of? name)).toList.flatMap Counter.facts ++ facts) exits := by
    rcases previous : s.frames.head?.bind (Counter.of? name) with _ | counter
    · exact knows
    · obtain ⟨frame, top, found⟩ := Option.bind_eq_some_iff.1 previous
      unfold Counter.of? at found
      split at found
      · next output bound =>
        cases found
        exact knows.remembered (Lowering.out_mem_facts top bound)
      · obtain ⟨id, declared, rfl⟩ := Option.map_eq_some_iff.1 found
        exact knows.remembered (Lowering.local_mem_facts top declared)
  refine (ensures_modifyFrame remembered fun frame _ f member => ?_).bind fun _ _ k => .pure k
  rcases Counter.mem_facts_bind member with kept | new
  · refine .inl ?_
    split at kept
    · simp only [Frame.facts, List.mem_append, List.mem_map] at kept ⊢
      exact kept.imp_left (Exists.imp fun _ => And.imp_left Dict.mem_values_erase)
    · simp only [Frame.facts, List.mem_append, List.mem_map] at kept ⊢
      exact kept.imp_right (Exists.imp fun _ => And.imp_left (Or.imp_left Dict.mem_values_erase))
  · exact .inr (List.mem_append_right _ (counts f (by simpa using new)))

theorem ensures_unbindCounter {previous : Option Counter}
    (knows : s.Knows w (previous.toList.flatMap Counter.facts ++ facts) exits) :
    Ensures (unbindCounter name previous) s fun _ s' => s'.Knows w facts exits := by
  refine (ensures_modifyFrame knows fun frame _ f member => ?_).mono fun _ _ k => k.weaken (by simp +contextual)
  rcases Counter.mem_facts_bind member with kept | new
  · exact .inl (Counter.mem_facts_erase kept)
  · exact .inr (List.mem_append_left _ new)

end Counters

/-- A body takes a flow and leaves others. -/
abbrev Flows (body : Body) : Prop := Continues body (fun _ => []) Exits.tails

section Loops

theorem continues_lowerCanonicalLoop (reliable : Reliable inliner) (l : CountingLoop) {body : Body}
    (flows : Flows body) : Flows (lowerCanonicalLoop c inliner active l body) := by
  intro w facts exits s flow knows
  refine (values_lowerExpression reliable l.start knows).bind fun start? s k => ?_
  refine (values_lowerExpression reliable l.bound k).bind fun stop? s k => ?_
  split
  · next start stop =>
    refine .liftBind k.known.enter.forLoop fun loop _ inner => ?_
    refine .liftBind (inner.connect (t := loop.start) (by simp +contextual) (by simp)) fun _ _ inner => ?_
    refine .liftBind (inner.connect (t := loop.stop) (by simp +contextual) (by simp)) fun _ _ inner => ?_
    refine .liftBind (inner.connectFlow (perm_third ..) (by simp)) fun _ c inner => ?_
    have k : ({ s with context := c } : Lowering).Knows w (.out loop.index :: facts)
        (loop.loopBody :: loop.completed :: exits) :=
      k.advance (k.known.leave inner (by simp +contextual [or_imp]))
    refine (ensures_bindCounter k (by simp [Counter.facts])).bind fun shadowed s k => ?_
    refine (flows loop.loopBody k).bind fun ends s k => ?_
    refine (ensures_unbindCounter k).bind fun _ s k => .pure ?_
    -- The flows that the body leaves open end there: the loop node starts the next round.
    have kept : (loop.completed :: (ends.returned ++ exits)).Sublist
        (loop.completed :: (ends.tails ++ exits)) :=
      .cons_cons _ ((List.sublist_append_right ends.open ends.returned).append (.refl exits))
    exact (k.drop kept List.perm_middle.symm).weaken (by simp +contextual)
  · exact .pure (k.weaken (by simp +contextual))

theorem gives_loopEnd (comparison : Comparison) {bound : ValueOut} {w : Scope} {facts : List Fact}
    {exits : List FlowOut} {s : Lowering} (knows : s.Knows w (.out bound :: facts) exits) :
    Ensures (loopEnd comparison bound) s fun v s' => s'.Knows w (.out v :: .out bound :: facts) exits := by
  unfold loopEnd
  split
  · exact .pure (knows.weaken (by simp))
  · exact .pure (knows.weaken (by simp))
  · exact .lift ((knows.known.binaryLiteral (by decide) (by simp)).mono fun _ _ k => knows.add k)
  · exact .lift ((knows.known.binaryLiteral (by decide) (by simp)).mono fun _ _ k => knows.add k)

/-- The step of a loop is fed from behind a fence around the loop. -/
theorem ensures_lowerLoopStep (reliable : Reliable inliner) (step : LoopStep) {w : Scope}
    {facts inner tells : List Fact} {exits exits' : List FlowOut} {s : Lowering} {context : Context}
    {node : NodeId} (knows : s.Knows w facts exits)
    (inside : Known ((w.enter s.context).ticking s.tick) inner exits' context)
    (within : ∀ f ∈ enter (s.facts ++ facts), f ∈ inner)
    (input : .input ⟨node, "b"⟩ ∈ inner) (blank : .blank ⟨node, "b"⟩ ∈ inner)
    (shared : ∀ f ∈ tells, f ∈ inner ∧ f.isShared = true) :
    Ensures (lowerLoopStep c inliner active (node.valueIn "b") step) { s with context } fun _ s' =>
      s'.Knows (w.enter s.context) tells exits' := by
  have own {f : Fact} (member : f ∈ s.facts) : f ∈ inner :=
    within f (mem_enter_of_isShared (Lowering.isShared_of_mem member) (List.mem_append_left _ member))
  have unfed {f : Fact} (shared : f.isShared = true) : f ≠ .input ⟨node, "b"⟩ ∧ f ≠ .blank ⟨node, "b"⟩ := by
    constructor <;> rintro rfl <;> cases shared
  have fenced := knows.fence inside within
  unfold lowerLoopStep
  split
  · refine .lift ((inside.setLiteral blank).mono fun _ _ k => ⟨k.weaken fun f member => ?_, knows.even⟩)
    rcases List.mem_append.1 member with name | new
    · exact mem_fixed.2 ⟨own name, unfed (Lowering.isShared_of_mem name)⟩
    · exact mem_fixed.2 ⟨(shared f new).1, unfed (shared f new).2⟩
  · next amount negate =>
    refine (values_lowerExpression reliable amount fenced).bind fun value? s' k => ?_
    cases value? with
    | none =>
      have left := inside.leaveWith k.known rfl rfl (fun _ source => source.1) rfl
        (fun f member => (List.mem_append.1 member).symm.imp (fun new => (shared f new).1)
          fun name => ⟨List.mem_append_left _ name, Fact.lasts_of_isShared (Lowering.isShared_of_mem name)⟩ :
          ∀ f ∈ s'.facts ++ tells, _)
      exact .pure ⟨left, k.even⟩
    | some value =>
      have feed {v : ValueOut} {s' : Lowering}
          (k : s'.Knows ((w.enter s.context).fence context) (.out v :: fence inner) exits') :
          Ensures (Build.connect (node.valueIn "b") v) s'.context fun _ context =>
            ({ s' with context } : Lowering).Knows (w.enter s.context) tells exits' := by
        refine (inside.connectFencedKeeping (t := node.valueIn "b") s'.facts k.known (by simpa using input)
          (by simp) fun f name => ⟨List.mem_append_left _ name,
            Fact.lasts_of_isShared (Lowering.isShared_of_mem name)⟩).mono
              fun _ _ k' => ⟨k'.weaken fun f member => ?_, k.even⟩
        rcases List.mem_append.1 member with name | new
        · exact mem_fed_of_isShared (Lowering.isShared_of_mem name) (List.mem_append_left _ name)
        · exact mem_fed_of_isShared (shared f new).2 (List.mem_append_right _ (shared f new).1)
      dsimp only
      split
      · refine .liftBind (k.known.unary (by decide) (by simp)) fun v _ k' => ?_
        exact .lift (feed (k.replace k'))
      · exact .lift (feed k)

/-- A loop with a variable for its counter, fed with its start and its end. -/
def loopBetween (start stop : ValueOut) : Build Pattern.SteppedFor := do
  let loop ← Pattern.steppedFor
  Build.connect loop.start start
  Build.connect loop.stop stop
  return loop

/-- The body of a loop, and what comes after the loop. -/
def runLoop (l : CountingLoop) (body : Body) (loop : Pattern.SteppedFor) (outer? : Option Nat) :
    Lower Exits := do
  let shadowed ← bindCounter l.counter (.variable loop.counter)
  let exits ← body loop.loopBody
  unbindCounter l.counter shadowed
  connectFlows exits.open loop.nextStep
  match outer? with
  | none => return { «open» := [loop.completed], returned := exits.returned }
  | some id =>
    let completed ← storeVariable id loop.index loop.completed
    return { «open» := [completed], returned := exits.returned }

/-- A loop with a variable for its counter has three parts: its values, its header and its run. -/
theorem lowerSteppedLoop_eq (l : CountingLoop) (body : Body) (flow : FlowOut) :
    lowerSteppedLoop c inliner active l body flow = (do
      let outer? ← if l.declared then pure none else variableOf? l.counter
      let start? ← lowerExpression c inliner active l.start
      let bound? ← lowerExpression c inliner active l.bound
      match start?, bound? with
      | some start, some bound =>
        let stop ← loopEnd l.comparison bound
        let loop ← loopBetween start stop
        lowerLoopStep c inliner active loop.step l.step
        Build.connectFlow flow loop.flowIn
        runLoop l body loop outer?
      | _, _ => return .one flow) :=
  rfl

/-- The step of a loop is still blank when the loop has its start and its end. -/
theorem known_loopBetween {start stop : ValueOut} {w : Scope} {facts : List Fact} {exits : List FlowOut}
    {context : Context} (known : Known w facts exits context) (first : .out start ∈ facts)
    (last : .out stop ∈ facts) :
    Ensures (loopBetween start stop) context fun loop context' =>
      ∃ (node : NodeId) (inner : List Fact), loop.step = node.valueIn "b" ∧
        (∀ f ∈ enter facts, f ∈ inner) ∧ .input ⟨node, "b"⟩ ∈ inner ∧ .blank ⟨node, "b"⟩ ∈ inner ∧
        (∀ f ∈ [Fact.out loop.index, .entry loop.flowIn, .entry loop.nextStep, .row loop.counter],
          f ∈ inner ∧ f.isShared = true) ∧
        Known (w.enter context) inner (loop.loopBody :: loop.completed :: exits) context' := by
  refine known.enter.steppedFor.bind fun loop _ ⟨node, kinds, same, others, inner⟩ => ?_
  refine (inner.connectBeside (t := loop.start) .mathAdd (by simp +contextual) (by simp [first])
    (by simp : Fact.blank ⟨node, "b"⟩ ∈ (_ : List Fact)) (by simp) fun a member => ?_).bind fun _ _ inner => ?_
  · obtain ⟨op, has, different⟩ := others a (List.mem_append_left _ member)
    exact ⟨op, by simp [has], different⟩
  refine (inner.connectBeside (t := loop.stop) .mathAdd (by simp +contextual) (by simp [last])
    (by simp : Fact.blank ⟨node, "b"⟩ ∈ (_ : List Fact)) (by simp) fun a member => ?_).bind
      fun _ _ inner => .pure ⟨node, _, same, fun f member => ?_, by simp, by simp, by simp [Fact.isShared], inner⟩
  · obtain ⟨op, has, different⟩ := others a (List.mem_append_right _ member)
    exact ⟨op, by simp [has], different⟩
  · have unblank (a : SocketAddress) : f ≠ .blank a := by
      rintro rfl
      exact blank_mem_enter member
    refine List.mem_cons_of_mem _ (mem_fed.2 ⟨List.mem_cons_of_mem _ ?_, fun a _ => unblank a⟩)
    exact mem_fed.2 ⟨List.mem_append_right _ member, fun a _ => unblank a⟩

theorem ensures_runLoop {l : CountingLoop} {body : Body} (flows : Flows body) {loop : Pattern.SteppedFor}
    {outer? : Option Nat} {w : Scope} {facts : List Fact} {exits : List FlowOut} {s : Lowering}
    (knows : s.Knows w (.out loop.index :: .entry loop.nextStep :: .row loop.counter ::
      (outer?.toList.map .row ++ facts)) (loop.loopBody :: loop.completed :: exits)) :
    Ensures (runLoop l body loop outer?) s fun ends s' => s'.Knows w facts (ends.tails ++ exits) := by
  refine (ensures_bindCounter knows (by simp [Counter.facts])).bind fun shadowed s k => ?_
  refine (flows loop.loopBody k).bind fun ends s k => ?_
  refine (ensures_unbindCounter k).bind fun _ s k => ?_
  have reordered : (ends.tails ++ loop.completed :: exits).Perm
      (ends.open ++ (loop.completed :: (ends.returned ++ exits))) := by
    rw [Exits.tails, List.append_assoc]
    exact .append_left _ List.perm_middle
  refine (ensures_connectFlows ends.open (k.drop (.refl _) reordered.symm) (by simp)).bind fun _ s k => ?_
  cases outer? with
  | none => exact .pure (k.weaken (by simp +contextual))
  | some id =>
    exact (ensures_storeVariable k (by simp) (by simp)).bind fun _ _ k => .pure (k.weaken (by simp +contextual))

theorem continues_lowerSteppedLoop (reliable : Reliable inliner) (l : CountingLoop) {body : Body}
    (flows : Flows body) : Flows (lowerSteppedLoop c inliner active l body) := by
  intro w facts exits s flow knows
  rw [lowerSteppedLoop_eq]
  extract_lets rest
  have continues (outer? : Option Nat) (declared : ∀ id, outer? = some id → .row id ∈ s.facts) :
      Ensures (rest outer?) s fun ends s' => s'.Knows w facts (ends.tails ++ exits) := by
    have knows : s.Knows w (outer?.toList.map .row ++ facts) (flow :: exits) := by
      cases outer? with
      | none => exact knows
      | some id => exact knows.remembered (declared id rfl)
    refine (values_lowerExpression reliable l.start knows).bind fun start? s k => ?_
    refine (values_lowerExpression reliable l.bound k).bind fun bound? s k => ?_
    split
    · next start bound =>
      refine (gives_loopEnd l.comparison k).bind fun stop s k => ?_
      refine .liftBind (known_loopBetween k.known (by simp) (by simp))
        fun loop _ ⟨node, inner, same, within, input, blank, shared, known⟩ => ?_
      rw [same]
      refine (ensures_lowerLoopStep reliable l.step k known within input blank shared).bind
        fun _ s' inside => ?_
      refine .liftBind (knows_connectFlow inside (perm_third ..) (by simp)) fun _ context inside => ?_
      have k : ({ s' with context } : Lowering).Knows w (.out loop.index :: .entry loop.nextStep ::
          .row loop.counter :: (outer?.toList.map .row ++ facts))
          (loop.loopBody :: loop.completed :: exits) := k.leave inside (by simp +contextual)
      exact ensures_runLoop flows k
    · exact .pure (k.weaken (by simp +contextual))
  split
  · exact continues none fun _ none => by cases none
  · refine ensures_variableOf?.bind ?_
    rintro outer? _ ⟨rfl, declared⟩
    exact continues outer? declared

end Loops

section Blocks

theorem continues_lowerLoop (reliable : Reliable inliner) (s : Statement) {body : Body}
    (flows : Flows body) : Flows (lowerLoop c inliner active s body) := by
  unfold lowerLoop
  split
  · exact fun _ _ _ _ _ knows => .liftBind (knows_note knows) fun _ _ k => .pure k
  · intro w facts exits s flow knows
    split
    · exact .liftBind (knows_note knows) fun _ _ k => .pure k
    · split
      · exact continues_lowerCanonicalLoop reliable _ flows flow knows
      · exact continues_lowerSteppedLoop reliable _ flows flow knows

/-- The exits of two arms are the exits of both. -/
theorem tails_merge (first second : Exits) (exits : List FlowOut) :
    ((first.merge second).tails ++ exits).Perm (second.tails ++ (first.tails ++ exits)) := by
  rw [List.perm_iff_count]
  intro flow
  simp only [Exits.merge, Exits.tails, List.count_append]
  omega

theorem continues_lowerBranch (reliable : Reliable inliner) (s : Statement) {thenArm elseArm : Option Body}
    (thenFlows : ∀ body, thenArm = some body → Flows body)
    (elseFlows : ∀ body, elseArm = some body → Flows body) :
    Flows (lowerBranch c inliner active s thenArm elseArm) := by
  intro w facts exits s' flow knows
  unfold lowerBranch
  split
  · exact .liftBind (knows_note knows) fun _ _ k => .pure k
  · next condition _ =>
    refine (values_lowerExpression reliable condition knows).bind fun condition? s k => ?_
    cases condition? with
    | none => exact .liftBind (knows_note k) fun _ _ k => .pure k
    | some condition =>
      refine .liftBind (k.known.enter.createNode
        (by decide : Op.flowBranch.Has [] ["condition"] ["in"] ["true", "false"])) fun branch _ inner => ?_
      refine .liftBind (inner.connect (t := branch.valueIn "condition") (by simp) (by simp))
        fun _ _ inner => ?_
      refine .liftBind (inner.connectFlow (perm_third ..) (by simp)) fun _ context inner => ?_
      have k : ({ s with context } : Lowering).Knows w facts
          (branch.flowOut "true" :: branch.flowOut "false" :: exits) :=
        k.advance (k.known.leave inner (by simp +contextual [or_imp]))
      extract_lets arm
      have arms {body? : Option Body} (flows : ∀ body, body? = some body → Flows body) {socket : String}
          {exits : List FlowOut} {s : Lowering} (k : s.Knows w facts (branch.flowOut socket :: exits)) :
          Ensures (arm body? socket) s fun ends s' => s'.Knows w facts (ends.tails ++ exits) := by
        cases body? with
        | none => exact .pure k
        | some body => exact flows body rfl _ k
      refine (arms thenFlows k).bind fun first s k => ?_
      have k : s.Knows w facts (branch.flowOut "false" :: (first.tails ++ exits)) :=
        k.drop (.refl _) List.perm_middle.symm
      refine (arms elseFlows k).bind fun second s k => .pure ?_
      exact k.drop (.refl _) (tails_merge first second exits)

theorem continues_statementStep (reliable : Reliable inliner) (s : Statement) {blocks : BlocksBelow s.size}
    (flows : ∀ block small, Flows (blocks block small)) :
    Flows (statementStep c inliner active s blocks) := by
  have arms (clause : StatementKind) (body : Body) (chosen : arm? s blocks clause = some body) :
      Flows body := by
    unfold arm? at chosen
    split at chosen
    · cases chosen
      exact flows _ _
    · cases chosen
  intro w facts exits s' flow knows
  unfold statementStep
  split
  · exact (passes_lowerExpressionStatement reliable s flow knows).bind fun _ _ k => .pure k
  · exact (passes_lowerDeclarators reliable _ flow knows).bind fun _ _ k => .pure k
  · split
    · exact (passes_lowerAssignment reliable _ flow knows).bind fun _ _ k => .pure k
    · exact .liftBind (knows_note knows) fun _ _ k => .pure k
  · exact continues_lowerBranch reliable s (arms .thenClause) (arms .elseClause) flow knows
  · exact continues_lowerReturn reliable s flow knows
  · exact flows _ _ flow knows
  · exact continues_lowerLoop reliable s (flows _ _) flow knows
  · exact .liftBind (knows_note knows) fun _ _ k => .pure k

mutual

/-- A statement takes a flow and leaves others. -/
theorem continues_lowerStatement (reliable : Reliable inliner) (s : Statement) :
    Flows (lowerStatement c inliner active s) := by
  intro w facts exits s' flow knows
  rw [lowerStatement]
  refine continues_statementStep reliable s (fun block small w facts exits s flow knows => ?_) flow knows
  exact ensures_lowerBlock reliable block (.one flow) knows
termination_by (s.size, 1)
decreasing_by exact Prod.Lex.left _ _ (by assumption)

/-- A block takes exits and leaves exits. -/
theorem ensures_lowerBlock (reliable : Reliable inliner) : ∀ (block : List Statement) (before : Exits)
    {w : Scope} {facts : List Fact} {exits : List FlowOut} {s : Lowering},
    s.Knows w facts (before.tails ++ exits) →
      Ensures (lowerBlock c inliner active block before) s fun ends s' =>
        s'.Knows w facts (ends.tails ++ exits)
  | [], before, _, _, _, _, knows => by
    rw [lowerBlock]
    exact .pure knows
  | statement :: rest, before, w, facts, exits, s, knows => by
    rw [lowerBlock]
    have goes {entry : FlowOut} {s' : Lowering} (k : s'.Knows w facts (entry :: (before.returned ++ exits))) :
        Ensures (do
          let ends ← lowerStatement c inliner active statement entry
          lowerBlock c inliner active rest { ends with returned := before.returned ++ ends.returned }) s'
          fun ends s'' => s''.Knows w facts (ends.tails ++ exits) := by
      refine (continues_lowerStatement reliable statement entry k).bind fun ends s k => ?_
      refine ensures_lowerBlock reliable rest _ (k.drop (.refl _) ?_)
      rw [List.perm_iff_count]
      intro flow
      simp only [Exits.tails, List.count_append]
      omega
    split
    · exact .liftBind (knows_note knows) fun _ _ k => .pure k
    · next flow single =>
      rw [Exits.tails, single] at knows
      exact goes knows
    · rw [Exits.tails, List.append_assoc] at knows
      have joined : Ensures (some <$> join before.open) s fun entry? s' => ∃ entry,
          entry? = some entry ∧ s'.Knows w facts (entry :: (before.returned ++ exits)) :=
        .map ((ensures_join before.open knows).mono fun entry _ k => ⟨entry, rfl, k⟩)
      refine joined.bind ?_
      rintro _ s' ⟨entry, rfl, k⟩
      exact goes k
termination_by block => (Statement.sizeAll block, 2 * block.length)
decreasing_by
  · have := Statement.size_pos statement
    rw [Statement.sizeAll, Prod.lex_def, List.length_cons]
    omega
  · have := Statement.size_pos statement
    rw [Statement.sizeAll, Prod.lex_def, List.length_cons]
    omega

end

/-- Bodies can be inlined to any depth. -/
theorem reliable_inliner (c : ScriptClass) : ∀ levels : Nat, Reliable (Lower.inliner c levels)
  | 0 => ⟨fun _ _ _ _ _ _ _ knows => .pure knows, fun _ _ _ _ _ _ knows => .pure knows⟩
  | levels + 1 =>
    ⟨fun _ body _ _ _ _ flow knows =>
      ensures_lowerBlock (reliable_inliner c levels) body (.one flow) knows,
      fun _ e => values_lowerExpression (reliable_inliner c levels) e⟩

end Blocks

end Lower

end ScriptGraph
