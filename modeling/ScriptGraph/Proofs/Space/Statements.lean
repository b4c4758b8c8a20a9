import Mathlib
import ScriptGraph.Proofs.Lower.Lockstep.Blocks
import ScriptGraph.Proofs.Space.Calls

/-!
Statements, blocks and whole classes keep pace.
-/

namespace ScriptGraph

open Pattern Build

namespace Lower

/-- Counters of the same kind. -/
inductive Counter.Pairs (p : Pairing) : Counter → Counter → Prop
  | value {v v' : ValueOut} (pair : Pair p v v') : Pairs p (.value v) (.value v')
  | stored (id : Nat) : Pairs p (.variable id) (.variable id)

instance : Paired Counter where
  pairs := Counter.Pairs
  mono pair le := by
    cases pair with
    | value pair => exact .value pair.lift
    | stored id => exact .stored id
  refl counter := by
    rcases counter with v | id
    · exact .value (Paired.refl v)
    · exact .stored id

variable {p : Pairing} {c : ScriptClass} {inliner : Inliner} {active : List String}

section Writes

variable (inlined : inliner.Tracks) {value value' : ValueOut} (pair : Pair p value value') {flow flow' : FlowOut}
  (leaves : Pair p flow flow')

theorem tracks_propertySet (property : HostProperty) :
    ScriptGraph.Tracks p (propertySet property) (propertySet property) := by
  unfold propertySet
  split
  · exact tracks_worldPositionSet
  · exact tracks_localPositionSet
  · exact tracks_worldRotationSet
  · exact tracks_localRotationSet
  · exact tracks_localScaleSet

include inlined pair leaves

theorem tracks_storeMember (target : Expression) :
    Tracks p (storeMember c inliner active target value flow) (storeMember c inliner active target value' flow') := by
  unfold storeMember
  split
  · exact tracks_note _ _ leaves
  · refine .bind .read fun p₁ s s' _ pairs => ?_
    dsimp only
    rw [Lowering.Pairs.fields pairs]
    split
    · exact tracks_storeVariable _ pair.lift leaves.lift
    · exact tracks_note _ _ leaves.lift
    · refine .bind (tracks_lowerReceiver fun p e _ => tracks_lowerExpression inlined p e) fun p₂ _ _ _ object => ?_
      refine .bind (.lift (tracks_propertySet _)) fun p₃ _ _ _ write => ?_
      refine .andThen (.lift (tracks_connect write.1 object.lift)) fun p₄ _ => ?_
      refine .andThen (.lift (tracks_connect write.2.1.lift pair.lift)) fun p₅ _ => ?_
      exact .andThen (.lift (tracks_connectFlow leaves.lift write.2.2.1.lift)) fun p₆ _ => .pure write.2.2.2.lift

theorem tracks_storeElement (target : Expression) :
    Tracks p (storeElement c inliner active target value flow) (storeElement c inliner active target value' flow') := by
  unfold storeElement
  split
  · refine .bind (tracks_listName? _) fun p₁ _ _ _ name? => ?_
    cases name? with
    | none => exact tracks_note _ _ leaves.lift
    | some same =>
      cases same
      refine .bind (tracks_lowerExpression inlined _ _) fun p₂ _ _ _ index? => ?_
      cases index? with
      | none => exact .pure leaves.lift
      | some index =>
        refine .bind (tracks_onList? _ fun _ _ => BoundedList.tracks_setItemChecked) fun p₃ _ _ _ write? => ?_
        cases write? with
        | none => exact .pure leaves.lift
        | @some write write' pairs =>
          obtain ⟨indexed, stored, enters, goes⟩ : Pair p₃ write write' := pairs
          refine .andThen (.lift (tracks_connect indexed (Pair.lift index))) fun p₄ _ => ?_
          refine .andThen (.lift (tracks_connect (Pair.lift stored) pair.lift)) fun p₅ _ => ?_
          exact .andThen (.lift (tracks_connectFlow leaves.lift (Pair.lift enters))) fun p₆ _ => .pure (Pair.lift goes)
  · exact tracks_note _ _ leaves

theorem tracks_store (target : Expression) :
    Tracks p (store c inliner active target value flow) (store c inliner active target value' flow') := by
  unfold store
  split
  · refine .bind (tracks_variableOf? _) fun p₁ _ _ _ id? => ?_
    cases id? with
    | some same =>
      cases same
      exact tracks_storeVariable _ pair.lift leaves.lift
    | none => exact tracks_note _ _ leaves.lift
  · exact tracks_storeMember inlined pair leaves _
  · exact tracks_storeElement inlined pair leaves _
  · exact tracks_note _ _ leaves

omit pair

theorem tracks_lowerAssignment (e : Expression) :
    Tracks p (lowerAssignment c inliner active e flow) (lowerAssignment c inliner active e flow') := by
  unfold lowerAssignment
  split
  · refine .bind (tracks_lowerWithFlow inlined _ leaves) ?_
    rintro p₁ ⟨_, flow⟩ ⟨_, flow'⟩ _ ⟨value?, leaves⟩
    have leaves : Pair p₁ flow flow' := leaves
    cases value? with
    | none => exact .pure leaves
    | some value =>
      dsimp only
      split
      · exact tracks_store inlined value leaves _
      · refine .bind (tracks_lowerExpression inlined _ _) fun p₂ _ _ _ current? => ?_
        cases current? with
        | none => exact .pure leaves.lift
        | some current =>
          refine .bind (tracks_coerce (Pair.lift value) _ _) fun p₃ _ _ _ value => ?_
          refine .bind (.lift (tracks_binary _ (Pair.lift current) value)) fun p₄ _ _ _ value => ?_
          exact tracks_store inlined value leaves.lift _
  · exact tracks_note _ _ leaves

theorem tracks_lowerIncrement (e : Expression) :
    Tracks p (lowerIncrement c inliner active e flow) (lowerIncrement c inliner active e flow') := by
  unfold lowerIncrement
  dsimp only
  split
  · exact tracks_note _ _ leaves
  · exact tracks_note _ _ leaves
  · refine .bind (tracks_lowerExpression inlined _ _) fun p₁ _ _ _ current? => ?_
    cases current? with
    | none => exact .pure leaves.lift
    | some current =>
      refine .bind (.lift (tracks_binaryLiteral .mathAdd current _)) fun p₂ _ _ _ value => ?_
      exact tracks_store inlined value leaves.lift _

theorem tracks_lowerWait (e : Expression) :
    Tracks p (lowerWait c inliner active e flow) (lowerWait c inliner active e flow') := by
  unfold lowerWait
  dsimp only
  split
  · exact tracks_note _ _ leaves
  · next build found =>
    have waits {p : Pairing} {tick tick' : Option TickChain} (pair : Pair p tick tick') :
        ScriptGraph.Tracks p (build tick) (build tick') := by
      split at found
      · cases found
        exact tracks_waitUntil pair
      · split at found
        · cases found
          exact tracks_waitWhile pair
        · cases found
    split
    · refine .bind (tracks_lowerExpression inlined _ _) fun p₁ _ _ _ condition? => ?_
      cases condition? with
      | none => exact tracks_note _ _ leaves.lift
      | some condition =>
        refine .bind .read fun p₂ s s' _ pairs => .bind (.lift (waits (Lowering.Pairs.tick pairs))) ?_
        rintro p₃ ⟨wait, tick⟩ ⟨wait', tick'⟩ _ ⟨wait, tick⟩
        refine .andThen (tracks_setTick tick) fun p₄ _ => ?_
        refine .andThen (.lift (tracks_connect wait.1.lift (Pair.lift condition))) fun p₅ _ => ?_
        exact .andThen (.lift (tracks_connectFlow leaves.lift wait.2.1.lift)) fun p₆ _ => .pure wait.2.2.lift
    · exact tracks_note _ _ leaves

theorem tracks_lowerCallStatement (e : Expression) :
    Tracks p (lowerCallStatement c inliner active e flow) (lowerCallStatement c inliner active e flow') :=
  .bind (tracks_lowerCall inlined _ (Option.Rel.some leaves)) fun _ _ _ _ invocation =>
    .pure (pairs_getD invocation.2 leaves.lift)

theorem tracks_lowerExpressionStatement (s : Statement) :
    Tracks p (lowerExpressionStatement c inliner active s flow)
      (lowerExpressionStatement c inliner active s flow') := by
  unfold lowerExpressionStatement
  split
  · exact tracks_note _ _ leaves
  · dsimp only
    split
    · exact tracks_lowerCallStatement inlined leaves _
    · split
      · split
        · exact tracks_lowerCallStatement inlined leaves _
        · split
          · exact tracks_lowerWait inlined leaves _
          · exact tracks_note _ _ leaves
      · exact tracks_note _ _ leaves
    · exact tracks_lowerAssignment inlined leaves _
    · exact tracks_lowerIncrement inlined leaves _
    · exact tracks_lowerIncrement inlined leaves _
    · exact tracks_note _ _ leaves

theorem tracks_lowerDeclarators (declarators : List Statement) :
    Tracks p (lowerDeclarators c inliner active declarators flow)
      (lowerDeclarators c inliner active declarators flow') := by
  induction declarators generalizing p flow flow' with
  | nil => exact .pure leaves
  | cons declarator rest ih =>
    unfold lowerDeclarators
    split
    · exact .andThen (.lift (tracks_malformed _)) fun _ _ => ih leaves.lift
    · dsimp only
      split
      · exact .andThen (.lift (tracks_unsupported _)) fun _ _ => ih leaves.lift
      · exact .bind (tracks_declareLocal _ _) fun _ _ _ _ _ => ih leaves.lift
      · refine .bind (tracks_declareLocal _ _) ?_
        rintro p₁ id _ _ ⟨⟩
        refine .bind (tracks_lowerWithFlow inlined _ leaves.lift) ?_
        rintro p₂ ⟨_, flow⟩ ⟨_, flow'⟩ _ ⟨value?, leaves⟩
        have leaves : Pair p₂ flow flow' := leaves
        cases value? with
        | none => exact ih leaves
        | some value => exact .bind (tracks_storeVariable id value leaves) fun p₃ _ _ _ flow => ih flow

theorem tracks_lowerReturn (s : Statement) :
    Tracks p (lowerReturn c inliner active s flow) (lowerReturn c inliner active s flow') := by
  refine .bind tracks_frame? fun p₁ frame? frame'? _ frame => ?_
  have same : frame'?.bind (·.returnVariable) = frame?.bind (·.returnVariable) := by
    cases frame with
    | some frame =>
      obtain ⟨bindings, rfl, -⟩ := frame
      rfl
    | none => rfl
  dsimp only
  rw [same]
  split
  · refine .bind (tracks_lowerWithFlow inlined _ leaves.lift) ?_
    rintro p₂ ⟨_, flow⟩ ⟨_, flow'⟩ _ ⟨value?, leaves⟩
    have leaves : Pair p₂ flow flow' := leaves
    cases value? with
    | none => exact .pure ⟨.nil, .cons leaves .nil⟩
    | some value =>
      exact .bind (tracks_storeVariable _ value leaves) fun p₃ _ _ _ flow => .pure ⟨.nil, .cons flow .nil⟩
  · exact .pure ⟨.nil, .cons leaves.lift .nil⟩

end Writes

section Counters

theorem pairs_bind (name : String) {frame frame' : Frame} (pair : Pair p frame frame')
    {counter counter' : Option Counter} (stands : Pair p counter counter') :
    Pair p (Counter.bind name frame counter) (Counter.bind name frame' counter') := by
  obtain ⟨bindings, rfl, bound⟩ := pair
  rcases stands with @⟨_, _, ⟨value⟩ | ⟨id⟩⟩ | _
  · exact ⟨_, rfl, pairs_insert bound name value⟩
  · exact ⟨_, rfl, bound⟩
  · exact ⟨_, rfl, bound⟩

theorem pairs_of? (name : String) {frame frame' : Frame} (pair : Pair p frame frame') :
    Pair p (Counter.of? name frame) (Counter.of? name frame') := by
  obtain ⟨bindings, rfl, bound⟩ := pair
  have value := bound name
  unfold Counter.of?
  dsimp only
  revert value
  generalize frame.bindings.find? name = value?
  generalize bindings.find? name = value'?
  intro value
  cases value with
  | some value => exact .some (.value value)
  | none =>
    cases frame.locals.find? name with
    | some id => exact .some (.stored id)
    | none => exact .none

theorem tracks_bindCounter (name : String) {counter counter' : Counter} (stands : Pair p counter counter') :
    Tracks p (bindCounter name counter) (bindCounter name counter') := by
  refine .bind tracks_frame? fun p₁ frame? frame'? _ frame => ?_
  have previous : Pair p₁ (frame?.bind (Counter.of? name)) (frame'?.bind (Counter.of? name)) := by
    cases frame with
    | some frame => exact pairs_of? name frame
    | none => exact .none
  refine .andThen (tracks_modifyFrame fun frame frame' pair => pairs_bind name ?_ (.some (stands.lift : Pair p₁ _ _)))
    fun p₂ _ => .pure previous.lift
  obtain ⟨bindings, rfl, bound⟩ := pair
  have found := bound name
  dsimp only
  generalize old : frame.bindings.find? name = value?
  generalize old' : bindings.find? name = value'?
  rw [old, old'] at found
  cases found with
  | some _ => exact ⟨bindings.erase name, rfl, pairs_erase bound name⟩
  | none => exact ⟨bindings, rfl, bound⟩

theorem tracks_unbindCounter (name : String) {previous previous' : Option Counter} (stood : Pair p previous previous') :
    Tracks p (unbindCounter name previous) (unbindCounter name previous') := by
  refine tracks_modifyFrame fun frame frame' pair => pairs_bind name ?_ stood
  obtain ⟨bindings, rfl, bound⟩ := pair
  exact ⟨bindings.erase name, rfl, pairs_erase bound name⟩

end Counters

section Blocks

/-- A body of a loop or an arm keeps pace. -/
def Body.Tracks (body : Body) : Prop :=
  ∀ (p : Pairing) {flow flow' : FlowOut}, Pair p flow flow' → ScriptGraph.Tracks p (body flow) (body flow')

variable (inlined : inliner.Tracks)

theorem tracks_loopEnd (comparison : Comparison) {bound bound' : ValueOut} (pair : Pair p bound bound') :
    Tracks p (loopEnd comparison bound) (loopEnd comparison bound') := by
  cases comparison with
  | lt => exact .pure pair
  | gt => exact .pure pair
  | le => exact .lift (tracks_binaryLiteral _ pair _)
  | ge => exact .lift (tracks_binaryLiteral _ pair _)

include inlined

theorem tracks_lowerLoopStep {step step' : ValueIn} (target : Pair p step step') (amount : LoopStep) :
    Tracks p (lowerLoopStep c inliner active step amount) (lowerLoopStep c inliner active step' amount) := by
  cases amount with
  | constant amount => exact .lift (tracks_setLiteral target _)
  | computed amount negate =>
    refine .bind (tracks_lowerExpression inlined _ amount) fun p₁ _ _ _ value? => ?_
    cases value? with
    | none => exact .pure rfl
    | some value =>
      dsimp only
      split
      · refine .bind (.lift (tracks_unary .mathNeg value)) fun p₂ _ _ _ value => ?_
        exact .lift (tracks_connect target.lift value)
      · exact .lift (tracks_connect target.lift (Pair.lift value))

theorem tracks_lowerCanonicalLoop (l : CountingLoop) {body : Body} (tracks : Body.Tracks body) {flow flow' : FlowOut}
    (leaves : Pair p flow flow') :
    Tracks p (lowerCanonicalLoop c inliner active l body flow) (lowerCanonicalLoop c inliner active l body flow') := by
  refine .bind (tracks_lowerExpression inlined _ _) fun p₁ _ _ _ start? => ?_
  refine .bind (tracks_lowerExpression inlined _ _) fun p₂ _ _ _ stop? => ?_
  cases start? with
  | none => exact .pure ⟨.cons leaves.lift .nil, .nil⟩
  | some start =>
    cases stop? with
    | none => exact .pure ⟨.cons leaves.lift .nil, .nil⟩
    | some stop =>
      refine .bind (.lift (tracks_forLoop _)) ?_
      rintro p₃ native native' _ ⟨node, first, last, index, enters, inside, completed⟩
      refine .andThen (.lift (tracks_connect first (Pair.lift start))) fun p₄ _ => ?_
      refine .andThen (.lift (tracks_connect (Pair.lift last) (Pair.lift stop))) fun p₅ _ => ?_
      refine .andThen (.lift (tracks_connectFlow leaves.lift (Pair.lift enters))) fun p₆ _ => ?_
      refine .bind (tracks_bindCounter l.counter (.value (Pair.lift index))) fun p₇ _ _ _ shadowed => ?_
      refine .bind (tracks p₇ (Pair.lift inside)) fun p₈ _ _ _ exits => ?_
      exact .andThen (tracks_unbindCounter l.counter shadowed.lift) fun p₉ _ =>
        .pure ⟨.cons (Pair.lift completed) .nil, Pair.lift exits.2⟩

theorem tracks_lowerSteppedLoop (l : CountingLoop) {body : Body} (tracks : Body.Tracks body) {flow flow' : FlowOut}
    (leaves : Pair p flow flow') :
    Tracks p (lowerSteppedLoop c inliner active l body flow) (lowerSteppedLoop c inliner active l body flow') := by
  unfold lowerSteppedLoop
  extract_lets goesOn goesOn'
  have alike (p₁ : Pairing) (le : p.Le p₁) (outer? : Option Nat) : Tracks p₁ (goesOn outer?) (goesOn' outer?) := by
    refine .bind (tracks_lowerExpression inlined _ _) fun p₂ _ _ _ start? => ?_
    refine .bind (tracks_lowerExpression inlined _ _) fun p₃ _ _ _ bound? => ?_
    cases start? with
    | none => exact .pure ⟨.cons leaves.lift .nil, .nil⟩
    | some start =>
      cases bound? with
      | none => exact .pure ⟨.cons leaves.lift .nil, .nil⟩
      | some bound =>
        refine .bind (tracks_loopEnd _ bound) fun p₄ _ _ _ stop => .bind (.lift tracks_steppedFor) ?_
        rintro p₅ loop loop' _ ⟨first, last, step, enters, next, index, counter, inside, completed⟩
        have counter : loop'.counter = loop.counter := counter
        rw [counter]
        refine .andThen (.lift (tracks_connect first (Pair.lift start))) fun p₆ _ => ?_
        refine .andThen (.lift (tracks_connect (Pair.lift last) stop.lift)) fun p₇ _ => ?_
        refine .andThen (tracks_lowerLoopStep inlined (Pair.lift step) _) fun p₈ _ => ?_
        refine .andThen (.lift (tracks_connectFlow leaves.lift (Pair.lift enters))) fun p₉ _ => ?_
        refine .bind (tracks_bindCounter l.counter (.stored loop.counter)) fun p₁₀ _ _ _ shadowed => ?_
        refine .bind (tracks p₁₀ (Pair.lift inside)) fun p₁₁ _ _ _ exits => ?_
        refine .andThen (tracks_unbindCounter l.counter shadowed.lift) fun p₁₂ _ => ?_
        refine .andThen (tracks_connectFlows (Pair.lift exits.1) (Pair.lift next)) fun p₁₃ _ => ?_
        cases outer? with
        | none => exact .pure ⟨.cons (Pair.lift completed) .nil, Pair.lift exits.2⟩
        | some id =>
          exact .bind (tracks_storeVariable id (Pair.lift index) (Pair.lift completed)) fun p₁₄ _ _ _ flow =>
            .pure ⟨.cons flow .nil, Pair.lift exits.2⟩
  split
  · exact alike p (.refl p) none
  · refine .bind (tracks_variableOf? _) fun p₁ outer? outer'? le same => ?_
    obtain rfl : outer? = outer'? := by
      cases same with
      | some same => exact congrArg some same.symm
      | none => rfl
    exact alike p₁ le.le outer?

theorem tracks_lowerLoop (s : Statement) {body : Body} (tracks : Body.Tracks body) {flow flow' : FlowOut}
    (leaves : Pair p flow flow') :
    Tracks p (lowerLoop c inliner active s body flow) (lowerLoop c inliner active s body flow') := by
  unfold lowerLoop
  split
  · exact tracks_note _ _ ⟨.cons leaves .nil, .nil⟩
  · split
    · exact tracks_note _ _ ⟨.cons leaves .nil, .nil⟩
    · split
      · exact tracks_lowerCanonicalLoop inlined _ tracks leaves
      · exact tracks_lowerSteppedLoop inlined _ tracks leaves

theorem tracks_lowerBranch (s : Statement) {thenArm elseArm : Option Body}
    (tracksThen : ∀ body ∈ thenArm, Body.Tracks body) (tracksElse : ∀ body ∈ elseArm, Body.Tracks body)
    {flow flow' : FlowOut} (leaves : Pair p flow flow') :
    Tracks p (lowerBranch c inliner active s thenArm elseArm flow)
      (lowerBranch c inliner active s thenArm elseArm flow') := by
  unfold lowerBranch
  split
  · exact tracks_note _ _ ⟨.cons leaves .nil, .nil⟩
  · refine .bind (tracks_lowerExpression inlined _ _) fun p₁ _ _ _ condition? => ?_
    cases condition? with
    | none => exact tracks_note _ _ ⟨.cons leaves.lift .nil, .nil⟩
    | some condition =>
      refine .bind (.lift (tracks_createNode .flowBranch)) fun p₂ branch branch' _ made => ?_
      refine .andThen (.lift (tracks_connect (made.valueIn "condition") (Pair.lift condition))) fun p₃ _ => ?_
      refine .andThen (.lift (tracks_connectFlow leaves.lift (made.lift.flowIn "in"))) fun p₄ _ => ?_
      refine .bind ?_ fun p₅ _ _ _ thenExits => .bind ?_ fun p₆ _ _ _ elseExits => .pure ?_
      · cases thenArm with
        | some body => exact tracksThen body rfl p₄ (made.lift.flowOut "true")
        | none => exact .pure ⟨.cons (made.lift.flowOut "true") .nil, .nil⟩
      · cases elseArm with
        | some body => exact tracksElse body rfl p₅ (made.lift.flowOut "false")
        | none => exact .pure ⟨.cons (made.lift.flowOut "false") .nil, .nil⟩
      · exact ⟨List.rel_append (Pair.lift thenExits.1) elseExits.1, List.rel_append (Pair.lift thenExits.2) elseExits.2⟩

omit inlined in
theorem tracks_arm? (s : Statement) {blocks : BlocksBelow s.size}
    (tracks : ∀ block small, Body.Tracks (blocks block small)) (clause : StatementKind) :
    ∀ body ∈ arm? s blocks clause, Body.Tracks body := by
  intro body found
  unfold arm? at found
  split at found
  · cases found
    exact tracks _ _
  · cases found

theorem tracks_statementStep (s : Statement) {blocks : BlocksBelow s.size}
    (tracks : ∀ block small, Body.Tracks (blocks block small)) {flow flow' : FlowOut} (leaves : Pair p flow flow') :
    Tracks p (statementStep c inliner active s blocks flow) (statementStep c inliner active s blocks flow') := by
  have one {p : Pairing} {flow flow' : FlowOut} (leaves : Pair p flow flow') :
      Pair p (Exits.one flow) (Exits.one flow') := ⟨.cons leaves .nil, .nil⟩
  unfold statementStep
  split
  · exact .bind (tracks_lowerExpressionStatement inlined leaves _) fun _ _ _ _ flow => .pure (one flow)
  · exact .bind (tracks_lowerDeclarators inlined leaves _) fun _ _ _ _ flow => .pure (one flow)
  · split
    · exact .bind (tracks_lowerAssignment inlined leaves _) fun _ _ _ _ flow => .pure (one flow)
    · exact tracks_note _ _ (one leaves)
  · exact tracks_lowerBranch inlined s (tracks_arm? s tracks _) (tracks_arm? s tracks _) leaves
  · exact tracks_lowerReturn inlined leaves _
  · exact tracks _ _ p leaves
  · exact tracks_lowerLoop inlined s (tracks _ _) leaves
  · exact tracks_note _ _ (one leaves)

end Blocks

theorem tracks_entering {before before' : Exits} (exits : Pair p before before') :
    Tracks p (entering before) (entering before') := by
  obtain ⟨flows, returned⟩ := before
  obtain ⟨flows', returned'⟩ := before'
  obtain ⟨leaves, -⟩ : Pair p flows flows' ∧ Pair p returned returned' := exits
  rcases leaves with _ | ⟨first, _ | ⟨second, rest⟩⟩
  · exact .pure .none
  · exact .pure (.some first)
  · exact .bind (tracks_join (.cons first (.cons second rest))) fun _ _ _ _ flow => .pure (.some flow)

mutual

theorem tracks_lowerStatement (inlined : inliner.Tracks) (s : Statement) (p : Pairing) {flow flow' : FlowOut}
    (leaves : Pair p flow flow') :
    Tracks p (lowerStatement c inliner active s flow) (lowerStatement c inliner active s flow') := by
  rw [lowerStatement, lowerStatement]
  exact tracks_statementStep inlined s (fun block _ p _ _ leaves =>
    tracks_lowerBlock inlined block p ⟨.cons leaves .nil, .nil⟩) leaves
termination_by (s.size, 1)
decreasing_by exact Prod.Lex.left _ _ (by assumption)

theorem tracks_lowerBlock (inlined : inliner.Tracks) (block : List Statement) (p : Pairing) {before before' : Exits}
    (exits : Pair p before before') :
    Tracks p (lowerBlock c inliner active block before) (lowerBlock c inliner active block before') := by
  match block with
  | [] =>
    rw [lowerBlock, lowerBlock]
    exact .pure exits
  | s :: rest =>
    rw [lowerBlock_cons, lowerBlock_cons]
    refine .bind (tracks_entering exits) fun p₁ _ _ _ entering? => ?_
    cases entering? with
    | none => exact tracks_note _ _ (Pair.lift exits)
    | some entry =>
      refine .bind (tracks_lowerStatement inlined s p₁ entry) fun p₂ _ _ _ after => ?_
      exact tracks_lowerBlock inlined rest p₂ ⟨after.1, List.rel_append (Pair.lift exits.2) after.2⟩
termination_by (Statement.sizeAll block, 2 * block.length)
decreasing_by
  · rw [Statement.sizeAll, Prod.lex_def, List.length_cons]
    omega
  · have := Statement.size_pos s
    rw [Statement.sizeAll]
    exact Prod.Lex.left _ _ (by omega)

end

theorem tracks_inliner (c : ScriptClass) : ∀ levels : Nat, (Lower.inliner c levels).Tracks
  | 0 => ⟨fun _ _ _ _ _ leaves => .pure ⟨.cons leaves .nil, .nil⟩, fun _ _ _ => .pure .none⟩
  | levels + 1 =>
    ⟨fun p _ block _ _ leaves => tracks_lowerBlock (tracks_inliner c levels) block p ⟨.cons leaves .nil, .nil⟩,
      fun p _ e => tracks_lowerExpression (tracks_inliner c levels) p e⟩

end Lower

end ScriptGraph
