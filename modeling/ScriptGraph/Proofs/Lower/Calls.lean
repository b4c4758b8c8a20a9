import ScriptGraph.Proofs.Lower.Messages

/-!
What is known after calls were lowered: methods of the host, and methods of the class in place of their
calls.
-/

namespace ScriptGraph

open Pattern (BoundedList)

namespace HostMethod

theorem computes_of_vectorFunction? {name : String} {op : Op} (found : vectorFunction? name = some op) :
    op.Computes op.schema.valuesIn := by
  unfold vectorFunction? at found
  split at found <;> first | (cases found; decide) | cases found

theorem computes_of_scalarFunction? {name : String} {op : Op} (found : scalarFunction? name = some op) :
    op.Computes op.schema.valuesIn := by
  unfold scalarFunction? at found
  split at found <;> first | (cases found; decide) | cases found

/-- The operations behind mathematical methods compute a value from all of their inputs. -/
theorem computes_of_recognize? {symbol : MethodSymbol} {op : Op}
    (found : recognize? symbol = some (.math op)) : op.Computes op.schema.valuesIn := by
  unfold recognize? ofNames? at found
  split at found <;> first
    | (obtain ⟨_, named, same⟩ := Option.map_eq_some_iff.1 found; cases same;
       exact computes_of_vectorFunction? named)
    | (obtain ⟨_, named, same⟩ := Option.map_eq_some_iff.1 found; cases same;
       exact computes_of_scalarFunction? named)
    | cases found

end HostMethod

namespace Lower

section States

variable {w : Scope} {facts : List Fact} {exits : List FlowOut} {s : Lowering}

/-- Each value comes in its shape from behind a fence around the node that it feeds. -/
theorem ensures_connectCoerced {node : NodeId} {result : Option ValueType} (sockets : List String)
    (values : List ValueOut) (arguments : List Expression) (known : Known w facts exits s.context)
    (into : ∀ socket ∈ sockets, .input ⟨node, socket⟩ ∈ facts) (given : ∀ v ∈ values, .arg v ∈ facts) :
    Ensures (connectCoerced node result sockets values arguments) s fun _ s' =>
      ∃ c, s' = { s with context := c } ∧
        Known w (fed facts (sockets.map (SocketAddress.mk node))) exits c := by
  induction sockets generalizing s facts values arguments with
  | nil => exact ⟨s.context, rfl, known.weaken (by simp)⟩
  | cons socket sockets ih =>
    cases values with
    | nil => exact ⟨s.context, rfl, known.weaken (by simp +contextual)⟩
    | cons value values =>
      cases arguments with
      | nil => exact ⟨s.context, rfl, known.weaken (by simp +contextual)⟩
      | cons argument arguments =>
        refine (ensures_coerce known.fence (by simp [given])).bind ?_
        rintro v _ ⟨c, rfl, fenced⟩
        refine .liftBind (known.connectFenced (t := node.valueIn socket) [] fenced
          (by simp [into]) (by simp) (by simp)) fun _ c k => ?_
        refine (ih values arguments k (fun other member => ?_) (fun u member => ?_)).mono ?_
        · simpa using into other (List.mem_cons_of_mem _ member)
        · simpa using given u (List.mem_cons_of_mem _ member)
        · rintro _ _ ⟨c', rfl, k⟩
          exact ⟨c', rfl, k.weaken (by simp +contextual)⟩

end States

section Expressions

variable {e : Expression} {low : Below e.size}

theorem values_lowerFunction (valued : Below.Valued low) {op : Op}
    (computes : op.Computes op.schema.valuesIn) : Values (lowerFunction e low op) := by
  intro w facts exits s knows
  refine (gives_lowerAll valued (arguments e) _ knows).bind fun values? s k => ?_
  cases values? with
  | none => exact .pure k
  | some values =>
    dsimp only
    split
    · exact .liftBind (knows_note k) fun _ _ k => .pure (k.weaken (by simp +contextual))
    · refine .liftBind (k.known.enter.createNode computes) fun node _ inner => ?_
      refine (ensures_connectCoerced op.schema.valuesIn values (arguments e) inner
        (by simp +contextual) (by simp +contextual)).bind ?_
      rintro _ _ ⟨c, rfl, inner⟩
      exact .pure (k.advance (k.known.leave inner (by simp +contextual [or_imp])))

theorem values_lowerDistance (valued : Below.Valued low) : Values (lowerDistance e low) := by
  intro w facts exits s knows
  refine (gives_lowerAll valued (arguments e) _ knows).bind fun values? s k => ?_
  cases values? with
  | none => exact .pure k
  | some values =>
    dsimp only
    split
    · refine .liftBind (k.known.binary (by decide) (by simp) (by simp)) fun offset _ k' => ?_
      have k := k.gain [.out offset] k' (by simp +contextual [or_imp])
      exact .liftBind (k.known.unary (by decide) (by simp)) fun _ _ k' =>
        .pure (k.advance (k'.weaken (by simp +contextual [or_imp])))
    · exact .liftBind (knows_note k) fun _ _ k => .pure (k.weaken (by simp +contextual))

theorem gives_coerceAll (values : List ValueOut) (arguments : List Expression) {w : Scope}
    {facts : List Fact} {exits : List FlowOut} {s : Lowering} (knows : s.Knows w facts exits)
    (given : ∀ v ∈ values, .out v ∈ facts) :
    Ensures (coerceAll values arguments) s fun parts s' =>
      s'.Knows w (parts.map .out ++ facts) exits := by
  induction values generalizing s facts arguments with
  | nil => exact .pure knows
  | cons value values ih =>
    cases arguments with
    | nil => exact .pure knows
    | cons argument arguments =>
      refine (gives_coerce knows (by simp [given])).bind fun part _ k => ?_
      refine (ih arguments k fun v member => ?_).bind fun parts _ k =>
        .pure (k.weaken (by simp +contextual [or_imp]))
      exact List.mem_cons_of_mem _ (given v (List.mem_cons_of_mem _ member))

theorem values_lowerVector (valued : Below.Valued low) (count : Nat) : Values (lowerVector e low count) := by
  intro w facts exits s knows
  refine (gives_lowerAll valued (arguments e) _ knows).bind fun values? s k => ?_
  cases values? with
  | none => exact .pure k
  | some values =>
    dsimp only
    split
    · exact .pure k
    · split
      · refine (gives_coerceAll _ (arguments e) k (by simp +contextual)).bind fun parts s k => ?_
        exact .lift ((k.known.combine? (by simp +contextual)).mono fun _ _ k' =>
          k.advance (k'.weaken (by simp +contextual [or_imp])))
      · exact .liftBind (knows_note k) fun _ _ k => .pure (k.weaken (by simp +contextual))

theorem values_lowerFirst (valued : Below.Valued low) : Values (lowerFirst e low) := by
  unfold lowerFirst
  split
  · exact fun _ _ _ _ knows => .pure knows
  · exact valued _ _

theorem values_lowerSecond (valued : Below.Valued low) : Values (lowerSecond e low) := by
  unfold lowerSecond
  split
  · exact valued _ _
  · exact fun _ _ _ _ knows => .pure knows

theorem values_lowerPureMethod (valued : Below.Valued low) {symbol : MethodSymbol} {method : HostMethod}
    (found : HostMethod.recognize? symbol = some method) : Values (lowerPureMethod e low method) := by
  unfold lowerPureMethod
  split
  · exact values_lowerFunction valued (HostMethod.computes_of_recognize? found)
  · exact values_lowerDistance valued
  · intro w facts exits s knows
    refine (values_lowerVector valued 3 knows).bind fun euler? s k => ?_
    cases euler? with
    | none => exact .pure k
    | some euler =>
      dsimp only
      exact .liftBind (k.known.fromEulerDegrees (by simp)) fun _ _ k' => .pure (k.replace k')
  · intro w facts exits s knows
    refine (values_lowerFirst valued knows).bind fun rotation? s k => ?_
    cases rotation? with
    | none => exact .pure k
    | some rotation =>
      dsimp only
      exact .liftBind (k.known.invert (by simp)) fun _ _ k' => .pure (k.replace k')
  · exact fun _ _ _ _ knows => .pure knows

/-- In any scope, the step is entered at one place and left at another. -/
def Acts (step : Lower (Option Step)) : Prop :=
  ∀ ⦃w : Scope⦄ ⦃facts : List Fact⦄ ⦃exits : List FlowOut⦄ ⦃s : Lowering⦄, s.Knows w facts exits →
    Ensures step s fun ends? s' =>
      s'.Knows w (ends?.toList.map (.entry ·.1) ++ facts) (ends?.toList.map (·.2) ++ exits)

theorem acts_lowerDelay (valued : Below.Valued low) : Acts (lowerDelay e low) := by
  intro w facts exits s knows
  unfold lowerDelay
  split
  · exact .liftBind (knows_note knows) fun _ _ k => .pure k
  · refine (valued _ _ knows).bind fun duration? s k => ?_
    cases duration? with
    | none => exact .pure k
    | some duration =>
      refine .liftBind k.known.enter.delayMilliseconds fun delay _ inner => ?_
      refine .liftBind (inner.connect (t := delay.duration) (by simp +contextual) (by simp))
        fun _ _ inner => ?_
      exact .pure (k.advance (k.known.leave inner (by simp +contextual [or_imp])))

/-- A change of an object, its target still to be fed. -/
def Changes (action : Build Pattern.TransformAction) (operand : ValueOut) : Prop :=
  ∀ ⦃w : Scope⦄ ⦃facts : List Fact⦄ ⦃exits : List FlowOut⦄ ⦃c : Context⦄, Known w facts exits c →
    .out operand ∈ facts →
      Ensures action c fun action c' => Known w (action.facts ++ facts) (action.flowOut :: exits) c'

theorem ensures_lowerAction (valued : Below.Valued low) {action : Build Pattern.TransformAction}
    {operand : ValueOut} (changes : Changes action operand) {w : Scope} {facts : List Fact}
    {exits : List FlowOut} {s : Lowering} (knows : s.Knows w (.out operand :: facts) exits) :
    Ensures (lowerAction e low action) s fun ends? s' =>
      s'.Knows w (ends?.toList.map (.entry ·.1) ++ facts) (ends?.toList.map (·.2) ++ exits) := by
  refine (gives_lowerReceiver valued knows).bind fun object s k => ?_
  refine .liftBind (changes k.known.enter (by simp)) fun action _ inner => ?_
  refine .liftBind (inner.connect (t := action.target) (by simp +contextual) (by simp))
    fun _ _ inner => ?_
  exact .pure (k.advance (k.known.leave inner (by simp +contextual [or_imp])))

theorem acts_lowerSetActive (valued : Below.Valued low) : Acts (lowerSetActive e low) := by
  intro w facts exits s knows
  refine (values_lowerFirst valued knows).bind fun value? s k => ?_
  cases value? with
  | none => exact .pure k
  | some value =>
    refine (gives_lowerReceiver valued k).bind fun object s k => ?_
    refine .liftBind k.known.enter.activeSet fun write _ inner => ?_
    refine .liftBind (inner.connect (t := write.target) (by simp +contextual) (by simp))
      fun _ _ inner => ?_
    refine .liftBind (inner.connect (t := write.value) (by simp +contextual) (by simp))
      fun _ _ inner => ?_
    exact .pure (k.advance (k.known.leave inner (by simp +contextual [or_imp])))

theorem values_lowerLookTarget (valued : Below.Valued low) : Values (lowerLookTarget e low) := by
  intro w facts exits s knows
  unfold lowerLookTarget
  split
  · exact .pure knows
  · dsimp only
    split
    · refine (gives_lowerObject valued _ _ knows).bind fun object s k => ?_
      refine .liftBind k.known.enter.worldPositionGet fun read _ inner => ?_
      refine .liftBind (inner.connect (t := read.target) (by simp +contextual) (by simp))
        fun _ _ inner => ?_
      exact .pure (k.advance (k.known.leave inner (by simp +contextual [or_imp])))
    · exact valued _ _ knows

theorem acts_lowerSetPositionAndRotation (valued : Below.Valued low) :
    Acts (lowerSetPositionAndRotation e low) := by
  intro w facts exits s knows
  refine (values_lowerFirst valued knows).bind fun position? s k => ?_
  refine (values_lowerSecond valued k).bind fun rotation? s k => ?_
  split
  · next position rotation =>
    refine (gives_lowerReceiver valued k).bind fun object s k => ?_
    refine .liftBind k.known.enter.worldPositionSet fun moving _ inner => ?_
    refine .liftBind inner.worldRotationSet fun turning _ inner => ?_
    refine .liftBind (inner.connect (t := .link [moving.target, turning.target])
      (by simp +contextual [or_imp]) (by simp)) fun _ _ inner => ?_
    refine .liftBind (inner.connect (t := moving.value) (by simp +contextual) (by simp))
      fun _ _ inner => ?_
    refine .liftBind (inner.connect (t := turning.value) (by simp +contextual) (by simp))
      fun _ _ inner => ?_
    refine .liftBind (inner.connectFlow (.swap ..) (by simp)) fun _ _ inner => ?_
    exact .pure (k.advance (k.known.leave inner (by simp +contextual [or_imp])))
  · exact .pure (k.weaken (by simp +contextual))

/-- A step of a list whose arguments are known. -/
theorem ensures_listStep {method : HostMethod} {values : List ValueOut} {step : Pattern.ListBuild Step}
    (found : listStep? method values = some step) {w : Scope} {facts : List Fact} {exits : List FlowOut}
    {c : Context} {l : BoundedList} (known : Known w facts exits c) (ready : l.Ready facts)
    (given : ∀ v ∈ values, .out v ∈ facts) :
    Ensures (step.run l) c fun r c' =>
      Known w (.entry r.1.1 :: (r.2.facts ++ facts)) (r.1.2 :: exits) c' ∧ r.2.Even := by
  unfold listStep? at found
  split at found
  · cases found
    refine .listBind (known.enter.addItem ready.enter) fun ⟨add, l'⟩ _ ⟨inner, even⟩ => ?_
    refine .listLift (inner.connect (t := add.value) (by simp +contextual) (by simp [given]))
      fun _ _ inner => .listPure ⟨?_, even⟩
    exact known.leaveList (l := l') [.entry add.flowIn] inner (by simp)
      fun f own => mem_fed_of_isShared (BoundedList.isShared_of_mem own) (by simp [own])
  · cases found
    refine .listBind (known.enter.insertItem ready.enter) fun ⟨insert, l'⟩ _ ⟨inner, even⟩ => ?_
    refine .listLift (inner.connect (t := insert.index) (by simp +contextual) (by simp [given]))
      fun _ _ inner => ?_
    refine .listLift (inner.connect (t := insert.value) (by simp +contextual) (by simp [given]))
      fun _ _ inner => .listPure ⟨?_, even⟩
    exact known.leaveList (l := l') [.entry insert.flowIn] inner (by simp)
      fun f own => mem_fed_of_isShared (BoundedList.isShared_of_mem own)
        (mem_fed_of_isShared (BoundedList.isShared_of_mem own) (by simp [own]))
  · cases found
    refine .listBind (known.enter.removeItem ready.enter) fun ⟨remove, l'⟩ _ ⟨inner, even⟩ => ?_
    refine .listLift (inner.connect (t := remove.index) (by simp +contextual) (by simp [given]))
      fun _ _ inner => .listPure ⟨?_, even⟩
    exact known.leaveList (l := l') [.entry remove.flowIn] inner (by simp)
      fun f own => mem_fed_of_isShared (BoundedList.isShared_of_mem own) (by simp [own])
  · cases found
    exact known.clear ready
  · cases found

theorem acts_lowerListCall (valued : Below.Valued low) (method : HostMethod) :
    Acts (lowerListCall e low method) := by
  intro w facts exits s knows
  unfold lowerListCall
  dsimp only
  split
  · refine ensures_listName?.bind ?_
    rintro name? _ rfl
    cases name? with
    | none => exact .liftBind (knows_note knows) fun _ _ k => .pure k
    | some name =>
      refine (gives_lowerAll valued (arguments e) _ knows).bind fun values? s k => ?_
      cases values? with
      | none => exact .pure k
      | some values =>
        dsimp only
        split
        · next step found =>
          refine (ensures_onList? (fun ends => [.entry ends.1]) (fun ends => [ends.2]) k
            fun l ready => ?_).mono fun ends? _ k => ?_
          · exact ensures_listStep found k.known ready (by simp +contextual)
          · cases ends? with
            | none => exact k.weaken (by simp +contextual)
            | some ends => exact k.weaken (by simp +contextual)
        · exact .liftBind (knows_note k) fun _ _ k => .pure (k.weaken (by simp +contextual))
  · exact .liftBind (knows_note knows) fun _ _ k => .pure k

theorem acts_lowerStepMethod (valued : Below.Valued low) (method : HostMethod) :
    Acts (lowerStepMethod e low method) := by
  intro w facts exits s knows
  unfold lowerStepMethod
  split
  · exact acts_lowerDelay valued knows
  · exact acts_lowerSetActive valued knows
  · exact (ensures_lowerLog valued _ knows).bind fun _ _ k => .pure k
  · refine (values_lowerVector valued 3 knows).bind fun offset? s k => ?_
    cases offset? with
    | none => exact .pure k
    | some offset => exact ensures_lowerAction valued (fun _ _ _ _ known given => known.translate given) k
  · refine (values_lowerVector valued 3 knows).bind fun euler? s k => ?_
    cases euler? with
    | none => exact .pure k
    | some euler =>
      refine ensures_lowerAction valued (fun _ _ _ _ known given => ?_) k
      refine (known.fromEulerDegrees given).bind fun rotation _ k => ?_
      exact (k.rotate (by simp)).mono fun _ _ k => k.weaken (by simp +contextual [or_imp])
  · refine (values_lowerLookTarget valued knows).bind fun point? s k => ?_
    cases point? with
    | none => exact .pure k
    | some point => exact ensures_lowerAction valued (fun _ _ _ _ known given => known.lookAt given) k
  · exact acts_lowerSetPositionAndRotation valued knows
  · exact .pure knows
  · exact .pure knows
  · exact .pure knows
  · exact .pure knows
  · exact acts_lowerListCall valued _ knows

/-- What a call leaves behind is known: its result, and the flow to go on with if it took one. -/
def Invokes (call : Option FlowOut → Lower Invocation) : Prop :=
  ∀ ⦃w : Scope⦄ ⦃facts : List Fact⦄ ⦃exits : List FlowOut⦄ ⦃s : Lowering⦄ (flow? : Option FlowOut),
    s.Knows w facts (flow?.toList ++ exits) →
      Ensures (call flow?) s fun result s' =>
        (flow?.isSome = result.flow.isSome) ∧
          s'.Knows w (result.value.toList.map .out ++ facts) (result.flow.toList ++ exits)

theorem invokes_lowerHostMethod (valued : Below.Valued low) {symbol : MethodSymbol} {method : HostMethod}
    (found : HostMethod.recognize? symbol = some method) :
    Invokes (lowerHostMethod e low symbol method) := by
  intro w facts exits s flow? knows
  unfold lowerHostMethod
  split
  · exact (values_lowerPureMethod valued found knows).bind fun _ _ k => .pure ⟨rfl, k⟩
  · cases flow? with
    | none => exact .liftBind (knows_note knows) fun _ _ k => .pure ⟨rfl, k⟩
    | some flow =>
      refine (acts_lowerStepMethod valued method knows).bind fun ends? s k => ?_
      cases ends? with
      | none => exact .pure ⟨rfl, k⟩
      | some ends =>
        refine .liftBind (k.known.connectFlow (.swap ..) (by simp)) fun _ _ k' => .pure ⟨rfl, ?_⟩
        exact k.advance (k'.weaken (by simp +contextual [or_imp]))

/-- Smaller expressions are bound to names; what they stand for is known. -/
theorem gives_bindArguments {bound : Nat} {low : Below bound} (valued : Below.Valued low) {w : Scope}
    {facts : List Fact} {exits : List FlowOut} {s : Lowering} (parameters : List Parameter)
    (es : List Expression) (small : ∀ e ∈ es, e.size < bound) (bindings : Dict ValueOut)
    (knows : s.Knows w (bindings.values.map .out ++ facts) exits) :
    Ensures (bindArguments low parameters es small bindings) s fun bindings s' =>
      s'.Knows w (bindings.values.map .out ++ facts) exits := by
  induction parameters generalizing es bindings s with
  | nil => exact .pure knows
  | cons parameter parameters ih =>
    cases es with
    | nil => exact .pure knows
    | cons e es =>
      refine (valued e _ knows).bind fun v? s k => ?_
      cases v? with
      | none => exact ih es _ bindings k
      | some v =>
        refine ih es _ _ (k.weaken fun f member => ?_)
        rcases List.mem_append.1 member with bound | old
        · obtain ⟨u, place, rfl⟩ := List.mem_map.1 bound
          rcases Dict.mem_values_insert place with rfl | older
          · simp
          · simp [older]
        · simp [old]

end Expressions

section Callees

variable {w : Scope} {facts : List Fact} {exits : List FlowOut} {s : Lowering}

theorem passes_copyParameters (written : List String) (all : Bool) (parameters : List Parameter) :
    Passes (copyParameters written all parameters) := by
  induction parameters with
  | nil => exact fun _ _ _ _ _ knows => .pure knows
  | cons parameter parameters ih =>
    intro w facts exits s flow knows
    refine ensures_frame?.bind ?_
    rintro frame _ ⟨rfl, rfl⟩
    split
    · next bound type found _ =>
      split
      · obtain ⟨frame, top, found⟩ := Option.bind_eq_some_iff.1 found
        have knows := knows.remembered (Lowering.out_mem_facts top found)
        refine (ensures_declareLocal knows).bind fun id s k => ?_
        refine (ensures_storeVariable k (by simp) (by simp)).bind fun next s k => ?_
        exact ih next (k.weaken (by simp +contextual))
      · exact ih flow knows
    · exact ih flow knows

theorem ensures_declareResult (callee : Method) (knows : s.Knows w facts exits) :
    Ensures (declareResult callee) s fun id? s' => s'.Knows w (id?.toList.map .row ++ facts) exits := by
  unfold declareResult
  split
  · exact .pure knows
  · exact .liftBind knows.known.declareVariable fun _ _ k => .pure (knows.add k)

/-- A node that waits for two flows. -/
theorem known_wait {node : NodeId} {c c' : Context} (known : Known w facts exits c)
    (drafts : c.Drafts node ((Node.new node .flowWaitAll).configure "inputFlows" (.int 2)) c') :
    Known w (.entry (node.flowIn "0") :: .entry (node.flowIn "1") :: facts)
      (node.flowOut "out" :: exits) c' := by
  refine (known.placed .flowWaitAll drafts (Node.unwired_of_new node rfl rfl (fun _ => rfl) rfl rfl)
    (.inr fun _ => ?_) (by decide : ∀ socket ∈ [], _) (by simp : ∀ socket ∈ [], _)
    (by decide : ∀ socket ∈ ["0", "1"], _) (by decide : List.Nodup ["out"])
    (by decide)).weaken (by simp +contextual)
  refine Node.finished_of ((Node.lacks_new node .flowWaitAll).configure "inputFlows" _)
    (fun _ socket output found => ?_) (by simp [Node.new, Node.configure])
  obtain ⟨type, member, rfl⟩ := Node.find?_valuesOut_new node found
  simp only [Op.schema, List.mem_singleton, Prod.mk.injEq] at member
  simp [member.2, OutputType.expected]

theorem ensures_continueAfter {sequence : NodeId} (tails : List FlowOut)
    (knows : s.Knows w facts (tails ++ sequence.flowOut "1" :: exits)) :
    Ensures (continueAfter sequence tails) s fun flow s' => s'.Knows w facts (flow :: exits) := by
  unfold continueAfter
  split
  · next empty =>
    rw [List.isEmpty_iff.1 empty] at knows
    exact .pure knows
  · refine .liftBind (Context.drafts_createNode s.context .flowWaitAll) fun wait _ d => ?_
    refine .liftBind (d.configure "inputFlows" (.int 2)) fun _ c d => ?_
    have k : ({ s with context := c } : Lowering).Knows w
        (.entry (wait.flowIn "0") :: .entry (wait.flowIn "1") :: facts)
        (tails ++ sequence.flowOut "1" :: wait.flowOut "out" :: exits) := by
      have last : ((tails ++ [sequence.flowOut "1"]) ++ wait.flowOut "out" :: exits).Perm
          (wait.flowOut "out" :: ((tails ++ [sequence.flowOut "1"]) ++ exits)) := List.perm_middle
      have waiting := (known_wait knows.known d).drop (.refl _) (by simpa using last)
      exact knows.advance (waiting.weaken (by simp +contextual [or_imp]))
    refine (ensures_connectFlows tails k (by simp)).bind fun _ s k => ?_
    refine .liftBind (k.known.connectFlow (.refl _) (by simp)) fun _ _ k' => .pure ?_
    exact k.advance (k'.weaken (by simp +contextual [or_imp]))

/-- The bodies of methods can be lowered anywhere. -/
structure Reliable (inliner : Inliner) : Prop where
  block : ∀ active body, Continues (inliner.block active body) (fun _ => []) Exits.tails
  value : ∀ active e, Values (inliner.value active e)

variable {inliner : Inliner} {e : Expression} {low : Below e.size}

theorem invokes_lowerCallee (reliable : Reliable inliner) (valued : Below.Valued low)
    (active : List String) (callee : Method) :
    Invokes (lowerCallee inliner active e low callee) := by
  intro w facts exits s flow? knows
  refine .getBind ?_
  dsimp only
  split
  · exact .liftBind (knows_note knows) fun _ _ k => .pure ⟨rfl, k⟩
  · refine (gives_bindArguments valued callee.parameters (arguments e) _ Dict.empty knows).bind
      fun bindings s k => ?_
    cases flow? with
    | none =>
      rcases callee.returned? with _ | body
      · exact .liftBind (knows_note k) fun _ _ k => .pure ⟨rfl, k.weaken (by simp +contextual)⟩
      · refine (ensures_inCallee k ?_ fun s k => reliable.value _ body k).bind fun v? s k =>
          .pure ⟨rfl, k.weaken (by simp +contextual [or_imp])⟩
        simp +contextual [Frame.facts]
    | some flow =>
      refine (ensures_declareResult callee k).bind fun result s k => ?_
      refine .liftBind (k.known.createNode (by decide : Op.flowSequence.Has [] [] ["in"] ["0", "1"]))
        fun sequence _ k' => ?_
      refine .liftBind (k'.connectFlow (perm_third ..) (by simp)) fun _ c k' => ?_
      have k : ({ s with context := c } : Lowering).Knows w
          (result.toList.map .row ++ (bindings.values.map .out ++ facts))
          (sequence.flowOut "0" :: sequence.flowOut "1" :: exits) := k.advance (k'.weaken (by simp +contextual))
      refine (ensures_inCallee k (by simp +contextual [Frame.facts, or_imp]) (fun s k =>
        ((passes_copyParameters _ true callee.parameters _ k).bind fun entry s k =>
          reliable.block _ callee.body entry k : Ensures _ s fun (ends : Exits) s' => s'.Knows w
            (result.toList.map .row ++ (bindings.values.map .out ++ facts))
            (ends.tails ++ sequence.flowOut "1" :: exits)))).bind fun ends s k => ?_
      · refine (ensures_continueAfter ends.tails k).bind fun next s k => ?_
        cases result with
        | none => exact .pure ⟨rfl, k.weaken (by simp +contextual)⟩
        | some id =>
          exact .liftBind (k.known.getVariable (by simp)) fun _ _ k' =>
            .pure ⟨rfl, k.advance (k'.weaken (by simp +contextual [or_imp]))⟩

theorem invokes_lowerInvocation (reliable : Reliable inliner) (valued : Below.Valued low)
    (c : ScriptClass) (active : List String) : Invokes (lowerInvocation c inliner active e low) := by
  intro w facts exits s flow? knows
  unfold lowerInvocation
  rcases e.method with _ | symbol
  · exact .liftBind (knows_note knows) fun _ _ k => .pure ⟨rfl, k⟩
  · dsimp only
    rcases found : HostMethod.recognize? symbol with _ | method
    · rcases c.callee? e with _ | callee
      · exact .liftBind (knows_note knows) fun _ _ k => .pure ⟨rfl, k⟩
      · exact invokes_lowerCallee reliable valued active callee flow? knows
    · exact invokes_lowerHostMethod valued found flow? knows

end Callees

end Lower

end ScriptGraph
