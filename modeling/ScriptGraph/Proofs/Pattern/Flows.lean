import ScriptGraph.Pattern.Flow
import ScriptGraph.Proofs.Pattern.Values

/-!
What is known after the patterns of flows: loops, waits and delays.

The outputs behind the tick event that nobody has taken yet are kept: they lead nowhere, and no builder
but the chain itself may lead them on.
-/

namespace ScriptGraph

open Pattern (TickChain)

namespace Pattern.TickChain

/-- The outputs of a chain that nobody has taken yet: the one of the event, or those of the sequence that have
a numeral other than the ones handed out. -/
def Reserves (t : TickChain) (f : FlowOut) : Prop :=
  match t.sequence with
  | none => f = t.event.flowOut "out"
  | some sequence => ∃ socket, Validation.isNumeral socket = true ∧
      (∀ k < t.nextOutput, socket ≠ toString k) ∧ f = sequence.flowOut socket

/-- The times that a tick event gives. -/
@[simp] def times (t : TickChain) : List Fact :=
  [.out (t.event.valueOut "timeSinceStart"), .out (t.event.valueOut "timeSinceLastTick")]

/-- The times of a chain are known. -/
def Timed (tick : Option TickChain) (facts : List Fact) : Prop :=
  ∀ t, tick = some t → ∀ fact ∈ t.times, fact ∈ facts

theorem Timed.mono {tick : Option TickChain} {facts facts' : List Fact} (timed : Timed tick facts)
    (within : ∀ v, .out v ∈ facts → .out v ∈ facts') : Timed tick facts' := by
  intro t same fact member
  have old := timed t same fact member
  simp only [times, List.mem_cons, List.not_mem_nil, or_false] at member
  rcases member with rfl | rfl
  · exact within _ old
  · exact within _ old

end Pattern.TickChain

/-- A scope that keeps what a chain reserves. -/
def Scope.ticking (w : Scope) (tick : Option TickChain) : Scope :=
  { w with kept := fun f => ∃ t, tick = some t ∧ t.Reserves f }

theorem perm_third {α : Type} (a b f : α) (rest : List α) :
    (a :: b :: f :: rest).Perm (f :: a :: b :: rest) :=
  ((List.Perm.swap f b rest).cons a).trans (.swap ..)

theorem perm_fourth {α : Type} (a b c f : α) (rest : List α) :
    (a :: b :: c :: f :: rest).Perm (f :: a :: b :: c :: rest) :=
  ((perm_third b c f rest).cons a).trans (.swap ..)

theorem toString_inj {m n : Nat} (same : toString m = toString n) : m = n := by
  have digits : Nat.toDigits 10 m = Nat.toDigits 10 n := by
    rw [← Nat.toList_repr, ← Nat.toList_repr]
    exact congrArg String.toList same
  rw [← Nat.ofDigitChars_ten_toDigits (n := m), digits, Nat.ofDigitChars_ten_toDigits]

namespace Known

variable {w : Scope} {facts : List Fact} {exits : List FlowOut} {c c' : Context}

theorem forLoop {initialIndex : Int32} (known : Known w facts exits c) :
    Ensures (Pattern.forLoop initialIndex) c fun loop c' =>
      Known w (.out loop.index :: .entry loop.flowIn ::
        (loop.start.sockets.map .input ++ loop.stop.sockets.map .input) ++ facts)
        (loop.loopBody :: loop.completed :: exits) c' := by
  refine (Context.drafts_createNode c .flowFor).bind fun node _ d => ?_
  refine (d.configure "initialIndex" (.int initialIndex)).bind fun _ _ d => .pure ?_
  refine (known.placed .flowFor d (Node.unwired_of_new node rfl rfl (fun _ => rfl) rfl rfl)
    (.inr fun _ => ?_) (by decide : ∀ socket ∈ ["index"], _)
    (fun _ member => Node.takes_of_schema (List.contains_iff_mem.2 member) :
      ∀ socket ∈ Op.flowFor.schema.valuesIn, _) (by decide : ∀ socket ∈ ["in"], _)
    (by decide : List.Nodup ["loopBody", "completed"]) (by decide)).weaken
      (by simp +contextual [or_imp, Op.schema])
  refine Node.finished_of ((Node.lacks_new node .flowFor).configure "initialIndex" _)
    (fun _ socket output found => ?_) (by simp [Node.new, Node.configure])
  obtain ⟨type, member, rfl⟩ := Node.find?_valuesOut_new node found
  simp only [Op.schema, List.mem_singleton, Prod.mk.injEq] at member
  simp [member.2, OutputType.expected]

theorem steppedFor (known : Known w facts exits c) :
    Ensures Pattern.steppedFor c fun loop c' =>
      ∃ (node : NodeId) (kinds : List Fact), loop.step = node.valueIn "b" ∧
        (∀ a ∈ loop.start.sockets ++ loop.stop.sockets, ∃ op, .node a.node op ∈ kinds ∧ op ≠ .mathAdd) ∧
        Known w (.out loop.index :: .entry loop.flowIn :: .entry loop.nextStep :: .row loop.counter ::
          .node node .mathAdd :: .input ⟨node, "b"⟩ :: .blank ⟨node, "b"⟩ ::
          (loop.start.sockets.map .input ++ loop.stop.sockets.map .input ++ kinds) ++ facts)
          (loop.loopBody :: loop.completed :: exits) c' := by
  refine known.enter.uniqueName.bind fun name _ k => ?_
  refine k.declareVariable.bind fun counter _ k => ?_
  refine (k.setVariable (by simp)).bind fun first _ ⟨same, k⟩ => ?_
  rw [same] at k ⊢
  refine (k.createNode (by decide : Op.flowBranch.Has [] ["condition"] ["in"] ["true", "false"])).bind
    fun branch _ k => ?_
  refine (k.connectFlow (perm_third ..) (by simp)).bind fun _ _ k => ?_
  refine (k.getVariable (by simp)).bind fun index _ k => ?_
  refine (k.enter.createNode (by decide : Op.mathLe.Computes ["a", "b"])).bind fun direction _ inner => ?_
  refine (inner.createNode (by decide : Op.mathLt.Computes ["a", "b"])).bind fun below _ inner => ?_
  refine (inner.createNode (by decide : Op.mathGt.Computes ["a", "b"])).bind fun above _ inner => ?_
  refine (inner.connect (t := below.valueIn "a") (by simp) (by simp)).bind fun _ _ inner => ?_
  refine (inner.connect (t := above.valueIn "a") (by simp) (by simp)).bind fun _ _ inner => ?_
  refine (inner.select (by simp) (by simp) (by simp)).bind fun condition _ inner => ?_
  have k := k.leaveAdding [.out condition, .input ⟨direction, "a"⟩, .input ⟨direction, "b"⟩,
    .input ⟨below, "b"⟩, .input ⟨above, "b"⟩, .node direction .mathLe, .node below .mathLt,
    .node above .mathGt] inner (by simp)
  refine (k.connectSink .flowBranch (by simp) rfl (by simp) (by simp)).bind fun _ _ k => ?_
  refine (k.enter.createNode (by decide : Op.mathAdd.Computes ["a", "b"])).bind fun step _ inner => ?_
  refine (inner.connect (t := step.valueIn "a") (by simp) (by simp)).bind fun _ _ inner => ?_
  have k := k.leaveAdding [.out (step.valueOut "value"), .input ⟨step, "b"⟩, .blank ⟨step, "b"⟩,
    .node step .mathAdd] inner (by simp)
  refine (k.setVariableFrom (by simp) (by simp)).bind fun advance _ k => ?_
  refine (k.connectFlow (.refl _) (by simp)).bind fun _ _ k => .pure ?_
  refine ⟨step, [.node first.node .variableSet, .node direction .mathLe, .node below .mathLt,
    .node above .mathGt], rfl, ?_, known.leave k (by simp +contextual [or_imp, forall_and])⟩
  intro a member
  simp only [List.mem_append, ValueIn.mem_link, List.mem_cons, List.not_mem_nil, or_false,
    exists_eq_or_imp, exists_eq_left, NodeId.sockets_valueIn] at member
  rcases member with (rfl | rfl) | rfl | rfl | rfl
  · exact ⟨.variableSet, by simp, by decide⟩
  · exact ⟨.mathLe, by simp, by decide⟩
  · exact ⟨.mathLe, by simp, by decide⟩
  · exact ⟨.mathLt, by simp, by decide⟩
  · exact ⟨.mathGt, by simp, by decide⟩

theorem steppedWhile (known : Known w facts exits c) :
    Ensures Pattern.steppedWhile c fun loop c' =>
      ∃ node, loop.condition = node.valueIn "condition" ∧
        Known w (.node node .flowWhile :: .input ⟨node, "condition"⟩ :: .entry loop.flowIn :: facts)
          (loop.body :: loop.step :: loop.completed :: exits) c' := by
  refine (known.createNode
    (by decide : Op.flowWhile.Has [] ["condition"] ["in"] ["loopBody", "completed"])).bind
    fun node _ k => ?_
  refine (k.createNode (by decide : Op.flowSequence.Has [] [] ["in"] ["0", "1"])).bind
    fun sequence _ k => ?_
  refine (k.connectFlow (perm_third ..) (by simp)).bind fun _ _ k => .pure ⟨node, rfl, ?_⟩
  exact k.weaken (by simp +contextual)

/-- Leaves a scope of its own in which the chain may have changed. -/
theorem leaveTicking {tick tick' : Option TickChain} {facts' inner : List Fact} {exits' : List FlowOut}
    (known : Known (w.ticking tick) facts exits c)
    (inside : Known ((w.enter c).ticking tick') inner exits' c')
    (within : ∀ f ∈ facts', f ∈ facts ∨ (f ∈ inner ∧ f.lasts = true)) : Known (w.ticking tick') facts' exits' c' :=
  have left := known.leaveWith inside rfl rfl (fun _ source => source) rfl within
  left

theorem getOrNew {tick : Option TickChain} (known : Known (w.ticking tick) facts exits c)
    (timed : TickChain.Timed tick facts) :
    Ensures (TickChain.getOrNew tick) c fun chain c' =>
      Known (w.ticking (some chain)) (chain.times ++ facts) exits c' := by
  cases tick with
  | some t => exact .pure (known.weaken fun f member =>
      (List.mem_append.1 member).elim (timed t rfl f) fun old => old)
  | none =>
    refine (Context.drafts_createNode c .eventOnTick).bind fun event _ d => .pure ?_
    have made := known.placedKeeping .eventOnTick d (Node.unwired_new event _)
      (.inr fun _ => Node.finished_new rfl)
      (by decide : ∀ socket ∈ ["timeSinceStart", "timeSinceLastTick"], _) (by simp : ∀ socket ∈ [], _)
      (by decide : ∀ socket ∈ [], _) (by decide : List.Nodup []) (by simp) (· = "out")
      (by rintro _ rfl; exact ⟨by decide, by simp⟩)
    refine (made.keepOnly (?_ : ∀ f, (w.ticking (some ⟨event, none, 0⟩)).kept f → _)).weaken (by simp +contextual)

    rintro f ⟨t, same, reserved⟩
    cases same
    exact .inl ⟨"out", rfl, reserved⟩

/-- The sequence behind the tick event. -/
theorem getSequence {t : TickChain} (known : Known (w.ticking (some t)) facts exits c) :
    Ensures t.getSequence c fun sequence c' =>
      Known (w.ticking (some { t with sequence := some sequence })) facts exits c' := by
  obtain ⟨event, sequence?, next⟩ := t
  cases sequence? with
  | some sequence => exact .pure known
  | none =>
    refine known.createSequence.bind fun sequence _ k => ?_
    have k := k.release (f := event.flowOut "out") (.inr ⟨_, rfl, rfl⟩)
    refine (k.connectFlow (.refl _) (by simp)).bind fun _ _ k => .pure ?_
    refine (k.keepOnly (?_ : ∀ f, (w.ticking (some ⟨event, some sequence, next⟩)).kept f → _)).weaken
      (by simp +contextual)
    rintro f ⟨t, same, reserved⟩
    cases same
    obtain ⟨socket, numeral, _, rfl⟩ := reserved
    refine ⟨.inl ⟨socket, numeral, rfl⟩, fun equal => ?_⟩
    rw [show socket = "out" from congrArg (·.address.socket) equal] at numeral
    revert numeral
    decide

/-- The next output behind the tick event. -/
theorem nextFlow {t : TickChain} (known : Known (w.ticking (some t)) facts exits c) :
    Ensures t.nextFlow c fun taken c' =>
      taken.2.event = t.event ∧
        Known (w.ticking (some taken.2)) facts (taken.1 :: exits) c' := by
  refine known.getSequence.bind fun sequence _ k => .pure ⟨rfl, ?_⟩
  refine (k.release (f := sequence.flowOut (toString t.nextOutput))
    ⟨_, rfl, toString t.nextOutput, Validation.isNumeral_toString _,
      fun k below same => Nat.ne_of_lt below (toString_inj same).symm, rfl⟩).keepOnly ?_
  rintro f ⟨_, same, reserved⟩
  cases same
  obtain ⟨socket, numeral, later, rfl⟩ := reserved
  refine ⟨⟨_, rfl, socket, numeral, fun k below => later k (Nat.lt_succ_of_lt below), rfl⟩, fun equal => ?_⟩
  exact later t.nextOutput (Nat.lt_succ_self _) (NodeId.flowOut_inj.1 equal)

/-- A wait, its condition still to be fed. -/
theorem waitUntil {tick : Option TickChain} (known : Known (w.ticking tick) facts exits c)
    (timed : TickChain.Timed tick facts) :
    Ensures (Pattern.waitUntil tick) c fun result c' =>
      ∃ check, result.1.condition = check.valueIn "condition" ∧
        Known (w.ticking (some result.2))
          (.node check .flowBranch :: .input ⟨check, "condition"⟩ :: .entry result.1.flowIn ::
            result.2.times ++ facts) (result.1.flowOut :: exits) c' := by
  have entered : Known ((w.enter c).ticking tick) (ScriptGraph.enter facts) exits c := known.enter
  refine entered.uniqueName.bind fun name _ k => ?_
  refine k.declareVariable.bind fun pending _ k => ?_
  refine (k.setVariableStatic (by simp)).bind fun arm _ k => ?_
  refine (k.createNode (by decide : Op.flowBranch.Has [] ["condition"] ["in"] ["true", "false"])).bind
    fun check _ k => ?_
  refine (k.connectFlow (perm_third ..) (by simp)).bind fun _ _ k => ?_
  refine (k.setVariableStatic (by simp)).bind fun disarm _ k => ?_
  refine (k.connectFlow (.swap ..) (by simp)).bind fun _ _ k => ?_
  refine (k.getOrNew (timed.mono (by simp +contextual))).bind fun chain _ k => ?_
  refine k.nextFlow.bind fun taken _ ⟨event, k⟩ => ?_
  refine (k.createNode (by decide : Op.flowBranch.Has [] ["condition"] ["in"] ["true"])).bind
    fun gate _ k => ?_
  refine (k.getVariable (by simp)).bind fun isPending _ k => ?_
  refine (k.connectSink .flowBranch (by simp) rfl (by simp) (by simp)).bind fun _ _ k => ?_
  refine (k.connectFlow (.swap ..) (by simp)).bind fun _ _ k => ?_
  refine (k.connectFlow (.refl _) (by simp)).bind fun _ _ k => .pure ⟨check, rfl, ?_⟩
  have k := k.drop (.cons_cons _ (List.sublist_cons_self _ _)) (.refl _)
  have same : taken.2.times = chain.times := by rw [TickChain.times, event]; rfl
  rw [same]
  exact known.leaveTicking k (by simp +contextual)

theorem waitWhile {tick : Option TickChain} (known : Known (w.ticking tick) facts exits c)
    (timed : TickChain.Timed tick facts) :
    Ensures (Pattern.waitWhile tick) c fun result c' =>
      Known (w.ticking (some result.2))
        (.entry result.1.flowIn :: result.1.condition.sockets.map .input ++ result.2.times ++ facts)
        (result.1.flowOut :: exits) c' := by
  have entered : Known ((w.enter c).ticking tick) (ScriptGraph.enter facts) exits c := known.enter
  refine (entered.waitUntil (timed.mono (by simp))).bind fun result _ ⟨check, condition, k⟩ => ?_
  refine (k.createNode (by decide : Op.mathNot.Computes ["a"])).bind fun negation _ k => ?_
  simp only [condition]
  refine (k.connectSink .flowBranch (by simp) rfl (by simp) (by simp)).bind fun _ _ k => .pure ?_
  exact known.leaveTicking k (by simp +contextual)

theorem delaySeconds (known : Known w facts exits c) :
    Ensures Pattern.delaySeconds c fun delay c' =>
      Known w (.entry delay.flowIn :: delay.duration.sockets.map .input ++ facts)
        (delay.done :: exits) c' := by
  refine (known.createNode (by decide : Op.flowSetDelay.Has [] ["duration"] ["in"] ["done"])).bind
    fun node _ k => .pure ?_
  exact k.weaken (by simp +contextual)

/-- A delay, its duration still to be fed. The scale comes after the delay that it feeds, and the
conversion after the scale. -/
theorem delayMilliseconds {integral : Bool} (known : Known w facts exits c) :
    Ensures (Pattern.delayMilliseconds integral) c fun delay c' =>
      Known w (.entry delay.flowIn :: delay.duration.sockets.map .input ++ facts)
        (delay.done :: exits) c' := by
  refine known.enter.delaySeconds.bind fun delay _ k => ?_
  refine (k.fence.createNode (by decide : Op.mathDiv.Computes ["a", "b"])).bind fun scale _ fenced => ?_
  refine (fenced.setLiteral (by simp)).bind fun _ _ fenced => ?_
  refine (k.connectFenced [.input ⟨scale, "a"⟩] fenced (by simp) (by simp) (by simp)).bind
    fun _ _ k => ?_
  cases integral with
  | true =>
    refine (k.fence.createNode (by decide : Op.typeIntToFloat.Computes ["a"])).bind
      fun convert _ fenced => ?_
    refine (k.connectFenced (t := scale.valueIn "a") [.input ⟨convert, "a"⟩] fenced (by simp)
      (by simp) (by simp)).bind fun _ _ k => .pure ?_
    exact known.leave k (by simp +contextual)
  | false => exact .pure (known.leave k (by simp +contextual))

end Known

end ScriptGraph
