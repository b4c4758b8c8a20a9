import ScriptGraph.Pattern.BoundedList
import ScriptGraph.Proofs.Pattern.Flows

/-!
What is known after the patterns of lists.

A list shares nodes between its uses: reads of its slots and of its count, and the switch behind its
writes. The switch of a read gets all of its inputs before another node is made, the switch of a write
gets its ports one by one, with the writes behind them.
-/

namespace ScriptGraph

open Pattern (BoundedList)

namespace Pattern.BoundedList

/-- What is known of the variables and the shared nodes of a list. -/
def facts (l : BoundedList) : List Fact :=
  (l.count :: l.capacityId :: l.currentIndex :: l.valueToSet :: l.cursor :: l.slots).map .row ++
    (l.countRead.toList ++ l.slotReads).map .out ++
    l.writeSwitch.toList.map fun switch => .entry (switch.flowIn "in")

/-- Every slot is read, or none is. -/
def Even (l : BoundedList) : Prop := l.slotReads ≠ [] → l.slotReads.length = l.slots.length

/-- The variables and the shared nodes of a list are known. -/
structure Ready (l : BoundedList) (facts : List Fact) : Prop where
  known : ∀ f ∈ l.facts, f ∈ facts
  even : l.Even

section Rows

variable {l : BoundedList} {facts : List Fact}

@[simp] theorem row_count_mem : .row l.count ∈ l.facts := by simp [BoundedList.facts]

@[simp] theorem row_capacityId_mem : .row l.capacityId ∈ l.facts := by simp [BoundedList.facts]

@[simp] theorem row_currentIndex_mem : .row l.currentIndex ∈ l.facts := by simp [BoundedList.facts]

@[simp] theorem row_valueToSet_mem : .row l.valueToSet ∈ l.facts := by simp [BoundedList.facts]

@[simp] theorem row_cursor_mem : .row l.cursor ∈ l.facts := by simp [BoundedList.facts]

theorem Ready.slot (ready : l.Ready facts) {slot : Nat} (member : slot ∈ l.slots) : .row slot ∈ facts :=
  ready.known _ (by simp [BoundedList.facts, member])

theorem Ready.mono {facts' : List Fact} (ready : l.Ready facts)
    (within : ∀ f ∈ l.facts, f ∈ facts → f ∈ facts') : l.Ready facts' :=
  ⟨fun f member => within f member (ready.known f member), ready.even⟩

theorem isShared_of_mem {f : Fact} (member : f ∈ l.facts) : f.isShared = true := by
  simp only [BoundedList.facts, List.mem_append, List.mem_map] at member
  rcases member with (⟨_, _, rfl⟩ | ⟨_, _, rfl⟩) | ⟨_, _, rfl⟩ <;> rfl

theorem mem_facts_countRead {f : Fact} {read : ValueOut}
    (member : f ∈ { l with countRead := some read }.facts) : f = .out read ∨ f ∈ l.facts := by
  simp only [BoundedList.facts, List.map_append, List.mem_append, Option.toList_some, List.map_cons,
    List.map_nil, List.mem_singleton] at member ⊢
  rcases member with (row | new | old) | entry
  · exact .inr (.inl (.inl row))
  · exact .inl new
  · exact .inr (.inl (.inr (.inr old)))
  · exact .inr (.inr entry)

theorem mem_facts_slotReads {f : Fact} {reads : List ValueOut}
    (member : f ∈ { l with slotReads := reads }.facts) : f ∈ reads.map Fact.out ∨ f ∈ l.facts := by
  simp only [BoundedList.facts, List.map_append, List.mem_append] at member ⊢
  rcases member with (row | old | new) | entry
  · exact .inr (.inl (.inl row))
  · exact .inr (.inl (.inr (.inl old)))
  · exact .inl new
  · exact .inr (.inr entry)

theorem mem_facts_writeSwitch {f : Fact} {switch : NodeId}
    (member : f ∈ { l with writeSwitch := some switch }.facts) :
    f = .entry (switch.flowIn "in") ∨ f ∈ l.facts := by
  simp only [BoundedList.facts, List.map_append, List.mem_append, Option.toList_some, List.map_cons,
    List.map_nil, List.mem_singleton] at member ⊢
  rcases member with old | new
  · exact .inr (.inl old)
  · exact .inl new

theorem Ready.enter (ready : l.Ready facts) : l.Ready (enter facts) :=
  ready.mono fun _ member => mem_enter_of_isShared (isShared_of_mem member)

end Rows

theorem toNat_toInt_ofNat_le (n : Nat) : (Int32.ofNat n).toInt.toNat ≤ n := by
  rw [Int32.toInt_ofNat']
  rw [Int.bmod_def]
  simp only [Int32.size]
  split <;> omega

/-- The label of a case is its number. -/
theorem label_of_mem_cases {l : BoundedList} {values : List Int32} (cases : l.cases = .intList values)
    {value : Int32} (member : value ∈ values) : ∃ n, n < l.slots.length ∧ toString value.toInt = toString n := by
  obtain rfl := ConfigValue.intList.inj cases
  obtain ⟨n, inside, rfl⟩ := List.mem_map.1 member
  have small := List.mem_range.1 inside
  have bound := (Int32.ofNat l.slots.length).toInt_lt
  refine ⟨n, Nat.lt_of_lt_of_le small (toNat_toInt_ofNat_le _), ?_⟩
  rw [Int32.toInt_ofNat_of_lt (by omega)]
  rfl

end Pattern.BoundedList

/-- What is known of the terminals of a write with an index. -/
@[simp] def Pattern.ListSet.facts (write : Pattern.ListSet) : List Fact :=
  .entry write.flowIn :: (write.index.sockets.map .input ++ write.value.sockets.map .input)

/-- What is known of the terminals of a write without an index. -/
@[simp] def Pattern.ListAdd.facts (add : Pattern.ListAdd) : List Fact :=
  .entry add.flowIn :: add.value.sockets.map .input

/-- What is known of the terminals of a removal. -/
@[simp] def Pattern.ListRemove.facts (remove : Pattern.ListRemove) : List Fact :=
  .entry remove.flowIn :: remove.index.sockets.map .input

/-- A node with inputs that are fed from the given values or, where constants are expected, hold one. -/
structure Node.Filled (constants : List String) (values : List ValueOut) (n n' : Node) : Prop where
  rest : n' = { n with valuesIn := n'.valuesIn }
  inputs : ∀ socket input, n'.valueIn? socket = some input → n.Takes socket ∧
    (if socket ∈ constants then input.source = none else input.literal = none) ∧
    ∀ source, input.source = some source → ∃ v ∈ values, v.address = source

namespace Node

variable {constants : List String} {values : List ValueOut} {n n' : Node}

theorem Unwired.filled {op : Op} (unwired : n.Unwired op) (constants : List String)
    (values : List ValueOut) : n.Filled constants values n where
  rest := rfl
  inputs socket input found := by
    obtain ⟨takes, literal, source⟩ := unwired.inputs socket input found
    refine ⟨takes, by simp [literal, source], by simp [source]⟩

theorem Filled.feed (filled : n.Filled constants values n') {name : String} {v : ValueOut}
    (takes : n.Takes name) (free : name ∉ constants) (member : v ∈ values) :
    n.Filled constants values (n'.changeInput name (·.fedBy v.address)) where
  rest := by
    rw [filled.rest]
    rfl
  inputs socket input found := by
    rw [valueIn?_changeInput] at found
    split at found
    · next same =>
      obtain rfl := Option.some.inj found
      subst same
      refine ⟨takes, ?_, fun source fed => ⟨v, member, Option.some.inj fed⟩⟩
      rw [if_neg free]
      rcases before : n'.valueIn? socket with _ | earlier
      · rfl
      · have literal := (filled.inputs socket earlier before).2.1
        rwa [if_neg free] at literal
    · exact filled.inputs socket input found

theorem Filled.put (filled : n.Filled constants values n') {name : String} (value : Literal)
    (takes : n.Takes name) (member : name ∈ constants) :
    n.Filled constants values (n'.changeInput name (·.holding value)) where
  rest := by
    rw [filled.rest]
    rfl
  inputs socket input found := by
    rw [valueIn?_changeInput] at found
    split at found
    · next same =>
      obtain rfl := Option.some.inj found
      subst same
      have source : (((n'.valueIn? socket).getD {}).holding value).source = none := by
        rcases before : n'.valueIn? socket with _ | earlier
        · rfl
        · have source := (filled.inputs socket earlier before).2.1
          rwa [if_pos member] at source
      refine ⟨takes, by rw [if_pos member]; exact source, fun other fed => ?_⟩
      rw [source] at fed
      cases fed
    · exact filled.inputs socket input found

/-- A node may be placed when its inputs are filled. -/
theorem Filled.draft {op : Op} {cls : ScriptClass} {sources : Nat → Prop} {c : Context}
    (filled : n.Filled constants values n') (unwired : n.Unwired op)
    (offered : ∀ v ∈ values, c.graph.Offers cls v.address ∧ v.address.Among sources)
    (index : n'.index = .ofNat c.graph.nodes.size) (small : c.graph.nodes.size < 0x100000000) :
    c.Draft cls sources n' := by
  have index' : n.index = .ofNat c.graph.nodes.size := by
    rw [filled.rest] at index
    exact index
  have draft : c.Draft cls sources n := unwired.draft index' small
  have same {socket : String} (takes : n.Takes socket) : n'.Takes socket :=
    takes_congr (by rw [filled.rest]) (by rw [filled.rest]) takes
  refine ⟨index, small, fun socket input found => same (filled.inputs socket input found).1,
    fun socket input found => ?_, fun socket input source found fed => ?_, ?_, ?_, ?_, ?_, ?_⟩
  · have single := (filled.inputs socket input found).2.1
    split at single
    · exact .inr single
    · exact .inl single
  · obtain ⟨v, member, rfl⟩ := (filled.inputs socket input found).2.2 source fed
    exact offered v member
  · rw [filled.rest]; exact draft.outputs
  · rw [filled.rest]; exact draft.declares
  · rw [filled.rest]; exact draft.flowsIn
  · rw [filled.rest]; exact draft.flowsOut
  · rw [filled.rest]; exact draft.idle

end Node

namespace Context.Drafts

variable {c c' : Context} {id : NodeId} {n n' : Node}

theorem connect (drafts : c.Drafts id n c') (socket : String) (v : ValueOut) :
    Ensures (Build.connect (id.valueIn socket) v) c' fun _ c'' =>
      c.Drafts id (n.changeInput socket (·.fedBy v.address)) c'' :=
  drafts.edit (f := fun n => n.changeInput socket (·.fedBy v.address)) rfl

theorem setLiteral (drafts : c.Drafts id n c') (socket : String) (value : Literal) :
    Ensures (Build.setLiteral (id.valueIn socket) value) c' fun _ c'' =>
      c.Drafts id (n.changeInput socket (·.holding value)) c'' :=
  drafts.edit (f := fun n => n.changeInput socket (·.holding value)) rfl

/-- Every number from `first` on gets an input. -/
theorem connectNumbered {constants : List String} {values : List ValueOut} (reads : List ValueOut)
    (first : Nat) (drafts : c.Drafts id n' c') (filled : n.Filled constants values n')
    (takes : ∀ k : Nat, n.Takes (toString k)) (free : ∀ k : Nat, toString k ∉ constants)
    (given : ∀ v ∈ reads, v ∈ values) :
    Ensures (BoundedList.connectNumbered id first reads) c' fun _ c'' =>
      ∃ n'', c.Drafts id n'' c'' ∧ n.Filled constants values n'' ∧
        (∀ socket, n'.valuesIn.contains socket = true → n''.valuesIn.contains socket = true) ∧
        ∀ k, first ≤ k → k < first + reads.length → n''.valuesIn.contains (toString k) = true := by
  induction reads generalizing first n' c' with
  | nil => exact ⟨n', drafts, filled, fun _ h => h, fun k _ _ => by simp only [List.length_nil] at *; omega⟩
  | cons read rest ih =>
    refine (drafts.connect (toString first) read).bind fun _ _ d => ?_
    have fed := filled.feed (takes first) (free first) (given read List.mem_cons_self)
    refine (ih (first + 1) d fed fun v member => given v (List.mem_cons_of_mem _ member)).mono ?_
    rintro _ _ ⟨n'', drafts', filled', keeps, ports⟩
    refine ⟨n'', drafts', filled', fun socket member => keeps socket ?_, fun k lower upper => ?_⟩
    · exact Node.contains_update n'.valuesIn (toString first) socket _ member
    · by_cases same : k = first
      · refine keeps _ ?_
        simp [Node.changeInput, Dict.contains, Dict.find?_update, same]
      · exact ports k (by omega) (by simp only [List.length_cons] at upper; omega)

end Context.Drafts

namespace Known

variable {w : Scope} {facts : List Fact} {exits : List FlowOut} {c : Context} {l : BoundedList}

/-- Leaves a scope of its own in which the list may have got further nodes. -/
theorem leaveList (new : List Fact) {inner : List Fact} {exits' : List FlowOut} {c' : Context}
    (known : Known w facts exits c) (inside : Known (w.enter c) inner exits' c')
    (within : ∀ f ∈ new, f ∈ inner ∧ f.lasts = true) (own : ∀ f ∈ l.facts, f ∈ inner) :
    Known w (new ++ (l.facts ++ facts)) exits' c' := by
  refine known.leave inside fun f member => ?_
  rcases List.mem_append.1 member with made | member
  · exact .inr (within f made)
  · rcases List.mem_append.1 member with shared | old
    · exact .inr ⟨own f shared, Fact.lasts_of_isShared (BoundedList.isShared_of_mem shared)⟩
    · exact .inl old

/-- A check, all of whose terminals are flows. -/
theorem guard {condition : ValueOut} (known : Known w facts exits c) (given : .out condition ∈ facts) :
    Ensures (Pattern.guard condition) c fun check c' =>
      Known w (.entry check.flowIn :: facts) (check.pass :: check.flowOut :: exits) c' := by
  refine (known.enter.createNode (by decide : Op.flowSequence.Has [] [] ["in"] ["0", "1"])).bind
    fun sequence _ k => ?_
  refine (k.createNode (by decide : Op.flowBranch.Has [] ["condition"] ["in"] ["true"])).bind
    fun branch _ k => ?_
  refine (k.connectSink .flowBranch (by simp) rfl (by simp) (by simp [given])).bind fun _ _ k => ?_
  refine (k.connectFlow (.swap ..) (by simp)).bind fun _ _ k => .pure ?_
  exact known.leave k (by simp +contextual)

theorem declareSlots {name : String} {type : ValueType} (numbers : List Nat)
    (known : Known w facts exits c) :
    Ensures (BoundedList.declareSlots name type numbers) c fun slots c' =>
      Known w (slots.map .row ++ facts) exits c' := by
  induction numbers generalizing c facts with
  | nil => exact .pure known
  | cons n rest ih =>
    refine known.declareVariable.bind fun slot _ k => ?_
    refine (ih k).bind fun slots _ k => .pure ?_
    exact k.weaken (by simp +contextual [or_imp])

theorem newList {type : ValueType} {capacity : Nat} (known : Known w facts exits c) :
    Ensures (BoundedList.new type capacity) c fun l c' =>
      Known w (l.facts ++ facts) exits c' ∧ l.Even := by
  refine known.uniqueName.bind fun name _ k => ?_
  refine (k.declareSlots _).bind fun slots _ k => ?_
  refine k.declareVariable.bind fun count _ k => ?_
  refine k.declareVariable.bind fun capacityId _ k => ?_
  refine k.declareVariable.bind fun currentIndex _ k => ?_
  refine k.declareVariable.bind fun cursor _ k => ?_
  refine k.declareVariable.bind fun valueToSet _ k => .pure ⟨?_, fun none => absurd rfl none⟩
  exact k.weaken (by simp +contextual [BoundedList.facts, or_imp])

theorem addInitial {value : Literal} (known : Known w facts exits c) :
    Ensures (l.addInitial value) c fun _ c' => Known w facts exits c' := by
  unfold BoundedList.addInitial
  refine .getBind ?_
  simp only
  split
  · exact .pure known
  · refine known.setInitial.bind fun _ _ k => ?_
    exact k.setInitial.bind fun _ _ k => .pure k

theorem countValue (known : Known w facts exits c) (ready : l.Ready facts) :
    Ensures (BoundedList.countValue.run l) c fun r c' =>
      Known w (.out r.1 :: (r.2.facts ++ facts)) exits c' ∧ r.2.Even := by
  unfold BoundedList.countValue
  refine .listGet ?_
  rcases found : l.countRead with _ | read
  · refine .listLift (known.getVariable (ready.known _ (by simp))) fun read _ k => .listSet (.listPure ⟨?_, ready.even⟩)
    refine k.weaken fun f member => ?_
    rcases List.mem_cons.1 member with rfl | member
    · exact List.mem_cons_self
    · rcases List.mem_append.1 member with own | old
      · exact List.mem_cons.2 ((BoundedList.mem_facts_countRead own).imp_right (ready.known f))
      · exact List.mem_cons_of_mem _ old
  · have kept : .out read ∈ l.facts := by simp [BoundedList.facts, found]
    refine .listPure ⟨known.weaken fun f member => ?_, ready.even⟩
    rcases List.mem_cons.1 member with rfl | member
    · exact ready.known _ kept
    · exact (List.mem_append.1 member).elim (ready.known f) fun old => old

theorem readAll (slots : List Nat) (known : Known w facts exits c)
    (declared : ∀ slot ∈ slots, .row slot ∈ facts) :
    Ensures (BoundedList.readAll slots) c fun reads c' =>
      reads.length = slots.length ∧ Known w (reads.map .out ++ facts) exits c' := by
  induction slots generalizing c facts with
  | nil => exact .pure ⟨rfl, known⟩
  | cons slot rest ih =>
    refine (known.getVariable (declared slot List.mem_cons_self)).bind fun read _ k => ?_
    refine (ih k fun other member => List.mem_cons_of_mem _
      (declared other (List.mem_cons_of_mem _ member))).bind fun reads _ ⟨length, k⟩ => .pure ⟨?_, ?_⟩
    · simp only [List.length_cons, length]
    · exact k.weaken (by simp +contextual [or_imp])

theorem getSlotReads (known : Known w facts exits c) (ready : l.Ready facts) :
    Ensures (BoundedList.getSlotReads.run l) c fun r c' =>
      r.1.length = r.2.slots.length ∧ r.2.slots = l.slots ∧
        Known w (r.1.map .out ++ (r.2.facts ++ facts)) exits c' ∧ r.2.Even := by
  unfold BoundedList.getSlotReads
  refine .listGet ?_
  split
  · refine .listLift (known.readAll l.slots fun _ => ready.slot) fun reads _ ⟨length, k⟩ =>
      .listSet (.listPure ⟨length, rfl, k.weaken fun f member => ?_, fun _ => length⟩)
    rcases List.mem_append.1 member with new | member
    · exact List.mem_append_left _ new
    · rcases List.mem_append.1 member with own | old
      · exact List.mem_append.2 ((BoundedList.mem_facts_slotReads own).imp_right (ready.known f))
      · exact List.mem_append_right _ old
  · next some =>
    refine .listPure ⟨ready.even (by simpa using some), rfl, known.weaken fun f member => ?_, ready.even⟩
    rcases List.mem_append.1 member with read | member
    · refine ready.known f ?_
      simp only [BoundedList.facts, List.map_append, List.mem_append]
      exact .inl (.inr (.inr read))
    · exact (List.mem_append.1 member).elim (ready.known f) fun old => old

/-- The switch of a read is finished with an input for every slot. -/
theorem finished_switch {g : Graph} {switch : NodeId} {n : Node} {constants : List String}
    {values : List ValueOut}
    (filled : ((Node.new switch .mathSwitch).configure "cases" l.cases).Filled constants values n)
    (ports : ∀ k : Nat, k < l.slots.length → n.valuesIn.contains (toString k) = true) :
    g.Finished n := by
  have op : n.op = .mathSwitch := by rw [filled.rest]; rfl
  have config : n.config? "cases" = some l.cases := by
    rw [filled.rest]
    exact (Node.config?_configure ..).trans (if_pos rfl)
  refine ⟨fun name found => ?_, fun _ socket output found => ?_, by simp [op], by simp [op], by simp [op],
    fun _ => ?_, by simp [op]⟩
  · rw [filled.rest] at found
    simpa [Op.schema] using ((Node.lacks_new switch .mathSwitch).configure "cases" l.cases) name found
  · rw [filled.rest] at found
    obtain ⟨type, member, rfl⟩ := Node.find?_valuesOut_new switch found
    simp only [Op.schema, List.mem_singleton, Prod.mk.injEq] at member
    simp [member.2, OutputType.expected]
  · simp only [Validation.cases, config, op, Option.bind_some]
    simp only [BoundedList.cases, ConfigValue.toIntList?]
    refine List.filterMap_eq_nil_iff.2 fun value member => ?_
    obtain ⟨k, inside, label⟩ := BoundedList.label_of_mem_cases rfl member
    simpa [label] using ports k inside

/-- The switch of a read with all of its inputs. -/
theorem getItem {index : ValueOut} (known : Known w facts exits c) (ready : l.Ready facts)
    (given : .out index ∈ facts) :
    Ensures ((BoundedList.getItem index).run l) c fun r c' =>
      Known w (.out r.1 :: (r.2.facts ++ facts)) exits c' ∧ r.2.Even := by
  unfold BoundedList.getItem
  refine .listBind (known.getSlotReads ready) fun ⟨reads, l'⟩ c1 ⟨length, same, k, even⟩ => .listGet ?_
  refine .listLift (Context.drafts_createNode c1 .mathSwitch) fun switch _ d => ?_
  refine .listLift (d.configure "cases" l'.cases) fun _ _ d => ?_
  have unwired : ((Node.new switch .mathSwitch).configure "cases" l'.cases).Unwired .mathSwitch :=
    Node.unwired_of_new switch rfl rfl (fun _ => rfl) rfl rfl
  have numbered (k : Nat) : ((Node.new switch .mathSwitch).configure "cases" l'.cases).Takes (toString k) := by
    intro g
    exact Bool.or_eq_true_iff.2 (.inr (Validation.isNumeral_toString k))
  have filled := unwired.filled ["default"] (index :: reads)
  refine .listLift (d.connect "selection" index) fun _ _ d => ?_
  have filled := filled.feed (Node.takes_of_schema rfl) (by decide : "selection" ∉ ["default"])
    List.mem_cons_self
  refine .listLift (d.setLiteral "default" l'.valueType.default) fun _ _ d => ?_
  have filled := filled.put l'.valueType.default (Node.takes_of_schema rfl)
    (by decide : "default" ∈ ["default"])
  refine .listLift (d.connectNumbered reads 0 filled numbered (fun k same => ?_)
    fun v member => List.mem_cons_of_mem _ member) fun _ _ ⟨n, d, filled, _, ports⟩ => .listPure ⟨?_, even⟩
  · have digits := Validation.isNumeral_toString k
    rw [List.mem_singleton.1 same] at digits
    revert digits
    decide
  · refine ((k.placedDraft d (fun inRange index small => filled.draft unwired (fun v member => ?_) index small)
      (.inr fun _ => ?_) (?_ : _ → _ → _ → ∀ f ∈ [Fact.out (switch.valueOut "value")], _)
      (.nil : List.Nodup []) (by simp) (fun _ => False) (by simp)).keepOnly
        (fun f keep => .inr keep : ∀ f, w.kept f → _)).weaken
          (by simp +contextual [or_imp])
    · have given : .out v ∈ reads.map Fact.out ++ (l'.facts ++ facts) := by
        rcases List.mem_cons.1 member with rfl | read
        · simp [given]
        · simp [read]
      exact (k.sound inRange).holds _ given
    · exact finished_switch filled fun n inside =>
        ports n (Nat.zero_le n) (by rw [Nat.zero_add, length]; exact inside)
    · intro recent source here f member
      obtain rfl := List.mem_singleton.1 member
      refine ⟨.inr ⟨n, here, .inl ?_⟩, .inr source⟩
      rw [filled.rest]
      exact Node.valuesOut_new switch .mathSwitch "value"

/-- A check of an index, which is still to be fed. -/
theorem indexInRange {inclusive : Bool} (known : Known w facts exits c) (ready : l.Ready facts) :
    Ensures ((BoundedList.inRange inclusive).run l) c fun r c' =>
      Known w (.out r.1.2 :: r.1.1.sockets.map .input ++ (r.2.facts ++ facts)) exits c' ∧ r.2.Even := by
  unfold BoundedList.inRange
  refine .listBind (known.countValue ready) fun ⟨count, l'⟩ _ ⟨k, even⟩ => ?_
  refine .listLift (k.enter.createNode (by decide : Op.mathGe.Computes ["a", "b"])) fun lower _ inner => ?_
  refine .listLift (inner.setLiteral (by simp)) fun _ _ inner => ?_
  refine .listLift (inner.createNode
    (by cases inclusive <;> decide : (if inclusive then Op.mathLe else .mathLt).Computes ["a", "b"]))
    fun upper _ inner => ?_
  refine .listLift (inner.connect (t := upper.valueIn "b") (by simp) (by simp)) fun _ _ inner => ?_
  refine .listLift (inner.binary (by decide) (by simp) (by simp)) fun both _ inner => .listPure ⟨?_, even⟩
  exact (k.leaveAdding [.out both, .input ⟨lower, "a"⟩, .input ⟨upper, "a"⟩] inner (by simp)).weaken
    (by simp +contextual [or_imp])

theorem getItemChecked {index : ValueOut} (known : Known w facts exits c) (ready : l.Ready facts)
    (given : .out index ∈ facts) :
    Ensures ((BoundedList.getItemChecked index).run l) c fun r c' =>
      Known w (.out r.1 :: (r.2.facts ++ facts)) exits c' ∧ r.2.Even := by
  unfold BoundedList.getItemChecked
  refine .listBind (known.getItem ready given) fun ⟨value, l'⟩ _ ⟨k, even⟩ => ?_
  have ready' : l'.Ready (.out value :: (l'.facts ++ facts)) := ⟨by simp +contextual, even⟩
  refine .listBind (k.enter.indexInRange ready'.enter) fun ⟨⟨rangeIndex, within⟩, l''⟩ _ ⟨inner, even⟩ => ?_
  refine .listLift (inner.connect (by simp +contextual) (by simp [given])) fun _ _ inner => ?_
  have k := k.leaveList (l := l'') [.out within] inner (by simp)
    fun f own => mem_fed_of_isShared (BoundedList.isShared_of_mem own) (by simp [own])
  refine .listLift (k.enter.createNode (by decide : Op.mathSelect.Computes ["condition", "a", "b"]))
    fun choice _ inner => ?_
  refine .listLift (inner.connect (t := choice.valueIn "condition") (by simp) (by simp))
    fun _ _ inner => ?_
  refine .listLift (inner.connect (t := choice.valueIn "a") (by simp) (by simp)) fun _ _ inner => .listGet ?_
  refine .listLift (inner.setLiteral (by simp)) fun _ _ inner => .listPure ⟨?_, even⟩
  exact (k.leaveAdding [.out (choice.valueOut "value")] inner (by simp)).weaken (by simp +contextual [or_imp])

/-- The numbered flows of a switch. -/
def numberedFlows (switch : NodeId) (first count : Nat) : List FlowOut :=
  ((List.range' first count).map toString).map switch.flowOut

theorem numberedFlows_succ (switch : NodeId) (first count : Nat) :
    numberedFlows switch first (count + 1) =
      switch.flowOut (toString first) :: numberedFlows switch (first + 1) count := by
  rw [numberedFlows, List.range'_succ]
  rfl

theorem mem_numberedFlows {switch : NodeId} {first count k : Nat} (lower : first ≤ k)
    (upper : k < first + count) : switch.flowOut (toString k) ∈ numberedFlows switch first count :=
  List.mem_map_of_mem (List.mem_map_of_mem (List.mem_range'_1.2 ⟨lower, upper⟩))

/-- Every number from `first` on leads to a write. -/
theorem connectWrites {switch : NodeId} {pending : ValueOut} (slots : List Nat) (first : Nat)
    (known : Known w facts (numberedFlows switch first slots.length ++ exits) c)
    (declared : ∀ slot ∈ slots, .row slot ∈ facts) (given : .out pending ∈ facts) :
    Ensures (BoundedList.connectWrites switch pending first slots) c fun _ c' =>
      Known w ((numberedFlows switch first slots.length).map .port ++ facts) exits c' := by
  induction slots generalizing c facts first with
  | nil => exact .pure known
  | cons slot rest ih =>
    rw [List.length_cons, numberedFlows_succ] at known ⊢
    refine (known.setVariableFrom (declared slot List.mem_cons_self) given).bind fun write _ k => ?_
    refine (k.connectPort (.swap ..) (by simp)).bind fun _ _ k => ?_
    have k := k.drop (List.sublist_cons_self ..) (.refl _)
    refine (ih (first + 1) k (fun other member => ?_) (by simp [given])).mono fun _ _ k =>
      k.weaken (by simp +contextual [or_imp])
    simp [declared other (List.mem_cons_of_mem _ member)]

theorem finished_writeSwitch {g : Graph} {n : Node} (op : n.op = .flowSwitch) (exact : g.Exact) {i : Nat}
    (found : g.nodes[i]? = some n) (isSet : n.IsSet "cases" l.cases)
    (ports : ∀ k : Nat, k < l.slots.length → n.flowsOut.contains (toString k) = true) :
    g.Finished n := by
  refine ⟨fun name missing => ?_, fun _ socket output has => ?_, by simp [op], by simp [op], by simp [op],
    fun _ => ?_, by simp [op]⟩
  · simpa using isSet.2.1 name missing
  · have declared := exact i n socket found (by simp [Dict.contains, has])
    simp [Graph.Yields, op, Op.schema] at declared
  · simp only [Validation.cases, isSet.2.2, op, Option.bind_some]
    simp only [BoundedList.cases, ConfigValue.toIntList?]
    refine List.filterMap_eq_nil_iff.2 fun value member => ?_
    obtain ⟨k, inside, label⟩ := BoundedList.label_of_mem_cases rfl member
    simpa [label] using ports k inside

theorem nodup_numbers (first count : Nat) : ((List.range' first count).map toString).Nodup :=
  List.Pairwise.map _ (fun _ _ different same => different (toString_inj same)) List.nodup_range'

/-- The switch behind the writes of a list. -/
theorem getWriteSwitch (known : Known w facts exits c) (ready : l.Ready facts) :
    Ensures (BoundedList.getWriteSwitch.run l) c fun r c' =>
      Known w (.entry (r.1.flowIn "in") :: (r.2.facts ++ facts)) exits c' ∧ r.2.Even := by
  unfold BoundedList.getWriteSwitch
  refine .listGet ?_
  rcases found : l.writeSwitch with _ | switch
  · refine .listLift (Context.drafts_createNode c .flowSwitch) fun switch c1 d => ?_
    refine .listLift (d.configure "cases" l.cases) fun _ c1 d => ?_
    have ready' := ready.enter
    have k := (known.enter.await switch).placed .flowSwitch d
      (Node.unwired_of_new switch rfl rfl (fun _ => rfl) rfl rfl) (.inl List.mem_cons_self)
      (by decide : ∀ socket ∈ [], _)
      (by simp only [List.mem_singleton, forall_eq]; exact Node.takes_of_schema rfl :
        ∀ socket ∈ ["selection"], _) (by decide : ∀ socket ∈ ["in"], _)
      (nodup_numbers 0 l.slots.length) (fun socket member => ?_)
    · have k := k.learn (f := .parameter switch "cases" l.cases) fun inRange =>
        ⟨_, known.drafted d inRange, (by decide : Op.flowSwitch ≠ .debugLog),
          (Node.lacks_new switch .flowSwitch).configure "cases" l.cases,
          (Node.config?_configure ..).trans (if_pos rfl)⟩
      refine .listLift (k.getVariable (by simp [ready'.known])) fun index _ k => ?_
      refine .listLift (k.connectSink .flowSwitch (by simp) rfl (by simp) (by simp)) fun _ _ k => ?_
      refine .listLift (k.getVariable (by simp [ready'.known])) fun pending _ k => ?_
      refine .listLift (k.connectWrites l.slots 0 (fun slot member => by simp [ready'.slot member])
        (by simp)) fun _ c2 k => .listSet (.listPure ⟨?_, ready.even⟩)
      have done : Known (w.enter c) _ _ _ := k.settle fun inRange => by
        have sound := k.sound inRange
        obtain ⟨n, here, op⟩ := sound.holds (.node switch .flowSwitch) (by simp)
        obtain ⟨n', here', isSet⟩ := sound.holds (.parameter switch "cases" l.cases) (by simp)
        obtain rfl := Option.some.inj (here.symm.trans here')
        refine ⟨n, here, finished_writeSwitch op sound.wiredNow.exact here isSet fun k inside => ?_⟩
        obtain ⟨m, there, port⟩ := sound.holds (.port (switch.flowOut (toString k)))
          (List.mem_append_left _ (List.mem_map_of_mem (mem_numberedFlows (Nat.zero_le k) (by omega))))
        obtain rfl := Option.some.inj (here.symm.trans there)
        exact port
      refine (known.leaveAdding [.entry (switch.flowIn "in")] done (by simp)).weaken fun f member => ?_
      rcases List.mem_cons.1 member with rfl | member
      · exact List.mem_cons_self
      · rcases List.mem_append.1 member with own | old
        · exact List.mem_cons.2 ((BoundedList.mem_facts_writeSwitch own).imp_right (ready.known f))
        · exact List.mem_cons_of_mem _ old
    · obtain ⟨k, _, rfl⟩ := List.mem_map.1 member
      exact Bool.or_eq_true_iff.2 (.inr (Validation.isNumeral_toString k))
  · have kept : .entry (switch.flowIn "in") ∈ l.facts := by simp [BoundedList.facts, found]
    refine .listPure ⟨known.weaken fun f member => ?_, ready.even⟩
    rcases List.mem_cons.1 member with rfl | member
    · exact ready.known _ kept
    · exact (List.mem_append.1 member).elim (ready.known f) fun old => old

theorem setItem (known : Known w facts exits c) (ready : l.Ready facts) :
    Ensures (BoundedList.setItem.run l) c fun r c' =>
      Known w (r.1.facts ++ (r.2.facts ++ facts)) (r.1.flowOut :: exits) c' ∧ r.2.Even := by
  unfold BoundedList.setItem
  refine .listBind (known.getWriteSwitch ready) fun ⟨switch, l'⟩ _ ⟨k, even⟩ => .listGet ?_
  refine .listLift (k.enter.createNode (by decide : Op.flowSequence.Has [] [] ["in"] ["0", "1"]))
    fun sequence _ inner => ?_
  refine .listLift (inner.setVariable (by simp))
    fun storeIndex _ ⟨same, inner⟩ => ?_
  rw [same] at inner ⊢
  refine .listLift (inner.setVariable (by simp))
    fun storeValue _ ⟨same, inner⟩ => ?_
  rw [same] at inner ⊢
  refine .listLift (inner.connectFlow (perm_third ..) (by simp)) fun _ _ inner => ?_
  refine .listLift (inner.connectFlow (.swap ..) (by simp)) fun _ _ inner => ?_
  refine .listLift (inner.connectFlow (.refl _) (by simp)) fun _ _ inner => .listPure ⟨?_, even⟩
  exact (k.leaveAdding [.entry (sequence.flowIn "in"), .input ⟨storeIndex.node, "value"⟩,
    .input ⟨storeValue.node, "value"⟩] inner (by simp)).weaken (by simp +contextual)

theorem setItemChecked (known : Known w facts exits c) (ready : l.Ready facts) :
    Ensures (BoundedList.setItemChecked.run l) c fun r c' =>
      Known w (r.1.facts ++ (r.2.facts ++ facts)) (r.1.flowOut :: exits) c' ∧ r.2.Even := by
  unfold BoundedList.setItemChecked
  refine .listBind (known.indexInRange ready) fun ⟨⟨rangeIndex, within⟩, l'⟩ _ ⟨k, even⟩ => ?_
  refine .listLift (k.guard (by simp)) fun check _ k => ?_
  refine .listBind (k.setItem ⟨by simp +contextual, even⟩) fun ⟨write, l''⟩ _ ⟨k, even⟩ => ?_
  refine .listLift (k.connectFlow (.swap ..) (by simp)) fun _ _ k => .listPure ⟨?_, even⟩
  exact (k.drop (List.sublist_cons_self ..) (.refl _)).weaken (by simp +contextual [or_imp, forall_and])

theorem addItem (known : Known w facts exits c) (ready : l.Ready facts) :
    Ensures (BoundedList.addItem.run l) c fun r c' =>
      Known w (r.1.facts ++ (r.2.facts ++ facts)) (r.1.flowOut :: exits) c' ∧ r.2.Even := by
  unfold BoundedList.addItem
  refine .listBind (known.countValue ready) fun ⟨count, l'⟩ _ ⟨k, even⟩ => .listGet ?_
  refine .listLift (k.getVariable (by simp)) fun capacity _ k => ?_
  refine .listLift (k.binary (by decide) (by simp) (by simp)) fun hasRoom _ k => ?_
  refine .listLift (k.guard (by simp)) fun check _ k => ?_
  refine .listBind (k.enter.setItem (BoundedList.Ready.enter ⟨by simp +contextual, even⟩))
    fun ⟨write, l''⟩ _ ⟨inner, even⟩ => ?_
  refine .listLift (inner.connect (by simp +contextual) (by simp)) fun _ _ inner => ?_
  have k := k.leaveList (l := l'') write.facts inner (by simp +contextual [or_imp, forall_and])
    fun f own => mem_fed_of_isShared (BoundedList.isShared_of_mem own) (by simp [own])
  refine .listLift (k.connectFlow (.swap ..) (by simp)) fun _ _ k => ?_
  refine .listLift (k.binaryLiteral (by decide) (by simp)) fun grown _ k => ?_
  refine .listLift (k.setVariableFrom (by simp) (by simp)) fun grow _ k => ?_
  refine .listLift (k.connectFlow (.swap ..) (by simp)) fun _ _ k => .listPure ⟨?_, even⟩
  exact (k.drop (List.sublist_cons_self ..) (.refl _)).weaken (by simp +contextual [or_imp])

theorem insertItem (known : Known w facts exits c) (ready : l.Ready facts) :
    Ensures (BoundedList.insertItem.run l) c fun r c' =>
      Known w (r.1.facts ++ (r.2.facts ++ facts)) (r.1.flowOut :: exits) c' ∧ r.2.Even := by
  unfold BoundedList.insertItem
  refine .listBind (known.enter.indexInRange ready.enter) fun ⟨⟨insertIndex, within⟩, l1⟩ _ ⟨k, even⟩ => ?_
  refine .listBind (k.countValue ⟨by simp +contextual, even⟩) fun ⟨count, l2⟩ _ ⟨k, even⟩ => .listGet ?_
  refine .listLift (k.getVariable (by simp)) fun capacity _ k => ?_
  refine .listLift (k.binary (by decide) (by simp) (by simp)) fun hasRoom _ k => ?_
  refine .listLift (k.binary (by decide) (by simp) (by simp)) fun allowed _ k => ?_
  refine .listLift (k.guard (by simp)) fun check _ k => ?_
  refine .listLift (k.setVariableFrom (by simp) (by simp)) fun start _ k => ?_
  refine .listLift (k.connectFlow (.swap ..) (by simp)) fun _ _ k => ?_
  refine .listLift k.steppedWhile fun shift _ ⟨loop, condition, k⟩ => ?_
  refine .listLift (k.connectFlow (perm_fourth ..) (by simp)) fun _ _ k => ?_
  refine .listLift (k.getVariable (by simp)) fun cursor _ k => ?_
  refine .listLift (k.enter.createNode (by decide : Op.mathGt.Computes ["a", "b"])) fun above _ inner => ?_
  refine .listLift (inner.connect (t := above.valueIn "a") (by simp) (by simp)) fun _ _ inner => ?_
  have k := k.leaveAdding [.out (above.valueOut "value"), .input ⟨above, "b"⟩] inner (by simp)
  rw [condition]
  refine .listLift (k.connectSink .flowWhile (by simp) rfl (by simp) (by simp)) fun _ _ k => ?_
  refine .listLift (k.binaryLiteral (by decide) (by simp)) fun belowCursor _ k => ?_
  refine .listBind (k.getItem ⟨fun f own => ?_, even⟩ (by simp)) fun ⟨moved, l3⟩ _ ⟨k, even⟩ => ?_
  · exact List.mem_cons_of_mem _ (mem_fed_of_isShared (BoundedList.isShared_of_mem own) (by simp [own]))
  refine .listBind (k.enter.setItem (BoundedList.Ready.enter ⟨by simp +contextual, even⟩))
    fun ⟨shiftWrite, l4⟩ _ ⟨inner, even⟩ => ?_
  refine .listLift (inner.connect (by simp +contextual) (by simp)) fun _ _ inner => ?_
  refine .listLift (inner.connect (by simp +contextual) (by simp)) fun _ _ inner => ?_
  have k := k.leaveList (l := l4) [.entry shiftWrite.flowIn] inner (by simp) fun f own =>
    mem_fed_of_isShared (BoundedList.isShared_of_mem own)
      (mem_fed_of_isShared (BoundedList.isShared_of_mem own) (by simp [own]))
  refine .listLift (k.connectFlow (.swap ..) (by simp)) fun _ _ k => ?_
  refine .listLift (k.setVariableFrom (by simp) (by simp)) fun step _ k => ?_
  refine .listLift (k.connectFlow (perm_third ..) (by simp)) fun _ _ k => ?_
  refine .listBind (k.setItem ⟨by simp +contextual, even⟩) fun ⟨place, l5⟩ _ ⟨k, even⟩ => ?_
  refine .listLift (k.connectFlow (perm_fourth ..) (by simp)) fun _ _ k => ?_
  refine .listLift (k.binaryLiteral (by decide) (by simp)) fun grown _ k => ?_
  refine .listLift (k.setVariableFrom (by simp) (by simp)) fun grow _ k => ?_
  refine .listLift (k.connectFlow (.swap ..) (by simp)) fun _ _ k => .listPure ⟨?_, even⟩
  have k := k.drop (.trans (List.sublist_cons_self ..) (.trans (List.sublist_cons_self ..)
    (List.sublist_cons_self ..))) (.refl _)
  exact known.leaveList (Pattern.ListSet.facts _) k (by simp +contextual [or_imp, forall_and])
    (by simp +contextual)

theorem removeItem (known : Known w facts exits c) (ready : l.Ready facts) :
    Ensures (BoundedList.removeItem.run l) c fun r c' =>
      Known w (r.1.facts ++ (r.2.facts ++ facts)) (r.1.flowOut :: exits) c' ∧ r.2.Even := by
  unfold BoundedList.removeItem
  refine .listBind (known.indexInRange ready) fun ⟨⟨rangeIndex, within⟩, l1⟩ _ ⟨k, even⟩ => ?_
  refine .listLift (k.guard (by simp)) fun check _ k => ?_
  refine .listBind (k.countValue ⟨by simp +contextual, even⟩) fun ⟨count, l2⟩ _ ⟨outer, even⟩ => ?_
  refine .listLift outer.enter.forLoop fun shift _ k => ?_
  refine .listLift (k.connectFlow (perm_third ..) (by simp)) fun _ _ k => ?_
  refine .listLift (k.fence.binaryLiteral (by decide) (by simp)) fun last _ fenced => ?_
  refine .listLift (k.connectFenced [.out last] fenced (by simp +contextual) (by simp) (by simp)) fun _ _ k => ?_
  refine .listLift (k.binaryLiteral (by decide) (by simp)) fun next _ k => ?_
  refine .listBind (k.getItem ⟨fun f own => ?_, even⟩ (by simp)) fun ⟨moved, l3⟩ _ ⟨k, even⟩ => ?_
  · have shared {others : List Fact} : f ∈ ScriptGraph.enter (.out count :: (l2.facts ++ others)) :=
      mem_enter_of_isShared (BoundedList.isShared_of_mem own) (by simp [own])
    exact List.mem_cons_of_mem _ (mem_fed_of_isShared (BoundedList.isShared_of_mem own) (by simp [shared]))
  refine .listBind (k.enter.setItem (BoundedList.Ready.enter ⟨by simp +contextual, even⟩))
    fun ⟨write, l4⟩ _ ⟨inner, even⟩ => ?_
  refine .listLift (inner.connect (by simp +contextual) (by simp)) fun _ _ inner => ?_
  refine .listLift (inner.connect (by simp +contextual) (by simp)) fun _ _ inner => ?_
  have k := k.leaveList (l := l4) [.entry write.flowIn] inner (by simp) fun f own =>
    mem_fed_of_isShared (BoundedList.isShared_of_mem own)
      (mem_fed_of_isShared (BoundedList.isShared_of_mem own) (by simp [own]))
  refine .listLift (k.connectFlow (.swap ..) (by simp)) fun _ _ k => .listGet ?_
  refine .listLift (k.setVariableFrom (by simp) (by simp)) fun shrink _ k => ?_
  refine .listLift (k.connectFlow (perm_third ..) (by simp)) fun _ _ k => .listPure ⟨?_, even⟩
  have k := k.drop (.trans (List.sublist_cons_self ..) (List.sublist_cons_self ..)) (.refl _)
  have k := outer.leaveList (l := l4) (shift.start.sockets.map .input) k (by simp +contextual) (by simp +contextual)
  exact k.weaken (by simp +contextual [or_imp, forall_and])

theorem clear (known : Known w facts exits c) (ready : l.Ready facts) :
    Ensures (BoundedList.clear.run l) c fun r c' =>
      Known w (.entry r.1.1 :: (r.2.facts ++ facts)) (r.1.2 :: exits) c' ∧ r.2.Even := by
  unfold BoundedList.clear
  refine .listGet ?_
  refine .listLift (known.setVariableStatic (ready.known _ (by simp))) fun reset _ k => .listPure ⟨?_, ready.even⟩
  exact k.weaken fun f member => by
    rcases List.mem_cons.1 member with rfl | member
    · exact List.mem_cons_self
    · exact List.mem_cons_of_mem _ ((List.mem_append.1 member).elim (ready.known f) fun old => old)

end Known

end ScriptGraph
