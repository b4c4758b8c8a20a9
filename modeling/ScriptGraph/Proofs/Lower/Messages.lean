import ScriptGraph.Lower.Call
import ScriptGraph.Proofs.Lower.Values

/-!
What is known after a log message was lowered.

The slots of a log node are fed before its message is set, so that for a while nothing names them. The
message names the same slots whatever values feed them.
-/

namespace ScriptGraph

namespace MessagePart

/-- Whether a piece of a message is a value. -/
def isValue : MessagePart → Bool
  | text _ => false
  | value _ => true

/-- The template of a message whose values take the slots from a number on. -/
def template : Nat → List MessagePart → String
  | _, [] => ""
  | slot, text content :: parts =>
    String.ofList (content.toList.filter (!Lower.isBrace ·)) ++ template slot parts
  | slot, value _ :: parts => "\x7b" ++ toString slot ++ "\x7d" ++ template (slot + 1) parts

theorem closing_notMem_toString (n : Nat) : '\x7d' ∉ (toString n).toList := by
  intro member
  have digits := Validation.isNumeral_toString n
  simp only [Validation.isNumeral, Bool.and_eq_true, List.all_eq_true] at digits
  exact absurd (digits.2 _ member) (by decide)

/-- The tokens of a template are its slots. -/
theorem tokens_template (slot : Nat) (parts : List MessagePart) :
    Template.tokens (template slot parts).toList =
      (List.range' slot (parts.countP isValue)).map fun k => (toString k).toList := by
  induction parts generalizing slot with
  | nil => exact Template.tokens_nil fun _ _ found => by cases found
  | cons part parts ih =>
    cases part with
    | text content =>
      have without : '\x7b' ∉ content.toList.filter (!Lower.isBrace ·) := by
        simp [Lower.isBrace]
      rw [template, String.toList_append, String.toList_ofList, Template.tokens_append without, ih]
      rfl
    | value e =>
      have spelled : (template slot (value e :: parts)).toList =
          '\x7b' :: ((toString slot).toList ++ '\x7d' :: (template (slot + 1) parts).toList) := by
        simp [template, String.toList_append]
      rw [spelled, Template.tokens_braced (closing_notMem_toString slot), ih,
        List.countP_cons_of_pos rfl, List.range'_succ, List.map_cons]

theorem slot_mem_names {slot k : Nat} {parts : List MessagePart} (lower : slot ≤ k)
    (upper : k < slot + parts.countP isValue) : toString k ∈ Template.names (template slot parts) := by
  refine Template.mem_firsts_iff.2 ⟨List.mem_filter.2 ⟨?_, ?_⟩, List.not_mem_nil⟩
  · rw [tokens_template, List.map_map]
    exact List.mem_map.2 ⟨k, List.mem_range'_1.2 ⟨lower, upper⟩, String.ofList_toList⟩
  · have digits := Validation.isNumeral_toString k
    simp only [Validation.isNumeral, Bool.and_eq_true] at digits
    exact digits.1

end MessagePart

/-- A log node without parameters whose slots below a number may be fed. -/
structure Node.Numbered (count : Nat) (n : Node) : Prop where
  isLog : n.op = .debugLog
  severity : n.configuration.find? "severity" = some none
  message : n.configuration.find? "message" = some none
  lacks : n.Lacks ["severity", "message"]
  outputs : ∀ socket, n.valuesOut.find? socket = none
  slots : ∀ socket input, n.valueIn? socket = some input →
    input.literal = none ∧ ∃ k, k < count ∧ socket = toString k

namespace Node

theorem numbered_new (index : NodeId) : (new index .debugLog).Numbered 0 where
  isLog := rfl
  severity := rfl
  message := rfl
  lacks := lacks_new index .debugLog
  outputs _ := rfl
  slots _ _ found := by cases found

theorem Numbered.settled {count : Nat} {n n' : Node} (numbered : n.Numbered count)
    (evolves : n.Evolves True n') : n'.Numbered count where
  isLog := evolves.op.trans numbered.isLog
  severity := by rw [evolves.parameters (.inl trivial)]; exact numbered.severity
  message := by rw [evolves.parameters (.inl trivial)]; exact numbered.message
  lacks := by rw [Lacks, evolves.parameters (.inl trivial)]; exact numbered.lacks
  outputs := by rw [evolves.outputs]; exact numbered.outputs
  slots socket input found := by
    rw [valueIn?, evolves.inputs trivial] at found
    exact numbered.slots socket input found

theorem Numbered.feed {count : Nat} {n : Node} (numbered : n.Numbered count) (source : SocketAddress) :
    (n.changeInput (toString count) (·.fedBy source)).Numbered (count + 1) :=
  { numbered with
    slots := fun socket input found => by
      rw [valueIn?_changeInput] at found
      split at found
      · next same =>
        cases found
        refine ⟨?_, count, Nat.lt_succ_self _, same⟩
        cases old : n.valueIn? (toString count) with
        | none => rfl
        | some input => exact (numbered.slots _ _ old).1
      · obtain ⟨unset, k, below, same⟩ := numbered.slots socket input found
        exact ⟨unset, k, Nat.lt_succ_of_lt below, same⟩ }

theorem Numbered.mono {count more : Nat} {n : Node} (numbered : n.Numbered count) (le : count ≤ more) :
    n.Numbered more :=
  { numbered with
    slots := fun socket input found => by
      obtain ⟨unset, k, below, same⟩ := numbered.slots socket input found
      exact ⟨unset, k, Nat.lt_of_lt_of_le below le, same⟩ }

/-- A log node is finished once its message names its slots. -/
theorem Numbered.finished {g : Graph} {parts : List MessagePart} {n : Node} {severity : ConfigValue}
    (numbered : n.Numbered (parts.countP MessagePart.isValue)) :
    g.Finished ((n.configure "severity" severity).configure "message"
      (.text (MessagePart.template 0 parts))) where
  configured name found := by
    have lacks := (numbered.lacks.configure "severity" severity).configure "message"
      (.text (MessagePart.template 0 parts))
    simpa using lacks name found
  typed _ socket output found := by cases (numbered.outputs socket).symm.trans found
  variableRow op := by rcases op with op | op <;> cases numbered.isLog.symm.trans op
  eventRow op := by cases numbered.isLog.symm.trans op
  notSent op := by cases numbered.isLog.symm.trans op
  cases op := by rcases op with op | op <;> cases numbered.isLog.symm.trans op
  message _ socket member g' := by
    obtain ⟨input, found⟩ := Option.isSome_iff_exists.1 member
    obtain ⟨_, k, below, rfl⟩ := numbered.slots socket input found
    have token : toString k ∈ Template.names (MessagePart.template 0 parts) :=
      MessagePart.slot_mem_names (Nat.zero_le k) (by omega)
    have text := config?_configure (n.configure "severity" severity) "message" "message"
      (.text (MessagePart.template 0 parts))
    rw [if_pos rfl] at text
    have isLog : ((n.configure "severity" severity).configure "message"
      (.text (MessagePart.template 0 parts))).op = .debugLog := numbered.isLog
    rw [Validation.takesValueInput, isLog, Validation.tokensOf.eq_def _ "message", text]
    simpa [Op.schema, ConfigValue.toText?] using token

end Node

/-- The facts say nothing about inputs. -/
def Inputless (facts : List Fact) : Prop := ∀ a, .input a ∉ facts ∧ .blank a ∉ facts

/-- In range, there is a new node with a property. -/
def Scope.Makes (w : Scope) (id : NodeId) (property : Node → Prop) (c : Context) : Prop :=
  c.InRange → w.start.graph.nodes.size ≤ id.toNat ∧ c.graph.At id.toNat property

namespace Known

variable {w : Scope} {facts : List Fact} {exits : List FlowOut} {c : Context} {id : NodeId} {v : ValueOut}
  {count : Nat}

/-- A legal change of a new node that leaves its flows alone. -/
theorem change {f : Node → Node} {property property' : Node → Prop} (known : Known w facts exits c)
    (inputless : Inputless facts) (makes : w.Makes id property c)
    (step : ∀ n, w.start.graph.nodes.size ≤ id.toNat → c.graph.nodes[id.toNat]? = some n → property n →
      w.Sound facts exits c →
        Context.Step w.cls w.sources w.start.graph.nodes.size c (c.modifyNode id f))
    (keeps : ∀ n, property n → property' (f n))
    (flows : ∀ n socket, n.IsFree socket → (f n).IsFree socket) :
    Known w facts exits (c.modifyNode id f) ∧ w.Makes id property' (c.modifyNode id f) := by
  have size : (c.modifyNode id f).graph.nodes.size = c.graph.nodes.size := Graph.size_modifyNode ..
  have before (inRange : (c.modifyNode id f).InRange) : c.InRange := ⟨size ▸ inRange.1, inRange.2⟩
  refine ⟨⟨Nat.le_trans known.nodes_le (Nat.le_of_eq size.symm), known.placeholders_le, fun inRange => ?_⟩,
    fun inRange => ?_⟩
  · have sound := known.sound (before inRange)
    obtain ⟨recent, n, found, holds⟩ := makes (before inRange)
    refine sound.edit (step n recent found holds sound) size
      (fun a member => absurd member (inputless a).1) (fun a member => absurd member (inputless a).2)
      (fun g mine => ?_)
    exact (sound.mine g mine).modifyNode sound.wiredNow.identified fun n _ free => flows n _ free
  · obtain ⟨recent, n, found, holds⟩ := makes (before inRange)
    have identified := (known.sound (before inRange)).wiredNow.identified
    refine ⟨recent, f n, ?_, keeps n holds⟩
    show (c.graph.modifyNode id f).nodes[id.toNat]? = some (f n)
    rw [identified.nodes_modifyNode, if_pos rfl, found]
    rfl

/-- Feeds the next slot of a log node. -/
theorem connectSlot (known : Known w facts exits c) (inputless : Inputless facts)
    (given : .out v ∈ facts) (makes : w.Makes id (·.Numbered count) c) :
    Ensures (Build.connect (id.valueIn (toString count)) v) c fun _ c' =>
      Known w facts exits c' ∧ w.Makes id (·.Numbered (count + 1)) c' := by
  refine known.change inputless makes (fun n recent found numbered sound => ?_)
    (fun n numbered => numbered.feed v.address) fun _ _ free => free
  obtain ⟨offered, among⟩ := sound.holds _ given
  have sink : c.graph.At id.toNat (·.op.isSink = true) :=
    ⟨n, found, congrArg Op.isSink numbered.isLog⟩
  exact .feed (a := ⟨id, toString count⟩) recent found (.inr ⟨numbered.isLog, numbered.message⟩)
    (fun input place => (numbered.slots _ _ place).1) offered among
    ⟨_, sound.apart_sink sink, rfl, sound.among_sink sink offered⟩

/-- Sets a parameter of a log node. -/
theorem label {name : String} {value : ConfigValue} {property : Node → Prop}
    (known : Known w facts exits c) (inputless : Inputless facts)
    (makes : w.Makes id property c)
    (unset : ∀ n, property n → n.op = .debugLog ∧ n.configuration.find? name = some none) :
    Ensures (Build.configure id name value) c fun _ c' =>
      Known w facts exits c' ∧ w.Makes id (fun n => ∃ n', property n' ∧ n = n'.configure name value) c' := by
  refine known.change inputless makes (fun n recent found holds _ => ?_) (fun n holds => ⟨n, holds, rfl⟩)
    fun _ _ free => free
  exact .label recent found (unset n holds).1 (unset n holds).2

end Known

namespace Lower

variable {w : Scope} {facts : List Fact} {exits : List FlowOut} {s : Lowering} {id : NodeId}

theorem inputless_facts (inputless : Inputless facts) : Inputless (s.facts ++ facts) := by
  intro a
  refine ⟨fun member => ?_, fun member => ?_⟩ <;> rcases List.mem_append.1 member with own | old
  · cases Lowering.isShared_of_mem own
  · exact (inputless a).1 old
  · cases Lowering.isShared_of_mem own
  · exact (inputless a).2 old

/-- The values of a message feed the slots from a number on. -/
theorem ensures_lowerParts {bound : Nat} {low : Below bound} (valued : Below.Valued low) (slot : Nat)
    (parts : List MessagePart) (small : ∀ e, .value e ∈ parts → e.size < bound)
    (knows : s.Knows w facts exits) (inputless : Inputless facts)
    (makes : w.Makes id (·.Numbered slot) s.context) :
    Ensures (lowerParts low id slot parts small) s fun template s' =>
      template = MessagePart.template slot parts ∧ s'.Knows w facts exits ∧
        w.Makes id (·.Numbered (slot + parts.countP MessagePart.isValue)) s'.context := by
  induction parts generalizing s slot facts with
  | nil => exact .pure ⟨rfl, knows, makes⟩
  | cons part parts ih =>
    cases part with
    | text content =>
      refine (ih slot _ knows inputless makes).bind ?_
      rintro _ s' ⟨rfl, k, made⟩
      exact .pure ⟨rfl, k, made⟩
    | value e =>
      -- The log node is settled while its value is lowered.
      refine (valued e _ knows.enter).bind fun v? s' inner => ?_
      have k : s'.Knows w (v?.toList.map .out ++ facts) exits := knows.leave inner (by simp +contextual [or_imp])
      have made : w.Makes id (·.Numbered slot) s'.context := by
        intro inRange
        obtain ⟨recent, here⟩ := makes (inner.known.inRange inRange)
        have sound := inner.known.sound inRange
        exact ⟨recent, sound.run.at_input sound.wired.identified here.lt here
          fun _ _ evolves numbered => numbered.settled evolves⟩
      have rest {s'' : Lowering} (k : s''.Knows w facts exits)
          (made : w.Makes id (·.Numbered (slot + 1)) s''.context) :
          Ensures (do
            let rest ← lowerParts low id (slot + 1) parts
              fun e member => small e (List.mem_cons_of_mem _ member)
            return "\x7b" ++ toString slot ++ "\x7d" ++ rest : Lower String) s'' fun template s' =>
            template = MessagePart.template slot (.value e :: parts) ∧ s'.Knows w facts exits ∧
              w.Makes id (·.Numbered (slot + (parts.countP MessagePart.isValue + 1))) s'.context := by
        refine (ih (slot + 1) _ k inputless made).bind ?_
        rintro _ s' ⟨rfl, k, made⟩
        exact .pure ⟨rfl, k, by rwa [Nat.add_right_comm, Nat.add_assoc] at made⟩
      rw [List.countP_cons_of_pos rfl]
      cases v? with
      | none =>
        exact rest k fun inRange => (made inRange).imp_right (·.mono fun _ numbered => numbered.mono (by omega))
      | some v =>
        have plain : Inputless (.out v :: facts) := by simpa [Inputless] using inputless
        refine .liftBind (k.known.connectSlot (inputless_facts plain) (by simp) made) fun _ c ⟨k', made⟩ => ?_
        exact rest (k.advance (k'.weaken (by simp +contextual [or_imp]))) made

/-- A log message as a step of a flow. -/
theorem ensures_lowerLog {e : Expression} {low : Below e.size} (valued : Below.Valued low)
    (severity : Severity) (knows : s.Knows w facts exits) :
    Ensures (lowerLog e low severity) s fun ends s' => s'.Knows w (.entry ends.1 :: facts) (ends.2 :: exits) := by
  refine .liftBind (Context.drafts_createNode s.context .debugLog) fun id c drafts => ?_
  let inside : Scope := { w.enter s.context with pending := [id] }
  have entered : Known (inside.ticking s.tick) (s.facts ++ enter facts) exits s.context :=
    knows.enter.known.await id
  have placed : Known (inside.ticking s.tick) (s.facts ++ (.entry (id.flowIn "in") :: enter facts))
      (id.flowOut "out" :: exits) c :=
    (entered.placed .debugLog drafts (Node.unwired_new id .debugLog) (.inl List.mem_cons_self)
      (by decide : ∀ socket ∈ [], _) (by simp : ∀ socket ∈ [], _) (by decide : ∀ socket ∈ ["in"], _)
      (by decide : List.Nodup ["out"]) (by decide)).weaken (by simp +contextual [or_imp])
  have made : inside.Makes id (·.Numbered 0) c := fun inRange =>
    ⟨Nat.le_of_eq (drafts.inRange inRange).2.2.symm, _, entered.drafted drafts inRange,
      Node.numbered_new id⟩
  refine (ensures_lowerParts (s := { s with context := c }) valued 0 _ size_messageParts_lt
    ⟨placed, knows.even⟩ (by simp [Inputless]) made).bind ?_
  rintro _ s' ⟨rfl, k, made⟩
  refine .liftBind (k.known.label (inputless_facts (by simp [Inputless])) made
    fun n numbered => ⟨numbered.isLog, numbered.severity⟩) fun _ _ ⟨k', made⟩ => ?_
  refine .liftBind (k'.label (inputless_facts (by simp [Inputless])) made ?_) fun _ c ⟨k', made⟩ => .pure ?_
  · rintro _ ⟨n, numbered, rfl⟩
    refine ⟨numbered.isLog, ?_⟩
    rw [Node.configure, Dict.find?_insert, if_neg (by decide)]
    exact numbered.message
  · have settled := Known.settle (w := (w.enter s.context).ticking s'.tick) k' fun inRange => by
      obtain ⟨_, _, found, _, ⟨n, numbered, rfl⟩, rfl⟩ := made inRange
      exact ⟨_, found, Node.Numbered.finished (by simpa using numbered)⟩
    have inside : { s' with context := c }.Knows (w.enter s.context) _ _ := ⟨settled, k.even⟩
    exact knows.leave inside (by simp +contextual)

end Lower

end ScriptGraph
