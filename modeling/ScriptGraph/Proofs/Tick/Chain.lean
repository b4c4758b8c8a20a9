import Mathlib
import ScriptGraph.Proofs.Construction.Ensures
import ScriptGraph.Proofs.Tick.Patterns

/-!
Who is served behind the tick event.

There is one event, and one sequence behind it. Every subscriber takes the next output of the sequence; the journal
tells who they are, in that order, so the place of a subscriber is the number of its output. A wait leads its output
to its gate at once, and with its other nodes it stays as it was built.
-/

namespace ScriptGraph

open Pattern

/-- The nodes of a wait, and its number among the waits. -/
structure Poll where
  number : Nat
  /-- Sets the flag when the wait begins. -/
  arm : NodeId
  /-- Tells whether the condition holds. -/
  check : NodeId
  /-- Clears the flag when the wait ends. -/
  disarm : NodeId
  /-- Lets ticks pass to the check while the flag is set. -/
  gate : NodeId

/-- Who takes an output behind the tick event. -/
inductive Subscriber where
  /-- An entry point that runs at every tick. -/
  | update
  | wait (poll : Poll)

namespace Subscriber

def isUpdate : Subscriber → Bool
  | update => true
  | wait _ => false

def poll? : Subscriber → Option Poll
  | update => none
  | wait poll => some poll

end Subscriber

/-- The waits of a journal. -/
def polls (journal : List Subscriber) : List Poll := journal.filterMap Subscriber.poll?

@[simp] theorem polls_append (journal more : List Subscriber) : polls (journal ++ more) = polls journal ++ polls more :=
  List.filterMap_append ..

@[simp] theorem polls_nil : polls [] = [] := rfl

@[simp] theorem polls_update (journal : List Subscriber) : polls (.update :: journal) = polls journal := rfl

@[simp] theorem polls_wait (poll : Poll) (journal : List Subscriber) :
    polls (.wait poll :: journal) = poll :: polls journal := rfl

theorem mem_polls {journal : List Subscriber} {poll : Poll} : poll ∈ polls journal ↔ .wait poll ∈ journal := by
  simp only [polls, List.mem_filterMap]
  constructor
  · rintro ⟨subscriber, member, found⟩
    cases subscriber with
    | update => cases found
    | wait _ =>
      cases found
      exact member
  · exact fun member => ⟨_, member, rfl⟩

/-- How many outputs of the sequence are taken. -/
def Pattern.TickChain.taken (tick : Option TickChain) : Nat := tick.elim 0 (·.nextOutput)

namespace Graph

/-- The flow output leads to the flow input. -/
def Leads (g : Graph) (start : FlowOut) (target : FlowIn) : Prop :=
  g.At start.address.node.toNat (target.address ∈ ·.targets start.address.socket)

/-- The node writes the variable. -/
def Writes (g : Graph) (id : NodeId) (flag : Nat) : Prop :=
  g.At id.toNat fun n => n.op = .variableSet ∧ n.config? "variable" = some (.int (.ofNat flag))

/-- The nodes of a wait behind the output that serves it: ticks get to the gate, through the gate to the check, and
through the check to the end of the wait. The flag is a variable that is named after the number of the wait. -/
structure Polls (g : Graph) (port : FlowOut) (poll : Poll) : Prop where
  flag : ∃ flag v, g.vars[flag]? = some v ∧ v.name = "WaitPending_" ++ toString poll.number ∧
    g.Writes poll.arm flag ∧ g.Writes poll.disarm flag
  check : g.At poll.check.toNat (·.op = .flowBranch)
  gate : g.At poll.gate.toNat (·.op = .flowBranch)
  armed : g.Leads (poll.arm.flowOut "out") (poll.check.flowIn "in")
  polled : g.Leads port (poll.gate.flowIn "in")
  passed : g.Leads (poll.gate.flowOut "true") (poll.check.flowIn "in")
  done : g.Leads (poll.check.flowOut "true") (poll.disarm.flowIn "in")

end Graph

namespace Context

variable {base base' : Nat} {c c' : Context} {tick : Option TickChain} {journal : List Subscriber}

theorem Remains.leads {start : FlowOut} {target : FlowIn} (remains : c.Remains base c')
    (leads : c.graph.Leads start target) : c'.graph.Leads start target :=
  remains.at leads fun _ _ remains member => remains.targets _ member

theorem Remains.atOp {i : Nat} {op : Op} (remains : c.Remains base c') (here : c.graph.At i (·.op = op)) :
    c'.graph.At i (·.op = op) :=
  remains.at here fun _ _ remains same => remains.op.trans same

theorem Remains.writes {id : NodeId} {flag : Nat} (remains : c.Remains base c') (settled : id.toNat < base)
    (writes : c.graph.Writes id flag) : c'.graph.Writes id flag := by
  refine remains.at writes fun n n' remains holds => ⟨remains.op.trans holds.1, ?_⟩
  rw [Node.config?, remains.parameters settled]
  exact holds.2

theorem Remains.polls {port : FlowOut} {poll : Poll} (remains : c.Remains base c') (arm : poll.arm.toNat < base)
    (disarm : poll.disarm.toNat < base) (polls : c.graph.Polls port poll) : c'.graph.Polls port poll where
  flag := by
    obtain ⟨flag, v, found, name, armed, disarmed⟩ := polls.flag
    obtain ⟨v', found', name'⟩ := remains.vars found
    exact ⟨flag, v', found', name'.trans name, remains.writes arm armed, remains.writes disarm disarmed⟩
  check := remains.atOp polls.check
  gate := remains.atOp polls.gate
  armed := remains.leads polls.armed
  polled := remains.leads polls.polled
  passed := remains.leads polls.passed
  done := remains.leads polls.done

/-- The chain behind the tick event serves the subscribers of the journal, each by the output that has the number of
its place. The nodes of waits are settled, and no gate is used twice. -/
structure Serves (base : Nat) (tick : Option TickChain) (journal : List Subscriber) (c : Context) : Prop where
  single : ∀ {i : Nat} {n : Node}, c.graph.nodes[i]? = some n → n.op = .eventOnTick →
    ∃ t, tick = some t ∧ t.event = .ofNat i
  event : ∀ {t : TickChain}, tick = some t → c.graph.At t.event.toNat (·.op = .eventOnTick)
  sequence : ∀ {t : TickChain} {sequence : NodeId}, tick = some t → t.sequence = some sequence →
    c.graph.At sequence.toNat (·.op = .flowSequence) ∧ c.graph.Leads (t.event.flowOut "out") (sequence.flowIn "in")
  idle : (∀ t, tick = some t → t.sequence = none) → journal = []
  taken : TickChain.taken tick = journal.length
  wired : ∀ {k : Nat} {poll : Poll}, journal[k]? = some (.wait poll) →
    ∃ t sequence, tick = some t ∧ t.sequence = some sequence ∧
      c.graph.Polls (sequence.flowOut (toString k)) poll
  settled : ∀ poll ∈ polls journal, poll.arm.toNat < base ∧ poll.disarm.toNat < base ∧ poll.gate.toNat < base
  distinct : ((polls journal).map Poll.gate).Nodup

theorem Serves.mono (serves : c.Serves base tick journal) (le : base ≤ base') : c.Serves base' tick journal :=
  { serves with
    settled := fun poll member => by
      obtain ⟨arm, disarm, gate⟩ := serves.settled poll member
      exact ⟨arm.trans_le le, disarm.trans_le le, gate.trans_le le⟩ }

/-- Every event of the tick is an old one. -/
theorem Serves.remains (serves : c.Serves base tick journal) (remains : c.Remains base c')
    (events : ∀ {i : Nat} {n : Node}, c'.graph.nodes[i]? = some n → n.op = .eventOnTick → i < c.graph.nodes.size) :
    c'.Serves base tick journal where
  single found event := by
    obtain ⟨n', found', remains⟩ := remains.nodes (Array.getElem?_eq_getElem (events found event))
    obtain rfl := Option.some.inj (found.symm.trans found')
    exact serves.single (Array.getElem?_eq_getElem _) (remains.op.symm.trans event)
  event ticking := remains.atOp (serves.event ticking)
  sequence ticking behind := by
    obtain ⟨op, leads⟩ := serves.sequence ticking behind
    exact ⟨remains.atOp op, remains.leads leads⟩
  idle := serves.idle
  taken := serves.taken
  wired {k poll} found := by
    obtain ⟨t, sequence, ticking, behind, wired⟩ := serves.wired found
    obtain ⟨arm, disarm, _⟩ := serves.settled poll (mem_polls.2 (List.mem_of_getElem? found))
    exact ⟨t, sequence, ticking, behind, remains.polls arm disarm wired⟩
  settled := serves.settled
  distinct := serves.distinct

theorem Serves.quiet (serves : c.Serves base tick journal) (quiet : c.Quiet base c') :
    c'.Serves base tick journal :=
  serves.remains quiet.toRemains quiet.events

/-- The event of the tick is placed. -/
theorem Serves.place (serves : c.Serves base none journal) (small : c.graph.nodes.size < 0x100000000) {n : Node}
    (ticking : n.op = .eventOnTick) :
    (c.place n).Serves base (some { event := .ofNat c.graph.nodes.size }) journal where
  single {i m} found event := by
    rw [Context.place, Graph.nodes_place] at found
    split at found
    · next last => exact ⟨_, rfl, by rw [last]⟩
    · obtain ⟨t, none, _⟩ := serves.single found event
      cases none
  event {t} same := by
    cases same
    exact ⟨n, by rw [NodeId.toNat_ofNat small, Context.place, Graph.nodes_place, if_pos rfl], ticking⟩
  sequence same behind := by
    cases same
    cases behind
  idle _ := serves.idle fun t none => by cases none
  taken := serves.taken
  wired found := by
    obtain ⟨t, _, none, _⟩ := serves.wired found
    cases none
  settled := serves.settled
  distinct := serves.distinct

/-- The sequence behind the event is led to. -/
theorem Serves.lead {t : TickChain} {sequence : NodeId} (serves : c.Serves base (some t) journal)
    (idle : t.sequence = none) (op : c.graph.At sequence.toNat (·.op = .flowSequence))
    (leads : c.graph.Leads (t.event.flowOut "out") (sequence.flowIn "in")) :
    c.Serves base (some { t with sequence := some sequence }) journal where
  single found event := by
    obtain ⟨_, same, id⟩ := serves.single found event
    cases same
    exact ⟨_, rfl, id⟩
  event same := by
    cases same
    exact serves.event (t := t) rfl
  sequence same behind := by
    cases same
    cases behind
    exact ⟨op, leads⟩
  idle none := by cases none _ rfl
  taken := serves.taken
  wired found := by
    obtain ⟨_, _, same, behind, _⟩ := serves.wired found
    cases same
    cases idle.symm.trans behind
  settled := serves.settled
  distinct := serves.distinct

/-- One more output is taken. -/
theorem Serves.take {t : TickChain} {sequence : NodeId} (serves : c.Serves base (some t) journal)
    (behind : t.sequence = some sequence) :
    c.Serves base (some { t with nextOutput := t.nextOutput + 1 }) (journal ++ [.update]) where
  single found event := by
    obtain ⟨_, same, id⟩ := serves.single found event
    cases same
    exact ⟨_, rfl, id⟩
  event same := by
    cases same
    exact serves.event (t := t) rfl
  sequence same := by
    cases same
    exact serves.sequence (t := t) rfl
  idle none := by cases (none _ rfl).symm.trans behind
  taken := by simpa [TickChain.taken] using serves.taken
  wired {k poll} found := by
    have earlier : journal[k]? = some (.wait poll) := by
      rw [List.getElem?_append] at found
      split at found
      · exact found
      · rw [List.getElem?_singleton] at found
        split at found <;> cases found
    obtain ⟨_, sequence, same, behind, wired⟩ := serves.wired earlier
    cases same
    exact ⟨_, sequence, rfl, behind, wired⟩
  settled poll member := serves.settled poll (by simpa using member)
  distinct := by simpa using serves.distinct

/-- The output that was taken last serves a wait. -/
theorem Serves.assign {t : TickChain} {sequence : NodeId} {poll : Poll}
    (serves : c.Serves base (some t) (journal ++ [.update])) (behind : t.sequence = some sequence)
    (le : base ≤ base') (arm : poll.arm.toNat < base') (disarm : poll.disarm.toNat < base')
    (gate : poll.gate.toNat < base') (new : base ≤ poll.gate.toNat)
    (wired : c.graph.Polls (sequence.flowOut (toString journal.length)) poll) :
    c.Serves base' (some t) (journal ++ [.wait poll]) where
  single := serves.single
  event := serves.event
  sequence := serves.sequence
  idle none := by cases (none t rfl).symm.trans behind
  taken := by simpa using serves.taken
  wired {k other} found := by
    by_cases earlier : k < journal.length
    · refine serves.wired (k := k) ?_
      rw [List.getElem?_append_left earlier] at found ⊢
      exact found
    · have last : k = journal.length := by
        have inside := (List.getElem?_eq_some_iff.1 found).1
        simp only [List.length_append, List.length_cons, List.length_nil] at inside
        omega
      subst last
      simp only [List.getElem?_concat_length, Option.some.injEq, Subscriber.wait.injEq] at found
      subst found
      exact ⟨t, sequence, rfl, behind, wired⟩
  settled other member := by
    simp only [polls_append, List.mem_append] at member
    rcases member with old | last
    · obtain ⟨arm, disarm, gate⟩ := serves.settled other (by simp [old])
      exact ⟨arm.trans_le le, disarm.trans_le le, gate.trans_le le⟩
    · obtain rfl : other = poll := by simpa using last
      exact ⟨arm, disarm, gate⟩
  distinct := by
    have distinct := serves.distinct
    simp only [polls_append, List.map_append] at distinct ⊢
    refine List.nodup_append.2 ⟨(List.nodup_append.1 distinct).1, by simp, ?_⟩
    rintro _ member _ last rfl
    obtain ⟨other, old, same⟩ := List.mem_map.1 member
    have settled := serves.settled other (by simp [old])
    have gate' : other.gate = poll.gate := by simpa [same] using last
    rw [gate'] at settled
    omega

end Context

/-- What is kept in mind while a wait is built. -/
inductive Mark where
  | node (id : NodeId) (op : Op)
  /-- A node that is not settled yet. -/
  | recent (id : NodeId)
  | writes (id : NodeId) (flag : Nat)
  | leads (start : FlowOut) (target : FlowIn)
  | named (flag : Nat) (name : String)

/-- What a mark says. -/
def Mark.Holds (base : Nat) (c : Context) : Mark → Prop
  | node id op => c.graph.At id.toNat (·.op = op)
  | recent id => base ≤ id.toNat
  | writes id flag => c.graph.Writes id flag
  | leads start target => c.graph.Leads start target
  | named flag name => ∃ v, c.graph.vars[flag]? = some v ∧ v.name = name

theorem Mark.Holds.remains {base : Nat} {c c' : Context} {m : Mark} (holds : m.Holds base c)
    (remains : c.Remains c.graph.nodes.size c') : m.Holds base c' := by
  cases m with
  | node id op => exact remains.atOp holds
  | recent id => exact holds
  | writes id flag => exact remains.writes holds.lt holds
  | leads start target => exact remains.leads holds
  | named flag name =>
    obtain ⟨v, found, named⟩ := holds
    obtain ⟨v', found', name'⟩ := remains.vars found
    exact ⟨v', found', name'.trans named⟩

/-- A chain that serves a journal, after some steps and waits since `start`. While the numbers of nodes suffice, the
nodes before the base are as they were, and the marks hold. -/
structure Marked (base : Nat) (tick : Option TickChain) (journal : List Subscriber) (start : Context) (waits : Nat)
    (marks : List Mark) (c : Context) : Prop where
  base_le : base ≤ start.graph.nodes.size
  size_le : start.graph.nodes.size ≤ c.graph.nodes.size
  remains : c.graph.nodes.size ≤ 0x100000000 → start.Remains base c
  serves : c.graph.nodes.size ≤ 0x100000000 → c.Serves base tick journal
  waits : c.graph.nodes.size ≤ 0x100000000 → c.waits = start.waits + waits
  holds : c.graph.nodes.size ≤ 0x100000000 → ∀ m ∈ marks, m.Holds base c

namespace Marked

variable {base waits : Nat} {tick : Option TickChain} {t : TickChain} {journal : List Subscriber} {c c' start : Context}
  {marks : List Mark}

theorem refl (identified : c.graph.Identified) (base_le : base ≤ c.graph.nodes.size)
    (serves : c.Serves base tick journal) : Marked base tick journal c 0 [] c :=
  ⟨base_le, le_rfl, fun _ => .refl identified, fun _ => serves, fun _ => rfl, fun _ _ member => by cases member⟩

theorem quiet {α : Type} {step : Build α} (marked : Marked base tick journal start waits marks c)
    (quiet : ∀ base, Build.Quiet base step) :
    Ensures step c fun _ c' => Marked base tick journal start waits marks c' := by
  have grown := (quiet 0).size_le c
  have base_le := marked.base_le.trans marked.size_le
  refine ⟨marked.base_le, marked.size_le.trans grown, fun inRange => ?_, fun inRange => ?_, fun inRange => ?_,
    fun inRange m member => ?_⟩
  all_goals
    have remains := marked.remains (grown.trans inRange)
  · exact remains.trans ((quiet base).quiet c remains.identified base_le inRange).toRemains
  · exact (marked.serves (grown.trans inRange)).quiet ((quiet base).quiet c remains.identified base_le inRange)
  · exact ((quiet base).quiet c remains.identified base_le inRange).waits.trans (marked.waits (grown.trans inRange))
  · exact (marked.holds (grown.trans inRange) m member).remains
      ((quiet _).quiet c remains.identified le_rfl inRange).toRemains

theorem mark {m : Mark} (marked : Marked base tick journal start waits marks c)
    (holds : c.graph.nodes.size ≤ 0x100000000 → m.Holds base c) :
    Marked base tick journal start waits (m :: marks) c :=
  { marked with
    holds := fun inRange other member => by
      rcases List.mem_cons.1 member with rfl | old
      · exact holds inRange
      · exact marked.holds inRange other old }

/-- A node placed last. -/
theorem placed {id : NodeId} {n : Node} {p : Node → Prop}
    (before : Marked base tick journal start waits marks c) (drafts : c.Drafts id n c')
    (inRange : c'.graph.nodes.size ≤ 0x100000000) (holds : p n) :
    c.graph.nodes.size ≤ id.toNat ∧ c'.graph.At id.toNat p := by
  have small : c.graph.nodes.size < 0x100000000 := by
    have := drafts.nodes
    omega
  have identified := (before.remains small.le).identified
  have number : id.toNat = c.graph.nodes.size := by rw [drafts.id_eq, NodeId.toNat_ofNat small]
  refine ⟨number.ge, n, ?_, holds⟩
  rw [drafts.same identified small, Context.place, Graph.nodes_place, if_pos number]

theorem createNode {op : Op} (marked : Marked base tick journal start waits marks c) (other : op ≠ .eventOnTick) :
    Ensures (Build.createNode op) c fun id c' =>
      Marked base tick journal start waits (.recent id :: .node id op :: marks) c' := by
  have made : Ensures (Build.createNode op) c fun id c' => Marked base tick journal start waits marks c' :=
    marked.quiet fun base => .node other fun _ _ _ => .pure _
  have drafts := Context.drafts_createNode c op
  refine (made.mark (m := .node _ op) fun inRange => ?_).mark fun inRange => ?_
  · exact (marked.placed (p := (·.op = op)) drafts inRange rfl).2
  · exact (marked.base_le.trans marked.size_le).trans
      (marked.placed (p := fun _ => True) drafts inRange trivial).1

theorem connectFlow {id : NodeId} {op : Op} {socket : String} {target : FlowIn}
    (marked : Marked base tick journal start waits marks c) (there : .node id op ∈ marks) :
    Ensures (Build.connectFlow (id.flowOut socket) target) c fun _ c' =>
      Marked base tick journal start waits (.leads (id.flowOut socket) target :: marks) c' := by
  have led : Ensures (Build.connectFlow (id.flowOut socket) target) c fun _ c' =>
      Marked base tick journal start waits marks c' := marked.quiet fun _ => Build.quiet_connectFlow _ _
  refine led.mark fun inRange => ?_
  have before := (Build.quiet_connectFlow (id.flowOut socket) target : Build.Quiet 0 _).size_le c
  have identified := (marked.remains (before.trans inRange)).identified
  obtain ⟨n, found, _⟩ := marked.holds (before.trans inRange) _ there
  have first : (c.modifyNode id (·.addTarget socket target.address)).graph.At id.toNat
      (target.address ∈ ·.targets socket) := by
    refine ⟨n.addTarget socket target.address, ?_, ?_⟩
    · rw [Context.modifyNode, identified.nodes_modifyNode, if_pos rfl, found]
      rfl
    · show target.address ∈ (n.addTarget socket target.address).targets socket
      rw [Node.targets_addTarget, if_pos rfl]
      split
      · next old => exact List.contains_iff_mem.1 old
      · simp
  have led : (c.modifyNode id (·.addTarget socket target.address)).graph.Identified :=
    identified.modifyNode id fun _ => rfl
  have second : (c.modifyNode id (·.addTarget socket target.address)).Quiet 0
      (Build.connectFlow (id.flowOut socket) target c).2 :=
    Context.quiet_modifyNode led target.address.node (fun _ => rfl) fun _ =>
      ⟨rfl, fun _ => List.Subset.refl _, fun _ => rfl⟩
  exact second.leads first

theorem setVariableStatic {flag : Nat} {value : Literal}
    (marked : Marked base tick journal start waits marks c) :
    Ensures (Pattern.setVariableStatic flag value) c fun set c' =>
      set.flowIn = set.node.flowIn "in" ∧ set.flowOut = set.node.flowOut "out" ∧
        Marked base tick journal start waits (.writes set.node flag :: .node set.node .variableSet :: marks) c' := by
  have kept : Ensures (setVariable flag) c fun _ c' => Marked base tick journal start waits marks c' :=
    marked.quiet fun _ => Build.quiet_setVariable flag
  have drafts : Ensures (setVariable flag) c fun set c' => set.flowIn = set.node.flowIn "in" ∧
      set.flowOut = set.node.flowOut "out" ∧
        c.Drafts set.node ((Node.new set.node .variableSet).configure "variable" (.int (.ofNat flag))) c' :=
    (Context.drafts_createNode c .variableSet).bind fun node _ drafts =>
      (drafts.configure "variable" (.int (.ofNat flag))).bind fun _ _ drafts => .pure ⟨rfl, rfl, drafts⟩
  refine (kept.and drafts).bind fun set c' ⟨kept, flowIn, flowOut, drafts⟩ => ?_
  have there (inRange : c'.graph.nodes.size ≤ 0x100000000) : c'.graph.Writes set.node flag :=
    (marked.placed drafts inRange ⟨rfl, by rw [Node.config?_configure, if_pos rfl]⟩).2
  have written := (kept.mark (m := .node set.node .variableSet) fun inRange =>
    (there inRange).mono fun _ writes => writes.1).mark (m := .writes set.node flag) there
  refine (written.quiet fun _ => Build.quiet_setLiteral set.value value).bind fun _ _ marked => .pure ?_
  exact ⟨flowIn, flowOut, marked⟩

theorem declareVariable {name : String} {initial : Option Literal} {type : ValueType}
    (marked : Marked base tick journal start waits marks c) :
    Ensures (Build.declareVariable name initial type) c fun flag c' =>
      Marked base tick journal start waits (.named flag name :: marks) c' := by
  have declared : Ensures (Build.declareVariable name initial type) c fun _ c' =>
      Marked base tick journal start waits marks c' := marked.quiet fun _ => Build.quiet_declareVariable _ _ _
  refine declared.mark fun _ => ?_
  cases known : c.variableId? name with
  | some id =>
    rw [Build.declareVariable_of_known initial type known]
    obtain ⟨inside, same, _⟩ := Array.findIdx?_eq_some_iff_getElem.1 known
    exact ⟨_, Array.getElem?_eq_getElem inside, by simpa using same⟩
  | none =>
    rw [Build.declareVariable_of_new initial type known]
    exact ⟨_, Array.getElem?_push_size, rfl⟩

/-- A new tick event, if there is none. -/
theorem getOrNew (marked : Marked base tick journal start waits marks c) :
    Ensures (TickChain.getOrNew tick) c fun chain c' =>
      chain.nextOutput = TickChain.taken tick ∧ Marked base (some chain) journal start waits marks c' := by
  cases tick with
  | some t => exact .pure ⟨rfl, marked⟩
  | none =>
    have made : Ensures TickChain.new c fun chain c' => chain = { event := .ofNat c.graph.nodes.size } ∧
        c' = c.place (.new (.ofNat c.graph.nodes.size) .eventOnTick) := ⟨rfl, rfl⟩
    refine made.mono ?_
    rintro _ _ ⟨rfl, rfl⟩
    have size : (c.place (.new (.ofNat c.graph.nodes.size) .eventOnTick)).graph.nodes.size = c.graph.nodes.size + 1 :=
      Array.size_push _
    have small (inRange : (c.place (.new (.ofNat c.graph.nodes.size) .eventOnTick)).graph.nodes.size ≤ 0x100000000) :
        c.graph.nodes.size < 0x100000000 := by omega
    have quiet (base : Nat) (inRange : (c.place (.new (.ofNat c.graph.nodes.size) .eventOnTick)).graph.nodes.size
        ≤ 0x100000000) : c.Remains base (c.place (.new (.ofNat c.graph.nodes.size) .eventOnTick)) :=
      Context.remains_place (marked.remains (small inRange).le).identified rfl
    refine ⟨rfl, marked.base_le, marked.size_le.trans (size ▸ Nat.le_succ _), fun inRange => ?_, fun inRange => ?_,
      fun inRange => marked.waits (small inRange).le, fun inRange m member => ?_⟩
    · exact (marked.remains (small inRange).le).trans (quiet base inRange)
    · exact (marked.serves (small inRange).le).place (small inRange) rfl
    · exact (marked.holds (small inRange).le m member).remains (quiet _ inRange)

/-- The sequence behind the event, made now if there is none. -/
theorem getSequence (marked : Marked base (some t) journal start waits marks c) :
    Ensures t.getSequence c fun sequence c' =>
      Marked base (some { t with sequence := some sequence }) journal start waits
        (.node sequence .flowSequence :: marks) c' := by
  obtain ⟨event, sequence?, next⟩ := t
  cases sequence? with
  | some sequence => exact .pure (marked.mark fun inRange => ((marked.serves inRange).sequence rfl rfl).1)
  | none =>
    have there := marked.mark (m := .node event .eventOnTick) fun inRange => (marked.serves inRange).event rfl
    refine (there.createNode (by decide : Op.flowSequence ≠ .eventOnTick)).bind fun sequence _ made => ?_
    refine (made.connectFlow (by simp : Mark.node event .eventOnTick ∈ _)).bind fun _ _ led => .pure ?_
    refine { led with
      serves := fun inRange => (led.serves inRange).lead rfl ?_ ?_
      holds := fun inRange m member => led.holds inRange m ?_ }
    · exact led.holds inRange (.node sequence .flowSequence) (by simp)
    · exact led.holds inRange (.leads (event.flowOut "out") (sequence.flowIn "in")) (by simp)
    · rcases List.mem_cons.1 member with rfl | old
      · simp
      · simp [old]

/-- The next output of the sequence. -/
theorem nextFlow (marked : Marked base (some t) journal start waits marks c) :
    Ensures t.nextFlow c fun taken c' => ∃ sequence,
      taken.1 = sequence.flowOut (toString t.nextOutput) ∧ taken.2.sequence = some sequence ∧
        Marked base (some taken.2) (journal ++ [.update]) start waits (.node sequence .flowSequence :: marks) c' := by
  refine marked.getSequence.bind fun sequence _ marked => .pure ⟨sequence, rfl, rfl, ?_⟩
  exact { marked with serves := fun inRange => (marked.serves inRange).take rfl }

end Marked

/-- What steps do to those who are served: more subscribers take the next outputs, and the waits among them are
numbered on. -/
structure Context.Gains (base : Nat) (journal more : List Subscriber) (c : Context) (tick : Option TickChain)
    (c' : Context) : Prop where
  remains : c.Remains base c'
  serves : c'.Serves c'.graph.nodes.size tick (journal ++ more)
  numbers : (polls more).map Poll.number = List.range' c.waits (polls more).length
  waits : c'.waits = c.waits + (polls more).length

theorem Context.Gains.trans {base : Nat} {journal more more' : List Subscriber} {c c' c'' : Context}
    {tick tick' : Option TickChain} (first : c.Gains base journal more tick c')
    (second : c'.Gains base (journal ++ more) more' tick' c'') : c.Gains base journal (more ++ more') tick' c'' where
  remains := first.remains.trans second.remains
  serves := by simpa using second.serves
  numbers := by
    rw [polls_append, List.map_append, first.numbers, second.numbers, first.waits, List.length_append,
      List.range'_append_1]
  waits := by
    rw [second.waits, first.waits, polls_append, List.length_append]
    omega

theorem Context.Gains.quiet {base : Nat} {journal more : List Subscriber} {c c' c'' : Context}
    {tick : Option TickChain} (gains : c.Gains base journal more tick c') (quiet : c'.Quiet c'.graph.nodes.size c'')
    (base_le : base ≤ c'.graph.nodes.size) (le : c'.graph.nodes.size ≤ c''.graph.nodes.size) :
    c.Gains base journal more tick c'' where
  remains := gains.remains.trans (quiet.toRemains.mono base_le)
  serves := (gains.serves.quiet quiet).mono le
  numbers := gains.numbers
  waits := quiet.waits.trans gains.waits

namespace Pattern

/-- Builds waits, each of which takes the next output behind the tick event. -/
structure GainsWait (build : Option TickChain → Build (Wait × TickChain)) : Prop where
  grows : ∀ tick, Build.Grows (build tick)
  gains : ∀ {base : Nat} {tick : Option TickChain} {journal : List Subscriber} {c : Context},
    c.graph.Identified → base ≤ c.graph.nodes.size → c.Serves base tick journal →
      (build tick c).2.graph.nodes.size ≤ 0x100000000 →
        ∃ poll, c.Gains base journal [.wait poll] (some (build tick c).1.2) (build tick c).2

theorem gains_waitUntil {base : Nat} {tick : Option TickChain} {journal : List Subscriber} {c : Context}
    (identified : c.graph.Identified) (base_le : base ≤ c.graph.nodes.size) (serves : c.Serves base tick journal) :
    Ensures (waitUntil tick) c fun result c' => c'.graph.nodes.size ≤ 0x100000000 →
      ∃ poll, c.Gains base journal [.wait poll] (some result.2) c' := by
  have start := Marked.refl identified base_le serves
  have named : Ensures (Build.uniqueName "WaitPending") c fun name c' =>
      name = "WaitPending_" ++ toString c.waits ∧ Marked base tick journal c 1 [] c' := by
    have remains : c.Remains base (Build.uniqueName "WaitPending" c).2 :=
      ⟨identified, fun found => ⟨_, found, .refl _⟩, fun found => ⟨_, found, rfl⟩, rfl⟩
    refine ⟨rfl, base_le, le_rfl, fun _ => remains, fun _ => serves.remains remains fun found _ => ?_, fun _ => ?_,
      fun _ _ member => by cases member⟩
    · exact (Array.getElem?_eq_some_iff.1 found).1
    · have counters : (Build.uniqueName "WaitPending" c).2.counters =
          c.counters.insert "WaitPending" (c.waits + 1) := rfl
      rw [Context.waits, counters, Dict.find?_insert, if_pos rfl, Option.getD_some]
  refine named.bind fun name _ m => ?_
  obtain ⟨same, m⟩ := m
  refine m.declareVariable.bind fun pending _ m => ?_
  refine m.setVariableStatic.bind fun arm _ m => ?_
  obtain ⟨_, armOut, m⟩ := m
  rw [armOut]
  refine (m.createNode (by decide : Op.flowBranch ≠ .eventOnTick)).bind fun check _ m => ?_
  refine (m.connectFlow (by simp : Mark.node _ .variableSet ∈ _)).bind fun _ _ m => ?_
  refine m.setVariableStatic.bind fun disarm _ m => ?_
  obtain ⟨disarmIn, _, m⟩ := m
  rw [disarmIn]
  refine (m.connectFlow (by simp : Mark.node _ .flowBranch ∈ _)).bind fun _ _ m => ?_
  refine m.getOrNew.bind fun chain _ m => ?_
  obtain ⟨next, m⟩ := m
  refine m.nextFlow.bind fun result _ m => ?_
  obtain ⟨port, chain'⟩ := result
  obtain ⟨sequence, taken, behind, m⟩ := m
  rw [next, serves.taken] at taken
  subst taken
  refine (m.createNode (by decide : Op.flowBranch ≠ .eventOnTick)).bind fun gate _ m => ?_
  refine (m.quiet fun _ => Build.quiet_getVariable pending).bind fun isPending _ m => ?_
  refine (m.quiet fun _ => Build.quiet_connect _ _).bind fun _ _ m => ?_
  refine (m.connectFlow (by simp : Mark.node _ .flowSequence ∈ _)).bind fun _ _ m => ?_
  refine (m.connectFlow (by simp : Mark.node _ .flowBranch ∈ _)).bind fun _ _ m => .pure fun inRange => ?_
  have writes (set : VariableSet) (member : _) := m.holds inRange (.writes set.node pending) member
  have branch (id : NodeId) (member : _) := m.holds inRange (.node id .flowBranch) member
  have leads (start : FlowOut) (target : FlowIn) (member : _) := m.holds inRange (.leads start target) member
  obtain ⟨v, found, named⟩ := m.holds inRange (.named pending name) (by simp)
  have arms := writes arm (by simp)
  have disarms := writes disarm (by simp)
  have gates := branch gate (by simp)
  refine ⟨⟨c.waits, arm.node, check, disarm.node, gate⟩, m.remains inRange, ?_, rfl, m.waits inRange⟩
  refine (m.serves inRange).assign behind (base_le.trans m.size_le) arms.lt disarms.lt gates.lt
    (m.holds inRange (.recent gate) (by simp)) ⟨⟨pending, v, found, named.trans same, arms, disarms⟩,
      branch check (by simp), gates, leads _ _ (by simp), leads _ _ (by simp), leads _ _ (by simp),
      leads _ _ (by simp)⟩

theorem grows_getOrNew (tick : Option TickChain) : Build.Grows (TickChain.getOrNew tick) := by
  intro c
  cases tick with
  | some t => exact le_rfl
  | none => exact (Array.size_push _).symm ▸ Nat.le_succ _

theorem quiet_getSequence (t : TickChain) (base : Nat) : Build.Quiet base t.getSequence := by
  unfold TickChain.getSequence
  split
  · exact .pure _
  · exact .node (by decide) fun _ _ _ => .bind (Build.quiet_connectFlow _ _) fun _ => .pure _

theorem quiet_nextFlow (t : TickChain) (base : Nat) : Build.Quiet base t.nextFlow :=
  .bind (quiet_getSequence t base) fun _ => .pure _

theorem gainsWait_waitUntil : GainsWait waitUntil where
  grows tick := by
    refine .bind (fun _ => le_rfl) fun _ => .bind (.of_quiet (Build.quiet_declareVariable _ _ _)) fun _ => ?_
    refine .bind (.of_quiet (Build.quiet_setVariableStatic _ _)) fun _ => .bind (Build.grows_createNode _) fun _ => ?_
    refine .bind (.of_quiet (Build.quiet_connectFlow _ _)) fun _ => ?_
    refine .bind (.of_quiet (Build.quiet_setVariableStatic _ _)) fun _ => ?_
    refine .bind (.of_quiet (Build.quiet_connectFlow _ _)) fun _ => .bind (grows_getOrNew tick) fun chain => ?_
    refine .bind (.of_quiet (quiet_nextFlow chain 0)) fun _ => .bind (Build.grows_createNode _) fun _ => ?_
    refine .bind (.of_quiet (Build.quiet_getVariable _)) fun _ => ?_
    refine .bind (.of_quiet (Build.quiet_connect _ _)) fun _ => ?_
    refine .bind (.of_quiet (Build.quiet_connectFlow _ _)) fun _ => ?_
    exact .bind (.of_quiet (Build.quiet_connectFlow _ _)) fun _ _ => le_rfl
  gains identified base_le serves := gains_waitUntil identified base_le serves

/-- A wait with its condition negated. -/
theorem gainsWait_waitWhile : GainsWait waitWhile := by
  have quiet (result : Wait × TickChain) (base : Nat) : Build.Quiet base (do
      let negation ← Build.createNode .mathNot
      Build.connect result.1.condition (negation.valueOut "value")
      return (({ result.1 with condition := negation.valueIn "a" }, result.2) : Wait × TickChain)) :=
    .node (by decide) fun _ _ _ => .bind (Build.quiet_connect _ _) fun _ => .pure _
  have grows := gainsWait_waitUntil.grows
  have grown (tick : Option TickChain) (c : Context) :
      (waitUntil tick c).2.graph.nodes.size ≤ (waitWhile tick c).2.graph.nodes.size :=
    (quiet (waitUntil tick c).1 0).size_le _
  refine ⟨fun tick c => (grows tick c).trans (grown tick c), fun {_ tick _ c} identified base_le serves inRange => ?_⟩
  obtain ⟨poll, gains⟩ := gainsWait_waitUntil.gains identified base_le serves ((grown tick c).trans inRange)
  refine ⟨poll, gains.quiet ?_ (base_le.trans (grows tick c)) (grown tick c)⟩
  exact (quiet (waitUntil tick c).1 _).quiet _ gains.remains.identified le_rfl inRange

end Pattern

end ScriptGraph
