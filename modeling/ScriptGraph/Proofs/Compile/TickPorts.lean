import Mathlib
import ScriptGraph.Proofs.Compile.Wiring
import ScriptGraph.Proofs.Tick.Classes

/-!
The tick in compiled graphs: there is one event, one sequence behind it, and each subscriber has an output of its own.

What lowering wires is known from those who are served (`ScriptClass.serves_lowered`). That there is nothing else on
the outputs of the sequence is known from the outputs that the chain reserves, which lead nowhere.
-/

namespace ScriptGraph

namespace Graph

variable {c : Context}

theorem At.resolved {i : Nat} {property : Node → Prop} (here : c.graph.At i property)
    (keeps : ∀ n, property n → property (c.resolveNode n)) : c.resolved.At i property := by
  obtain ⟨n, found, holds⟩ := here
  exact ⟨c.resolveNode n, by simp [Context.resolved, found], keeps n holds⟩

theorem Leads.resolved {start : FlowOut} {target : FlowIn} (leads : c.graph.Leads start target) :
    c.resolved.Leads start target :=
  At.resolved leads fun _ member => member

theorem Polls.resolved {port : FlowOut} {poll : Poll} (polls : c.graph.Polls port poll) :
    c.resolved.Polls port poll where
  flag := by
    obtain ⟨flag, v, found, name, armed, disarmed⟩ := polls.flag
    exact ⟨flag, v, found, name, armed.resolved fun _ writes => writes, disarmed.resolved fun _ writes => writes⟩
  check := polls.check.resolved fun _ op => op
  gate := polls.gate.resolved fun _ op => op
  armed := polls.armed.resolved
  polled := polls.polled.resolved
  passed := polls.passed.resolved
  done := polls.done.resolved

/-- A sequence whose outputs are the ports of the subscribers of a journal, numbered in order. -/
structure Sequences (g : Graph) (sequence : NodeId) (journal : List Subscriber) : Prop where
  /-- Outputs that lead on are ports, and each leads to one place. -/
  ports : g.At sequence.toNat fun n => n.op = .flowSequence ∧ ∀ socket, n.targets socket ≠ [] →
    (n.targets socket).length = 1 ∧ ∃ k < journal.length, socket = toString k
  /-- The port of a wait leads to the gate of this wait. -/
  waits : ∀ {k : Nat} {poll : Poll}, journal[k]? = some (.wait poll) → g.Polls (sequence.flowOut (toString k)) poll
  /-- No two waits have a gate in common. -/
  distinct : ((polls journal).map Poll.gate).Nodup

/-- The ways of the tick to the subscribers of a journal. -/
structure Dispatches (g : Graph) (journal : List Subscriber) : Prop where
  /-- There is one event of the tick at most. -/
  single : (g.nodesWithOp .eventOnTick).length ≤ 1
  /-- The event leads to nothing but the sequence, and where there is no sequence there is no subscriber. -/
  behind : ∀ event ∈ g.nodesWithOp .eventOnTick, (event.targets "out" = [] ∧ journal = []) ∨
    ∃ sequence : NodeId, event.targets "out" = [(sequence.flowIn "in").address] ∧ g.Sequences sequence journal
  idle : g.nodesWithOp .eventOnTick = [] → journal = []

theorem mem_nodesWithOp {g : Graph} {op : Op} {n : Node} :
    n ∈ g.nodesWithOp op ↔ ∃ i : Nat, g.nodes[i]? = some n ∧ n.op = op := by
  rw [nodesWithOp, List.mem_filter, decide_eq_true_iff, Array.mem_toList_iff]
  constructor
  · rintro ⟨member, same⟩
    obtain ⟨i, found⟩ := Array.getElem?_of_mem member
    exact ⟨i, found, same⟩
  · exact fun ⟨i, found, same⟩ => ⟨Array.mem_of_getElem? found, same⟩

/-- There is one node of an operation at most if all stand at one place. -/
theorem length_nodesWithOp_le_one {g : Graph} {op : Op}
    (same : ∀ (i j : Nat) (n m : Node), g.nodes[i]? = some n → g.nodes[j]? = some m → n.op = op → m.op = op → i = j) :
    (g.nodesWithOp op).length ≤ 1 := by
  have apart : g.nodes.toList.Pairwise fun n m => ¬ (n.op = op ∧ m.op = op) := by
    refine List.pairwise_iff_getElem.2 fun i j hi hj earlier both => ?_
    refine Nat.ne_of_lt earlier (same i j _ _ ?_ ?_ both.1 both.2) <;> simp at hi hj ⊢
  have apart : (g.nodesWithOp op).Pairwise fun n m => ¬ (n.op = op ∧ m.op = op) := apart.sublist List.filter_sublist
  have all : ∀ n ∈ g.nodesWithOp op, n.op = op := fun n member => (mem_nodesWithOp.1 member).choose_spec.2
  match listed : g.nodesWithOp op with
  | [] | [_] => simp
  | n :: m :: rest =>
    rw [listed] at apart all
    refine absurd ⟨all n ?_, all m ?_⟩ (List.rel_of_pairwise_cons apart List.mem_cons_self) <;> simp

theorem nodesWithOp_resolved (c : Context) (op : Op) :
    c.resolved.nodesWithOp op = (c.graph.nodesWithOp op).map c.resolveNode := by
  simp only [nodesWithOp, Context.resolved, Array.toList_map, List.filter_map]
  rfl

theorem Sequences.resolved {sequence : NodeId} {journal : List Subscriber}
    (sequences : c.graph.Sequences sequence journal) : c.resolved.Sequences sequence journal where
  ports := sequences.ports.resolved fun _ ports => ports
  waits found := (sequences.waits found).resolved
  distinct := sequences.distinct

/-- No flow changes where constants are put in place. -/
theorem Dispatches.resolved {journal : List Subscriber} (dispatches : c.graph.Dispatches journal) :
    c.resolved.Dispatches journal where
  single := by simpa [nodesWithOp_resolved] using dispatches.single
  behind event member := by
    rw [nodesWithOp_resolved] at member
    obtain ⟨before, there, rfl⟩ := List.mem_map.1 member
    exact (dispatches.behind before there).imp_right fun ⟨sequence, leads, sequences⟩ =>
      ⟨sequence, leads, sequences.resolved⟩
  idle none := by
    rw [nodesWithOp_resolved, List.map_eq_nil_iff] at none
    exact dispatches.idle none

end Graph

theorem Node.contains_of_targets {n : Node} {socket : String} (leading : n.targets socket ≠ []) :
    n.flowsOut.contains socket = true := by
  rw [Dict.contains, Option.isSome_iff_ne_none]
  intro none
  rw [targets, none] at leading
  exact leading rfl

namespace ScriptClass

variable {cls : ScriptClass} {options : Options} {targets : Targets}

/-- The outputs that the chain of a lowered class reserves lead nowhere. -/
theorem free_of_reserves (inRange : (cls.lowered options targets).InRange) {t : Pattern.TickChain} {f : FlowOut}
    (ticking : (Lower.lowerClass cls (startOfLowering options targets)).2.tick = some t) (reserves : t.Reserves f) :
    (cls.lowered options targets).graph.At f.address.node.toNat (·.IsFree f.address.socket) := by
  have knows : Ensures (Lower.lowerClass cls) (startOfLowering options targets) fun _ s' =>
      s'.Knows (cls.scope options targets) [] [] := Lower.ensures_lowerClass (cls.knows_start options targets)
  exact ((knows.known.sound inRange).keeps f ⟨t, ticking, reserves⟩).2

/-- The sequence of the chain is the one of its journal. -/
theorem sequences_lowered (inRange : (cls.lowered options targets).InRange) {base : Nat} {journal : List Subscriber}
    {t : Pattern.TickChain} {sequence : NodeId}
    (serves : (cls.lowered options targets).Serves base (some t) journal)
    (ticking : (Lower.lowerClass cls (startOfLowering options targets)).2.tick = some t)
    (behind : t.sequence = some sequence) : (cls.lowered options targets).graph.Sequences sequence journal where
  ports := by
    obtain ⟨⟨n, found, op⟩, _⟩ := serves.sequence rfl behind
    have tidy := (ordered_lowered inRange).2.tidy _ n found
    refine ⟨n, found, op, fun socket leading => ⟨?_, ?_⟩⟩
    · exact le_antisymm (tidy.narrow socket) (List.length_pos_iff.2 leading)
    · have numeral : Validation.isNumeral socket = true := by
        have declared := tidy.leads socket (Node.contains_of_targets leading)
        simpa [Validation.hasFlowOutput, op, Op.schema] using declared
      -- All other numerals are reserved.
      by_contra other
      push Not at other
      have reserves : t.Reserves (sequence.flowOut socket) := by
        rw [Pattern.TickChain.Reserves, behind]
        refine ⟨socket, numeral, fun k below => other k ?_, rfl⟩
        rwa [← serves.taken]
      obtain ⟨m, found', _, free⟩ := free_of_reserves inRange ticking reserves
      obtain rfl := Option.some.inj (found.symm.trans found')
      exact leading free
  waits found := by
    obtain ⟨_, _, same, behind', polls⟩ := serves.wired found
    cases same
    cases behind.symm.trans behind'
    exact polls
  distinct := serves.distinct

/-- A tick reaches each subscriber of a lowered class by an output of its own. -/
theorem dispatches_lowered (inRange : (cls.lowered options targets).InRange) {base : Nat} {journal : List Subscriber}
    (serves : (cls.lowered options targets).Serves base
      (Lower.lowerClass cls (startOfLowering options targets)).2.tick journal) :
    (cls.lowered options targets).graph.Dispatches journal where
  single := by
    refine Graph.length_nodesWithOp_le_one fun i j n m found found' op op' => ?_
    obtain ⟨t, ticking, event⟩ := serves.single found op
    obtain ⟨_, ticking', event'⟩ := serves.single found' op'
    cases ticking.symm.trans ticking'
    have number := congrArg NodeId.toNat (event.symm.trans event')
    have inside := (Array.getElem?_eq_some_iff.1 found).1
    have inside' := (Array.getElem?_eq_some_iff.1 found').1
    rwa [NodeId.toNat_ofNat (inside.trans_le inRange.1), NodeId.toNat_ofNat (inside'.trans_le inRange.1)] at number
  behind event member := by
    obtain ⟨i, found, op⟩ := Graph.mem_nodesWithOp.1 member
    obtain ⟨t, ticking, same⟩ := serves.single found op
    have inside := (Array.getElem?_eq_some_iff.1 found).1
    have place : t.event.toNat = i := by rw [same, NodeId.toNat_ofNat (inside.trans_le inRange.1)]
    rcases behind : t.sequence with _ | sequence
    · left
      have reserves : t.Reserves (t.event.flowOut "out") := by rw [Pattern.TickChain.Reserves, behind]
      obtain ⟨m, found', _, free⟩ := free_of_reserves inRange ticking reserves
      have here : m = event := Option.some.inj (found'.symm.trans (place ▸ found))
      exact ⟨here ▸ free, serves.idle fun t' ticking' => by cases ticking.symm.trans ticking'; exact behind⟩
    · right
      rw [ticking] at serves
      obtain ⟨_, m, found', leads⟩ := serves.sequence rfl behind
      have here : m = event := Option.some.inj (found'.symm.trans (place ▸ found))
      subst here
      refine ⟨sequence, ?_, sequences_lowered inRange serves ticking behind⟩
      have leads : (sequence.flowIn "in").address ∈ m.targets "out" := leads
      have narrow := ((ordered_lowered inRange).2.tidy i m found).narrow "out"
      obtain ⟨target, only⟩ := List.length_eq_one_iff.1 (narrow.antisymm (List.length_pos_of_mem leads))
      rw [only] at leads ⊢
      rw [List.mem_singleton.1 leads]
  idle none := by
    refine serves.idle fun t ticking => ?_
    obtain ⟨n, found, op⟩ := serves.event ticking
    have member : n ∈ (cls.lowered options targets).graph.nodesWithOp .eventOnTick :=
      Graph.mem_nodesWithOp.2 ⟨_, found, op⟩
    rw [none] at member
    cases member

/-- One tick, one port for each subscriber: in a compiled graph a tick reaches the entry points that run at every
tick and the waits of all bodies, each by an output of its own. -/
theorem compile_dispatches {a : Artifacts} (success : cls.compile options targets = .ok a)
    (inRange : (cls.lowered options targets).InRange) :
    ∃ journal : List Subscriber, journal.countP Subscriber.isUpdate = (cls.updates options.entryPoints).length ∧
      (polls journal).map Poll.number = List.range (cls.lowered options targets).waits ∧
        a.graph.Dispatches journal := by
  obtain ⟨journal, updates, numbers, serves⟩ := cls.serves_lowered options targets inRange.1
  refine ⟨journal, updates, numbers, ?_⟩
  rw [(compile_eq_ok success).1]
  exact (dispatches_lowered inRange serves).resolved

/-- A class that waits for a flag at every tick. -/
def polling : ScriptClass :=
  let ready : Expression := { kind := .identifier, name := some "ready", resultType := some { name := "bool" } }
  let wait : Expression :=
    { kind := .objectCreation, resultType := some { name := "WaitUntil" }, children := [ready] }
  { name := "Polling"
    fields := [{ name := "ready", fieldType := { name := "bool" } }]
    methods := [{
      name := "Update"
      body := [{ kind := .expression, expressions := [{ kind := .await, children := [wait] }] }] }] }

/-- The entry point is served, and so is its wait. -/
theorem polling_dispatches : ∃ a, polling.compile {} {} = .ok a ∧
    ∃ journal : List Subscriber, journal.countP Subscriber.isUpdate = 1 ∧ (polls journal).map Poll.number = [0] ∧
      a.graph.Dispatches journal := by
  have lowered : (polling.extent? {} {}, (polling.lowered {} {}).waits) = (some (8, 0, 2, 0), 1) := by cbv
  obtain ⟨extent, waits⟩ := Prod.mk.inj lowered
  obtain ⟨a, success, nodes, placeholders, _⟩ := exists_compile_of_extent rfl extent
  have inRange : (polling.lowered {} {}).InRange := by
    rw [Context.InRange, nodes, placeholders]
    decide
  obtain ⟨journal, updates, numbers, dispatches⟩ := compile_dispatches success inRange
  rw [waits] at numbers
  exact ⟨a, success, journal, updates, numbers, dispatches⟩

end ScriptClass

end ScriptGraph
