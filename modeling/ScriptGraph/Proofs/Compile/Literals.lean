import Mathlib
import ScriptGraph.Proofs.Compile.Findings

/-!
What putting constants in place does, and that nothing else happens.

Any context may be given: placeholders may hold a constant or none, feed many inputs or nothing, and an input may
still be fed by a placeholder that was replaced before or never existed. Each input is visited once, and what becomes
of it depends on what the table of placeholders says of its source.
-/

namespace ScriptGraph

theorem Dict.map_eq_self {α : Type} {d : Dict α} {f : α → α} (same : ∀ e ∈ d.entries, f e.2 = e.2) : d.map f = d := by
  obtain ⟨entries, ascending⟩ := d
  have entry (e : String × α) (member : e ∈ entries) : (e.1, f e.2) = e := by rw [same e member]
  rw [map, Dict.mk.injEq, List.map_congr_left entry, List.map_id']

/-- Fed by a placeholder. -/
def ValueInput.IsPending (x : ValueInput) : Prop := ∃ a, x.source = some a ∧ a.node.isPlaceholder = true

/-- The inputs that are fed by a placeholder, by the places of their nodes and their names. -/
def Graph.pending (g : Graph) : Set (Nat × String) :=
  {p | ∃ n x, g.nodes[p.1]? = some n ∧ n.valueIn? p.2 = some x ∧ x.IsPending}

namespace Context

/-- The entry of a placeholder; none for one that was replaced before or never existed. -/
def entry? (c : Context) (id : NodeId) : Option (Option Literal) :=
  c.placeholders[id.toNat - NodeId.placeholderBase]?

/-- What becomes of an input when constants are put in place. -/
inductive Settles (c : Context) (x : ValueInput) : ValueInput → Prop
  | constant {a : SocketAddress} {value : Literal} (fed : x.source = some a) (placeholder : a.node.isPlaceholder = true)
      (entry : c.entry? a.node = some (some value)) : Settles c x { x with literal := some value, source := none }
  | valueless {a : SocketAddress} (fed : x.source = some a) (placeholder : a.node.isPlaceholder = true)
      (entry : c.entry? a.node = some none) : Settles c x { x with source := none }
  | unknown {a : SocketAddress} (fed : x.source = some a) (placeholder : a.node.isPlaceholder = true)
      (entry : c.entry? a.node = none) : Settles c x { x with source := none }
  | other (own : ¬ x.IsPending) : Settles c x x

/-- Of a node only the inputs change, and of those only what has to. -/
structure SettlesNode (c : Context) (n n' : Node) : Prop where
  rest : n' = { n with valuesIn := n'.valuesIn }
  inputs : ∀ socket, Option.Rel c.Settles (n.valueIn? socket) (n'.valueIn? socket)

/-- What putting constants in place makes of a context, with the number that it returns. -/
structure SettlesAll (c : Context) (count : Nat) (c' : Context) : Prop where
  /-- The tables, the options and the diagnostics are as they were; the placeholders are gone. -/
  rest : c' = { c with graph := { c.graph with nodes := c'.graph.nodes }, placeholders := #[] }
  nodes : List.Forall₂ c.SettlesNode c.graph.nodes.toList c'.graph.nodes.toList
  settled : c'.graph.pending = ∅
  count : c.graph.pending.encard = count
  /-- Doing it again changes nothing. -/
  again : Build.resolveLiterals c' = (0, c')

variable {c : Context}

theorem awaitsLiteral_iff {x : ValueInput} : awaitsLiteral x = true ↔ x.IsPending := by
  simp [awaitsLiteral, ValueInput.IsPending, Option.any_eq_true]

theorem resolveInput_of_own {x : ValueInput} (own : ¬ x.IsPending) : c.resolveInput x = x :=
  resolveInput_of_real fun a fed => Bool.eq_false_iff.2 fun placeholder => own ⟨a, fed, placeholder⟩

theorem settles_resolveInput (c : Context) (x : ValueInput) : c.Settles x (c.resolveInput x) := by
  by_cases pending : x.IsPending
  · obtain ⟨a, fed, placeholder⟩ := pending
    have value : c.placeholderValue? ⟨a⟩ = (c.entry? a.node).join := if_pos placeholder
    rw [resolveInput_of_placeholder fed placeholder, value]
    match entry : c.entry? a.node with
    | some (some value) => exact .constant fed placeholder entry
    | some none => exact .valueless fed placeholder entry
    | none => exact .unknown fed placeholder entry
  · rw [resolveInput_of_own pending]
    exact .other pending

theorem settlesNode_resolveNode (c : Context) (n : Node) : c.SettlesNode n (c.resolveNode n) where
  rest := rfl
  inputs socket := by
    rw [valueIn?_resolveNode]
    cases n.valueIn? socket with
    | none => exact .none
    | some x => exact .some (c.settles_resolveInput x)

theorem pending_resolved (c : Context) : c.resolved.pending = ∅ := by
  rw [Set.eq_empty_iff_forall_notMem]
  rintro ⟨i, socket⟩ ⟨n', x', found, atSocket, a, fed, placeholder⟩
  obtain ⟨n, _, rfl⟩ := nodes_resolved found
  rw [valueIn?_resolveNode] at atSocket
  obtain ⟨x, _, rfl⟩ := Option.map_eq_some_iff.1 atSocket
  rw [(source_resolveInput fed).2] at placeholder
  cases placeholder

end Context

namespace Node

/-- The names of the inputs that are fed by a placeholder. -/
def pending (n : Node) : List String := (n.valuesIn.entries.filter fun e => Context.awaitsLiteral e.2).map (·.1)

theorem mem_pending {n : Node} {socket : String} :
    socket ∈ n.pending ↔ ∃ x, n.valueIn? socket = some x ∧ x.IsPending := by
  simp only [pending, List.mem_map, List.mem_filter, Context.awaitsLiteral_iff]
  constructor
  · rintro ⟨⟨_, x⟩, ⟨listed, pending⟩, rfl⟩
    exact ⟨x, Dict.find?_of_mem_entries listed, pending⟩
  · rintro ⟨x, found, pending⟩
    exact ⟨(socket, x), ⟨Dict.mem_map_of_lookup found, pending⟩, rfl⟩

theorem nodup_pending (n : Node) : n.pending.Nodup := by
  have ascending : (n.valuesIn.entries.filter fun e => Context.awaitsLiteral e.2).Pairwise fun a b => a.1 < b.1 :=
    n.valuesIn.ascending.filter _
  rw [pending, List.Nodup, List.pairwise_map]
  refine ascending.imp fun {a b} below => ?_
  intro same
  rw [same] at below
  exact String.lt_irrefl _ below

theorem length_pending (n : Node) : n.pending.length = Context.awaiting n := by
  rw [pending, List.length_map, Context.awaiting, List.countP_eq_length_filter]

end Node

namespace Graph

/-- The inputs that are fed by a placeholder, one node after the other. -/
def listPending (g : Graph) : List (Nat × String) :=
  g.nodes.toList.zipIdx.flatMap fun (n, i) => n.pending.map (i, ·)

theorem mem_listPending {g : Graph} {p : Nat × String} : p ∈ g.listPending ↔ p ∈ g.pending := by
  obtain ⟨i, socket⟩ := p
  simp only [listPending, List.mem_flatMap, List.mem_map, Prod.mk.injEq, Prod.exists, pending, Set.mem_ofPred_eq,
    List.mem_zipIdx_iff_getElem?, Array.getElem?_toList]
  constructor
  · rintro ⟨n, _, found, _, member, rfl, rfl⟩
    obtain ⟨x, atSocket, pending⟩ := Node.mem_pending.1 member
    exact ⟨n, x, found, atSocket, pending⟩
  · rintro ⟨n, x, found, atSocket, pending⟩
    exact ⟨n, i, found, socket, Node.mem_pending.2 ⟨x, atSocket, pending⟩, rfl, rfl⟩

theorem nodup_listPending (g : Graph) : g.listPending.Nodup := by
  rw [listPending, List.nodup_flatMap]
  refine ⟨fun (n, i) _ => n.nodup_pending.map (Prod.mk_right_injective i), ?_⟩
  -- Pairs of different nodes differ in their places.
  have places : (g.nodes.toList.zipIdx.map (·.2)).Nodup := by
    rw [List.zipIdx_map_snd]
    exact List.nodup_range'
  refine (List.pairwise_map.1 places).imp fun different => ?_
  rw [Function.onFun, List.disjoint_left]
  rintro p first second
  obtain ⟨_, _, rfl⟩ := List.mem_map.1 first
  obtain ⟨_, _, same⟩ := List.mem_map.1 second
  exact different (congrArg Prod.fst same).symm

theorem length_listPending (g : Graph) : g.listPending.length = (g.nodes.toList.map Context.awaiting).sum := by
  have firsts : (g.nodes.toList.zipIdx.map (·.1)).map Context.awaiting = g.nodes.toList.map Context.awaiting := by
    rw [List.zipIdx_map_fst]
  rw [List.map_map] at firsts
  rw [listPending, List.length_flatMap, ← firsts]
  simp only [List.length_map, Node.length_pending, Function.comp_def]

theorem encard_pending (g : Graph) : g.pending.encard = (g.nodes.toList.map Context.awaiting).sum := by
  have listed : g.pending = g.listPending.toFinset := by
    ext p
    rw [List.coe_toFinset, Set.mem_ofPred_eq, mem_listPending]
  rw [listed, Set.encard_coe_eq_coe_finsetCard, List.toFinset_card_of_nodup g.nodup_listPending, length_listPending]

end Graph

namespace Build

theorem resolveLiterals_eq (c : Context) : resolveLiterals c =
    ((c.graph.nodes.toList.map Context.awaiting).sum, { c with graph := c.resolved, placeholders := #[] }) := by
  have total : ∀ (nodes : List Node) (count : Nat),
      nodes.foldl (fun total n => total + Context.awaiting n) count = count + (nodes.map Context.awaiting).sum := by
    intro nodes
    induction nodes with
    | nil => intro count; rfl
    | cons n nodes ih =>
      intro count
      rw [List.foldl_cons, ih, List.map_cons, List.sum_cons, Nat.add_assoc]
  refine Prod.ext ?_ rfl
  exact (total c.graph.nodes.toList 0).trans (Nat.zero_add _)

/-- Where no input is fed by a placeholder and no placeholder is left, there is nothing to do. -/
theorem resolveLiterals_of_settled {c : Context} (settled : c.graph.pending = ∅) (empty : c.placeholders = #[]) :
    resolveLiterals c = (0, c) := by
  have count : (c.graph.nodes.toList.map Context.awaiting).sum = 0 := by
    have counted := c.graph.encard_pending
    rw [settled, Set.encard_empty] at counted
    exact_mod_cast counted.symm
  have node (n : Node) (member : n ∈ c.graph.nodes) : c.resolveNode n = n := by
    obtain ⟨i, inside, rfl⟩ := Array.getElem_of_mem member
    have inputs : (c.graph.nodes[i]).valuesIn.map c.resolveInput = (c.graph.nodes[i]).valuesIn := by
      refine Dict.map_eq_self fun e listed => Context.resolveInput_of_own fun pending => ?_
      have here : (i, e.1) ∈ c.graph.pending :=
        ⟨_, e.2, Array.getElem?_eq_getElem inside, Dict.find?_of_mem_entries listed, pending⟩
      rw [settled] at here
      cases here
    rw [Context.resolveNode, inputs]
  have nodes : c.graph.nodes.map c.resolveNode = c.graph.nodes := by
    rw [Array.map_congr_left node, Array.map_id']
  rw [resolveLiterals_eq, count, Context.resolved, nodes, ← empty]

/-- Putting constants in place is exact in every context. -/
theorem resolveLiterals_resolves (c : Context) : c.SettlesAll (resolveLiterals c).1 (resolveLiterals c).2 := by
  rw [resolveLiterals_eq]
  exact
    { rest := rfl
      nodes := by
        rw [Context.resolved, Array.toList_map, List.forall₂_map_right_iff, List.forall₂_same]
        exact fun n _ => c.settlesNode_resolveNode n
      settled := c.pending_resolved
      count := c.graph.encard_pending
      again := resolveLiterals_of_settled c.pending_resolved rfl }

end Build

end ScriptGraph
