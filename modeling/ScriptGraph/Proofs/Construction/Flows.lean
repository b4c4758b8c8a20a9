import Mathlib
import ScriptGraph.Proofs.Construction.Step

/-!
Flows that lead on go on doing so.

Whatever is built, no node is taken away or numbered anew, and no flow that leads to a place is taken back. This
holds in any graph, whether or not its nodes stand where their numbers say.
-/

namespace ScriptGraph

/-- A further target takes none away. -/
theorem Node.targets_subset_addTarget (n : Node) (name other : String) (target : SocketAddress) :
    n.targets other ⊆ (n.addTarget name target).targets other := by
  rw [targets_addTarget]
  split
  · next same =>
    subst same
    split
    · exact List.Subset.refl _
    · exact List.subset_append_left ..
  · exact List.Subset.refl _

theorem Node.targets_addTarget_ne_nil (n : Node) (name : String) (target : SocketAddress) :
    (n.addTarget name target).targets name ≠ [] := by
  rw [targets_addTarget, if_pos rfl]
  split
  · next already =>
    intro none
    rw [none] at already
    cases already
  · exact List.append_ne_nil_of_right_ne_nil _ (List.cons_ne_nil _ _)

namespace Graph

/-- No node is taken away or numbered anew, and no flow that leads to a place is taken back. -/
def KeepsFlows (g g' : Graph) : Prop :=
  ∀ ⦃i : Nat⦄ ⦃n : Node⦄, g.nodes[i]? = some n → ∃ n', g'.nodes[i]? = some n' ∧ n'.index = n.index ∧
    ∀ socket, n.targets socket ⊆ n'.targets socket

/-- The flow output leads to some place. -/
def LeadsOn (g : Graph) (flow : FlowOut) : Prop :=
  ∃ n, g.node? flow.address.node = some n ∧ n.targets flow.address.socket ≠ []

variable {g g' g'' : Graph}

namespace KeepsFlows

theorem of_nodes_eq (same : g'.nodes = g.nodes) : g.KeepsFlows g' :=
  fun _ n found => ⟨n, same ▸ found, rfl, fun _ => List.Subset.refl _⟩

theorem refl (g : Graph) : g.KeepsFlows g := of_nodes_eq rfl

theorem trans (first : g.KeepsFlows g') (second : g'.KeepsFlows g'') : g.KeepsFlows g'' := by
  intro i n found
  obtain ⟨n', found', index, targets⟩ := first found
  obtain ⟨n'', found'', index', targets'⟩ := second found'
  exact ⟨n'', found'', index'.trans index, fun socket => List.Subset.trans (targets socket) (targets' socket)⟩

theorem push (g : Graph) (n : Node) : g.KeepsFlows { g with nodes := g.nodes.push n } := by
  intro i old found
  refine ⟨old, ?_, rfl, fun _ => List.Subset.refl _⟩
  rw [Array.getElem?_push, if_neg (Array.getElem?_eq_some_iff.1 found).1.ne, found]

theorem modifyNode (g : Graph) (id : NodeId) (f : Node → Node) (index : ∀ n, (f n).index = n.index)
    (targets : ∀ (n : Node) socket, n.targets socket ⊆ (f n).targets socket) : g.KeepsFlows (g.modifyNode id f) := by
  unfold Graph.modifyNode
  split
  · next position _ =>
    intro i n found
    by_cases here : position = i
    · exact ⟨f n, by rw [Array.getElem?_modify, if_pos here, found]; rfl, index n, targets n⟩
    · exact ⟨n, by rw [Array.getElem?_modify, if_neg here, found], rfl, fun _ => List.Subset.refl _⟩
  · exact refl g

/-- A change that no flow output takes part in. -/
theorem modifyOther (g : Graph) (id : NodeId) (f : Node → Node) (index : ∀ n, (f n).index = n.index)
    (flows : ∀ n, (f n).flowsOut = n.flowsOut) : g.KeepsFlows (g.modifyNode id f) :=
  modifyNode g id f index fun n socket => by rw [Node.targets, Node.targets, flows]; exact List.Subset.refl _

theorem changeInput (g : Graph) (target : ValueIn) (f : ValueInput → ValueInput) :
    g.KeepsFlows (g.changeInput target f) := by
  unfold Graph.changeInput
  induction target.sockets generalizing g with
  | nil => exact refl g
  | cons a sockets ih => exact (modifyOther g a.node (·.changeInput a.socket f) (fun _ => rfl) fun _ => rfl).trans (ih _)

theorem expect (g : Graph) (output : ValueOut) (type : ExpectedType) : g.KeepsFlows (g.expect output type) := by
  unfold Graph.expect
  split
  · exact refl g
  · exact modifyOther g _ (·.expect output.address.socket type) (fun _ => rfl) fun _ => rfl

theorem connectFlow (g : Graph) (start : FlowOut) (target : FlowIn) : g.KeepsFlows (g.connectFlow start target) :=
  (modifyNode g start.address.node (·.addTarget start.address.socket target.address) (fun _ => rfl)
    fun n other => n.targets_subset_addTarget _ other _).trans
    (modifyOther _ target.address.node (·.addFlowIn target.address.socket) (fun _ => rfl) fun _ => rfl)

theorem position? (keeps : g.KeepsFlows g') {id : NodeId} {i : Nat} (found : g.position? id = some i) :
    g'.position? id = some i := by
  rw [Graph.position?, Array.findIdx?_eq_some_iff_getElem] at found ⊢
  obtain ⟨inside, here, before⟩ := found
  -- Each old place has a node of the same number, the first place of the number among them.
  have same (j : Nat) (within : j < g.nodes.size) :
      ∃ within' : j < g'.nodes.size, (g'.nodes[j]).index = (g.nodes[j]).index := by
    obtain ⟨n', found', index, _⟩ := keeps (Array.getElem?_eq_getElem within)
    obtain ⟨within', rfl⟩ := Array.getElem?_eq_some_iff.1 found'
    exact ⟨within', index⟩
  obtain ⟨inside', index⟩ := same i inside
  refine ⟨inside', by rwa [index], fun j below => ?_⟩
  obtain ⟨_, index⟩ := same j (below.trans inside)
  rw [index]
  exact before j below

theorem node? (keeps : g.KeepsFlows g') {id : NodeId} {n : Node} (found : g.node? id = some n) :
    ∃ n', g'.node? id = some n' ∧ ∀ socket, n.targets socket ⊆ n'.targets socket := by
  obtain ⟨i, place, here⟩ := Option.bind_eq_some_iff.1 found
  obtain ⟨n', here', _, targets⟩ := keeps here
  exact ⟨n', Option.bind_eq_some_iff.2 ⟨i, keeps.position? place, here'⟩, targets⟩

theorem leadsOn (keeps : g.KeepsFlows g') {flow : FlowOut} (leads : g.LeadsOn flow) : g'.LeadsOn flow := by
  obtain ⟨n, found, leading⟩ := leads
  obtain ⟨n', found', targets⟩ := keeps.node? found
  exact ⟨n', found', fun none => leading (List.subset_nil.1 (none ▸ targets _))⟩

end KeepsFlows

/-- A flow output that is there leads on once it is led on. -/
theorem leadsOn_connectFlow {start : FlowOut} (there : (g.node? start.address.node).isSome) (target : FlowIn) :
    (g.connectFlow start target).LeadsOn start := by
  obtain ⟨n, found⟩ := Option.isSome_iff_exists.1 there
  obtain ⟨i, place, here⟩ := Option.bind_eq_some_iff.1 found
  let led := g.modifyNode start.address.node (·.addTarget start.address.socket target.address)
  have kept : g.KeepsFlows led :=
    KeepsFlows.modifyNode g _ (·.addTarget _ target.address) (fun _ => rfl) fun n other =>
      n.targets_subset_addTarget _ other _
  have leads : led.LeadsOn start := by
    refine ⟨n.addTarget start.address.socket target.address, ?_, n.targets_addTarget_ne_nil _ _⟩
    refine Option.bind_eq_some_iff.2 ⟨i, kept.position? place, ?_⟩
    show (g.modifyNode _ _).nodes[i]? = _
    rw [Graph.modifyNode, place]
    show (g.nodes.modify i _)[i]? = _
    rw [Array.getElem?_modify, if_pos rfl, here]
    rfl
  exact (KeepsFlows.modifyOther led target.address.node (·.addFlowIn target.address.socket) (fun _ => rfl)
    fun _ => rfl).leadsOn leads

end Graph

end ScriptGraph
