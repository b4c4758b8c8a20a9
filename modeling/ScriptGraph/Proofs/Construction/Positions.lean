import ScriptGraph.Context

/-!
Nodes stand at the places their identities name.

Identities count nodes in the order of creation, so that a lookup by identity is a lookup by place.
The arithmetic of 32 bits shows only where a new identity is made.
-/

namespace ScriptGraph

namespace NodeId

theorem toNat_lt (id : NodeId) : id.toNat < 0x100000000 := id.val.toNat_lt

theorem toNat_ofNat {n : Nat} (small : n < 0x100000000) : (ofNat n).toNat = n :=
  UInt32.toNat_ofNat_of_lt small

theorem ofNat_toNat (id : NodeId) : ofNat id.toNat = id := by
  simp [ofNat, toNat]

theorem toNat_inj {a b : NodeId} (same : a.toNat = b.toNat) : a = b := by
  rw [← ofNat_toNat a, same, ofNat_toNat]

theorem isPlaceholder_placeholder {n : Nat} (small : placeholderBase + n < 0x100000000) :
    (placeholder n).isPlaceholder = true := by
  simp only [isPlaceholder, placeholder, toNat_ofNat small, decide_eq_true_eq]
  omega

end NodeId

namespace Graph

/-- Every node stands at the place its identity names. -/
def Identified (g : Graph) : Prop :=
  ∀ (i : Nat) (n : Node), g.nodes[i]? = some n → n.index = .ofNat i

/-- A graph with one more node at its end. -/
def place (g : Graph) (n : Node) : Graph := { g with nodes := g.nodes.push n }

theorem Identified.position? {g : Graph} (identified : g.Identified) (id : NodeId) :
    g.position? id = if id.toNat < g.nodes.size then some id.toNat else none := by
  split
  · next inside =>
    rw [Graph.position?, Array.findIdx?_eq_some_iff_getElem]
    refine ⟨inside, ?_, ?_⟩
    · have here := identified id.toNat _ (Array.getElem?_eq_getElem inside)
      simp [here, NodeId.ofNat_toNat]
    · intro j below
      have here := identified j _ (Array.getElem?_eq_getElem (Nat.lt_trans below inside))
      simp only [here, beq_iff_eq]
      intro same
      have number := NodeId.toNat_ofNat (Nat.lt_trans below id.toNat_lt)
      rw [same] at number
      omega
  · next outside =>
    rw [Graph.position?, Array.findIdx?_eq_none_iff]
    intro n member
    obtain ⟨i, small, rfl⟩ := Array.getElem_of_mem member
    have here := identified i _ (Array.getElem?_eq_getElem small)
    have bound := id.toNat_lt
    simp only [here, beq_eq_false_iff_ne]
    intro same
    -- A place beyond 32 bits has the identity of an earlier place, which is inside as well.
    have wrapped : id.toNat = i % 0x100000000 := by
      rw [← same]
      exact UInt32.toNat_ofNat'
    omega

theorem Identified.node? {g : Graph} (identified : g.Identified) (id : NodeId) :
    g.node? id = g.nodes[id.toNat]? := by
  rw [Graph.node?, identified.position?]
  split
  · rfl
  · next outside => simp only [Option.bind_none, Array.getElem?_eq_none (Nat.not_lt.1 outside)]

theorem Identified.nodes_modifyNode {g : Graph} (identified : g.Identified) (id : NodeId)
    (f : Node → Node) (i : Nat) :
    (g.modifyNode id f).nodes[i]? =
      if i = id.toNat then g.nodes[i]?.map f else g.nodes[i]? := by
  rw [modifyNode, identified.position?]
  by_cases inside : id.toNat < g.nodes.size
  · simp only [if_pos inside, Array.getElem?_modify, eq_comm (a := id.toNat)]
  · simp only [if_neg inside]
    split
    · next same => rw [same, Array.getElem?_eq_none (Nat.not_lt.1 inside), Option.map_none]
    · rfl

@[simp] theorem size_modifyNode (g : Graph) (id : NodeId) (f : Node → Node) :
    (g.modifyNode id f).nodes.size = g.nodes.size := by
  rw [modifyNode]
  split <;> simp

@[simp] theorem vars_modifyNode (g : Graph) (id : NodeId) (f : Node → Node) :
    (g.modifyNode id f).vars = g.vars := by
  rw [modifyNode]
  split <;> rfl

@[simp] theorem events_modifyNode (g : Graph) (id : NodeId) (f : Node → Node) :
    (g.modifyNode id f).events = g.events := by
  rw [modifyNode]
  split <;> rfl

theorem Identified.modifyNode {g : Graph} (identified : g.Identified) (id : NodeId)
    {f : Node → Node} (keeps : ∀ n, (f n).index = n.index) : (g.modifyNode id f).Identified := by
  intro i n found
  rw [identified.nodes_modifyNode] at found
  split at found
  · obtain ⟨old, atOld, rfl⟩ := Option.map_eq_some_iff.1 found
    rw [keeps, identified i old atOld]
  · exact identified i n found

theorem nodes_place (g : Graph) (n : Node) (i : Nat) :
    (g.place n).nodes[i]? = if i = g.nodes.size then some n else g.nodes[i]? :=
  Array.getElem?_push

theorem Identified.place {g : Graph} (identified : g.Identified) {n : Node}
    (index : n.index = .ofNat g.nodes.size) : (g.place n).Identified := by
  intro i m found
  rw [nodes_place] at found
  split at found
  · next last => rw [← Option.some.inj found, index, last]
  · exact identified i m found

/-- An edit of the node that was placed last. -/
theorem Identified.modifyNode_place {g : Graph} (identified : g.Identified) {n : Node}
    (index : n.index = .ofNat g.nodes.size) (small : g.nodes.size < 0x100000000) {f : Node → Node} :
    (g.place n).modifyNode (.ofNat g.nodes.size) f = g.place (f n) := by
  rw [Graph.modifyNode, (identified.place index).position?, NodeId.toNat_ofNat small]
  simp only [Graph.place, Array.size_push, Nat.lt_succ_self, if_true]
  congr 1
  apply Array.ext_getElem?
  intro i
  simp only [Array.getElem?_modify, Array.getElem?_push]
  by_cases last : i = g.nodes.size
  · simp [last]
  · simp [last, Ne.symm last]

end Graph

end ScriptGraph
