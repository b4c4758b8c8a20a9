import ScriptGraph.Proofs.Construction.Creation

/-!
Steps that only append value nodes.

Such a step leaves all earlier nodes and the tables as they are, and what it makes stands outside of every
flow. It may wire the nodes it has made, so what it has made is kept in a list: as long as identities are
not used up, writing to these nodes touches no earlier one.
-/

namespace ScriptGraph

namespace Node

/-- Outside of every flow: no flow enters, and none leads on. -/
structure Silent (n : Node) : Prop where
  entries : ∀ socket, n.flowsIn.contains socket = false
  targets : ∀ socket, n.targets socket = []

theorem Silent.congr {n n' : Node} (silent : n.Silent) (flowsIn : n'.flowsIn = n.flowsIn)
    (flowsOut : n'.flowsOut = n.flowsOut) : n'.Silent where
  entries socket := flowsIn ▸ silent.entries socket
  targets socket := by
    rw [Node.targets, flowsOut]
    exact silent.targets socket

theorem silent_new (id : NodeId) {op : Op} (without : op.schema.flowsIn = []) : (new id op).Silent where
  entries socket := by
    have none : (new id op).flowsIn = Dict.empty := congrArg NameSet.ofNames without
    rw [none]
    rfl
  targets := (unwired_new id op).idle

end Node

/-- An operation that computes a value takes no part in a flow. -/
theorem Op.flowsIn_of_value {op : Op} (value : "value" ∈ op.schema.valuesOut.map (·.1)) :
    op.schema.flowsIn = [] := by
  cases op <;> first | rfl | (revert value; decide)

namespace Context

/-- Of a context in range: the nodes of `start` are as they were, those behind them stand outside of
every flow, and those of `own` are among the latter. -/
structure Appended (start : Context) (own : List NodeId) (c : Context) : Prop where
  identified : c.graph.Identified
  kept : ∀ i < start.graph.nodes.size, c.graph.nodes[i]? = start.graph.nodes[i]?
  silent : ∀ i n, start.graph.nodes.size ≤ i → c.graph.nodes[i]? = some n → n.Silent
  own : ∀ id ∈ own, start.graph.nodes.size ≤ id.toNat

/-- From `start` on, only value nodes were appended; those of `own` may still be wired. -/
structure Extends (start : Context) (own : List NodeId) (c : Context) : Prop where
  size : start.graph.nodes.size ≤ c.graph.nodes.size
  vars : c.graph.vars = start.graph.vars
  events : c.graph.events = start.graph.events
  method : c.diagnostics.method = start.diagnostics.method
  appended : c.graph.nodes.size ≤ 0x100000000 → start.Appended own c

namespace Extends

variable {start c c' : Context} {own own' : List NodeId} {id : NodeId}

theorem refl (identified : start.graph.nodes.size ≤ 0x100000000 → start.graph.Identified) :
    start.Extends [] start where
  size := Nat.le_refl _
  vars := rfl
  events := rfl
  method := rfl
  appended room :=
    { identified := identified room
      kept := fun _ _ => rfl
      silent := fun i n beyond found => by
        have inside := (Array.getElem?_eq_some_iff.1 found).1
        omega
      own := by simp }

theorem weaken (window : start.Extends own c) (fewer : ∀ id ∈ own', id ∈ own) : start.Extends own' c :=
  { window with
    appended := fun room =>
      { window.appended room with own := fun id member => (window.appended room).own id (fewer id member) } }

/-- The node made last is not wired any further. -/
theorem forget (window : start.Extends (id :: own) c) : start.Extends own c :=
  window.weaken fun _ member => List.mem_cons_of_mem _ member

/-- A step that leaves the graph and the current method alone. -/
theorem unseen (window : start.Extends own c) (graph : c'.graph = c.graph)
    (method : c'.diagnostics.method = c.diagnostics.method) : start.Extends own c' where
  size := graph ▸ window.size
  vars := graph ▸ window.vars
  events := graph ▸ window.events
  method := method.trans window.method
  appended room := by
    have before := window.appended (graph ▸ room)
    exact { before with
      identified := graph ▸ before.identified
      kept := graph ▸ before.kept
      silent := graph ▸ before.silent }

/-- Steps that only append follow one another; in between notes may belong to another method. -/
theorem trans {middle last : Context} (first : start.Extends own c) (second : middle.Extends [] last)
    (began : middle.graph = c.graph) (ended : c'.graph = last.graph)
    (method : c'.diagnostics.method = c.diagnostics.method) : start.Extends own c' where
  size := by
    rw [ended]
    exact Nat.le_trans first.size (began ▸ second.size)
  vars := by rw [ended, second.vars, began, first.vars]
  events := by rw [ended, second.events, began, first.events]
  method := method.trans first.method
  appended room := by
    rw [ended] at room
    have longer : c.graph.nodes.size ≤ last.graph.nodes.size := began ▸ second.size
    have before := first.appended (Nat.le_trans longer room)
    have after := second.appended room
    refine
      { identified := ended ▸ after.identified
        kept := fun i inside => ?_
        silent := fun i n beyond found => ?_
        own := before.own }
    · have older : i < middle.graph.nodes.size := began ▸ Nat.lt_of_lt_of_le inside first.size
      rw [ended, after.kept i older, began, before.kept i inside]
    · rw [ended] at found
      by_cases older : i < middle.graph.nodes.size
      · rw [after.kept i older, began] at found
        exact before.silent i n beyond found
      · exact after.silent i n (Nat.not_lt.1 older) found

theorem createNode (window : start.Extends own c) (op : Op) (without : op.schema.flowsIn = []) :
    Ensures (Build.createNode op) c fun id c' => start.Extends (id :: own) c' := by
  have longer : c.graph.nodes.size ≤ (c.graph.place (.new (.ofNat c.graph.nodes.size) op)).nodes.size := by
    simp [Graph.place]
  refine
    { window with
      size := Nat.le_trans window.size longer
      appended := fun room => ?_ }
  have before := window.appended (Nat.le_trans longer room)
  have last : (NodeId.ofNat c.graph.nodes.size).toNat = c.graph.nodes.size := by
    apply NodeId.toNat_ofNat
    simp only [Build.createNode, modifyGet, MonadStateOf.modifyGet, StateT.modifyGet, pure, Array.size_push] at room
    omega
  refine
    { identified := before.identified.place rfl
      kept := fun i inside => ?_
      silent := fun i n beyond found => ?_
      own := fun id member => ?_ }
  · have old : i ≠ c.graph.nodes.size := Nat.ne_of_lt (Nat.lt_of_lt_of_le inside window.size)
    exact (Graph.nodes_place ..).trans ((if_neg old).trans (before.kept i inside))
  · rcases Graph.of_place found with ⟨rfl, rfl⟩ | ⟨_, older⟩
    · exact Node.silent_new _ without
    · exact before.silent i n beyond older
  · rcases List.mem_cons.1 member with rfl | older
    · exact last ▸ window.size
    · exact before.own id older

/-- A change of a new node that does not concern flows. -/
theorem modifyNode (window : start.Extends own c) (new : id ∈ own) {f : Node → Node}
    (index : ∀ n, (f n).index = n.index) (flowsIn : ∀ n, (f n).flowsIn = n.flowsIn)
    (flowsOut : ∀ n, (f n).flowsOut = n.flowsOut) : start.Extends own (c.modifyNode id f) where
  size := by simpa only [Context.modifyNode, Graph.size_modifyNode] using window.size
  vars := by simpa only [Context.modifyNode, Graph.vars_modifyNode] using window.vars
  events := by simpa only [Context.modifyNode, Graph.events_modifyNode] using window.events
  method := window.method
  appended room := by
    simp only [Context.modifyNode, Graph.size_modifyNode] at room
    have before := window.appended room
    have recent := before.own id new
    refine
      { before with
        identified := before.identified.modifyNode id index
        kept := fun i inside => ?_
        silent := fun i n beyond found => ?_ }
    · rw [Context.modifyNode, before.identified.nodes_modifyNode, if_neg (by omega)]
      exact before.kept i inside
    · rw [Context.modifyNode, before.identified.nodes_modifyNode] at found
      split at found
      · obtain ⟨old, atOld, rfl⟩ := Option.map_eq_some_iff.1 found
        exact (before.silent i old beyond atOld).congr (flowsIn old) (flowsOut old)
      · exact before.silent i n beyond found

theorem configure (window : start.Extends own c) (new : id ∈ own) (name : String) (value : ConfigValue) :
    Ensures (Build.configure id name value) c fun _ c' => start.Extends own c' :=
  window.modifyNode new (fun _ => rfl) (fun _ => rfl) fun _ => rfl

theorem changeInput (window : start.Extends own c) {t : ValueIn} (new : ∀ a ∈ t.sockets, a.node ∈ own)
    (f : ValueInput → ValueInput) : start.Extends own { c with graph := c.graph.changeInput t f } := by
  obtain ⟨sockets⟩ := t
  simp only [Graph.changeInput]
  induction sockets generalizing c with
  | nil => exact window
  | cons a rest ih =>
    have changed : start.Extends own (c.modifyNode a.node (·.changeInput a.socket f)) :=
      window.modifyNode (new a List.mem_cons_self) (fun _ => rfl) (fun _ => rfl) fun _ => rfl
    exact ih changed fun b member => new b (List.mem_cons_of_mem _ member)

theorem connect (window : start.Extends own c) {t : ValueIn} (new : ∀ a ∈ t.sockets, a.node ∈ own) (v : ValueOut) :
    Ensures (Build.connect t v) c fun _ c' => start.Extends own c' :=
  window.changeInput new _

/-- Feeds a target that was made for this. -/
theorem connectTarget {t : ValueIn} (window : start.Extends (t.sockets.map (·.node) ++ own) c) (v : ValueOut) :
    Ensures (Build.connect t v) c fun _ c' => start.Extends own c' :=
  (window.connect (fun _ member => List.mem_append_left _ (List.mem_map_of_mem member)) v).mono
    fun _ _ window => window.weaken fun _ member => List.mem_append_right _ member

theorem setLiteral (window : start.Extends own c) {t : ValueIn} (new : ∀ a ∈ t.sockets, a.node ∈ own)
    (value : Literal) :
    Ensures (Build.setLiteral t value) c fun _ c' => start.Extends own c' :=
  window.changeInput new _

theorem restrict (window : start.Extends own c) {t : ValueIn} (new : ∀ a ∈ t.sockets, a.node ∈ own)
    (restriction : TypeRestriction) :
    Ensures (Build.restrict t restriction) c fun _ c' => start.Extends own c' :=
  window.changeInput new _

theorem expect (window : start.Extends own c) {v : ValueOut} (new : v.address.node ∈ own)
    (type : ExpectedType) : Ensures (Build.expect v type) c fun _ c' => start.Extends own c' := by
  rw [Ensures, Build.snd_expect]
  split
  · exact window
  · exact window.modifyNode new (fun _ => rfl) (fun _ => rfl) fun _ => rfl

end Extends

end Context

namespace Build

variable {α β : Type}

/-- The step only appends value nodes. -/
def Appends (step : Build α) : Prop :=
  ∀ ⦃start : Context⦄ ⦃own : List NodeId⦄ ⦃c : Context⦄, start.Extends own c →
    Ensures step c fun _ c' => start.Extends own c'

namespace Appends

theorem bind {step : Build α} {next : α → Build β} (first : Appends step) (second : ∀ a, Appends (next a)) :
    Appends (step >>= next) :=
  fun _ _ _ window => (first window).bind fun a _ window => second a window

theorem pure (a : α) : Appends (Pure.pure a) := fun _ _ _ window => .pure window

theorem getBind {next : Context → Build β} (second : ∀ c, Appends (next c)) : Appends (get >>= next) :=
  fun _ _ c window => .getBind (second c window)

theorem report (kind : DiagnosticKind) (message : String) : Appends (Build.report kind message) :=
  fun _ _ _ window => window.unseen rfl rfl

theorem createPlaceholder (value : Option Literal) : Appends (Build.createPlaceholder value) :=
  fun _ _ _ window => window.unseen rfl rfl

end Appends

end Build

end ScriptGraph
