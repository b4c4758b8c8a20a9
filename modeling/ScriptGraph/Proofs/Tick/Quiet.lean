import Mathlib
import ScriptGraph.Proofs.Construction.Creation
import ScriptGraph.Proofs.Construction.Flows
import ScriptGraph.Proofs.Construction.Sessions

/-!
Building that no tick is concerned with.

A builder may feed and lead on what others made, but it sets the parameters of its own nodes only, and no flow that
was led on is taken back. Apart from the chain behind the tick event no builder makes such an event, and apart from
waits none takes a name for the flag of a wait. All of this holds of any builder in any context, whatever it is
handed: a builder is quiet because the primitives are.
-/

namespace ScriptGraph

open Pattern

/-- How a node may change while others are built: its flows lead on to further places, and a settled one keeps its
parameters. -/
structure Node.Remains (settled : Prop) (n n' : Node) : Prop where
  op : n'.op = n.op
  targets : ∀ socket, n.targets socket ⊆ n'.targets socket
  parameters : settled → n'.configuration = n.configuration

namespace Node.Remains

variable {settled settled' : Prop} {n n' n'' : Node}

theorem refl (n : Node) : n.Remains settled n := ⟨rfl, fun _ => List.Subset.refl _, fun _ => rfl⟩

theorem trans (first : n.Remains settled n') (second : n'.Remains settled n'') : n.Remains settled n'' where
  op := second.op.trans first.op
  targets socket := List.Subset.trans (first.targets socket) (second.targets socket)
  parameters h := (second.parameters h).trans (first.parameters h)

theorem mono (weaker : settled' → settled) (remains : n.Remains settled n') : n.Remains settled' n' :=
  { remains with parameters := fun h => remains.parameters (weaker h) }

theorem addTarget (n : Node) (socket : String) (target : SocketAddress) :
    n.Remains settled (n.addTarget socket target) where
  op := rfl
  targets other := n.targets_subset_addTarget socket other target
  parameters _ := rfl

end Node.Remains

namespace Context

/-- What stays of a context while steps follow one another; the nodes before the base are settled. -/
structure Remains (base : Nat) (c c' : Context) : Prop where
  identified : c'.graph.Identified
  nodes : ∀ {i : Nat} {n : Node}, c.graph.nodes[i]? = some n →
    ∃ n', c'.graph.nodes[i]? = some n' ∧ n.Remains (i < base) n'
  vars : ∀ {i : Nat} {v : Variable}, c.graph.vars[i]? = some v →
    ∃ v', c'.graph.vars[i]? = some v' ∧ v'.name = v.name
  options : c'.options = c.options

/-- How many waits were made: each takes a name for its flag. -/
def waits (c : Context) : Nat := (c.counters.find? "WaitPending").getD 0

/-- No event of the tick and no wait is new. -/
structure Quiet (base : Nat) (c c' : Context) : Prop extends c.Remains base c' where
  events : ∀ {i : Nat} {n : Node}, c'.graph.nodes[i]? = some n → n.op = .eventOnTick → i < c.graph.nodes.size
  waits : c'.waits = c.waits

variable {base base' : Nat} {c c' c'' : Context}

theorem Remains.refl (identified : c.graph.Identified) : c.Remains base c :=
  ⟨identified, fun found => ⟨_, found, .refl _⟩, fun found => ⟨_, found, rfl⟩, rfl⟩

theorem Remains.trans (first : c.Remains base c') (second : c'.Remains base c'') : c.Remains base c'' where
  identified := second.identified
  nodes found := by
    obtain ⟨n', found', remains⟩ := first.nodes found
    obtain ⟨n'', found'', remains'⟩ := second.nodes found'
    exact ⟨n'', found'', remains.trans remains'⟩
  vars found := by
    obtain ⟨v', found', name⟩ := first.vars found
    obtain ⟨v'', found'', name'⟩ := second.vars found'
    exact ⟨v'', found'', name'.trans name⟩
  options := second.options.trans first.options

theorem Remains.mono (remains : c.Remains base c') (le : base' ≤ base) : c.Remains base' c' :=
  { remains with
    nodes := fun found => by
      obtain ⟨n', found', remains⟩ := remains.nodes found
      exact ⟨n', found', remains.mono fun below => Nat.lt_of_lt_of_le below le⟩ }

theorem Remains.at {i : Nat} {property : Node → Prop} (remains : c.Remains base c') (here : c.graph.At i property)
    (keeps : ∀ n n', n.Remains (i < base) n' → property n → property n') : c'.graph.At i property := by
  obtain ⟨n, found, holds⟩ := here
  obtain ⟨n', found', remains⟩ := remains.nodes found
  exact ⟨n', found', keeps n n' remains holds⟩

theorem Quiet.refl (identified : c.graph.Identified) : c.Quiet base c :=
  { Remains.refl identified with
    events := fun found _ => (Array.getElem?_eq_some_iff.1 found).1
    waits := rfl }

theorem Quiet.trans (first : c.Quiet base c') (second : c'.Quiet base c'') : c.Quiet base c'' :=
  { first.toRemains.trans second.toRemains with
    events := fun found event => by
      obtain ⟨n', found', remains⟩ := second.nodes (Array.getElem?_eq_getElem (second.events found event))
      obtain rfl := Option.some.inj (found.symm.trans found')
      exact first.events (Array.getElem?_eq_getElem _) (remains.op.symm.trans event)
    waits := second.waits.trans first.waits }

/-- One node is changed. -/
theorem quiet_modifyNode (identified : c.graph.Identified) (id : NodeId) {f : Node → Node}
    (index : ∀ n, (f n).index = n.index) (remains : ∀ n : Node, n.Remains (id.toNat < base) (f n)) :
    c.Quiet base (c.modifyNode id f) where
  identified := identified.modifyNode id index
  nodes {i n} found := by
    rw [modifyNode, identified.nodes_modifyNode]
    by_cases same : i = id.toNat
    · subst same
      exact ⟨f n, by simp [found], remains n⟩
    · exact ⟨n, by simp [same, found], .refl n⟩
  vars found := ⟨_, by simpa only [modifyNode, Graph.vars_modifyNode] using found, rfl⟩
  options := rfl
  events found _ := by
    have inside := (Array.getElem?_eq_some_iff.1 found).1
    rwa [modifyNode, Graph.size_modifyNode] at inside
  waits := rfl

theorem remains_place (identified : c.graph.Identified) {n : Node} (index : n.index = .ofNat c.graph.nodes.size) :
    c.Remains base (c.place n) where
  identified := identified.place index
  nodes {i m} found := by
    have inside := (Array.getElem?_eq_some_iff.1 found).1
    refine ⟨m, ?_, .refl m⟩
    rw [place, Graph.nodes_place, if_neg (Nat.ne_of_lt inside), found]
  vars found := ⟨_, found, rfl⟩
  options := rfl

/-- A node is placed that is no event of the tick. -/
theorem quiet_place (identified : c.graph.Identified) {n : Node} (index : n.index = .ofNat c.graph.nodes.size)
    (other : n.op ≠ .eventOnTick) : c.Quiet base (c.place n) :=
  { remains_place identified index with
    events := fun {i m} found event => by
      rw [place, Graph.nodes_place] at found
      split at found
      · exact absurd (Option.some.inj found ▸ event) other
      · exact (Array.getElem?_eq_some_iff.1 found).1
    waits := rfl }

/-- No node is touched. -/
theorem quiet_of_nodes (identified : c.graph.Identified) (nodes : c'.graph.nodes = c.graph.nodes)
    (vars : ∀ {i : Nat} {v : Variable}, c.graph.vars[i]? = some v →
      ∃ v', c'.graph.vars[i]? = some v' ∧ v'.name = v.name)
    (options : c'.options = c.options) (waits : c'.waits = c.waits) : c.Quiet base c' where
  identified i n found := identified i n (nodes ▸ found)
  nodes found := ⟨_, nodes ▸ found, .refl _⟩
  vars := vars
  options := options
  events found _ := nodes ▸ (Array.getElem?_eq_some_iff.1 found).1
  waits := waits

end Context

namespace Build

variable {α β : Type} {base : Nat}

/-- The step takes no node away. -/
def Grows (step : Build α) : Prop := ∀ c : Context, c.graph.nodes.size ≤ (step c).2.graph.nodes.size

theorem Grows.bind {step : Build α} {next : α → Build β} (first : Grows step) (second : ∀ a, Grows (next a)) :
    Grows (step >>= next) :=
  fun c => (first c).trans (second (step c).1 (step c).2)

/-- The step takes no node away and is quiet as long as the numbers of nodes suffice. -/
structure Quiet (base : Nat) (step : Build α) : Prop where
  size_le : Grows step
  quiet : ∀ c : Context, c.graph.Identified → base ≤ c.graph.nodes.size →
    (step c).2.graph.nodes.size ≤ 0x100000000 → c.Quiet base (step c).2

theorem grows_createNode (op : Op) : Grows (createNode op) := fun _ => (Array.size_push _).symm ▸ Nat.le_succ _

theorem Grows.of_quiet {step : Build α} (quiet : Quiet 0 step) : Grows step := quiet.size_le

namespace Quiet

theorem bind {step : Build α} {next : α → Build β} (first : Quiet base step)
    (second : ∀ a, Quiet base (next a)) : Quiet base (step >>= next) where
  size_le := first.size_le.bind fun a => (second a).size_le
  quiet c identified le inRange := by
    have middle := (second (step c).1).size_le (step c).2
    have before := first.quiet c identified le (middle.trans inRange)
    exact before.trans ((second (step c).1).quiet _ before.identified (le.trans (first.size_le c)) inRange)

@[simp] theorem pure (a : α) : Quiet base (Pure.pure a) := ⟨fun _ => le_rfl, fun _ identified _ _ => .refl identified⟩

theorem getBind {next : Context → Build β} (second : ∀ c, Quiet base (next c)) : Quiet base (get >>= next) :=
  ⟨fun c => (second c).size_le c, fun c => (second c).quiet c⟩

/-- Nothing happens to the graph, and no wait is made. -/
theorem aside {step : Build α} (graph : ∀ c, (step c).2.graph = c.graph) (options : ∀ c, (step c).2.options = c.options)
    (waits : ∀ c, (step c).2.waits = c.waits) : Quiet base step where
  size_le c := by rw [graph c]
  quiet c identified _ _ :=
    Context.quiet_of_nodes identified (by rw [graph c]) (fun found => ⟨_, graph c ▸ found, rfl⟩) (options c) (waits c)

/-- The identity of a new node belongs to its builder. Where the numbers of nodes do not suffice it may be that of
an older node, and nothing is said; so what follows is looked at with a base that is not above the identity. -/
theorem node {op : Op} (other : op ≠ .eventOnTick) {next : NodeId → Build β}
    (second : ∀ (node : NodeId) (base : Nat), base ≤ node.toNat → Quiet base (next node)) :
    Quiet base (createNode op >>= next) where
  size_le c := (grows_createNode op c).trans
    ((second (.ofNat c.graph.nodes.size) 0 (Nat.zero_le _)).size_le (createNode op c).2)
  quiet c identified le inRange := by
    have placed : c.Quiet base (createNode op c).2 := Context.quiet_place identified rfl other
    have size : (createNode op c).2.graph.nodes.size = c.graph.nodes.size + 1 := Array.size_push _
    have grown := (second (.ofNat c.graph.nodes.size) 0 (Nat.zero_le _)).size_le (createNode op c).2
    have small : c.graph.nodes.size < 0x100000000 := by
      have inRange : (next (.ofNat c.graph.nodes.size) (createNode op c).2).2.graph.nodes.size ≤ 0x100000000 := inRange
      omega
    refine placed.trans ((second _ base ?_).quiet _ placed.identified (by omega) inRange)
    rwa [NodeId.toNat_ofNat small]

end Quiet

section Primitives

@[simp] theorem quiet_configure {id : NodeId} (own : base ≤ id.toNat) (name : String) (value : ConfigValue) :
    Quiet base (configure id name value) where
  size_le _ := (Graph.size_modifyNode ..).ge
  quiet _ identified _ _ := Context.quiet_modifyNode identified id (fun _ => rfl) fun _ =>
    ⟨rfl, fun _ => List.Subset.refl _, fun settled => absurd settled (Nat.not_lt.2 own)⟩

theorem quiet_changeInput (target : ValueIn) (f : ValueInput → ValueInput) :
    Quiet base (modifyGraph (·.changeInput target f)) where
  size_le c := (Graph.size_changeInput ..).ge
  quiet c identified _ _ := by
    suffices general : ∀ (sockets : List SocketAddress) (c : Context), c.graph.Identified → c.Quiet base
        { c with graph := sockets.foldl (fun g a => g.modifyNode a.node (·.changeInput a.socket f)) c.graph } from
      general target.sockets c identified
    intro sockets
    induction sockets with
    | nil => exact fun c identified => .refl identified
    | cons a rest ih =>
      intro c identified
      have first : c.Quiet base (c.modifyNode a.node (·.changeInput a.socket f)) :=
        Context.quiet_modifyNode identified a.node (fun _ => rfl) fun n =>
          ⟨rfl, fun _ => List.Subset.refl _, fun _ => rfl⟩
      exact first.trans (ih _ first.identified)

@[simp] theorem quiet_connect (target : ValueIn) (source : ValueOut) : Quiet base (connect target source) :=
  quiet_changeInput target _

@[simp] theorem quiet_setLiteral (target : ValueIn) (value : Literal) : Quiet base (setLiteral target value) :=
  quiet_changeInput target _

@[simp] theorem quiet_restrict (target : ValueIn) (restriction : TypeRestriction) :
    Quiet base (restrict target restriction) :=
  quiet_changeInput target _

@[simp] theorem quiet_expect (output : ValueOut) (type : ExpectedType) : Quiet base (expect output type) := by
  refine ⟨fun c => ?_, fun c identified _ _ => ?_⟩
  · rw [snd_expect]
    split
    · exact le_rfl
    · exact (Graph.size_modifyNode ..).ge
  · rw [snd_expect]
    split
    · exact .refl identified
    · exact Context.quiet_modifyNode identified _ (fun _ => rfl) fun n =>
        ⟨rfl, fun _ => List.Subset.refl _, fun _ => rfl⟩

@[simp] theorem quiet_connectFlow (start : FlowOut) (target : FlowIn) : Quiet base (connectFlow start target) where
  size_le c := by
    show _ ≤ ((c.graph.modifyNode _ _).modifyNode _ _).nodes.size
    rw [Graph.size_modifyNode, Graph.size_modifyNode]
  quiet c identified _ _ := by
    have first : c.Quiet base (c.modifyNode start.address.node (·.addTarget start.address.socket target.address)) :=
      Context.quiet_modifyNode identified _ (fun _ => rfl) fun n => .addTarget n _ _
    refine first.trans (Context.quiet_modifyNode first.identified target.address.node (fun _ => rfl) fun n => ?_)
    exact ⟨rfl, fun _ => List.Subset.refl _, fun _ => rfl⟩

@[simp] theorem quiet_createPlaceholder (value : Option Literal) : Quiet base (createPlaceholder value) :=
  .aside (fun _ => rfl) (fun _ => rfl) fun _ => rfl

@[simp] theorem quiet_createLiteral (value : Literal) : Quiet base (createLiteral value) := quiet_createPlaceholder _

@[simp] theorem quiet_createUnknownLiteral : Quiet base createUnknownLiteral := quiet_createPlaceholder _

/-- A step that does nothing, or adds to the tables. -/
theorem quiet_of_cases {step : Build α} (cases : ∀ c, (step c).2 = c ∨ ((step c).2.graph.nodes = c.graph.nodes ∧
    (∀ {i : Nat} {v : Variable}, c.graph.vars[i]? = some v → (step c).2.graph.vars[i]? = some v) ∧
    (step c).2.options = c.options ∧ (step c).2.waits = c.waits)) : Quiet base step where
  size_le c := by
    rcases cases c with same | ⟨nodes, _⟩
    · rw [same]
    · rw [nodes]
  quiet c identified _ _ := by
    rcases cases c with same | ⟨nodes, vars, options, waits⟩
    · rw [same]
      exact .refl identified
    · exact Context.quiet_of_nodes identified nodes (fun found => ⟨_, vars found, rfl⟩) options waits

@[simp] theorem quiet_declareVariable (name : String) (initial : Option Literal) (type : ValueType) :
    Quiet base (declareVariable name initial type) := by
  refine quiet_of_cases fun c => ?_
  cases known : c.variableId? name with
  | some id => exact .inl (by rw [declareVariable_of_known initial type known])
  | none =>
    rw [declareVariable_of_new initial type known]
    exact .inr ⟨rfl, fun found => Known.getElem?_push_of_some found, rfl, rfl⟩

@[simp] theorem quiet_declareEvent (name : String) (values : List EventValue) :
    Quiet base (declareEvent name values) := by
  refine quiet_of_cases fun c => ?_
  cases known : c.eventId? name with
  | some id => exact .inl (by rw [declareEvent_of_known values known])
  | none =>
    rw [declareEvent_of_new values known]
    exact .inr ⟨rfl, fun found => found, rfl, rfl⟩

@[simp] theorem quiet_setInitial (id : Nat) (initial : Option Literal) : Quiet base (setInitial id initial) where
  size_le _ := le_rfl
  quiet c identified _ _ := by
    refine Context.quiet_of_nodes identified rfl (fun {i v} found => ?_) rfl rfl
    refine ⟨if id = i then { v with initial } else v, ?_, by split <;> rfl⟩
    refine (Array.getElem?_modify ..).trans ?_
    rw [found]
    split <;> rfl

/-- Another name than that of a flag. -/
theorem quiet_uniqueName {stem : String} (other : stem ≠ "WaitPending") : Quiet base (uniqueName stem) := by
  refine .aside (fun _ => rfl) (fun _ => rfl) fun c => ?_
  have counters : (uniqueName stem c).2.counters =
      c.counters.insert stem ((c.counters.find? stem).getD 0 + 1) := rfl
  rw [Context.waits, counters, Dict.find?_insert, if_neg (Ne.symm other), Context.waits]

@[simp] theorem quiet_targetOf? (object : ObjectRef) : Quiet base (targetOf? object) :=
  .getBind fun _ => .pure _

@[simp] theorem quiet_report (kind : DiagnosticKind) (message : String) : Quiet base (report kind message) :=
  .aside (fun _ => rfl) (fun _ => rfl) fun _ => rfl

@[simp] theorem quiet_unsupported (message : String) : Quiet base (unsupported message) := quiet_report _ _

@[simp] theorem quiet_unresolved (message : String) : Quiet base (unresolved message) := quiet_report _ _

@[simp] theorem quiet_malformed (message : String) : Quiet base (malformed message) := quiet_report _ _

@[simp] theorem quiet_setMethod (name : String) : Quiet base (setMethod name) :=
  .aside (fun _ => rfl) (fun _ => rfl) fun _ => rfl

end Primitives

end Build

end ScriptGraph
