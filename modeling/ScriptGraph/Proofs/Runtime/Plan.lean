import ScriptGraph.Proofs.Construction.Ensures
import ScriptGraph.Proofs.Runtime.Edits

/-!
What a runtime will find in a graph under construction.

A builder places nodes, feeds inputs on which nothing stands and leads flows that lead nowhere. What is
wired stays as it is, so a plan states what holds of every program that the graph may still grow into. It
lists the inputs that are still blank and the flows that are still idle; wiring one uses it up.
-/

namespace ScriptGraph

namespace Program

/-- The nodes of `p` stand in `q` as they are, except that idle flows may lead on. -/
structure Within (p q : Program) (idles : List SocketAddress) : Prop where
  larger : p.Extends q
  next : ∀ a, p.op? a.node ≠ none → a ∉ idles → q.next? a = p.next? a

/-- A node stands in the program, and at most the given flow outputs of it lead on. -/
structure Stands (p : Program) (id : NodeId) (kind : Op) (flows : List String) : Prop where
  op : p.op? id = some kind
  real : id.isPlaceholder = false
  closed : ∀ socket, socket ∉ flows → p.next? ⟨id, socket⟩ = none

variable {p q r : Program} {blanks blanks' idles idles' : List SocketAddress}

theorem Extends.op_ne (larger : p.Extends q) {id : NodeId} (exist : p.op? id ≠ none) : q.op? id ≠ none := by
  obtain ⟨kind, found⟩ := Option.ne_none_iff_exists'.1 exist
  simp [larger.op id kind found]

theorem Within.refl (p : Program) (idles : List SocketAddress) : p.Within p idles :=
  ⟨.refl p, fun _ _ _ => rfl⟩

/-- Flows of new nodes do not matter to the nodes before them. -/
theorem Within.trans (first : p.Within q idles) (second : q.Within r idles')
    (old : ∀ a, p.op? a.node ≠ none → a ∈ idles' → a ∈ idles) : p.Within r idles where
  larger := first.larger.trans second.larger
  next a exist kept := by
    rw [second.next a (first.larger.op_ne exist) fun led => kept (old a exist led), first.next a exist kept]

/-- What is open in a program, and what holds of all programs that it may grow into. -/
structure Planned (blanks idles : List SocketAddress) (holding : Program → Prop) (p : Program) : Prop where
  blank : ∀ a ∈ blanks, p.op? a.node ≠ none ∧ p.feed? a = none
  idle : ∀ a ∈ idles, p.op? a.node ≠ none ∧ p.next? a = none
  blanksNodup : blanks.Nodup
  idlesNodup : idles.Nodup
  holds : ∀ q, p.Within q idles → holding q

namespace Planned

variable {holding : Program → Prop}

theorem now (planned : Planned blanks idles holding p) : holding p := planned.holds p (.refl p _)

/-- Values do not depend on where flows lead. -/
theorem ofExtends (planned : Planned blanks idles holding p) (larger : p.Extends q) :
    holding { q with next? := p.next? } :=
  planned.holds _ ⟨{ larger with next := fun _ _ found => found }, fun _ _ _ => rfl⟩

/-- Leaving blanks and idle flows to themselves. -/
theorem drop (planned : Planned blanks idles holding p)
    (someBlanks : ∃ order, blanks'.Sublist order ∧ order.Perm blanks)
    (someIdles : ∃ order, idles'.Sublist order ∧ order.Perm idles) :
    Planned blanks' idles' holding p := by
  obtain ⟨blankOrder, blankSub, blankPerm⟩ := someBlanks
  obtain ⟨idleOrder, idleSub, idlePerm⟩ := someIdles
  have oldIdle (a : SocketAddress) (member : a ∈ idles') : a ∈ idles :=
    idlePerm.mem_iff.1 (idleSub.subset member)
  exact
    { blank := fun a member => planned.blank a (blankPerm.mem_iff.1 (blankSub.subset member))
      idle := fun a member => planned.idle a (oldIdle a member)
      blanksNodup := blankSub.nodup (blankPerm.nodup_iff.2 planned.blanksNodup)
      idlesNodup := idleSub.nodup (idlePerm.nodup_iff.2 planned.idlesNodup)
      holds := fun q within => planned.holds q ⟨within.larger, fun a exist kept =>
        within.next a exist fun led => kept (oldIdle a led)⟩ }

/-- What held of all programs before an edit holds of all programs after it. -/
theorem after (planned : Planned blanks idles holding p)
    (edit : p.Within q idles)
    (old : ∀ a, p.op? a.node ≠ none → a ∈ idles' → a ∈ idles) (r : Program)
    (within : q.Within r idles') : holding r :=
  planned.holds r (edit.trans within old)

theorem placing (planned : Planned blanks idles holding p) {id : NodeId} (kind : Op)
    {inputs flows : List String} (fresh : p.op? id = none) (real : id.isPlaceholder = false)
    (unfed : ∀ socket, p.feed? ⟨id, socket⟩ = none) (unled : ∀ socket, p.next? ⟨id, socket⟩ = none)
    (inputsNodup : inputs.Nodup) (flowsNodup : flows.Nodup) :
    Planned (inputs.map (⟨id, ·⟩) ++ blanks) (flows.map (⟨id, ·⟩) ++ idles)
      (fun q => q.Stands id kind flows ∧ holding q) (p.placing id kind) := by
  have here : (p.placing id kind).op? id = some kind := by rw [op?_placing, if_pos rfl]
  have other {j : NodeId} (exist : p.op? j ≠ none) : j ≠ id := fun same => exist (same ▸ fresh)
  have kept {j : NodeId} (exist : p.op? j ≠ none) : (p.placing id kind).op? j = p.op? j := by
    rw [op?_placing, if_neg (other exist)]
  have edit : p.Within (p.placing id kind) idles := by
    refine ⟨⟨fun j _ found => ?_, fun _ _ _ found => found, fun _ _ found => found, fun _ _ found => found,
      fun _ _ found => found⟩, fun _ _ _ => rfl⟩
    rw [kept (by simp [found]), found]
  have distinct {names : List String} {sockets : List SocketAddress} (nodup : names.Nodup)
      (nodup' : sockets.Nodup) (exist : ∀ a ∈ sockets, p.op? a.node ≠ none) :
      (names.map (⟨id, ·⟩ : String → SocketAddress) ++ sockets).Nodup := by
    refine List.nodup_append.2 ⟨nodup.map fun _ _ same => congrArg SocketAddress.socket same, nodup', ?_⟩
    rintro a new b old rfl
    obtain ⟨name, _, rfl⟩ := List.mem_map.1 new
    exact other (exist _ old) rfl
  refine ⟨fun a member => ?_, fun a member => ?_,
    distinct inputsNodup planned.blanksNodup fun a member => (planned.blank a member).1,
    distinct flowsNodup planned.idlesNodup fun a member => (planned.idle a member).1, fun r within => ⟨?_, ?_⟩⟩
  · rcases List.mem_append.1 member with new | old
    · obtain ⟨name, _, rfl⟩ := List.mem_map.1 new
      exact ⟨by simp [here], unfed name⟩
    · obtain ⟨exist, blank⟩ := planned.blank a old
      exact ⟨by rwa [kept exist], blank⟩
  · rcases List.mem_append.1 member with new | old
    · obtain ⟨name, _, rfl⟩ := List.mem_map.1 new
      exact ⟨by simp [here], unled name⟩
    · obtain ⟨exist, idle⟩ := planned.idle a old
      exact ⟨by rwa [kept exist], idle⟩
  · refine ⟨within.larger.op id kind here, real, fun socket outside => ?_⟩
    rw [within.next ⟨id, socket⟩ (by simp [here]), show (p.placing id kind).next? ⟨id, socket⟩ = none from
      unled socket]
    intro led
    rcases List.mem_append.1 led with new | old
    · obtain ⟨name, listed, same⟩ := List.mem_map.1 new
      exact outside ((SocketAddress.mk.inj same).2 ▸ listed)
    · exact (planned.idle _ old).1 fresh
  · refine planned.after edit (fun a exist led => ?_) r within
    rcases List.mem_append.1 led with new | old
    · obtain ⟨name, _, rfl⟩ := List.mem_map.1 new
      exact absurd rfl (other exist)
    · exact old

theorem feeding {a : SocketAddress} (planned : Planned (a :: blanks) idles holding p) (feed : Feed) :
    Planned blanks idles (fun q => q.feed? a = some feed ∧ holding q) (p.feeding a feed) := by
  obtain ⟨exist, blank⟩ := planned.blank a List.mem_cons_self
  have nodup := List.nodup_cons.1 planned.blanksNodup
  have here : (p.feeding a feed).feed? a = some feed := by rw [feed?_feeding, if_pos rfl]
  have edit : p.Within (p.feeding a feed) idles := by
    refine ⟨⟨fun _ _ found => found, fun _ _ _ found => found, fun b _ found => ?_, fun _ _ found => found,
      fun _ _ found => found⟩, fun _ _ _ => rfl⟩
    rw [feed?_feeding, if_neg, found]
    rintro rfl
    simp [blank] at found
  refine ⟨fun b member => ?_, planned.idle, nodup.2, planned.idlesNodup, fun r within =>
    ⟨within.larger.feed a feed here, planned.after edit (fun _ _ member => member) r within⟩⟩
  obtain ⟨there, still⟩ := planned.blank b (List.mem_cons_of_mem _ member)
  refine ⟨there, ?_⟩
  rw [feed?_feeding, if_neg, still]
  rintro rfl
  exact nodup.1 member

theorem leading {a : SocketAddress} (planned : Planned blanks (a :: idles) holding p)
    (b : SocketAddress) :
    Planned blanks idles (fun q => q.next? a = some b ∧ holding q) (p.leading a b) := by
  obtain ⟨exist, idle⟩ := planned.idle a List.mem_cons_self
  have nodup := List.nodup_cons.1 planned.idlesNodup
  have here : (p.leading a b).next? a = some b := by rw [next?_leading, if_pos rfl]
  have kept {a' : SocketAddress} (other : a' ≠ a) : (p.leading a b).next? a' = p.next? a' := by
    rw [next?_leading, if_neg other]
  have edit : p.Within (p.leading a b) (a :: idles) := by
    refine ⟨⟨fun _ _ found => found, fun _ _ _ found => found, fun _ _ found => found, fun a' _ found => ?_,
      fun _ _ found => found⟩, fun a' _ still => kept ?_⟩
    · rw [kept, found]
      rintro rfl
      simp [idle] at found
    · rintro rfl
      exact still List.mem_cons_self
  refine ⟨planned.blank, fun a' member => ?_, planned.blanksNodup, nodup.2, fun r within =>
    ⟨within.larger.next a b here, planned.after edit (fun _ _ => List.mem_cons_of_mem a) r within⟩⟩
  obtain ⟨there, still⟩ := planned.idle a' (List.mem_cons_of_mem _ member)
  refine ⟨there, ?_⟩
  rw [kept, still]
  rintro rfl
  exact nodup.1 member

/-- A flow that is given up leads nowhere for good. -/
theorem closing {a : SocketAddress} (planned : Planned blanks (a :: idles) holding p) :
    Planned blanks idles (fun q => q.next? a = none ∧ holding q) p := by
  obtain ⟨exist, idle⟩ := planned.idle a List.mem_cons_self
  have nodup := List.nodup_cons.1 planned.idlesNodup
  have fewer : Planned blanks idles holding p :=
    planned.drop ⟨_, .refl _, .refl _⟩ ⟨_, List.sublist_cons_self a idles, .refl _⟩
  exact
    { fewer with
      holds := fun q within => ⟨(within.next a exist nodup.1).trans idle, fewer.holds q within⟩ }

theorem configuring (planned : Planned blanks idles holding p) {id : NodeId} {name : String}
    (value : ConfigValue) (unset : p.parameter? id name = none) :
    Planned blanks idles (fun q => q.parameter? id name = some value ∧ holding q)
      (p.configuring id name value) := by
  have here : (p.configuring id name value).parameter? id name = some value := by
    rw [parameter?_configuring, if_pos ⟨rfl, rfl⟩]
  have edit : p.Within (p.configuring id name value) idles := by
    refine ⟨⟨fun _ _ found => found, fun j other _ found => ?_, fun _ _ found => found, fun _ _ found => found,
      fun _ _ found => found⟩, fun _ _ _ => rfl⟩
    rw [parameter?_configuring, if_neg, found]
    rintro ⟨rfl, rfl⟩
    simp [unset] at found
  exact
    { planned with
      holds := fun r within => ⟨within.larger.parameter id name value here,
        planned.after edit (fun _ _ member => member) r within⟩ }

theorem knowing (planned : Planned blanks idles holding p) {id : NodeId} (value : Literal)
    (isPlaceholder : id.isPlaceholder = true) (unknown : ∀ a, a.node = id → p.constant? a = none)
    (socket : String) :
    Planned blanks idles (fun q => (∀ σ, q.Gives σ (.output ⟨id, socket⟩) value) ∧ holding q)
      (p.knowing id (some value)) := by
  have here : (p.knowing id (some value)).constant? ⟨id, socket⟩ = some value := if_pos rfl
  have edit : p.Within (p.knowing id (some value)) idles := by
    refine ⟨⟨fun _ _ found => found, fun _ _ _ found => found, fun _ _ found => found, fun _ _ found => found,
      fun a _ found => ?_⟩, fun _ _ _ => rfl⟩
    have other : a.node ≠ id := fun same => by simp [unknown a same] at found
    simpa [Program.knowing, other] using found
  exact
    { planned with
      holds := fun r within => ⟨fun σ => .placeholder isPlaceholder (within.larger.constant _ _ here),
        planned.after edit (fun _ _ member => member) r within⟩ }

end Planned

end Program

namespace Context

/-- Identities are not used up: those of nodes end where those of placeholders begin. -/
def Small (c : Context) : Prop :=
  c.graph.nodes.size ≤ NodeId.placeholderBase ∧ c.placeholders.size ≤ NodeId.placeholderBase

/-- No node or placeholder is lost. -/
def Before (c c' : Context) : Prop :=
  c.graph.nodes.size ≤ c'.graph.nodes.size ∧ c.placeholders.size ≤ c'.placeholders.size

theorem Before.small {c c' : Context} (before : c.Before c') (small : c'.Small) : c.Small :=
  ⟨Nat.le_trans before.1 small.1, Nat.le_trans before.2 small.2⟩

theorem Before.refl (c : Context) : c.Before c := ⟨Nat.le_refl _, Nat.le_refl _⟩

theorem Before.trans {a b c : Context} (first : a.Before b) (second : b.Before c) : a.Before c :=
  ⟨Nat.le_trans first.1 second.1, Nat.le_trans first.2 second.2⟩

/-- A node without any parameter yet. -/
def Bare (c : Context) (id : NodeId) : Prop :=
  c.Small → c.program.op? id ≠ none ∧ ∀ name, c.program.parameter? id name = none

end Context

/-- What was made since `start` is as planned, as long as identities are not used up. -/
structure Plan (start : Context) (blanks idles : List SocketAddress) (holding : Program → Prop) (c : Context) :
    Prop where
  before : start.Before c
  sound : c.Small → c.graph.Identified ∧ c.program.Planned blanks idles holding

namespace Plan

variable {start c c' : Context} {blanks blanks' idles idles' : List SocketAddress}
  {holding holding' : Program → Prop}

/-- A plan for what comes now. -/
theorem begin (identified : c.Small → c.graph.Identified)
    (blank : c.Small → ∀ a ∈ blanks, c.program.op? a.node ≠ none ∧ c.program.feed? a = none)
    (idle : c.Small → ∀ a ∈ idles, c.program.op? a.node ≠ none ∧ c.program.next? a = none)
    (blanksNodup : blanks.Nodup) (idlesNodup : idles.Nodup) :
    Plan c blanks idles (fun q => c.program.Within q idles) c where
  before := .refl c
  sound small := ⟨identified small, blank small, idle small, blanksNodup, idlesNodup,
    fun _ within => within⟩

/-- A plan for what comes now, with nothing to wire. -/
theorem bare (identified : c.graph.Identified) : Plan c [] [] (fun q => c.program.Within q []) c :=
  .begin (fun _ => identified) (by simp) (by simp) .nil .nil

/-- What is open stays open for a plan that begins here. -/
theorem here (plan : Plan start blanks idles holding c) :
    Plan c blanks idles (fun q => c.program.Within q idles) c where
  before := .refl c
  sound small := ⟨(plan.sound small).1, { (plan.sound small).2 with holds := fun _ within => within }⟩

theorem mono (plan : Plan start blanks idles holding c) (weaker : ∀ q, holding q → holding' q) :
    Plan start blanks idles holding' c :=
  { plan with sound := fun small => ⟨(plan.sound small).1,
      { (plan.sound small).2 with holds := fun q within => weaker q ((plan.sound small).2.holds q within) }⟩ }

theorem drop (plan : Plan start blanks idles holding c)
    (someBlanks : ∃ order, blanks'.Sublist order ∧ order.Perm blanks)
    (someIdles : ∃ order, idles'.Sublist order ∧ order.Perm idles) :
    Plan start blanks' idles' holding c :=
  { plan with sound := fun small => ⟨(plan.sound small).1, (plan.sound small).2.drop someBlanks someIdles⟩ }

theorem reorder (plan : Plan start blanks idles holding c) (blankPerm : blanks'.Perm blanks)
    (idlePerm : idles'.Perm idles) : Plan start blanks' idles' holding c :=
  plan.drop ⟨_, .refl _, blankPerm⟩ ⟨_, .refl _, idlePerm⟩

theorem close (plan : Plan start blanks idles holding c) {a : SocketAddress} (perm : (a :: idles').Perm idles) :
    Plan start blanks idles' (fun q => q.next? a = none ∧ holding q) c :=
  { plan with sound := fun small =>
      ⟨(plan.sound small).1, ((plan.reorder (.refl _) perm).sound small).2.closing⟩ }

/-- Inputs on which nothing stands are blank. -/
theorem expose (plan : Plan start [] idles holding c)
    (blank : c.Small → ∀ a ∈ blanks, c.program.op? a.node ≠ none ∧ c.program.feed? a = none) (nodup : blanks.Nodup) :
    Plan start blanks idles holding c :=
  { plan with sound := fun small => ⟨(plan.sound small).1,
      { (plan.sound small).2 with blank := blank small, blanksNodup := nodup }⟩ }

/-- A step that changes nothing that a runtime asks for. -/
theorem unseen (plan : Plan start blanks idles holding c) (before : c.Before c')
    (same : c.graph.Identified → c'.graph.Identified ∧ c'.program = c.program) :
    Plan start blanks idles holding c' where
  before := plan.before.trans before
  sound small := by
    obtain ⟨identified, planned⟩ := plan.sound (before.small small)
    obtain ⟨identified', program⟩ := same identified
    exact ⟨identified', program ▸ planned⟩

/-- A step that does not touch the nodes. -/
theorem aside (plan : Plan start blanks idles holding c) (nodes : c'.graph.nodes = c.graph.nodes)
    (placeholders : c'.placeholders = c.placeholders) : Plan start blanks idles holding c' := by
  refine plan.unseen ⟨by rw [nodes], by rw [placeholders]⟩ fun identified => ⟨?_, ?_⟩
  · rwa [Graph.Identified, nodes]
  · have lookup (id : NodeId) : c'.graph.node? id = c.graph.node? id := by
      rw [Graph.node?, Graph.node?, Graph.position?, Graph.position?, nodes]
    simp only [Context.program, Graph.programWith, lookup, Context.placeholderValue?, placeholders]

theorem ensures_createNode {kind : Op} {post : NodeId → Context → Prop}
    (holds : post (.ofNat c.graph.nodes.size) (c.place (.new (.ofNat c.graph.nodes.size) kind))) :
    Ensures (Build.createNode kind) c post :=
  holds

theorem createNode (plan : Plan start blanks idles holding c) {kind : Op} (inputs flows : List String)
    (distinct : inputs.Nodup ∧ flows.Nodup) :
    Ensures (Build.createNode kind) c fun id c' =>
      Plan start (inputs.map (⟨id, ·⟩) ++ blanks) (flows.map (⟨id, ·⟩) ++ idles)
        (fun q => q.Stands id kind flows ∧ holding q) c' ∧ c'.Bare id := by
  refine ensures_createNode ?_
  have size : (c.place (.new (.ofNat c.graph.nodes.size) kind)).graph.nodes.size = c.graph.nodes.size + 1 :=
    Array.size_push ..
  have before : c.Before (c.place (.new (.ofNat c.graph.nodes.size) kind)) :=
    ⟨by rw [size]; omega, Nat.le_refl _⟩
  have placed (small : (c.place (.new (.ofNat c.graph.nodes.size) kind)).Small) :
      c.graph.nodes.size < NodeId.placeholderBase ∧ c.graph.nodes.size < 0x100000000 ∧
        c.graph.Identified ∧ c.program.Planned blanks idles holding := by
    have room : c.graph.nodes.size + 1 ≤ NodeId.placeholderBase := size ▸ small.1
    rw [NodeId.placeholderBase] at room ⊢
    exact ⟨by omega, by omega, plan.sound (before.small small)⟩
  have absent (small : (c.place (.new (.ofNat c.graph.nodes.size) kind)).Small) :
      c.graph.node? (.ofNat c.graph.nodes.size) = none :=
    (placed small).2.2.1.node?_new (placed small).2.1
  refine ⟨⟨plan.before.trans before, fun small => ⟨(placed small).2.2.1.place rfl, ?_⟩⟩, fun small => ?_⟩
  · obtain ⟨low, room, identified, planned⟩ := placed small
    rw [Context.program_createNode identified kind room]
    refine planned.placing kind ?_ ?_ (fun socket => ?_) (fun socket => ?_) distinct.1 distinct.2
    · simp [Context.program, Graph.programWith, absent small]
    · simpa [NodeId.isPlaceholder, NodeId.toNat_ofNat room] using low
    · simp [Context.program, Graph.programWith, absent small]
    · simp [Context.program, Graph.programWith, absent small]
  · obtain ⟨_, room, identified, _⟩ := placed small
    rw [Context.program_createNode identified kind room]
    refine ⟨by simp [Program.op?_placing], fun name => ?_⟩
    simp [Context.program, Graph.programWith, absent small, Program.placing]

/-- A parameter that is not set yet. -/
theorem configureUnset (plan : Plan start blanks idles holding c) {id : NodeId} {name : String}
    (unset : c.Small → c.program.op? id ≠ none ∧ c.program.parameter? id name = none) (value : ConfigValue) :
    Ensures (Build.configure id name value) c fun _ c' =>
      Plan start blanks idles (fun q => q.parameter? id name = some value ∧ holding q) c' := by
  have before : c.Before (c.modifyNode id (·.configure name value)) :=
    ⟨Nat.le_of_eq (Graph.size_modifyNode ..).symm, Nat.le_refl _⟩
  refine ⟨plan.before.trans before, fun small => ?_⟩
  obtain ⟨identified, planned⟩ := plan.sound (before.small small)
  obtain ⟨exist, unset⟩ := unset (before.small small)
  refine ⟨identified.modifyNode id fun n => n.index_configure name value, ?_⟩
  rw [show (Build.configure id name value c).2 = c.modifyNode id (·.configure name value) from rfl,
    Context.program_configure identified exist]
  exact planned.configuring value unset

/-- A parameter of a node that was just placed. -/
theorem configure (plan : Plan start blanks idles holding c) {id : NodeId} (bare : c.Bare id)
    (name : String) (value : ConfigValue) :
    Ensures (Build.configure id name value) c fun _ c' =>
      Plan start blanks idles (fun q => q.parameter? id name = some value ∧ holding q) c' :=
  plan.configureUnset (fun small => ⟨(bare small).1, (bare small).2 name⟩) value

/-- Something comes to stand on blank inputs. -/
theorem feedAll {feed : Feed} {f : ValueInput → ValueInput}
    (feeds : ∀ input : ValueInput, input.feed? = none → (f input).feed? = some feed) :
    ∀ (sockets : List SocketAddress) {holding : Program → Prop} {c : Context},
      Plan start (sockets ++ blanks) idles holding c →
        Plan start blanks idles (fun q => (∀ a ∈ sockets, q.feed? a = some feed) ∧ holding q)
          { c with graph := sockets.foldl (fun g a => g.modifyNode a.node (·.changeInput a.socket f)) c.graph }
  | [], _, _, plan => plan.mono fun q old => ⟨by simp, old⟩
  | a :: sockets, holding, c, plan => by
    have before : c.Before (c.modifyNode a.node (·.changeInput a.socket f)) :=
      ⟨Nat.le_of_eq (Graph.size_modifyNode ..).symm, Nat.le_refl _⟩
    have first : Plan start (sockets ++ blanks) idles (fun q => q.feed? a = some feed ∧ holding q)
        (c.modifyNode a.node (·.changeInput a.socket f)) := by
      refine ⟨plan.before.trans before, fun small => ?_⟩
      obtain ⟨identified, planned⟩ := plan.sound (before.small small)
      obtain ⟨exist, blank⟩ := planned.blank a List.mem_cons_self
      refine ⟨identified.modifyNode a.node fun n => n.index_changeInput .., ?_⟩
      rw [Context.program_changeInput identified exist blank feeds]
      exact planned.feeding feed
    refine (feedAll feeds sockets first).mono fun q ⟨others, here, old⟩ => ⟨?_, old⟩
    simpa using ⟨here, others⟩

theorem connect (plan : Plan start blanks idles holding c) {t : ValueIn} (v : ValueOut)
    (perm : (t.sockets ++ blanks').Perm blanks) :
    Ensures (Build.connect t v) c fun _ c' => Plan start blanks' idles
      (fun q => (∀ a ∈ t.sockets, q.feed? a = some (.output v.address)) ∧ holding q) c' :=
  (plan.reorder perm (.refl _)).feedAll (fun _ _ => rfl) t.sockets

theorem setLiteral (plan : Plan start blanks idles holding c) {t : ValueIn} (value : Literal)
    (perm : (t.sockets ++ blanks').Perm blanks) :
    Ensures (Build.setLiteral t value) c fun _ c' => Plan start blanks' idles
      (fun q => (∀ a ∈ t.sockets, q.feed? a = some (.constant value)) ∧ holding q) c' := by
  refine (plan.reorder perm (.refl _)).feedAll (fun input blank => ?_) t.sockets
  have unfed : input.source = none := by
    cases source : input.source with
    | none => rfl
    | some source => simp [ValueInput.feed?, *] at blank
  simp [ValueInput.feed?, unfed]

theorem connectFlow (plan : Plan start blanks idles holding c) {f : FlowOut} (t : FlowIn)
    (perm : (f.address :: idles').Perm idles) :
    Ensures (Build.connectFlow f t) c fun _ c' => Plan start blanks idles'
      (fun q => q.next? f.address = some t.address ∧ holding q) c' := by
  have plan := plan.reorder (.refl _) perm
  have before : c.Before (c.modifyNode f.address.node (·.addTarget f.address.socket t.address)) :=
    ⟨Nat.le_of_eq (Graph.size_modifyNode ..).symm, Nat.le_refl _⟩
  have led : Plan start blanks idles' (fun q => q.next? f.address = some t.address ∧ holding q)
      (c.modifyNode f.address.node (·.addTarget f.address.socket t.address)) := by
    refine ⟨plan.before.trans before, fun small => ?_⟩
    obtain ⟨identified, planned⟩ := plan.sound (before.small small)
    obtain ⟨exist, idle⟩ := planned.idle f.address List.mem_cons_self
    refine ⟨identified.modifyNode _ fun n => n.index_addTarget .., ?_⟩
    rw [Context.program_addTarget identified exist idle]
    exact planned.leading t.address
  refine led.unseen ⟨Nat.le_of_eq (Graph.size_modifyNode ..).symm, Nat.le_refl _⟩ fun identified => ⟨?_, ?_⟩
  · exact identified.modifyNode _ fun n => n.index_addFlowIn t.address.socket
  · exact Context.program_unseen identified (fun n => n.index_addFlowIn t.address.socket) (fun _ => rfl)
      (fun _ => rfl) (fun _ => rfl) fun _ => rfl

theorem expect (plan : Plan start blanks idles holding c) (v : ValueOut) (type : ExpectedType) :
    Ensures (Build.expect v type) c fun _ c' => Plan start blanks idles holding c' := by
  rw [Ensures, Build.snd_expect]
  split
  · exact plan
  · refine plan.unseen ⟨Nat.le_of_eq (Graph.size_modifyNode ..).symm, Nat.le_refl _⟩ fun identified => ⟨?_, ?_⟩
    · exact identified.modifyNode _ fun _ => rfl
    · exact Context.program_unseen identified (fun _ => rfl) (fun _ => rfl) (fun _ => rfl) (fun _ => rfl)
        fun _ => rfl

theorem createLiteral (plan : Plan start blanks idles holding c) (value : Literal) :
    Ensures (Build.createLiteral value) c fun v c' => Plan start blanks idles
      (fun q => (∀ σ, q.Gives σ (.output v.address) value) ∧ holding q) c' := by
  have before : c.Before { c with placeholders := c.placeholders.push (some value) } :=
    ⟨Nat.le_refl _, by simp⟩
  refine ⟨plan.before.trans before, fun small => ?_⟩
  obtain ⟨identified, planned⟩ := plan.sound (before.small small)
  have room : NodeId.placeholderBase + c.placeholders.size < 0x100000000 := by
    have bound : (c.placeholders.push (some value)).size ≤ NodeId.placeholderBase := small.2
    rw [Array.size_push, NodeId.placeholderBase] at bound
    rw [NodeId.placeholderBase]
    omega
  refine ⟨identified, ?_⟩
  rw [show (Build.createLiteral value c).2 = { c with placeholders := c.placeholders.push (some value) } from rfl,
    Context.program_createPlaceholder room]
  refine planned.knowing value (NodeId.isPlaceholder_placeholder room) (fun a same => ?_) "value"
  have number : (NodeId.placeholder c.placeholders.size).toNat = NodeId.placeholderBase + c.placeholders.size :=
    NodeId.toNat_ofNat room
  simp [Context.program, Graph.programWith, Context.placeholderValue?, same, number]

theorem declareVariable (plan : Plan start blanks idles holding c) (name : String)
    (initial : Option Literal) (type : ValueType) :
    Ensures (Build.declareVariable name initial type) c fun _ c' => Plan start blanks idles holding c' := by
  rw [Ensures]
  simp only [Build.declareVariable, modifyGet, MonadStateOf.modifyGet, StateT.modifyGet]
  split
  · exact plan
  · exact plan.aside rfl rfl

theorem uniqueName (plan : Plan start blanks idles holding c) (stem : String) :
    Ensures (Build.uniqueName stem) c fun _ c' => Plan start blanks idles holding c' :=
  plan.aside rfl rfl

end Plan

end ScriptGraph
