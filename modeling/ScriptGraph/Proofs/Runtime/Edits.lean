import ScriptGraph.Proofs.Construction.Creation
import ScriptGraph.Proofs.Runtime.Program

/-!
What the steps of construction change for a runtime.

Every step has a counterpart on programs: a new node, something on an input that was blank, a flow that led
nowhere. Types of outputs, declared flow inputs and the tables of variables are not seen.
-/

namespace ScriptGraph

namespace Program

/-- A program with one more node. -/
def placing (p : Program) (id : NodeId) (kind : Op) : Program :=
  { p with op? := Function.update p.op? id (some kind) }

/-- A program with something on a value input. -/
def feeding (p : Program) (a : SocketAddress) (feed : Feed) : Program :=
  { p with feed? := Function.update p.feed? a (some feed) }

/-- A program with a flow that leads on. -/
def leading (p : Program) (a b : SocketAddress) : Program :=
  { p with next? := Function.update p.next? a (some b) }

/-- A program with a parameter of a node. -/
def configuring (p : Program) (id : NodeId) (name : String) (value : ConfigValue) : Program :=
  { p with parameter? := Function.update p.parameter? id (Function.update (p.parameter? id) name (some value)) }

/-- A program with one more placeholder. -/
def knowing (p : Program) (id : NodeId) (value : Option Literal) : Program :=
  { p with constant? := fun a => if a.node = id then value else p.constant? a }

theorem op?_placing (p : Program) (id j : NodeId) (kind : Op) :
    (p.placing id kind).op? j = if j = id then some kind else p.op? j :=
  Function.update_apply ..

theorem feed?_feeding (p : Program) (a b : SocketAddress) (feed : Feed) :
    (p.feeding a feed).feed? b = if b = a then some feed else p.feed? b :=
  Function.update_apply ..

theorem next?_leading (p : Program) (a b target : SocketAddress) :
    (p.leading a target).next? b = if b = a then some target else p.next? b :=
  Function.update_apply ..

theorem parameter?_configuring (p : Program) (id j : NodeId) (name other : String) (value : ConfigValue) :
    (p.configuring id name value).parameter? j other =
      if j = id ∧ other = name then some value else p.parameter? j other := by
  by_cases same : j = id
  · subst same
    simp [configuring, Function.update_apply]
  · simp [configuring, same]

end Program

namespace Graph

theorem Identified.node?_modifyNode {g : Graph} (identified : g.Identified) (id : NodeId)
    {f : Node → Node} (keeps : ∀ n, (f n).index = n.index) (j : NodeId) :
    (g.modifyNode id f).node? j = if j = id then (g.node? j).map f else g.node? j := by
  rw [(identified.modifyNode id keeps).node?, identified.nodes_modifyNode, identified.node?]
  by_cases same : j = id
  · rw [if_pos (congrArg NodeId.toNat same), if_pos same]
  · rw [if_neg fun number => same (NodeId.toNat_inj number), if_neg same]

theorem Identified.node?_place {g : Graph} (identified : g.Identified) {n : Node}
    (index : n.index = .ofNat g.nodes.size) (small : g.nodes.size < 0x100000000) (j : NodeId) :
    (g.place n).node? j = if j = .ofNat g.nodes.size then some n else g.node? j := by
  rw [(identified.place index).node?, nodes_place, identified.node?]
  by_cases same : j = .ofNat g.nodes.size
  · rw [if_pos same, if_pos (by rw [same, NodeId.toNat_ofNat small])]
  · rw [if_neg same, if_neg fun number => same (by rw [← number, NodeId.ofNat_toNat])]

theorem Identified.node?_new {g : Graph} (identified : g.Identified) (small : g.nodes.size < 0x100000000) :
    g.node? (.ofNat g.nodes.size) = none := by
  rw [identified.node?, NodeId.toNat_ofNat small, Array.getElem?_eq_none (Nat.le_refl _)]

end Graph

theorem Node.flowTarget?_eq_head? (n : Node) (socket : String) :
    n.flowTarget? socket = (n.targets socket).head? := by
  rw [Node.flowTarget?, Node.targets]
  cases n.flowsOut.find? socket <;> rfl

/-- A runtime finds the node under the given identity. -/
structure Program.Shows (p : Program) (id : NodeId) (n : Node) : Prop where
  op : p.op? id = some n.op
  parameter : ∀ name, p.parameter? id name = n.config? name
  feed : ∀ socket, p.feed? ⟨id, socket⟩ = (n.valueIn? socket).bind (·.feed?)
  next : ∀ socket, p.next? ⟨id, socket⟩ = n.flowTarget? socket

/-- A runtime finds the same in both programs under the given identity. -/
structure Program.SameAt (p q : Program) (id : NodeId) : Prop where
  op : q.op? id = p.op? id
  parameter : ∀ name, q.parameter? id name = p.parameter? id name
  feed : ∀ socket, q.feed? ⟨id, socket⟩ = p.feed? ⟨id, socket⟩
  next : ∀ socket, q.next? ⟨id, socket⟩ = p.next? ⟨id, socket⟩

namespace Program

variable {p q r : Program} {id : NodeId}

theorem SameAt.symm (same : p.SameAt q id) : q.SameAt p id where
  op := same.op.symm
  parameter name := (same.parameter name).symm
  feed socket := (same.feed socket).symm
  next socket := (same.next socket).symm

theorem SameAt.trans (first : p.SameAt q id) (second : q.SameAt r id) : p.SameAt r id where
  op := second.op.trans first.op
  parameter name := (second.parameter name).trans (first.parameter name)
  feed socket := (second.feed socket).trans (first.feed socket)
  next socket := (second.next socket).trans (first.next socket)

theorem Shows.sameAt {n : Node} (here : p.Shows id n) (there : q.Shows id n) : p.SameAt q id where
  op := there.op.trans here.op.symm
  parameter name := (there.parameter name).trans (here.parameter name).symm
  feed socket := (there.feed socket).trans (here.feed socket).symm
  next socket := (there.next socket).trans (here.next socket).symm

/-- A program is what a runtime finds at its nodes and at its placeholders. -/
theorem ext_sameAt (same : ∀ id, p.SameAt q id) (constant : q.constant? = p.constant?) : p = q :=
  Program.ext (funext fun id => (same id).op.symm) (funext fun id => funext fun name => ((same id).parameter name).symm)
    (funext fun a => ((same a.node).feed a.socket).symm) (funext fun a => ((same a.node).next a.socket).symm)
    constant.symm

end Program

namespace Context

variable {c : Context}

theorem shows_of_node? {id : NodeId} {n : Node} (found : c.graph.node? id = some n) : c.program.Shows id n where
  op := by simp [program, Graph.programWith, found]
  parameter name := by simp [program, Graph.programWith, found]
  feed socket := by simp [program, Graph.programWith, found]
  next socket := by simp [program, Graph.programWith, found]

theorem exists_shows {id : NodeId} (exist : c.program.op? id ≠ none) :
    ∃ n, c.graph.node? id = some n ∧ c.program.Shows id n := by
  cases found : c.graph.node? id with
  | none => simp [program, Graph.programWith, found] at exist
  | some n => exact ⟨n, rfl, shows_of_node? found⟩

/-- Changing one node changes what is found at that node. -/
theorem program_modifyNode (identified : c.graph.Identified) {id : NodeId} {f : Node → Node}
    (keeps : ∀ n, (f n).index = n.index) {q : Program} {n : Node} (found : c.graph.node? id = some n)
    (here : q.Shows id (f n)) (there : ∀ j, j ≠ id → c.program.SameAt q j)
    (constant : q.constant? = c.program.constant?) : (c.modifyNode id f).program = q := by
  have lookup := identified.node?_modifyNode id keeps
  have changed : (c.modifyNode id f).graph.node? id = some (f n) := by
    rw [modifyNode, lookup, if_pos rfl, found, Option.map_some]
  have shows := shows_of_node? changed
  have same (j : NodeId) (other : j ≠ id) : c.program.SameAt (c.modifyNode id f).program j := by
    constructor <;> intros <;> simp [program, Graph.programWith, modifyNode, lookup, other]
  refine Program.ext_sameAt (fun j => ?_) constant
  by_cases other : j = id
  · exact other ▸ shows.sameAt here
  · exact (same j other).symm.trans (there j other)

theorem program_changeInput (identified : c.graph.Identified) {a : SocketAddress}
    {f : ValueInput → ValueInput} {feed : Feed} (exist : c.program.op? a.node ≠ none)
    (blank : c.program.feed? a = none)
    (feeds : ∀ input : ValueInput, input.feed? = none → (f input).feed? = some feed) :
    (c.modifyNode a.node (·.changeInput a.socket f)).program = c.program.feeding a feed := by
  obtain ⟨n, found, shows⟩ := exists_shows exist
  have empty : ((n.valueIn? a.socket).getD {}).feed? = none := by
    have none := (shows.feed a.socket).symm.trans blank
    cases input : n.valueIn? a.socket with
    | none => rfl
    | some input => rwa [input] at none
  refine program_modifyNode identified (fun n => n.index_changeInput ..) found
    ⟨shows.op, shows.parameter, fun socket => ?_, shows.next⟩
    (fun j other => ⟨rfl, fun _ => rfl, fun socket => ?_, fun _ => rfl⟩) rfl
  · rw [Node.valueIn?_changeInput]
    by_cases here : socket = a.socket
    · subst here
      rw [if_pos rfl, Option.bind_some, feeds _ empty, Program.feed?_feeding, if_pos rfl]
    · rw [if_neg here, ← shows.feed, Program.feed?_feeding,
        if_neg fun same => here (congrArg SocketAddress.socket same)]
  · rw [Program.feed?_feeding, if_neg fun same => other (congrArg SocketAddress.node same)]

theorem program_addTarget (identified : c.graph.Identified) {a b : SocketAddress}
    (exist : c.program.op? a.node ≠ none) (idle : c.program.next? a = none) :
    (c.modifyNode a.node (·.addTarget a.socket b)).program = c.program.leading a b := by
  obtain ⟨n, found, shows⟩ := exists_shows exist
  have empty : n.targets a.socket = [] := by
    rw [← List.head?_eq_none_iff, ← Node.flowTarget?_eq_head?, ← shows.next]
    exact idle
  refine program_modifyNode identified (fun n => n.index_addTarget ..) found
    ⟨shows.op, shows.parameter, shows.feed, fun socket => ?_⟩
    (fun j other => ⟨rfl, fun _ => rfl, fun _ => rfl, fun socket => ?_⟩) rfl
  · rw [Node.flowTarget?_eq_head?, Node.targets_addTarget]
    by_cases here : socket = a.socket
    · subst here
      simp [Program.next?_leading, empty]
    · rw [if_neg here, ← Node.flowTarget?_eq_head?, ← shows.next, Program.next?_leading,
        if_neg fun same => here (congrArg SocketAddress.socket same)]
  · rw [Program.next?_leading, if_neg fun same => other (congrArg SocketAddress.node same)]

theorem program_configure (identified : c.graph.Identified) {id : NodeId} {name : String}
    {value : ConfigValue} (exist : c.program.op? id ≠ none) :
    (c.modifyNode id (·.configure name value)).program = c.program.configuring id name value := by
  obtain ⟨n, found, shows⟩ := exists_shows exist
  refine program_modifyNode identified (fun n => n.index_configure ..) found
    ⟨shows.op, fun other => ?_, shows.feed, shows.next⟩
    (fun j other => ⟨rfl, fun _ => ?_, fun _ => rfl, fun _ => rfl⟩) rfl
  · simp only [Node.config?_configure, Program.parameter?_configuring, shows.parameter, true_and]
  · rw [Program.parameter?_configuring, if_neg fun same => other same.1]

/-- A change that a runtime does not see. -/
theorem program_unseen (identified : c.graph.Identified) {id : NodeId} {f : Node → Node}
    (index : ∀ n, (f n).index = n.index) (op : ∀ n, (f n).op = n.op)
    (configuration : ∀ n, (f n).configuration = n.configuration)
    (valuesIn : ∀ n, (f n).valuesIn = n.valuesIn) (flowsOut : ∀ n, (f n).flowsOut = n.flowsOut) :
    (c.modifyNode id f).program = c.program := by
  cases found : c.graph.node? id with
  | none =>
    rw [identified.node?, Array.getElem?_eq_none_iff] at found
    have absent : c.graph.modifyNode id f = c.graph := by
      rw [Graph.modifyNode, identified.position?, if_neg (Nat.not_lt.2 found)]
    rw [modifyNode, absent]
  | some n =>
    have shows := shows_of_node? found
    refine program_modifyNode identified index found ⟨?_, fun name => ?_, fun socket => ?_, fun socket => ?_⟩
      (fun j other => ⟨rfl, fun _ => rfl, fun _ => rfl, fun _ => rfl⟩) rfl
    · rw [op, shows.op]
    · rw [Node.config?, configuration, shows.parameter, Node.config?]
    · rw [Node.valueIn?, valuesIn, shows.feed, Node.valueIn?]
    · rw [Node.flowTarget?, flowsOut, shows.next, Node.flowTarget?]

theorem program_createNode (identified : c.graph.Identified) (kind : Op)
    (small : c.graph.nodes.size < 0x100000000) :
    (c.place (.new (.ofNat c.graph.nodes.size) kind)).program =
      c.program.placing (.ofNat c.graph.nodes.size) kind := by
  have lookup := identified.node?_place (n := .new (.ofNat c.graph.nodes.size) kind) rfl small
  have absent := identified.node?_new small
  have unwired := Node.unwired_new (.ofNat c.graph.nodes.size) kind
  have placed : (c.place (.new (.ofNat c.graph.nodes.size) kind)).graph.node? (.ofNat c.graph.nodes.size) =
      some (.new (.ofNat c.graph.nodes.size) kind) := by rw [place, lookup, if_pos rfl]
  have shows := shows_of_node? placed
  have same (j : NodeId) (other : j ≠ .ofNat c.graph.nodes.size) :
      c.program.SameAt (c.place (.new (.ofNat c.graph.nodes.size) kind)).program j := by
    constructor <;> intros <;> simp [program, Graph.programWith, place, lookup, other]
  have placing : (c.program.placing (.ofNat c.graph.nodes.size) kind).Shows (.ofNat c.graph.nodes.size)
      (.new (.ofNat c.graph.nodes.size) kind) := by
    refine ⟨?_, fun name => ?_, fun socket => ?_, fun socket => ?_⟩
    · rw [Program.op?_placing, if_pos rfl, unwired.op_eq]
    · rw [Node.config?]
      simp only [Program.placing, program, Graph.programWith, absent, Option.bind_none]
      cases found : (Node.new (.ofNat c.graph.nodes.size) kind).configuration.find? name with
      | none => rfl
      | some value => rw [(Node.configuration_new found).2]; rfl
    · simp only [Program.placing, program, Graph.programWith, absent, Option.bind_none]
      cases found : (Node.new (.ofNat c.graph.nodes.size) kind).valueIn? socket with
      | none => rfl
      | some input => rw [(Node.valueIn?_new found).2]; rfl
    · rw [Node.flowTarget?_eq_head?, unwired.idle]
      simp only [Program.placing, program, Graph.programWith, absent, Option.bind_none, List.head?_nil]
  refine Program.ext_sameAt (fun j => ?_) rfl
  by_cases other : j = .ofNat c.graph.nodes.size
  · exact other ▸ shows.sameAt placing
  · refine (same j other).symm.trans ⟨?_, fun _ => rfl, fun _ => rfl, fun _ => rfl⟩
    rw [Program.op?_placing, if_neg other]

theorem program_createPlaceholder (small : NodeId.placeholderBase + c.placeholders.size < 0x100000000)
    (value : Option Literal) :
    ({ c with placeholders := c.placeholders.push value } : Context).program =
      c.program.knowing (.placeholder c.placeholders.size) value := by
  refine Program.ext rfl rfl rfl rfl (funext fun a => ?_)
  have number : (NodeId.placeholder c.placeholders.size).toNat = NodeId.placeholderBase + c.placeholders.size :=
    NodeId.toNat_ofNat small
  simp only [program, Graph.programWith, Program.knowing, placeholderValue?, Array.getElem?_push]
  by_cases same : a.node = .placeholder c.placeholders.size
  · have isPlaceholder := NodeId.isPlaceholder_placeholder small
    simp [same, isPlaceholder, number]
  · rw [if_neg same]
    split
    · next isPlaceholder =>
      have above : NodeId.placeholderBase ≤ a.node.toNat := by simpa [NodeId.isPlaceholder] using isPlaceholder
      have other : a.node.toNat - NodeId.placeholderBase ≠ c.placeholders.size := by
        intro equal
        refine same (NodeId.toNat_inj ?_)
        omega
      rw [if_neg other]
    · rfl

end Context

end ScriptGraph
