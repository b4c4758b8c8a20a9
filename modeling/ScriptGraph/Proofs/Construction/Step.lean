import ScriptGraph.Graph.Validation
import ScriptGraph.Lower.State
import ScriptGraph.Proofs.Construction.Positions

/-!
The legal steps of construction.

A graph grows by whole nodes and by late wiring: a value input may be fed after its node was placed,
a flow output may be led on once. `Step` says under which conditions; what holds of every finished
graph is proved step by step from it.
-/

namespace ScriptGraph

/-- Whether an address belongs to a placeholder or to a node of a given set. -/
def SocketAddress.Among (sources : Nat → Prop) (a : SocketAddress) : Prop :=
  a.node.isPlaceholder = true ∨ sources a.node.toNat

/-- An event of a method of the class carries its parameters of a known type. -/
def ScriptClass.Announces (cls : ScriptClass) (e : CustomEvent) : Prop :=
  ∃ method, cls.method? e.name = some method ∧ ∀ p ∈ method.parameters,
    p.paramType.storageType? ≠ none → p.name ∈ e.values.map (·.name)

namespace ValueInput

/-- The input with another source. -/
def fedBy (input : ValueInput) (source : SocketAddress) : ValueInput :=
  { input with source := some source }

/-- The input with another constant. -/
def holding (input : ValueInput) (value : Literal) : ValueInput :=
  { input with literal := some value }

end ValueInput

namespace Node

/-- The targets of a flow output; none where the output is not declared. -/
def targets (n : Node) (socket : String) : List SocketAddress :=
  ((n.flowsOut.find? socket).getD {}).targets

/-- The operation takes a value at the socket, whatever events the graph has. -/
def Takes (n : Node) (socket : String) : Prop :=
  ∀ g : Graph, Validation.takesValueInput g n socket = true

/-- A log node whose message, and with it the names of its slots, is not known yet. -/
def Unlabeled (n : Node) : Prop :=
  n.op = .debugLog ∧ n.configuration.find? "message" = some none

theorem takes_congr {n n' : Node} (op : n'.op = n.op) (configuration : n'.configuration = n.configuration)
    {socket : String} (takes : n.Takes socket) : n'.Takes socket := by
  intro g
  rw [← takes g]
  simp only [Validation.takesValueInput, Validation.tokensOf, Validation.eventValueNames, config?, op,
    configuration]

theorem targets_addTarget (n : Node) (name other : String) (target : SocketAddress) :
    (n.addTarget name target).targets other =
      if other = name then
        if (n.targets name).contains target then n.targets name else n.targets name ++ [target]
      else n.targets other := by
  simp only [targets, addTarget, Dict.find?_update]
  by_cases same : other = name
  · subst same
    simp only [if_true, Option.getD_some]
    exact apply_ite FlowOutput.targets ..
  · simp [same]

theorem valueIn?_changeInput (n : Node) (name other : String) (f : ValueInput → ValueInput) :
    (n.changeInput name f).valueIn? other =
      if other = name then some (f ((n.valueIn? name).getD {})) else n.valueIn? other :=
  Dict.find?_update n.valuesIn name other _

theorem config?_configure (n : Node) (name other : String) (value : ConfigValue) :
    (n.configure name value).config? other = if other = name then some value else n.config? other := by
  simp only [config?, configure, Dict.find?_insert]
  split <;> rfl

end Node

namespace Graph

/-- Some value input of the node at `m` is fed by an output of the node at `n`. -/
def Reads (g : Graph) (m n : Nat) : Prop :=
  ∃ node socket input source, g.nodes[m]? = some node ∧ node.valueIn? socket = some input ∧
    input.source = some source ∧ source.node.isPlaceholder = false ∧ source.node.toNat = n

/-- Nodes outside of a set read nothing inside of it. -/
def Apart (g : Graph) (block : Nat → Prop) : Prop := ∀ m n, g.Reads m n → block n → block m

/-- An edge from the node at `m` to a source that closes no circle: the two are on different sides of a
set that nothing outside reads. -/
def Severed (g : Graph) (m : Nat) (source : SocketAddress) : Prop :=
  ∃ block, g.Apart block ∧ block m ∧ source.Among (¬ block ·)

/-- The node that receives the event of a method has a parameter without a value type at a socket. -/
def Stray (cls : ScriptClass) (g : Graph) (n : Node) (socket : String) : Prop :=
  n.op = .eventReceive ∧ ∃ id event method parameter,
    n.config? "event" = some (.int (.ofNat id)) ∧ g.events[id]? = some event ∧
      cls.method? event.name = some method ∧ parameter ∈ method.parameters ∧
      parameter.name = socket ∧ parameter.paramType.storageType? = none

/-- The operation of a node or the event that it receives has a value at a socket. -/
def Yields (g : Graph) (n : Node) (socket : String) : Prop :=
  n.op.schema.valuesOut.any (·.1 == socket) = true ∨ (n.op = .eventReceive ∧ ∃ id event,
    n.config? "event" = some (.int (.ofNat id)) ∧ g.events[id]? = some event ∧
      socket ∈ event.values.map (·.name))

/-- No two variables have the same name. -/
def NamesApart (g : Graph) : Prop :=
  ∀ ⦃i j : Nat⦄ ⦃v v' : Variable⦄, g.vars[i]? = some v → g.vars[j]? = some v' → v.name = v'.name → i = j

/-- The address of a placeholder or of a value output, or a parameter that no event carries. -/
def Offers (cls : ScriptClass) (g : Graph) (source : SocketAddress) : Prop :=
  source.node.isPlaceholder = true ∨ ∃ n, g.nodes[source.node.toNat]? = some n ∧
    (n.valuesOut.contains source.socket = true ∨ g.Stray cls n source.socket)

end Graph

namespace Context

/-- A context with one more node at the end of its graph. -/
def place (c : Context) (n : Node) : Context := { c with graph := c.graph.place n }

/-- A context with one node changed. -/
def modifyNode (c : Context) (id : NodeId) (f : Node → Node) : Context :=
  { c with graph := c.graph.modifyNode id f }

/-- What a node has to be like when it is placed. -/
structure Draft (cls : ScriptClass) (sources : Nat → Prop) (c : Context) (n : Node) : Prop where
  index : n.index = .ofNat c.graph.nodes.size
  small : c.graph.nodes.size < 0x100000000
  takes : ∀ socket input, n.valueIn? socket = some input → n.Takes socket
  single : ∀ socket input, n.valueIn? socket = some input → input.literal = none ∨ input.source = none
  offered : ∀ socket input source, n.valueIn? socket = some input → input.source = some source →
    c.graph.Offers cls source ∧ source.Among sources
  outputs : ∀ socket, n.valuesOut.contains socket = true → c.graph.Yields n socket
  declares : ∀ socket, n.op.schema.valuesOut.any (·.1 == socket) = true →
    n.valuesOut.contains socket = true
  flowsIn : ∀ socket, n.flowsIn.contains socket = true → Validation.takesFlowInput n socket = true
  flowsOut : ∀ socket, n.flowsOut.contains socket = true → Validation.hasFlowOutput n socket = true
  idle : ∀ socket, n.targets socket = []

/-- The tables grow at their ends, by variables with new names; a variable may get another initial value. -/
structure TablesGrow (c c' : Context) : Prop where
  vars : ∀ (i : Nat) (v : Variable), c.graph.vars[i]? = some v →
    ∃ v', c'.graph.vars[i]? = some v' ∧ v'.name = v.name ∧ v'.valueType = v.valueType
  events : ∀ (i : Nat) (e : CustomEvent), c.graph.events[i]? = some e → c'.graph.events[i]? = some e
  placeholders : ∀ (i : Nat) (p : Option Literal), c.placeholders[i]? = some p →
    c'.placeholders[i]? = some p
  apart : c.graph.NamesApart → c'.graph.NamesApart

/-- One legal step. Values come from `sources`, and only nodes from `base` on are given values. -/
inductive Step (cls : ScriptClass) (sources : Nat → Prop) (base : Nat) : Context → Context → Prop
  | place {c : Context} {n : Node} (draft : c.Draft cls sources n) :
      Step cls sources base c (c.place n)
  | feed {c : Context} {a : SocketAddress} {source : ValueOut} {n : Node}
      (recent : base ≤ a.node.toNat) (found : c.graph.nodes[a.node.toNat]? = some n)
      (takes : n.Takes a.socket ∨ n.Unlabeled)
      (unset : ∀ input, n.valueIn? a.socket = some input → input.literal = none)
      (offered : c.graph.Offers cls source.address) (among : source.address.Among sources)
      (severed : c.graph.Severed a.node.toNat source.address) :
      Step cls sources base c
        (c.modifyNode a.node (·.changeInput a.socket (·.fedBy source.address)))
  | put {c : Context} {a : SocketAddress} {value : Literal} {n : Node}
      (recent : base ≤ a.node.toNat) (found : c.graph.nodes[a.node.toNat]? = some n)
      (takes : n.Takes a.socket)
      (unfed : ∀ input, n.valueIn? a.socket = some input → input.source = none) :
      Step cls sources base c (c.modifyNode a.node (·.changeInput a.socket (·.holding value)))
  | label {c : Context} {id : NodeId} {name : String} {value : ConfigValue} {n : Node}
      (recent : base ≤ id.toNat) (found : c.graph.nodes[id.toNat]? = some n)
      (isLog : n.op = .debugLog) (unset : n.configuration.find? name = some none) :
      Step cls sources base c (c.modifyNode id (·.configure name value))
  | lead {c : Context} {start : FlowOut} {target : FlowIn} {n m : Node}
      (found : c.graph.nodes[start.address.node.toNat]? = some n)
      (declared : Validation.hasFlowOutput n start.address.socket = true)
      (free : n.targets start.address.socket = [])
      (entered : c.graph.nodes[target.address.node.toNat]? = some m)
      (admits : Validation.takesFlowInput m target.address.socket = true) :
      Step cls sources base c
        ((c.modifyNode start.address.node (·.addTarget start.address.socket target.address)).modifyNode
          target.address.node (·.addFlowIn target.address.socket))
  | book {c c' : Context} (same : c'.graph.nodes = c.graph.nodes) (tables : c.TablesGrow c')
      (announced : ∀ (i : Nat) (e : CustomEvent), c'.graph.events[i]? = some e →
        c.graph.events[i]? = some e ∨ cls.Announces e) :
      Step cls sources base c c'

/-- Any number of legal steps. -/
inductive Run (cls : ScriptClass) (sources : Nat → Prop) (base : Nat) (start : Context) :
    Context → Prop
  | refl : Run cls sources base start start
  | next {c c' : Context} : Run cls sources base start c → Step cls sources base c c' →
      Run cls sources base start c'

end Context

end ScriptGraph
