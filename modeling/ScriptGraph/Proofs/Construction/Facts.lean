import ScriptGraph.Proofs.Construction.Evolution

/-!
What is known of a context in construction.

A builder works with terminals: outputs that may feed inputs, inputs that still may be fed, flows that
lead nowhere yet. `Known` says that a context was made from an earlier one by legal steps and that its
terminals are what they are taken for. Identities are numbers of 32 bits; as long as their ranges are not
used up (`InRange`) a new identity is a new node, and a builder that leaves the range has nothing to
show.
-/

namespace ScriptGraph

namespace Node

/-- A value input that no constant stands on. -/
def IsUnset (socket : String) (n : Node) : Prop :=
  n.Takes socket ∧ ∀ input, n.valueIn? socket = some input → input.literal = none

/-- A value input without a constant and without a source. -/
def IsBlank (socket : String) (n : Node) : Prop :=
  n.Takes socket ∧ ∀ input, n.valueIn? socket = some input → input.literal = none ∧ input.source = none

/-- A flow output that leads nowhere. -/
def IsFree (socket : String) (n : Node) : Prop :=
  Validation.hasFlowOutput n socket = true ∧ n.targets socket = []

/-- A flow input. -/
def Admits (socket : String) (n : Node) : Prop := Validation.takesFlowInput n socket = true

/-- Only the given parameters are not set. -/
def Lacks (n : Node) (names : List String) : Prop :=
  ∀ name, n.configuration.find? name = some none → name ∈ names

/-- All parameters are set, one of them to a given value, and none will change. -/
def IsSet (name : String) (value : ConfigValue) (n : Node) : Prop :=
  n.op ≠ .debugLog ∧ n.Lacks [] ∧ n.config? name = some value

end Node

namespace Graph

/-- There is a node with a property at a place. -/
def At (g : Graph) (i : Nat) (property : Node → Prop) : Prop := ∃ n, g.nodes[i]? = some n ∧ property n

/-- Every source is offered. -/
def Supplied (cls : ScriptClass) (g : Graph) : Prop :=
  ∀ (m : Nat) (node : Node) (socket : String) (input : ValueInput) (source : SocketAddress),
    g.nodes[m]? = some node → node.valueIn? socket = some input → input.source = some source →
      g.Offers cls source

/-- Every node has the value outputs that its operation declares. -/
def Declared (g : Graph) : Prop :=
  ∀ (i : Nat) (n : Node) (socket : String), g.nodes[i]? = some n →
    n.op.schema.valuesOut.any (·.1 == socket) = true → n.valuesOut.contains socket = true

/-- Every event is that of a method. -/
def Announced (cls : ScriptClass) (g : Graph) : Prop :=
  ∀ (i : Nat) (e : CustomEvent), g.events[i]? = some e → cls.Announces e

/-- Every node has only value outputs that its operation or its event declares. -/
def Exact (g : Graph) : Prop :=
  ∀ (i : Nat) (n : Node) (socket : String), g.nodes[i]? = some n →
    n.valuesOut.contains socket = true → g.Yields n socket

/-- What a node lacks until its builder is done with it: parameters, types of its outputs, rows of the
tables, ports of its cases, slots of its message. -/
structure Finished (g : Graph) (n : Node) : Prop where
  configured : ∀ name, n.configuration.find? name ≠ some none
  typed : n.index.isPlaceholder = false → ∀ socket output, n.valuesOut.find? socket = some output →
    output.expected ≠ none
  variableRow : n.op = .variableGet ∨ n.op = .variableSet →
    ∃ id, n.config? "variable" = some (.int (.ofNat id)) ∧ id < g.vars.size
  eventRow : n.op = .eventReceive → ∃ id, n.config? "event" = some (.int (.ofNat id)) ∧ id < g.events.size
  notSent : n.op ≠ .eventSend
  cases : n.op = .flowSwitch ∨ n.op = .mathSwitch → Validation.cases n = []
  message : n.op = .debugLog → ∀ socket, n.valuesIn.contains socket = true → n.Takes socket

/-- Feeding the given sockets from a source closes no circle. -/
def Clears (g : Graph) (sockets : List SocketAddress) (source : SocketAddress) : Prop :=
  ∃ block, g.Apart block ∧ (∀ a ∈ sockets, block a.node.toNat) ∧ source.Among (¬ block ·)

end Graph

/-- A fact about a context in construction. -/
inductive Fact where
  /-- An output that may feed inputs. -/
  | out (v : ValueOut)
  /-- An output that was there before the scope began. -/
  | arg (v : ValueOut)
  /-- An input of a new node, without a constant. -/
  | input (a : SocketAddress)
  /-- An input of a new node, without a constant and without a source. -/
  | blank (a : SocketAddress)
  | entry (t : FlowIn)
  /-- A declared variable. -/
  | row (id : Nat)
  | node (id : NodeId) (op : Op)
  /-- A flow output that its node has, whether it leads somewhere or not. -/
  | port (f : FlowOut)
  /-- A node with all of its parameters. -/
  | parameter (id : NodeId) (name : String) (value : ConfigValue)
deriving DecidableEq

/-- Where and since when a builder works. -/
structure Scope where
  cls : ScriptClass
  /-- The nodes whose outputs it may use. -/
  sources : Nat → Prop
  /-- The context in which it began. -/
  start : Context
  /-- New nodes that are not finished yet. -/
  pending : List NodeId
  /-- Flows that lead nowhere yet and that only their owner may lead on. -/
  kept : FlowOut → Prop

namespace Context

/-- No identity is used twice: nodes and placeholders keep to the numbers of 32 bits. -/
def InRange (c : Context) : Prop :=
  c.graph.nodes.size ≤ 0x100000000 ∧ NodeId.placeholderBase + c.placeholders.size ≤ 0x100000000

/-- Nodes stand at their places and are fed from outputs. -/
structure Wired (cls : ScriptClass) (c : Context) : Prop where
  identified : c.graph.Identified
  supplied : c.graph.Supplied cls
  declared : c.graph.Declared
  exact : c.graph.Exact
  announced : c.graph.Announced cls

end Context

/-- What a fact says. -/
def Fact.Holds (w : Scope) (c : Context) : Fact → Prop
  | out v => c.graph.Offers w.cls v.address ∧ v.address.Among w.sources
  | arg v => (c.graph.Offers w.cls v.address ∧ v.address.Among w.sources) ∧
      v.address.Among (· < w.start.graph.nodes.size)
  | input a => w.start.graph.nodes.size ≤ a.node.toNat ∧ c.graph.At a.node.toNat (·.IsUnset a.socket)
  | blank a => w.start.graph.nodes.size ≤ a.node.toNat ∧ c.graph.At a.node.toNat (·.IsBlank a.socket)
  | entry t => c.graph.At t.address.node.toNat (·.Admits t.address.socket)
  | row id => id < c.graph.vars.size
  | node id op => c.graph.At id.toNat (·.op = op)
  | port f => c.graph.At f.address.node.toNat (·.flowsOut.contains f.address.socket = true)
  | parameter id name value => c.graph.At id.toNat (·.IsSet name value)

/-- The context was made from the start of the scope by legal steps, the facts hold, and the exits lead
nowhere yet, each of them listed once. -/
structure Scope.Sound (w : Scope) (facts : List Fact) (exits : List FlowOut) (c : Context) : Prop where
  wired : w.start.Wired w.cls
  run : Context.Run w.cls w.sources w.start.graph.nodes.size w.start c
  fresh : ∀ i, w.start.graph.nodes.size ≤ i → w.sources i
  finished : ∀ (i : Nat) (n : Node), w.start.graph.nodes.size ≤ i → c.graph.nodes[i]? = some n →
    n.index ∉ w.pending → c.graph.Finished n
  holds : ∀ f ∈ facts, f.Holds w c
  free : ∀ f ∈ exits, c.graph.At f.address.node.toNat (·.IsFree f.address.socket)
  nodup : exits.Nodup
  keeps : ∀ f, w.kept f → f ∉ exits ∧ c.graph.At f.address.node.toNat (·.IsFree f.address.socket)

/-- What is known of a context in a scope: it did not get smaller, and in range the facts hold. -/
structure Known (w : Scope) (facts : List Fact) (exits : List FlowOut) (c : Context) : Prop where
  nodes_le : w.start.graph.nodes.size ≤ c.graph.nodes.size
  placeholders_le : w.start.placeholders.size ≤ c.placeholders.size
  sound : c.InRange → w.Sound facts exits c

theorem Known.inRange {w : Scope} {facts : List Fact} {exits : List FlowOut} {c : Context}
    (known : Known w facts exits c) (inRange : c.InRange) : w.start.InRange :=
  ⟨Nat.le_trans known.nodes_le inRange.1,
    Nat.le_trans (Nat.add_le_add_left known.placeholders_le _) inRange.2⟩

end ScriptGraph
