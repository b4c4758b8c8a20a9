import ScriptGraph.Dict
import ScriptGraph.Graph.Literal
import ScriptGraph.Graph.Op

/-!
Nodes, their sockets, and the addresses that connect them.
-/

namespace ScriptGraph

/-- The identity of a node. Identities from `placeholderBase` on belong to placeholders of
constants and never name a node of a graph. -/
structure NodeId where
  val : UInt32
deriving DecidableEq, Inhabited

namespace NodeId

/-- The first identity of a placeholder. -/
def placeholderBase : Nat := 0x40000000

/-- The identity with the given number. -/
def ofNat (n : Nat) : NodeId := ⟨UInt32.ofNat n⟩

/-- The number of an identity. -/
def toNat (id : NodeId) : Nat := id.val.toNat

/-- The identity of a placeholder. -/
def placeholder (n : Nat) : NodeId := ofNat (placeholderBase + n)

/-- Whether the identity belongs to a placeholder. -/
def isPlaceholder (id : NodeId) : Bool := placeholderBase ≤ id.toNat

/-- At least four digits, or `lit` and the number of the placeholder. -/
def render (id : NodeId) : String :=
  if id.isPlaceholder then "#lit" ++ toString (id.toNat - placeholderBase)
  else
    let digits := toString id.toNat
    "#" ++ String.ofList (List.replicate (4 - digits.length) '0') ++ digits

end NodeId

/-- A named socket of a node. -/
structure SocketAddress where
  node : NodeId
  socket : String
deriving DecidableEq, Inhabited

/-- The node and the socket with a dot between them. -/
def SocketAddress.render (a : SocketAddress) : String := a.node.render ++ "." ++ a.socket

/-- The declared type of a value output. -/
inductive ExpectedType where
  | exact (type : ValueType)
  /-- The type of a value input of the same node. -/
  | fromInput (input : String)
deriving DecidableEq

/-- The types a value input takes. -/
inductive TypeRestriction where
  | only (type : ValueType)
  | oneOf (types : List ValueType)
  /-- The type of another value input of the same node. -/
  | sameAsInput (input : String)
deriving DecidableEq

/-- A value input. In a sound graph it has either a literal or a source. -/
structure ValueInput where
  literal : Option Literal := none
  source : Option SocketAddress := none
  restriction : Option TypeRestriction := none
deriving DecidableEq

namespace ValueInput

/-- Neither a literal nor a source. -/
def isDangling (i : ValueInput) : Bool := i.literal.isNone && i.source.isNone

/-- Both a literal and a source. -/
def isConflicting (i : ValueInput) : Bool := i.literal.isSome && i.source.isSome

end ValueInput

/-- A value output; it may feed any number of inputs. -/
structure ValueOutput where
  expected : Option ExpectedType := none
deriving DecidableEq

/-- A flow output. In a sound graph it has at most one target. -/
structure FlowOutput where
  targets : List SocketAddress := []
deriving DecidableEq

/-- The target that counts. -/
def FlowOutput.target? (o : FlowOutput) : Option SocketAddress := o.targets.head?

/-- One operation of a graph. -/
structure Node where
  index : NodeId
  op : Op
  configuration : Dict (Option ConfigValue)
  valuesIn : Dict ValueInput
  valuesOut : Dict ValueOutput
  flowsIn : NameSet
  flowsOut : Dict FlowOutput
deriving DecidableEq

/-- The declared type with which an output starts. -/
def OutputType.expected : OutputType → Option ExpectedType
  | .exact type => some (.exact type)
  | .sameAsInput input => some (.fromInput input)
  | .assigned => none

namespace Node

/-- A node with all the sockets and parameters that its operation declares. -/
def new (index : NodeId) (op : Op) : Node :=
  let schema := op.schema
  { index, op
    configuration := .ofList (schema.config.map fun name => (name, none))
    valuesIn := .ofList (schema.valuesIn.map fun name => (name, {}))
    valuesOut := .ofList (schema.valuesOut.map fun (name, type) => (name, ⟨type.expected⟩))
    flowsIn := .ofNames schema.flowsIn
    flowsOut := .ofList (schema.flowsOut.map fun name => (name, {})) }

/-- The value of a parameter. -/
def config? (n : Node) (name : String) : Option ConfigValue := (n.configuration.find? name).join

/-- A value input. -/
def valueIn? (n : Node) (name : String) : Option ValueInput := n.valuesIn.find? name

/-- The target of a flow output. -/
def flowTarget? (n : Node) (name : String) : Option SocketAddress :=
  (n.flowsOut.find? name).bind (·.target?)

/-- Sets a parameter. -/
def configure (n : Node) (name : String) (value : ConfigValue) : Node :=
  { n with configuration := n.configuration.insert name (some value) }

/-- Changes a value input, making it where it does not exist. -/
def changeInput (n : Node) (name : String) (f : ValueInput → ValueInput) : Node :=
  { n with valuesIn := n.valuesIn.update name fun old => f (old.getD {}) }

/-- Declares the type of a value output, making it where it does not exist. -/
def expect (n : Node) (name : String) (type : ExpectedType) : Node :=
  { n with valuesOut := n.valuesOut.insert name ⟨some type⟩ }

/-- Adds a target to a flow output unless it is there already. -/
def addTarget (n : Node) (name : String) (target : SocketAddress) : Node :=
  { n with flowsOut := n.flowsOut.update name fun old =>
      let output := old.getD {}
      if output.targets.contains target then output
      else ⟨output.targets ++ [target]⟩ }

/-- Declares a flow input. -/
def addFlowIn (n : Node) (name : String) : Node :=
  { n with flowsIn := n.flowsIn.add name }

end Node

end ScriptGraph
