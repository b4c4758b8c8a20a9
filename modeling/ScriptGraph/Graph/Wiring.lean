import ScriptGraph.Graph.Basic

/-!
Terminals name sockets by their role; wiring joins them.

A terminal only names a socket. Wiring a socket of a node that does not exist does nothing, except that
a flow target is declared on its node even where the flow starts nowhere.
-/

namespace ScriptGraph

/-- One logical value input, which may stand for several sockets at once. -/
structure ValueIn where
  sockets : List SocketAddress
deriving DecidableEq

/-- A value output. -/
structure ValueOut where
  address : SocketAddress
deriving DecidableEq

/-- A flow input. -/
structure FlowIn where
  address : SocketAddress
deriving DecidableEq

/-- A flow output. -/
structure FlowOut where
  address : SocketAddress
deriving DecidableEq

namespace NodeId

/-- A value input of a node. -/
def valueIn (id : NodeId) (socket : String) : ValueIn := ⟨[⟨id, socket⟩]⟩

/-- A value output of a node. -/
def valueOut (id : NodeId) (socket : String) : ValueOut := ⟨⟨id, socket⟩⟩

/-- A flow input of a node. -/
def flowIn (id : NodeId) (socket : String) : FlowIn := ⟨⟨id, socket⟩⟩

/-- A flow output of a node. -/
def flowOut (id : NodeId) (socket : String) : FlowOut := ⟨⟨id, socket⟩⟩

end NodeId

namespace ValueIn

/-- Adds the sockets that are not there yet. -/
def addNew (known : List SocketAddress) : List SocketAddress → List SocketAddress
  | [] => known
  | address :: rest =>
    addNew (if known.contains address then known else known ++ [address]) rest

/-- One input that stands for all the sockets of several. -/
def link (inputs : List ValueIn) : ValueIn := ⟨addNew [] (inputs.flatMap (·.sockets))⟩

end ValueIn

namespace Graph

/-- Sets a parameter of a node. -/
def configure (g : Graph) (id : NodeId) (name : String) (value : ConfigValue) : Graph :=
  g.modifyNode id (·.configure name value)

/-- Changes every socket of a value input. -/
def changeInput (g : Graph) (target : ValueIn) (f : ValueInput → ValueInput) : Graph :=
  target.sockets.foldl (fun g a => g.modifyNode a.node (·.changeInput a.socket f)) g

/-- Feeds a value input from an output. -/
def connect (g : Graph) (target : ValueIn) (source : ValueOut) : Graph :=
  g.changeInput target fun input => { input with source := some source.address }

/-- Puts a constant on a value input. -/
def setLiteral (g : Graph) (target : ValueIn) (value : Literal) : Graph :=
  g.changeInput target fun input => { input with literal := some value }

/-- Restricts the types of a value input. -/
def restrict (g : Graph) (target : ValueIn) (restriction : TypeRestriction) : Graph :=
  g.changeInput target fun input => { input with restriction := some restriction }

/-- Declares the type of a value output. The type of a placeholder is that of its constant. -/
def expect (g : Graph) (output : ValueOut) (type : ExpectedType) : Graph :=
  if output.address.node.isPlaceholder then g
  else g.modifyNode output.address.node (·.expect output.address.socket type)

/-- Leads a flow output to a flow input. -/
def connectFlow (g : Graph) (start : FlowOut) (target : FlowIn) : Graph :=
  let g := g.modifyNode start.address.node (·.addTarget start.address.socket target.address)
  g.modifyNode target.address.node (·.addFlowIn target.address.socket)

end Graph

end ScriptGraph
