import ScriptGraph.Graph.Node

/-!
Graphs: nodes in ascending order of identity, and the tables of variables and events.
-/

namespace ScriptGraph

/-- A typed storage cell. Its place in the table is its identity. -/
structure Variable where
  name : String
  valueType : ValueType
  initial : Option Literal
deriving DecidableEq

/-- One value that an event carries. -/
structure EventValue where
  name : String
  valueType : ValueType
deriving DecidableEq

/-- A named signal with the values it carries. -/
structure CustomEvent where
  name : String
  values : List EventValue
deriving DecidableEq

/-- A behaviour graph. -/
structure Graph where
  nodes : Array Node := #[]
  vars : Array Variable := #[]
  events : Array CustomEvent := #[]
deriving DecidableEq

namespace Graph

instance : Inhabited Graph := ⟨{}⟩

/-- Where a node stands. -/
def position? (g : Graph) (id : NodeId) : Option Nat := g.nodes.findIdx? (·.index == id)

/-- The node with a given identity. -/
def node? (g : Graph) (id : NodeId) : Option Node := (g.position? id).bind (g.nodes[·]?)

/-- Changes a node; where it does not exist nothing happens. -/
def modifyNode (g : Graph) (id : NodeId) (f : Node → Node) : Graph :=
  match g.position? id with
  | some position => { g with nodes := g.nodes.modify position f }
  | none => g

/-- The nodes with a given operation. -/
def nodesWithOp (g : Graph) (op : Op) : List Node := g.nodes.toList.filter (·.op = op)

/-- The first variable of a name, with its identity. -/
def variableByName? (g : Graph) (name : String) : Option (Nat × Variable) := do
  let id ← g.vars.findIdx? (·.name == name)
  return (id, ← g.vars[id]?)

/-- The node that a flow output leads to. -/
def flowSuccessor? (g : Graph) (from' : SocketAddress) : Option Node := do
  let target ← (← g.node? from'.node).flowTarget? from'.socket
  g.node? target.node

/-- The node that feeds a value input. -/
def valueSource? (g : Graph) (input : SocketAddress) : Option Node := do
  let source ← (← (← g.node? input.node).valueIn? input.socket).source
  g.node? source.node

end Graph

end ScriptGraph
