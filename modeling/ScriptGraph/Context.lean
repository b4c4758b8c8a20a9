import ScriptGraph.Diagnostic
import ScriptGraph.Graph.Wiring
import ScriptGraph.Options
import ScriptGraph.Targets

/-!
A graph under construction.

Nodes get their identities in the order of creation, variables and events are known by name, and a
constant stands behind a placeholder until `resolveLiterals` puts it on the sockets it feeds.
-/

namespace ScriptGraph

/-- A graph under construction, with what its builders share. -/
structure Context where
  graph : Graph := {}
  /-- The constants behind the placeholders, by number; some are not known. -/
  placeholders : Array (Option Literal) := #[]
  /-- How many names were made from each stem. -/
  counters : Dict Nat := Dict.empty
  targets : Targets := {}
  options : Options := {}
  diagnostics : Diagnostics := {}

/-- A step of construction. -/
abbrev Build := StateM Context

namespace Context

instance : Inhabited Context := ⟨{}⟩

/-- The constant behind a placeholder, if the output is one and its constant is known. -/
def placeholderValue? (c : Context) (output : ValueOut) : Option Literal :=
  let id := output.address.node
  if id.isPlaceholder then (c.placeholders[id.toNat - NodeId.placeholderBase]?).join else none

/-- The identity of a variable. -/
def variableId? (c : Context) (name : String) : Option Nat :=
  c.graph.vars.findIdx? (·.name == name)

/-- The identity of an event. -/
def eventId? (c : Context) (name : String) : Option Nat :=
  c.graph.events.findIdx? (·.name == name)

/-- The input as it is after its placeholder is replaced, if it is fed by one. An unknown constant
leaves the input without a source. -/
def resolveInput (c : Context) (input : ValueInput) : ValueInput :=
  match input.source with
  | none => input
  | some source =>
    if source.node.isPlaceholder then
      { input with
        literal := (c.placeholderValue? ⟨source⟩).or input.literal
        source := none }
    else input

/-- Whether an input is fed by a placeholder. -/
def awaitsLiteral (input : ValueInput) : Bool := input.source.any (·.node.isPlaceholder)

/-- The number of inputs of a node that are fed by a placeholder. -/
def awaiting (n : Node) : Nat := n.valuesIn.entries.countP fun e => awaitsLiteral e.2

end Context

namespace Build

/-- Changes the graph. -/
def modifyGraph (f : Graph → Graph) : Build Unit :=
  modify fun c => { c with graph := f c.graph }

/-- Makes a node; its identity is the number of nodes before it. -/
def createNode (op : Op) : Build NodeId :=
  modifyGet fun c =>
    let id := NodeId.ofNat c.graph.nodes.size
    (id, { c with graph := { c.graph with nodes := c.graph.nodes.push (.new id op) } })

/-- Makes a placeholder. -/
def createPlaceholder (value : Option Literal) : Build ValueOut :=
  modifyGet fun c =>
    ((NodeId.placeholder c.placeholders.size).valueOut "value",
      { c with placeholders := c.placeholders.push value })

/-- An output that stands for a constant. -/
def createLiteral (value : Literal) : Build ValueOut := createPlaceholder (some value)

/-- An output that stands for a constant that could not be found; what it feeds stays unfed. -/
def createUnknownLiteral : Build ValueOut := createPlaceholder none

/-- Sets a parameter of a node. -/
def configure (id : NodeId) (name : String) (value : ConfigValue) : Build Unit :=
  modifyGraph (·.configure id name value)

/-- Feeds a value input from an output. -/
def connect (target : ValueIn) (source : ValueOut) : Build Unit :=
  modifyGraph (·.connect target source)

/-- Puts a constant on a value input. -/
def setLiteral (target : ValueIn) (value : Literal) : Build Unit :=
  modifyGraph (·.setLiteral target value)

/-- Restricts the types of a value input. -/
def restrict (target : ValueIn) (restriction : TypeRestriction) : Build Unit :=
  modifyGraph (·.restrict target restriction)

/-- Declares the type of a value output. -/
def expect (output : ValueOut) (type : ExpectedType) : Build Unit :=
  modifyGraph (·.expect output type)

/-- Leads a flow output to a flow input. -/
def connectFlow (start : FlowOut) (target : FlowIn) : Build Unit :=
  modifyGraph (·.connectFlow start target)

/-- The variable of a name, declared now if it is not. A first declaration stays as it is. -/
def declareVariable (name : String) (initial : Option Literal) (valueType : ValueType) :
    Build Nat :=
  modifyGet fun c =>
    match c.variableId? name with
    | some id => (id, c)
    | none =>
      (c.graph.vars.size,
        { c with graph :=
            { c.graph with vars := c.graph.vars.push { name, valueType, initial } } })

/-- Replaces the initial value of a variable. -/
def setInitial (id : Nat) (initial : Option Literal) : Build Unit :=
  modifyGraph fun g => { g with vars := g.vars.modify id ({ · with initial }) }

/-- The event of a name, declared now if it is not. A first declaration stays as it is. -/
def declareEvent (name : String) (values : List EventValue) : Build Nat :=
  modifyGet fun c =>
    match c.eventId? name with
    | some id => (id, c)
    | none =>
      (c.graph.events.size,
        { c with graph := { c.graph with events := c.graph.events.push { name, values } } })

/-- A new name: the stem and a number that counts the names made from it. -/
def uniqueName (stem : String) : Build String :=
  modifyGet fun c =>
    let number := (c.counters.find? stem).getD 0
    (stem ++ "_" ++ toString number, { c with counters := c.counters.insert stem (number + 1) })

/-- The target number of an object. -/
def targetOf? (object : ObjectRef) : Build (Option UInt32) := return (← get).targets.find? object

/-- Notes something that is not lowered. -/
def report (kind : DiagnosticKind) (message : String) : Build Unit :=
  modify fun c => { c with diagnostics := c.diagnostics.push kind message }

/-- Notes a shape that is not lowered. -/
def unsupported (message : String) : Build Unit := report .unsupported message

/-- Notes something that was not found. -/
def unresolved (message : String) : Build Unit := report .unresolved message

/-- Notes a record without a part it needs. -/
def malformed (message : String) : Build Unit := report .malformed message

/-- Names the method that further diagnostics belong to. -/
def setMethod (name : String) : Build Unit :=
  modify fun c => { c with diagnostics := { c.diagnostics with method := name } }

/-- Puts every constant on the sockets its placeholder feeds and forgets the placeholders. Returns
the number of those sockets. -/
def resolveLiterals : Build Nat :=
  modifyGet fun c =>
    let count := c.graph.nodes.toList.foldl (fun total n => total + Context.awaiting n) 0
    let nodes := c.graph.nodes.map fun n => { n with valuesIn := n.valuesIn.map c.resolveInput }
    (count, { c with graph := { c.graph with nodes }, placeholders := #[] })

end Build

end ScriptGraph
