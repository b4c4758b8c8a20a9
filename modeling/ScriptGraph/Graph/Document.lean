import ScriptGraph.Graph.Basic
import ScriptGraph.Json.Decode

/-!
Graphs as documents: every record is written with all its fields, absent ones as `null`, and read
back from an object or from an array of its fields.
-/

namespace ScriptGraph

/-- A single as a document; what is not finite has none. -/
def Single.toJson (s : Single) : Json :=
  match s.value with
  | .finite .. => .number (s.render .document)
  | _ => .null

/-- A double as a document; what is not finite has none. -/
def Double.toJson (d : Double) : Json :=
  match d.value with
  | .finite .. => .number (d.render .wideDocument)
  | _ => .null

namespace Dict

/-- A dictionary as an object. -/
def toJson {α : Type} (write : α → Json) (d : Dict α) : Json :=
  .obj (d.entries.map fun (name, value) => (name, write value))

end Dict

/-- A set of names as an array. -/
def NameSet.toJson (s : NameSet) : Json := .ofList .str s.keys

namespace ValueType

/-- A type as its name. -/
def toJson (t : ValueType) : Json := .str t.name

/-- Reads a type by its name. -/
def ofJson? : Json.Reading ValueType := Json.readName ofName?

end ValueType

namespace Literal

/-- A constant tagged by its type. -/
def toJson (l : Literal) : Json :=
  .tagged l.valueType.title <| match l with
    | bool value => .bool value
    | int value => .int value.toInt
    | float value => value.toJson
    | vector => .ofList Single.toJson vector.components

/-- Reads as many singles as the type has components. -/
def readVector (type : ValueType) : Json.Reading Literal := fun budget j => do
  ofComponents? type (← Json.readList Json.readSingle budget j)

/-- Reads the constant behind a tag. -/
def readTag : String → Json.Reading Literal
  | "Bool" => fun budget j => (Json.readBool budget j).map bool
  | "Int" => fun budget j => (Json.readInt32 budget j).map int
  | "Float" => fun budget j => (Json.readSingle budget j).map float
  | "Float2" => readVector .float2
  | "Float3" => readVector .float3
  | "Float4" => readVector .float4
  | "Float4x4" => readVector .float4x4
  | _ => fun _ _ => none

/-- Reads a constant tagged by its type. -/
def ofJson? : Json.Reading Literal := Json.readTagged readTag

end Literal

namespace ConfigValue

/-- A parameter tagged by its kind. -/
def toJson : ConfigValue → Json
  | int value => .tagged "Int" (.int value.toInt)
  | intList values => .tagged "IntList" (.ofList (fun v => .int v.toInt) values)
  | bool value => .tagged "Bool" (.bool value)
  | float value => .tagged "Float" value.toJson
  | text value => .tagged "Text" (.str value)

/-- Reads the parameter behind a tag. -/
def readTag : String → Json.Reading ConfigValue
  | "Int" => fun budget j => (Json.readInt32 budget j).map int
  | "IntList" => fun budget j => (Json.readList Json.readInt32 budget j).map intList
  | "Bool" => fun budget j => (Json.readBool budget j).map bool
  | "Float" => fun budget j => (Json.readSingle budget j).map float
  | "Text" => fun budget j => (Json.readText budget j).map text
  | _ => fun _ _ => none

/-- Reads a parameter tagged by its kind. -/
def ofJson? : Json.Reading ConfigValue := Json.readTagged readTag

end ConfigValue

namespace ExpectedType

/-- A declared output type. -/
def toJson : ExpectedType → Json
  | exact type => .tagged "Exact" type.toJson
  | fromInput input => .tagged "FromInput" (.str input)

/-- Reads a declared output type. -/
def ofJson? : Json.Reading ExpectedType := Json.readTagged fun
  | "Exact" => fun budget j => (ValueType.ofJson? budget j).map exact
  | "FromInput" => fun budget j => (Json.readText budget j).map fromInput
  | _ => fun _ _ => none

end ExpectedType

namespace TypeRestriction

/-- The types an input takes. -/
def toJson : TypeRestriction → Json
  | only type => .tagged "Only" type.toJson
  | oneOf types => .tagged "OneOf" (.ofList ValueType.toJson types)
  | sameAsInput input => .tagged "SameAsInput" (.str input)

/-- Reads the types an input takes. -/
def ofJson? : Json.Reading TypeRestriction := Json.readTagged fun
  | "Only" => fun budget j => (ValueType.ofJson? budget j).map only
  | "OneOf" => fun budget j => (Json.readList ValueType.ofJson? budget j).map oneOf
  | "SameAsInput" => fun budget j => (Json.readText budget j).map sameAsInput
  | _ => fun _ _ => none

end TypeRestriction

namespace NodeId

/-- An identity as its number. -/
def toJson (id : NodeId) : Json := .nat id.toNat

/-- Reads an identity. -/
def ofJson? : Json.Reading NodeId := fun budget j => (Json.readUInt32 budget j).map NodeId.mk

end NodeId

namespace SocketAddress

/-- An address as a record. -/
def toJson (a : SocketAddress) : Json :=
  .obj [("node", a.node.toJson), ("socket", .str a.socket)]

/-- Reads an address. -/
def ofJson? : Json.Reading SocketAddress := fun budget j => do
  let r ← Json.Record.ofJson? ["node", "socket"] budget j
  return { node := ← r.required "node" NodeId.ofJson?
           socket := ← r.required "socket" Json.readText }

end SocketAddress

namespace ValueInput

/-- A value input as a record. -/
def toJson (i : ValueInput) : Json :=
  .obj [("literal", .ofOption Literal.toJson i.literal),
    ("source", .ofOption SocketAddress.toJson i.source),
    ("restriction", .ofOption TypeRestriction.toJson i.restriction)]

/-- Reads a value input. -/
def ofJson? : Json.Reading ValueInput := fun budget j => do
  let r ← Json.Record.ofJson? ["literal", "source", "restriction"] budget j
  return { literal := ← r.optional "literal" Literal.ofJson?
           source := ← r.optional "source" SocketAddress.ofJson?
           restriction := ← r.optional "restriction" TypeRestriction.ofJson? }

end ValueInput

namespace ValueOutput

/-- A value output as a record. -/
def toJson (o : ValueOutput) : Json :=
  .obj [("expected", .ofOption ExpectedType.toJson o.expected)]

/-- Reads a value output. -/
def ofJson? : Json.Reading ValueOutput := fun budget j => do
  let r ← Json.Record.ofJson? ["expected"] budget j
  return { expected := ← r.optional "expected" ExpectedType.ofJson? }

end ValueOutput

namespace FlowOutput

/-- A flow output as a record. -/
def toJson (o : FlowOutput) : Json :=
  .obj [("targets", .ofList SocketAddress.toJson o.targets)]

/-- Reads a flow output. -/
def ofJson? : Json.Reading FlowOutput := fun budget j => do
  let r ← Json.Record.ofJson? ["targets"] budget j
  return { targets := ← r.required "targets" (Json.readList SocketAddress.ofJson?) }

end FlowOutput

namespace Op

/-- An operation as its identifier. -/
def toJson (op : Op) : Json := .str op.name

/-- Reads an operation by its identifier. -/
def ofJson? : Json.Reading Op := Json.readName ofName?

end Op

namespace Node

/-- A node as a record. -/
def toJson (n : Node) : Json :=
  .obj [("index", n.index.toJson), ("op", n.op.toJson),
    ("configuration", n.configuration.toJson (Json.ofOption ConfigValue.toJson)),
    ("values_in", n.valuesIn.toJson ValueInput.toJson),
    ("values_out", n.valuesOut.toJson ValueOutput.toJson),
    ("flows_in", n.flowsIn.toJson),
    ("flows_out", n.flowsOut.toJson FlowOutput.toJson)]

/-- Reads a node. -/
def ofJson? : Json.Reading Node := fun budget j => do
  let r ← Json.Record.ofJson?
    ["index", "op", "configuration", "values_in", "values_out", "flows_in", "flows_out"] budget j
  return {
    index := ← r.required "index" NodeId.ofJson?
    op := ← r.required "op" Op.ofJson?
    configuration :=
      ← r.required "configuration" (Json.readDict (Json.readNullable ConfigValue.ofJson?))
    valuesIn := ← r.required "values_in" (Json.readDict ValueInput.ofJson?)
    valuesOut := ← r.required "values_out" (Json.readDict ValueOutput.ofJson?)
    flowsIn := ← r.required "flows_in" Json.readNameSet
    flowsOut := ← r.required "flows_out" (Json.readDict FlowOutput.ofJson?) }

end Node

namespace Variable

/-- A variable as a record. -/
def toJson (v : Variable) : Json :=
  .obj [("name", .str v.name), ("value_type", v.valueType.toJson),
    ("initial", .ofOption Literal.toJson v.initial)]

/-- Reads a variable. -/
def ofJson? : Json.Reading Variable := fun budget j => do
  let r ← Json.Record.ofJson? ["name", "value_type", "initial"] budget j
  return { name := ← r.required "name" Json.readText
           valueType := ← r.required "value_type" ValueType.ofJson?
           initial := ← r.optional "initial" Literal.ofJson? }

end Variable

namespace EventValue

/-- A value of an event as a record. -/
def toJson (v : EventValue) : Json :=
  .obj [("name", .str v.name), ("value_type", v.valueType.toJson)]

/-- Reads a value of an event. -/
def ofJson? : Json.Reading EventValue := fun budget j => do
  let r ← Json.Record.ofJson? ["name", "value_type"] budget j
  return { name := ← r.required "name" Json.readText
           valueType := ← r.required "value_type" ValueType.ofJson? }

end EventValue

namespace CustomEvent

/-- An event as a record. -/
def toJson (e : CustomEvent) : Json :=
  .obj [("name", .str e.name), ("values", .ofList EventValue.toJson e.values)]

/-- Reads an event. -/
def ofJson? : Json.Reading CustomEvent := fun budget j => do
  let r ← Json.Record.ofJson? ["name", "values"] budget j
  return { name := ← r.required "name" Json.readText
           values := ← r.required "values" (Json.readList EventValue.ofJson?) }

end CustomEvent

namespace Graph

/-- A graph as a record. -/
def toJson (g : Graph) : Json :=
  .obj [("nodes", .ofList Node.toJson g.nodes.toList),
    ("variables", .ofList Variable.toJson g.vars.toList),
    ("events", .ofList CustomEvent.toJson g.events.toList)]

/-- Reads a graph. -/
def ofJson? : Json.Reading Graph := fun budget j => do
  let r ← Json.Record.ofJson? ["nodes", "variables", "events"] budget j
  return { nodes := (← r.required "nodes" (Json.readList Node.ofJson?)).toArray
           vars := (← r.required "variables" (Json.readList Variable.ofJson?)).toArray
           events := (← r.required "events" (Json.readList CustomEvent.ofJson?)).toArray }

end Graph

end ScriptGraph
