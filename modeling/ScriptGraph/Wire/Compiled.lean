import ScriptGraph.Compiled
import ScriptGraph.Wire.Codec

/-!
The binary form of compiled graphs: fields in order of declaration, constructors by their place.
-/

namespace ScriptGraph.Wire

open Codec

/-- A single, bit for bit. -/
def single : Codec Single := bits.iso Single.bits Single.mk

/-- A dictionary as the list of its entries; of a repeated key the last counts. -/
def dict {α : Type} (codec : Codec α) : Codec (Dict α) :=
  (list (text.pair codec)).iso Dict.entries Dict.ofList

/-- A set of names as their list. -/
def nameSet : Codec NameSet := (list text).iso Dict.keys NameSet.ofNames

/-- A value type as its place. -/
def valueType : Codec ValueType := ofAll ValueType.all

/-- An operation as its place. -/
def op : Codec Op := ofAll Op.all

/-- A kind of finding as its place. -/
def findingKind : Codec FindingKind := ofAll FindingKind.all

/-- An identity as its number. -/
def nodeId : Codec NodeId := word.iso NodeId.val NodeId.mk

/-- The components of a constant of a float type. -/
def components (type : ValueType) : Codec Literal :=
  (exactly type.componentCount single).via Literal.components (Literal.ofComponents? type)

/-- A constant behind the place of its type. -/
def literal : Codec Literal where
  write l := valueType.write l.valueType ++ match l with
    | .bool value => bool.write value
    | .int value => int.write value
    | vector => (components vector.valueType).write vector
  read bytes := do
    let (type, bytes) ← valueType.read bytes
    match type with
    | .bool => (bool.iso (fun _ => false) Literal.bool).read bytes
    | .int => (int.iso (fun _ => 0) Literal.int).read bytes
    | type => (components type).read bytes

/-- A parameter behind the place of its kind. -/
def configValue : Codec ConfigValue where
  write
    | .int value => index.write 0 ++ int.write value
    | .intList values => index.write 1 ++ (list int).write values
    | .bool value => index.write 2 ++ bool.write value
    | .float value => index.write 3 ++ single.write value
    | .text value => index.write 4 ++ text.write value
  read bytes := do
    let (tag, bytes) ← index.read bytes
    match tag with
    | 0 => (int.read bytes).map fun (v, rest) => (.int v, rest)
    | 1 => ((list int).read bytes).map fun (v, rest) => (.intList v, rest)
    | 2 => (bool.read bytes).map fun (v, rest) => (.bool v, rest)
    | 3 => (single.read bytes).map fun (v, rest) => (.float v, rest)
    | 4 => (text.read bytes).map fun (v, rest) => (.text v, rest)
    | _ => none

/-- A declared output type. -/
def expectedType : Codec ExpectedType where
  write
    | .exact type => index.write 0 ++ valueType.write type
    | .fromInput input => index.write 1 ++ text.write input
  read bytes := do
    let (tag, bytes) ← index.read bytes
    match tag with
    | 0 => (valueType.read bytes).map fun (v, rest) => (.exact v, rest)
    | 1 => (text.read bytes).map fun (v, rest) => (.fromInput v, rest)
    | _ => none

/-- The types an input takes. -/
def restriction : Codec TypeRestriction where
  write
    | .only type => index.write 0 ++ valueType.write type
    | .oneOf types => index.write 1 ++ (list valueType).write types
    | .sameAsInput input => index.write 2 ++ text.write input
  read bytes := do
    let (tag, bytes) ← index.read bytes
    match tag with
    | 0 => (valueType.read bytes).map fun (v, rest) => (.only v, rest)
    | 1 => ((list valueType).read bytes).map fun (v, rest) => (.oneOf v, rest)
    | 2 => (text.read bytes).map fun (v, rest) => (.sameAsInput v, rest)
    | _ => none

/-- An address. -/
def address : Codec SocketAddress :=
  (nodeId.pair text).iso (fun a => (a.node, a.socket)) fun (node, socket) => { node, socket }

/-- A value input. -/
def valueInput : Codec ValueInput :=
  ((option literal).pair ((option address).pair (option restriction))).iso
    (fun i => (i.literal, i.source, i.restriction))
    fun (literal, source, restriction) => { literal, source, restriction }

/-- A value output. -/
def valueOutput : Codec ValueOutput :=
  (option expectedType).iso ValueOutput.expected ValueOutput.mk

/-- A flow output. -/
def flowOutput : Codec FlowOutput := (list address).iso FlowOutput.targets FlowOutput.mk

/-- A node. -/
def node : Codec Node :=
  (nodeId.pair (op.pair ((dict (option configValue)).pair ((dict valueInput).pair
    ((dict valueOutput).pair (nameSet.pair (dict flowOutput))))))).iso
    (fun n => (n.index, n.op, n.configuration, n.valuesIn, n.valuesOut, n.flowsIn, n.flowsOut))
    fun (index, op, configuration, valuesIn, valuesOut, flowsIn, flowsOut) =>
      { index, op, configuration, valuesIn, valuesOut, flowsIn, flowsOut }

/-- A variable. -/
def variableRecord : Codec Variable :=
  (text.pair (valueType.pair (option literal))).iso
    (fun v => (v.name, v.valueType, v.initial))
    fun (name, valueType, initial) => { name, valueType, initial }

/-- A value of an event. -/
def eventValue : Codec EventValue :=
  (text.pair valueType).iso (fun v => (v.name, v.valueType))
    fun (name, valueType) => { name, valueType }

/-- An event. -/
def event : Codec CustomEvent :=
  (text.pair (list eventValue)).iso (fun e => (e.name, e.values))
    fun (name, values) => { name, values }

/-- A graph. -/
def graph : Codec Graph :=
  ((list node).pair ((list variableRecord).pair (list event))).iso
    (fun g => (g.nodes.toList, g.vars.toList, g.events.toList))
    fun (nodes, vars, events) =>
      { nodes := nodes.toArray, vars := vars.toArray, events := events.toArray }

/-- A finding. -/
def finding : Codec Finding :=
  (nodeId.pair (op.pair ((option text).pair (findingKind.pair text)))).iso
    (fun f => (f.node, f.op, f.socket, f.kind, f.message))
    fun (node, op, socket, kind, message) => { node, op, socket, kind, message }

/-- A report. -/
def report : Codec Report := (list finding).iso Report.findings Report.mk

/-- A compiled graph. -/
def compiled : Codec Compiled :=
  (text.pair (graph.pair report)).iso (fun c => (c.name, c.graph, c.validation))
    fun (name, graph, validation) => { name, graph, validation }

end ScriptGraph.Wire

namespace ScriptGraph.Compiled

/-- The binary form. -/
def toBytes (c : Compiled) : List UInt8 := Wire.compiled.write c

/-- Reads the binary form; what follows it does not matter. -/
def ofBytes? (bytes : List UInt8) : Option Compiled := (Wire.compiled.read bytes).map (·.1)

end ScriptGraph.Compiled

namespace ScriptGraph

/-- Why a stored graph cannot be had. -/
inductive StorageError where
  /-- The bytes are no compiled graph. -/
  | undecodable
  /-- The system refuses to read or write a place, with its own words. -/
  | inaccessible (place problem : String)
deriving DecidableEq

/-- The wording of an error. -/
def StorageError.message : StorageError → String
  | undecodable => "Deserialization failed"
  | inaccessible place problem => "Could not access file '" ++ place ++ "': " ++ problem

/-- Reads the binary form, or says why there is nothing to read. -/
def Compiled.decode (bytes : List UInt8) : Except StorageError Compiled :=
  match Compiled.ofBytes? bytes with
  | some c => .ok c
  | none => .error .undecodable

end ScriptGraph
