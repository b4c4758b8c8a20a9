import ScriptGraph.Graph.Document
import ScriptGraph.Graph.Validation
import ScriptGraph.Json.Writer

/-!
A compiled graph with its report, as it is stored, and its documents.
-/

namespace ScriptGraph

/-- A graph with its name and the report of its validation. -/
structure Compiled where
  name : String
  graph : Graph
  validation : Report
deriving DecidableEq

namespace Finding

/-- A finding as a record. -/
def toJson (f : Finding) : Json :=
  .obj [("node", f.node.toJson), ("op", f.op.toJson), ("socket", .ofOption .str f.socket),
    ("kind", .str f.kind.identifier), ("message", .str f.message)]

/-- Reads a finding. -/
def ofJson? : Json.Reading Finding := fun budget j => do
  let r ← Json.Record.ofJson? ["node", "op", "socket", "kind", "message"] budget j
  return { node := ← r.required "node" NodeId.ofJson?
           op := ← r.required "op" Op.ofJson?
           socket := ← r.optional "socket" Json.readText
           kind := ← r.required "kind" (Json.readName FindingKind.ofIdentifier?)
           message := ← r.required "message" Json.readText }

end Finding

namespace Report

/-- A report as a record. -/
def toJson (r : Report) : Json := .obj [("findings", .ofList Finding.toJson r.findings)]

/-- Reads a report. -/
def ofJson? : Json.Reading Report := fun budget j => do
  let r ← Json.Record.ofJson? ["findings"] budget j
  return { findings := ← r.required "findings" (Json.readList Finding.ofJson?) }

end Report

namespace Compiled

/-- A compiled graph as a record. -/
def toJson (c : Compiled) : Json :=
  .obj [("name", .str c.name), ("graph", c.graph.toJson), ("validation", c.validation.toJson)]

/-- Reads a compiled graph. -/
def ofJson? : Json.Reading Compiled := fun budget j => do
  let r ← Json.Record.ofJson? ["name", "graph", "validation"] budget j
  return { name := ← r.required "name" Json.readText
           graph := ← r.required "graph" Graph.ofJson?
           validation := ← r.required "validation" Report.ofJson? }

/-- The indented document of a compiled graph. -/
def pretty (c : Compiled) : String := c.toJson.pretty

end Compiled

end ScriptGraph
