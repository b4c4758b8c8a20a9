import ScriptGraph.Json.Decode
import ScriptGraph.Text.Quoted

/-!
The settings of one compilation, and the two reasons why a compilation does not start.
-/

namespace ScriptGraph

/-- The settings of a compilation. -/
structure Options where
  /-- Positions and rotations pass between host space and exchange space. -/
  spaceConversion : Bool := true
  /-- The capacity of list fields that declare none. -/
  defaultListCapacity : Nat := 8
  /-- How deep calls of the class's own methods are inlined. -/
  maxInlineDepth : Nat := 8
  /-- The methods that events start, in order. -/
  entryPoints : List String := ["Start", "Update"]
  /-- Check the graph after lowering. -/
  validate : Bool := true

/-- What is wrong with the settings. -/
inductive OptionsProblem where
  | emptyListCapacity
  | noEntryPoint

/-- Why a class cannot be compiled. -/
inductive CompileError where
  | invalidOptions (problem : OptionsProblem)
  /-- The class has none of the entry points. -/
  | noEntryPoints (className : String) (entryPoints : List String)

/-- The wording of a problem. -/
def OptionsProblem.message : OptionsProblem → String
  | emptyListCapacity => "default list capacity must be at least 1"
  | noEntryPoint => "at least one entry point is required"

/-- The wording of an error. -/
def CompileError.message : CompileError → String
  | invalidOptions problem => "Invalid compiler options: " ++ problem.message
  | noEntryPoints className entryPoints =>
    "Class '" ++ className ++ "' defines none of the entry points " ++ Text.quoteList entryPoints

namespace Options

instance : Inhabited Options := ⟨{}⟩

/-- The first problem of the settings. -/
def problem? (o : Options) : Option OptionsProblem :=
  if o.defaultListCapacity = 0 then some .emptyListCapacity
  else if o.entryPoints.isEmpty then some .noEntryPoint
  else none

/-- Adds an entry point after the others, unless it is one. -/
def addEntryPoint (o : Options) (method : String) : Options :=
  if o.entryPoints.contains method then o
  else { o with entryPoints := o.entryPoints ++ [method] }

/-- The names of the settings in documents. -/
def fieldNames : List String :=
  ["spaceConversion", "defaultListCapacity", "maxInlineDepth", "entryPoints", "validate"]

/-- Reads settings; what is left out keeps its default. -/
def ofJson? : Json.Reading Options := fun budget j => do
  let r ← Json.Record.ofJson? fieldNames budget j
  let d : Options := {}
  return {
    spaceConversion := ← r.defaulted "spaceConversion" Json.readBool d.spaceConversion
    defaultListCapacity := ← r.defaulted "defaultListCapacity" Json.readSize d.defaultListCapacity
    maxInlineDepth := ← r.defaulted "maxInlineDepth" Json.readSize d.maxInlineDepth
    entryPoints := ← r.defaulted "entryPoints" (Json.readList Json.readText) d.entryPoints
    validate := ← r.defaulted "validate" Json.readBool d.validate }

/-- Settings as a record. -/
def toJson (o : Options) : Json :=
  .obj [("spaceConversion", .bool o.spaceConversion),
    ("defaultListCapacity", .nat o.defaultListCapacity),
    ("maxInlineDepth", .nat o.maxInlineDepth),
    ("entryPoints", .ofList .str o.entryPoints),
    ("validate", .bool o.validate)]

end Options

end ScriptGraph
