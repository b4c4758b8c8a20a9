import ScriptGraph.Command
import ScriptGraph.Json.Reader
import ScriptGraph.Source.Document
import ScriptGraph.Wire.Compiled

/-!
The program: compiles a class from a file, reports on it and stores the graph.
-/

namespace ScriptGraph.Command

/-- A step that may end the run with a message. -/
abbrev Run := ExceptT String IO

/-- Does something with a file; `describe` makes a message of what the system says about a
failure. -/
def onFile {α : Type} (describe : String → String) (step : IO α) : Run α := do
  match ← step.toBaseIO with
  | .ok result => return result
  | .error problem => throw (describe (toString problem))

/-- Reads a document from a file. -/
def readDocument {α : Type} (what path : String) (reading : Json.Reading α) : Run α := do
  let text ← onFile (fun problem => "Failed to read " ++ what ++ " file '" ++ path ++ "': " ++ problem)
    (IO.FS.readFile path)
  match (Json.parse? text).bind reading.run with
  | some document => return document
  | none => throw ("Failed to parse " ++ what ++ " file '" ++ path ++ "'")

/-- Reads a document from a file if one is given. -/
def readDocumentOr {α : Type} (default : α) (what : String) (path : Option String)
    (reading : Json.Reading α) : Run α :=
  match path with
  | some path => readDocument what path reading
  | none => return default

/-- Stores a compiled graph in its binary form. -/
def save (c : Compiled) (path : String) : Run Unit := do
  onFile (fun problem => "Failed to save graph: " ++ (StorageError.inaccessible path problem).message)
    (IO.FS.writeBinFile path (ByteArray.mk c.toBytes.toArray))
  IO.println ("Saved binary graph to '" ++ path ++ "'")

/-- Stores a compiled graph as an indented document. -/
def savePretty (c : Compiled) (path : String) : Run Unit := do
  onFile (fun problem => "Failed to write '" ++ path ++ "': " ++ problem)
    (IO.FS.writeFile path c.pretty)
  IO.println ("Saved JSON graph to '" ++ path ++ "'")

/-- Runs a command. -/
def run (command : Command) : Run Unit := do
  let some classFile := command.classFile | throw usage
  let c ← readDocument "class" classFile ScriptClass.ofJson?
  let options ← readDocumentOr {} "options" command.optionsFile Options.ofJson?
  let targets ← readDocumentOr {} "resolver" command.targetsFile Targets.ofJson?
  IO.println ("Compiling class '" ++ c.name ++ "'...")
  match c.compile options targets with
  | .error problem => throw ("Compilation failed: " ++ problem.message)
  | .ok artifacts =>
    for line in artifacts.reportLines command.showsGraph do
      IO.println line
    if let some path := command.binaryFile then save artifacts.toCompiled path
    if let some path := command.documentFile then savePretty artifacts.toCompiled path

end ScriptGraph.Command

def main (args : List String) : IO UInt32 := do
  let result ← match ScriptGraph.Command.addArguments {} args with
    | some command => (ScriptGraph.Command.run command).run
    | none => pure (.error ScriptGraph.Command.usage)
  match result with
  | .ok () => return 0
  | .error message =>
    IO.eprintln ("Error: " ++ message)
    return 1
