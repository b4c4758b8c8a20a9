import ScriptGraph.Compile
import ScriptGraph.Graph.Listing

/-!
The command line: what a run is asked to do, and what it says about a compilation.
-/

namespace ScriptGraph

/-- What a run of the command is asked to do. -/
structure Command where
  /-- The file with the class. -/
  classFile : Option String := none
  optionsFile : Option String := none
  /-- The file with the target numbers of objects. -/
  targetsFile : Option String := none
  /-- Where the binary form goes. -/
  binaryFile : Option String := none
  /-- Where the indented document goes. -/
  documentFile : Option String := none
  /-- Whether the listing of the graph is shown. -/
  showsGraph : Bool := false

namespace Command

/-- How the command is called. -/
def usage : String :=
  "usage: CLASS [-o OPTIONS] [-r TARGETS] [--out FILE] [--json FILE] [--print]"

/-- The command with the given arguments added; `none` if one of them is not known. -/
def addArguments (c : Command) : List String → Option Command
  | [] => some c
  | "-o" :: file :: rest | "--options" :: file :: rest =>
    addArguments { c with optionsFile := some file } rest
  | "-r" :: file :: rest | "--resolver" :: file :: rest =>
    addArguments { c with targetsFile := some file } rest
  | "--out" :: file :: rest => addArguments { c with binaryFile := some file } rest
  | "--json" :: file :: rest => addArguments { c with documentFile := some file } rest
  | "-p" :: rest | "--print" :: rest => addArguments { c with showsGraph := true } rest
  | file :: rest =>
    if file.startsWith "-" || c.classFile.isSome then none
    else addArguments { c with classFile := some file } rest

end Command

namespace Artifacts

/-- The size of the graph in words. -/
def sizeLine (a : Artifacts) : String :=
  "Compilation finished: " ++ toString a.graph.nodes.size ++ " nodes, " ++
    toString a.graph.vars.size ++ " variables, " ++ toString a.graph.events.size ++ " events"

/-- The diagnostics, or that there are none. -/
def diagnosticLines (a : Artifacts) : List String :=
  if a.diagnostics.isEmpty then ["No diagnostics."]
  else
    (toString a.diagnostics.length ++ " diagnostic(s):") ::
      a.diagnostics.map fun d => "  " ++ d.render

/-- All that a run says about a compilation. -/
def reportLines (a : Artifacts) (showsGraph : Bool) : List String :=
  [a.sizeLine, ""] ++ a.diagnosticLines ++ ["", a.validation.render] ++
    if showsGraph then [a.graph.listing] else []

end Artifacts

end ScriptGraph
