import ScriptGraph.Compiled
import ScriptGraph.Lower.Class

/-!
Compiling a class: lowering, putting constants in place, checking.
-/

namespace ScriptGraph

/-- All that a compilation produces. -/
structure Artifacts where
  name : String
  graph : Graph
  /-- Empty when checking is off. -/
  validation : Report
  diagnostics : List Diagnostic

namespace Artifacts

/-- Whether nothing was noted and nothing was found. -/
def isClean (a : Artifacts) : Bool := a.diagnostics.isEmpty && a.validation.isClean

/-- What is stored of a compilation. -/
def toCompiled (a : Artifacts) : Compiled :=
  { name := a.name, graph := a.graph, validation := a.validation }

end Artifacts

namespace ScriptClass

/-- The state in which lowering starts. -/
def startOfLowering (options : Options) (targets : Targets) : Lowering :=
  { context := { options, targets } }

/-- Compiles a class. -/
def compile (c : ScriptClass) (options : Options) (targets : Targets) :
    Except CompileError Artifacts :=
  match options.problem? with
  | some problem => .error (.invalidOptions problem)
  | none =>
    match Lower.lowerClass c (startOfLowering options targets) with
    | (.error problem, _) => .error problem
    | (.ok (), lowered) =>
      let context := (Build.resolveLiterals lowered.context).2
      let graph := context.graph
      .ok {
        name := c.name
        graph
        validation := if options.validate then graph.validate else {}
        diagnostics := context.diagnostics.entries.toList }

end ScriptClass

end ScriptGraph
