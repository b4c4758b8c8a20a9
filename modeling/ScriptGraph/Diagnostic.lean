/-!
What lowering could not do. Lowering never stops at such a place: it notes it, drops the effect and
goes on.
-/

namespace ScriptGraph

/-- The kinds of diagnostics. -/
inductive DiagnosticKind where
  /-- A shape that is not lowered. -/
  | unsupported
  /-- A name or an object that was not found. -/
  | unresolved
  /-- A record without a part it needs. -/
  | malformed
deriving DecidableEq

/-- The name of a kind. -/
def DiagnosticKind.name : DiagnosticKind → String
  | unsupported => "unsupported"
  | unresolved => "unresolved"
  | malformed => "malformed"

/-- One thing that was not lowered, and the method in which it stands. -/
structure Diagnostic where
  kind : DiagnosticKind
  method : String
  message : String
deriving DecidableEq

/-- A diagnostic on one line. -/
def Diagnostic.render (d : Diagnostic) : String :=
  "[" ++ d.kind.name ++ "] " ++ d.method ++ ": " ++ d.message

/-- The diagnostics so far and the method being lowered. -/
structure Diagnostics where
  entries : Array Diagnostic := #[]
  method : String := ""
deriving DecidableEq

namespace Diagnostics

instance : Inhabited Diagnostics := ⟨{}⟩

/-- Notes one more. -/
def push (d : Diagnostics) (kind : DiagnosticKind) (message : String) : Diagnostics :=
  { d with entries := d.entries.push { kind, method := d.method, message } }

/-- The number of diagnostics of a kind. -/
def count (d : Diagnostics) (kind : DiagnosticKind) : Nat :=
  d.entries.toList.countP (·.kind = kind)

end Diagnostics

end ScriptGraph
