import ScriptGraph.Json.Decode
import ScriptGraph.Text.Quoted

/-!
The numbers by which pointer paths address host objects.
-/

namespace ScriptGraph

/-- An object as the source names it. -/
inductive ObjectRef where
  /-- The object the class belongs to. -/
  | self
  /-- The object in a field of the class. -/
  | field (name : String)
deriving DecidableEq

/-- The object as messages show it. -/
def ObjectRef.render : ObjectRef → String
  | self => "This"
  | field name => "Field(" ++ Text.quote name ++ ")"

/-- The target numbers of the objects that have one. -/
structure Targets where
  self : Option UInt32 := none
  objects : Dict UInt32 := Dict.empty

namespace Targets

instance : Inhabited Targets := ⟨{}⟩

/-- The target number of an object. -/
def find? (t : Targets) : ObjectRef → Option UInt32
  | .self => t.self
  | .field name => t.objects.find? name

/-- Reads a table of target numbers. -/
def ofJson? : Json.Reading Targets := fun budget j => do
  let r ← Json.Record.ofJson? ["selfId", "objects"] budget j
  return {
    self := ← r.defaulted "selfId" (Json.readNullable Json.readUInt32) none
    objects := ← r.defaulted "objects" (Json.readDict Json.readUInt32) Dict.empty }

end Targets

end ScriptGraph
