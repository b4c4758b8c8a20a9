import ScriptGraph.Dict
import ScriptGraph.Json.Number
import ScriptGraph.Json.Value

/-!
Taking typed values out of JSON documents.

A reading takes a budget of containers that may still be entered, so that documents nest at most
`Json.maxNesting` deep where anybody looks; what nobody asks about may nest as it likes.
-/

namespace ScriptGraph.Json

/-- The deepest nesting of arrays and objects that is read. -/
def maxNesting : Nat := 127

/-- A way to take a value out of a document within a nesting budget. -/
abbrev Reading (α : Type) := Nat → Json → Option α

/-- Reads with the full budget. -/
def Reading.run {α : Type} (reading : Reading α) (j : Json) : Option α := reading maxNesting j

/-- A truth value. -/
def readBool : Reading Bool
  | _, .bool value => some value
  | _, _ => none

/-- A text. -/
def readText : Reading String
  | _, .text content => content
  | _, _ => none

/-- Any number. -/
def readAnyNumber : Reading JsonNumber
  | _, .number token => JsonNumber.ofToken? token
  | _, _ => none

/-- A single; whole numbers count too. -/
def readSingle : Reading Single := fun budget j => (readAnyNumber budget j).map (·.toSingle)

/-- A whole number between two bounds, the upper one excluded. -/
def readBounded (low high : Int) : Reading Int := fun budget j => do
  let value ← (← readAnyNumber budget j).toInt?
  if low ≤ value ∧ value < high then some value else none

/-- A signed 32-bit number. -/
def readInt32 : Reading Int32 := fun budget j =>
  (readBounded (-0x80000000) 0x80000000 budget j).map Int32.ofInt

/-- An unsigned 32-bit number. -/
def readUInt32 : Reading UInt32 := fun budget j =>
  (readBounded 0 0x100000000 budget j).map fun value => UInt32.ofNat value.toNat

/-- A natural number of at most 64 bits. -/
def readSize : Reading Nat := fun budget j =>
  (readBounded 0 0x10000000000000000 budget j).map Int.toNat

/-- `null`, or a value. -/
def readNullable {α : Type} (reading : Reading α) : Reading (Option α)
  | _, .null => some none
  | budget, j => (reading budget j).map some

/-- An array of values. -/
def readList {α : Type} (reading : Reading α) : Reading (List α)
  | budget + 1, .array items => items.mapM (reading budget)
  | _, _ => none

/-- An object read as a dictionary; of a repeated key the last value counts. -/
def readDict {α : Type} (reading : Reading α) : Reading (Dict α)
  | budget + 1, .object members => do
    let entries ← members.mapM fun (key, value) => return (← key, ← reading budget value)
    return Dict.ofList entries
  | _, _ => none

/-- An array of names read as a set. -/
def readNameSet : Reading NameSet := fun budget j => (readList readText budget j).map NameSet.ofNames

/-- A name out of a closed list: written alone, or as the only key of an object with `null`. -/
def readName {α : Type} (ofName? : String → Option α) : Reading α
  | _, .text content => do ofName? (← content)
  | _ + 1, .object [(key, .null)] => do ofName? (← key)
  | _, _ => none

/-- A tagged value: an object whose only key is the tag. -/
def readTagged {α : Type} (reading : String → Reading α) : Reading α
  | budget + 1, .object [(key, value)] => do reading (← key) budget value
  | _, _ => none

/-- The known fields of a record: by name from an object, by position from an array. -/
structure Record where
  /-- Whether the fields stand by position. -/
  positional : Bool
  fields : List (String × Json)
  /-- What is left of the budget inside. -/
  budget : Nat

namespace Record

/-- The members with a known name. Fails on a repeated one, and on a key without content. -/
def known (names : List String) : List (Option String × Json) → Option (List (String × Json))
  | [] => some []
  | (key, value) :: rest => do
    let name ← key
    let fields ← known names rest
    if names.contains name then
      if fields.any (·.1 == name) then none else some ((name, value) :: fields)
    else some fields

/-- Takes apart a record with fields of the given names, in the order they have by position. -/
def ofJson? (names : List String) : Reading Record
  | budget + 1, .object members => do
    return { positional := false, fields := ← known names members, budget }
  | budget + 1, .array items =>
    if items.length ≤ names.length then
      some { positional := true, fields := names.zip items, budget }
    else none
  | _, _ => none

/-- The document given for a field. -/
def field? (r : Record) (name : String) : Option Json :=
  (r.fields.find? (·.1 == name)).map (·.2)

/-- A field that has to be there. -/
def required {α : Type} (r : Record) (name : String) (reading : Reading α) : Option α :=
  match r.field? name with
  | some j => reading r.budget j
  | none => none

/-- A field with a value for the case that it is not there. -/
def defaulted {α : Type} (r : Record) (name : String) (reading : Reading α) (default : α) :
    Option α :=
  match r.field? name with
  | some j => reading r.budget j
  | none => some default

/-- A field that may be `null`, or be left out where fields have names. -/
def optional {α : Type} (r : Record) (name : String) (reading : Reading α) : Option (Option α) :=
  match r.field? name with
  | some j => readNullable reading r.budget j
  | none => if r.positional then none else some none

end Record

end ScriptGraph.Json
