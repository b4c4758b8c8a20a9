/-!
JSON documents as they are written: members in order and with repetitions, numbers as their tokens.

What a token means is decided by whoever asks for a number, because a document may hold parts that
nobody asks about, and those are bound by the grammar only.
-/

namespace ScriptGraph

/-- A JSON document. A string whose escapes name half of a surrogate pair is well formed but has no
content, which is `none`. -/
inductive Json where
  | null
  | bool (value : Bool)
  | number (token : String)
  | text (content : Option String)
  | array (items : List Json)
  | object (members : List (Option String × Json))

namespace Json

instance : Inhabited Json := ⟨.null⟩

/-- A string with the given content. -/
def str (content : String) : Json := .text (some content)

/-- An object with the given members, in this order. -/
def obj (members : List (String × Json)) : Json :=
  .object (members.map fun (key, value) => (some key, value))

/-- An object holding one tagged value. -/
def tagged (tag : String) (value : Json) : Json := obj [(tag, value)]

/-- A whole number. -/
def int (value : Int) : Json := .number (toString value)

/-- A natural number. -/
def nat (value : Nat) : Json := .number (toString value)

/-- The written value, or `null` where there is none. -/
def ofOption {α : Type} (write : α → Json) : Option α → Json
  | some value => write value
  | none => .null

/-- An array of written values. -/
def ofList {α : Type} (write : α → Json) (values : List α) : Json :=
  .array (values.map write)

/-- The first member with the given key. -/
def member? (key : String) : Json → Option Json
  | .object members => (members.find? fun (name, _) => name == some key).map (·.2)
  | _ => none

end Json

end ScriptGraph
