import ScriptGraph.Json.Value

/-!
Writing JSON text, on one line or indented.
-/

namespace ScriptGraph.Json

/-- A hexadecimal digit. -/
def hexChar (n : Nat) : Char :=
  if n < 10 then Char.ofNat (48 + n) else Char.ofNat (87 + n)

/-- The written form of one character of a string. Only quotes, backslashes and control characters
below the blank are escaped. -/
def escapeChar (c : Char) : List Char :=
  match c with
  | '"' => ['\\', '"']
  | '\\' => ['\\', '\\']
  | '\n' => ['\\', 'n']
  | '\r' => ['\\', 'r']
  | '\t' => ['\\', 't']
  | '\x08' => ['\\', 'b']
  | '\x0c' => ['\\', 'f']
  | c =>
    if c.toNat < 0x20 then ['\\', 'u', '0', '0', hexChar (c.toNat / 16), hexChar (c.toNat % 16)]
    else [c]

/-- A string between quotes. -/
def quote (content : String) : String :=
  "\"" ++ String.ofList (content.toList.flatMap escapeChar) ++ "\""

/-- The separator and the line breaks of one style of writing. -/
structure Style where
  /-- Indentation of one level; `none` writes everything on one line. -/
  indent : Option String

/-- Everything on one line. -/
def Style.compact : Style := ⟨none⟩

/-- One item a line, indented by two blanks. -/
def Style.pretty : Style := ⟨some "  "⟩

namespace Style

/-- The line break before an item at the given depth. -/
def lineBreak (style : Style) (depth : Nat) : String :=
  match style.indent with
  | some unit => "\n" ++ String.join (List.replicate depth unit)
  | none => ""

/-- What stands between a key and its value. -/
def colon (style : Style) : String :=
  if style.indent.isSome then ": " else ":"

/-- The items of a container, one after the other, between its brackets. -/
def enclose (style : Style) (depth : Nat) (opening closing : String) (items : List String) :
    String :=
  match items with
  | [] => opening ++ closing
  | items =>
    let lineBreak := style.lineBreak (depth + 1)
    opening ++ lineBreak ++ String.intercalate ("," ++ lineBreak) items ++ style.lineBreak depth ++
      closing

mutual

/-- Writes a value at the given depth. -/
def write (style : Style) (depth : Nat) : Json → String
  | .null => "null"
  | .bool true => "true"
  | .bool false => "false"
  | .number token => token
  | .text content => quote (content.getD "")
  | .array items => style.enclose depth "[" "]" (style.writeItems (depth + 1) items)
  | .object members => style.enclose depth "\x7b" "\x7d" (style.writeMembers (depth + 1) members)

/-- Writes the items of an array. -/
def writeItems (style : Style) (depth : Nat) : List Json → List String
  | [] => []
  | item :: items => style.write depth item :: style.writeItems depth items

/-- Writes the members of an object. -/
def writeMembers (style : Style) (depth : Nat) : List (Option String × Json) → List String
  | [] => []
  | (key, value) :: members =>
    (quote (key.getD "") ++ style.colon ++ style.write depth value) ::
      style.writeMembers depth members

end

end Style

/-- The text on one line. -/
def compact (j : Json) : String := Style.compact.write 0 j

/-- The indented text. -/
def pretty (j : Json) : String := Style.pretty.write 0 j

end ScriptGraph.Json
