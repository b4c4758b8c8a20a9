import ScriptGraph.Source.Size

/-!
Log messages: sums of texts and values, taken apart from left to right.
-/

namespace ScriptGraph

/-- A piece of a log message. -/
inductive MessagePart where
  | text (content : String)
  | value (e : Expression)

namespace Expression

/-- Whether the result of an expression is a text. -/
def isText (e : Expression) : Bool := e.typeName? = some "String" || e.typeName? = some "string"

mutual

/-- The pieces of a message. A sum of type text falls into the pieces of its operands, everything
else but a literal text is a value. -/
def messageParts : Expression → List MessagePart
  | ⟨.parenthesized, _, _, _, _, _, _, inner :: _⟩ => messageParts inner
  | ⟨kind, name, resultType, method, member, literal, operator, children⟩ =>
    let e : Expression := ⟨kind, name, resultType, method, member, literal, operator, children⟩
    match kind, literal with
    | .literal, some (.text content) => [.text content]
    | .binary, _ =>
      if operator = some "+" && e.isText then messagePartsAll children else [.value e]
    | _, _ => [.value e]

/-- The pieces of several messages, one after the other. -/
def messagePartsAll : List Expression → List MessagePart
  | [] => []
  | e :: es => messageParts e ++ messagePartsAll es

end

mutual

theorem size_le_of_mem_messageParts {part : Expression} : (e : Expression) →
    .value part ∈ e.messageParts → part.size ≤ e.size
  | ⟨kind, name, resultType, method, member, literal, operator, children⟩, found => by
    rw [messageParts.eq_def] at found
    split at found
    · rename_i inner rest same
      cases same
      have below := size_le_of_mem_messageParts inner found
      have := size_le_sizeAll (List.mem_cons_self (a := inner) (l := rest))
      rw [size]
      omega
    · rename_i same
      cases same
      dsimp only at found
      split at found
      · simp at found
      · split at found
        · have := size_le_of_mem_messagePartsAll children found
          rw [size]
          omega
        · simp only [List.mem_singleton, MessagePart.value.injEq] at found
          exact found ▸ Nat.le_refl _
      · simp only [List.mem_singleton, MessagePart.value.injEq] at found
        exact found ▸ Nat.le_refl _

theorem size_le_of_mem_messagePartsAll {part : Expression} : (es : List Expression) →
    .value part ∈ messagePartsAll es → part.size ≤ sizeAll es
  | [], found => by simp [messagePartsAll] at found
  | e :: es, found => by
    rw [messagePartsAll, List.mem_append] at found
    rw [sizeAll]
    rcases found with first | later
    · have := size_le_of_mem_messageParts e first; omega
    · have := size_le_of_mem_messagePartsAll es later; omega

end

end Expression

end ScriptGraph
