/-!
Templates: pointer paths and log messages with tokens between braces.
-/

namespace ScriptGraph.Template

/-- The text up to the first `stop`, and what follows it. -/
def splitAt? (stop : Char) : List Char → Option (List Char × List Char)
  | [] => none
  | c :: cs =>
    if c = stop then some ([], cs)
    else (splitAt? stop cs).map fun (before, after) => (c :: before, after)

theorem length_of_splitAt? {stop : Char} {cs before after : List Char}
    (split : splitAt? stop cs = some (before, after)) :
    before.length + after.length + 1 = cs.length := by
  induction cs generalizing before with
  | nil => simp [splitAt?] at split
  | cons c cs ih =>
    rw [splitAt?] at split
    split at split
    · obtain ⟨rfl, rfl⟩ := Prod.mk.inj (Option.some.inj split)
      simp
    · obtain ⟨⟨b, a⟩, found, same⟩ := Option.map_eq_some_iff.1 split
      obtain ⟨rfl, rfl⟩ := Prod.mk.inj same
      have := ih found
      simp only [List.length_cons]
      omega

/-- The tokens of a template, repetitions and empty ones included. A token runs from an opening
brace to the next closing one, whatever stands between them. -/
def tokens (cs : List Char) : List (List Char) :=
  match opened : splitAt? '\x7b' cs with
  | none => []
  | some (_, after) =>
    match closed : splitAt? '\x7d' after with
    | none => []
    | some (token, rest) =>
      have : rest.length < cs.length := by
        have first := length_of_splitAt? opened
        have second := length_of_splitAt? closed
        omega
      token :: tokens rest
termination_by cs.length

/-- Keeps the first occurrence of every entry that is not in `seen`. -/
def firsts (seen : List String) : List String → List String
  | [] => []
  | name :: names =>
    if seen.contains name then firsts seen names else name :: firsts (name :: seen) names

/-- The names of the tokens of a template, without empty ones, each at its first occurrence. -/
def names (template : String) : List String :=
  firsts [] (((tokens template.toList).map String.ofList).filter (· ≠ ""))

end ScriptGraph.Template
