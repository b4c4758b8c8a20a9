import Mathlib
import ScriptGraph.Proofs.Validation.TypeChain

/-!
Graphs without findings.

Each check of such a graph passes. The type at a source of an input is then known, but for one case: a chain that
ends at an output whose input does not exist is stuck, and no check looks for that input.
-/

namespace ScriptGraph

section Checks

variable {g : Graph}

theorem Graph.isClean_validate_iff : g.validate.isClean = true ↔ ∀ n ∈ g.nodes, Validation.node g n = [] := by
  simp only [Report.isClean, validate, List.isEmpty_iff, List.flatMap_eq_nil_iff, Array.mem_toList_iff]

variable {n : Node} {name : String} {input : ValueInput}

theorem Validation.valueInput_eq_nil (passes : node g n = []) (found : n.valueIn? name = some input) :
    valueInput g n name input = [] := by
  simp only [node, List.append_eq_nil_iff] at passes
  exact List.flatMap_eq_nil_iff.1 passes.1.1.2 (name, input) (Dict.mem_map_of_lookup found)

/-- An input without a type to share is reported for itself. -/
theorem Graph.Typeless.valueInput_ne_nil (typeless : g.Typeless (some input)) :
    Validation.valueInput g n name input ≠ [] := by
  have single_of (other : input.literal = none) {source : SocketAddress} (fed : input.source = some source)
      (problem : g.connectionProblem? source ≠ none) : Validation.valueInput g n name input ≠ [] := by
    obtain ⟨text, problem⟩ := Option.ne_none_iff_exists'.1 problem
    simp [Validation.valueInput, other, fed, problem]
  cases typeless with
  | dangling dangling =>
    simp only [ValueInput.isDangling, Bool.and_eq_true, Option.isNone_iff_eq_none] at dangling
    simp [Validation.valueInput, dangling]
  | conflicting conflicting =>
    simp only [ValueInput.isConflicting, Bool.and_eq_true, Option.isSome_iff_exists] at conflicting
    obtain ⟨⟨literal, holds⟩, source, fed⟩ := conflicting
    simp [Validation.valueInput, holds, fed]
  | placeholder single fed placeholder => exact single_of single fed (by simp [connectionProblem?, placeholder])
  | missingNode single fed missing =>
    refine single_of single fed fun whole => ?_
    obtain ⟨_, there⟩ := connectionProblem?_eq_none_iff.1 whole
    simp [outputAt?, missing] at there
  | missingOutput single fed node missing =>
    refine single_of single fed fun whole => ?_
    obtain ⟨_, there⟩ := connectionProblem?_eq_none_iff.1 whole
    rw [outputAt?, node, Option.bind_some] at there
    exact absurd there (by simpa [Dict.contains] using missing)

end Checks

namespace Graph

/-- The chain from an address ends at an output whose input does not exist. -/
def EndsAbsent (g : Graph) (source : SocketAddress) : Prop :=
  ∃ a name, Relation.ReflTransGen g.TypeFrom source a ∧ g.outputAt? a = some ⟨some (.fromInput name)⟩ ∧
    g.inputAt? ⟨a.node, name⟩ = none

/-- In a graph without findings the type at a source is known unless an input is absent at the end of its chain. -/
theorem known_iff_of_clean {g : Graph} (clean : g.validate.isClean = true) {n : Node} (member : n ∈ g.nodes)
    {name : String} {input : ValueInput} (found : n.valueIn? name = some input) (single : input.literal = none)
    {source : SocketAddress} (fed : input.source = some source) :
    (∃ type, g.outputType source = .known type) ↔ ¬ g.EndsAbsent source := by
  have passes := isClean_validate_iff.1 clean
  have checked := Validation.valueInput_eq_nil (passes n member) found
  simp only [Validation.valueInput, single, fed] at checked
  cases problem : g.connectionProblem? source with
  | some text => simp [problem] at checked
  | none =>
  have leads := leadsTo_outputType (connectionProblem?_eq_none_iff.1 problem).2
  have absent (ends : g.EndsAbsent source) : g.LeadsTo source .blocked := by
    obtain ⟨a, shared, path, output, absent⟩ := ends
    exact .ends path (.stuck output (absent ▸ .absent))
  cases result : g.outputType source with
  | known type =>
    rw [result] at leads
    refine ⟨fun _ ends => ?_, fun _ => ⟨type, rfl⟩⟩
    cases leads.unique (absent ends)
  | undetermined => simp [problem, result] at checked
  | blocked =>
    constructor
    · rintro ⟨type, known⟩
      cases known
    intro other
    refine absurd ?_ other
    rw [result] at leads
    cases leads with | ends path ends =>
    cases ends with | @stuck shared output typeless =>
    refine ⟨_, shared, path, output, ?_⟩
    cases there : g.inputAt? ⟨_, shared⟩ with
    | none => rfl
    | some input =>
      -- An input that is there would have been reported where it stands.
      obtain ⟨n, node, atName⟩ := Option.bind_eq_some_iff.1 there
      have checked := Validation.valueInput_eq_nil (passes n (mem_of_node? node).1) atName
      exact absurd checked (there ▸ typeless).valueInput_ne_nil

/-- A negation without its input, and another one behind it. -/
def headless : Graph :=
  { nodes := #[{ Node.new (.ofNat 0) .mathNeg with valuesIn := Dict.empty },
      (Node.new (.ofNat 1) .mathNeg).changeInput "a" (·.fedBy ⟨.ofNat 0, "value"⟩)] }

example : headless.validate.isClean = true ∧ headless.outputType ⟨.ofNat 0, "value"⟩ = .blocked := by cbv

end Graph

end ScriptGraph
