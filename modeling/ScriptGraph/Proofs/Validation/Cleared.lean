import Mathlib
import ScriptGraph.Proofs.Validation.Clean

/-!
One cause, one finding.

Where an input of a graph without findings loses what feeds it, the look-ups that pass through it stop there.
They were known before and are blocked now, so nothing that hangs on them is found wrong: the only finding is
that of the input itself.
-/

namespace ScriptGraph

section Splitting

variable {α β : Type}

/-- The place of a key, and what a write leaves there. -/
theorem Dict.split_updateEntries {key : String} {value : α} {entries : List (String × α)}
    (ascending : Ascending entries) (found : lookup key entries = some value) (f : Option α → α) :
    ∃ before after, entries = before ++ (key, value) :: after ∧
      updateEntries key f entries = before ++ (key, f (some value)) :: after := by
  induction entries with
  | nil => cases found
  | cons head rest ih =>
    obtain ⟨name, other⟩ := head
    obtain ⟨above, tail⟩ := List.pairwise_cons.1 ascending
    rw [lookup] at found
    split at found
    · next same =>
      subst same
      obtain rfl := Option.some.inj found
      exact ⟨[], rest, rfl, by rw [updateEntries, if_neg (String.lt_irrefl _), if_pos rfl, List.nil_append]⟩
    · next different =>
      have later := mem_map_of_lookup found
      obtain ⟨before, after, split, updated⟩ := ih tail found
      refine ⟨(name, other) :: before, after, by rw [split, List.cons_append], ?_⟩
      have above : ¬ key < name := String.lt_asymm (above _ later)
      rw [updateEntries, if_neg above, if_neg (Ne.symm different), updated, List.cons_append]

theorem Dict.split_update {d : Dict α} {key : String} {value : α} (found : d.find? key = some value)
    (f : Option α → α) : ∃ before after, d.entries = before ++ (key, value) :: after ∧
      (d.update key f).entries = before ++ (key, f (some value)) :: after :=
  split_updateEntries d.ascending found f

theorem Dict.keys_update {d : Dict α} {key : String} {value : α} (found : d.find? key = some value)
    (f : Option α → α) : (d.update key f).keys = d.keys := by
  obtain ⟨before, after, split, updated⟩ := split_update found f
  rw [keys, keys, split, updated]
  simp

end Splitting

namespace Node

/-- The node with nothing that feeds one of its inputs. -/
def clearInput (n : Node) (name : String) : Node :=
  n.changeInput name fun input => { input with literal := none, source := none }

/-- The node, with the input cleared if it is the one with the identity. -/
def clearAt (id : NodeId) (name : String) (n : Node) : Node := if n.index = id then n.clearInput name else n

section Fields

variable (id : NodeId) (name : String) (n : Node)

@[simp] theorem index_clearAt : (n.clearAt id name).index = n.index := by unfold clearAt; split <;> rfl

@[simp] theorem op_clearAt : (n.clearAt id name).op = n.op := by unfold clearAt; split <;> rfl

@[simp] theorem configuration_clearAt : (n.clearAt id name).configuration = n.configuration := by
  unfold clearAt; split <;> rfl

@[simp] theorem valuesOut_clearAt : (n.clearAt id name).valuesOut = n.valuesOut := by unfold clearAt; split <;> rfl

@[simp] theorem flowsIn_clearAt : (n.clearAt id name).flowsIn = n.flowsIn := by unfold clearAt; split <;> rfl

@[simp] theorem flowsOut_clearAt : (n.clearAt id name).flowsOut = n.flowsOut := by unfold clearAt; split <;> rfl

/-- An input is as it was, or nothing feeds it. -/
theorem valueIn?_clearAt (other : String) : (n.clearAt id name).valueIn? other = n.valueIn? other ∨
    ∃ restriction, (n.clearAt id name).valueIn? other = some { restriction } := by
  unfold clearAt
  split
  · rw [valueIn?, clearInput, changeInput, Dict.find?_update]
    split
    · exact .inr ⟨_, rfl⟩
    · exact .inl rfl
  · exact .inl rfl

end Fields

end Node

namespace Graph

/-- The nodes are in ascending order of identity. -/
def Sorted (g : Graph) : Prop := g.nodes.toList.Pairwise fun m n => m.index.toNat < n.index.toNat

/-- The graph with nothing that feeds an input. -/
def clearInput (g : Graph) (id : NodeId) (name : String) : Graph :=
  { g with nodes := g.nodes.map (Node.clearAt id name) }

section Lookups

variable (g : Graph) (id : NodeId) (name : String)

theorem node?_clearInput (other : NodeId) :
    (g.clearInput id name).node? other = (g.node? other).map (Node.clearAt id name) := by
  have same : (g.clearInput id name).position? other = g.position? other := by
    simp only [position?, clearInput, Array.findIdx?_map, Function.comp_def, Node.index_clearAt]
  rw [node?, node?, same]
  cases g.position? other with
  | none => rfl
  | some position => exact Array.getElem?_map

theorem outputs_clearInput : (g.clearInput id name).outputs = g.outputs := by
  simp only [outputs, clearInput, Array.toList_map, List.flatMap_map, Node.index_clearAt, Node.valuesOut_clearAt]

theorem connectionProblem?_clearInput (source : SocketAddress) :
    (g.clearInput id name).connectionProblem? source = g.connectionProblem? source := by
  simp only [connectionProblem?, node?_clearInput]
  cases g.node? source.node with
  | none => rfl
  | some feeder => simp only [Option.map_some, Node.valuesOut_clearAt]

/-- A search stops where it meets the cleared input, and is not changed otherwise. -/
theorem outputTypeWithin_clearInput (fuel : Nat) (visited : List SocketAddress) (source : SocketAddress) :
    (g.clearInput id name).outputTypeWithin fuel visited source = .blocked ∨
      (g.clearInput id name).outputTypeWithin fuel visited source = g.outputTypeWithin fuel visited source := by
  induction fuel generalizing visited source with
  | zero => exact .inr rfl
  | succ fuel ih =>
    simp only [outputTypeWithin, node?_clearInput]
    split
    · exact .inr rfl
    · cases g.node? source.node with
      | none => exact .inr rfl
      | some feeder =>
        simp only [Option.map_some, Node.valuesOut_clearAt]
        split
        · exact .inr rfl
        · exact .inr rfl
        · next shared _ =>
          rcases feeder.valueIn?_clearAt id name shared with same | ⟨restriction, cleared⟩
          · rw [same]
            split
            · exact .inr rfl
            · split
              · exact .inr rfl
              · rw [connectionProblem?_clearInput]
                split
                · exact .inl rfl
                · exact ih _ _
              · exact .inr rfl
          · rw [cleared]
            exact .inl rfl

theorem outputType_clearInput (source : SocketAddress) :
    (g.clearInput id name).outputType source = .blocked ∨
      (g.clearInput id name).outputType source = g.outputType source := by
  rw [outputType, outputType, outputs_clearInput]
  exact outputTypeWithin_clearInput g id name _ _ source

theorem inputType_clearInput (n : Node) (other : String) :
    (g.clearInput id name).inputType (n.clearAt id name) other = .blocked ∨
      (g.clearInput id name).inputType (n.clearAt id name) other = g.inputType n other := by
  unfold inputType
  rcases n.valueIn?_clearAt id name other with same | ⟨restriction, cleared⟩
  · rw [same]
    split
    · exact .inr rfl
    · split
      · exact .inr rfl
      · rw [connectionProblem?_clearInput]
        split
        · exact .inl rfl
        · exact outputType_clearInput g id name _
      · exact .inr rfl
  · rw [cleared]
    exact .inl rfl

end Lookups

end Graph

namespace Validation

section Checks

variable {g : Graph} {id : NodeId} {name : String} {n : Node}

/-- A restriction is what it was, or no longer known. -/
theorem allowedTypes?_clearInput (g : Graph) (id : NodeId) (name : String) (n : Node) (restriction : TypeRestriction) :
    allowedTypes? (g.clearInput id name) (n.clearAt id name) restriction = none ∨
      allowedTypes? (g.clearInput id name) (n.clearAt id name) restriction = allowedTypes? g n restriction := by
  cases restriction with
  | only type => exact .inr rfl
  | oneOf types => exact .inr rfl
  | sameAsInput other =>
    simp only [allowedTypes?]
    rcases Graph.inputType_clearInput g id name n other with blocked | same
    · rw [blocked]
      exact .inl rfl
    · rw [same]
      exact .inr rfl

theorem mismatch_clearInput {other : String} {input : ValueInput} {actual : ValueType}
    (fits : mismatch g n other input actual = []) :
    mismatch (g.clearInput id name) (n.clearAt id name) other input actual = [] := by
  unfold mismatch at fits ⊢
  cases restricted : input.restriction with
  | none => rfl
  | some restriction =>
    simp only [restricted, Option.bind_some] at fits ⊢
    rcases allowedTypes?_clearInput g id name n restriction with unknown | same
    · rw [unknown]
    · rw [same]
      split
      · rfl
      · next allowed found =>
        simp only [found] at fits
        split at fits
        · next allows => rw [if_pos allows]
        · cases fits

/-- An input in order that keeps what feeds it stays in order. -/
theorem valueInput_clearInput {other : String} {input : ValueInput} (passes : valueInput g n other input = []) :
    valueInput (g.clearInput id name) (n.clearAt id name) other input = [] := by
  unfold valueInput at passes ⊢
  split at passes
  · cases passes
  · cases passes
  · exact mismatch_clearInput passes
  · rw [Graph.connectionProblem?_clearInput]
    split at passes
    · cases passes
    · rcases Graph.outputType_clearInput g id name _ with blocked | same
      · rw [blocked]
      · rw [same]
        split at passes
        · cases passes
        · rfl
        · exact mismatch_clearInput passes

end Checks

section Unchanged

variable (g : Graph) (id : NodeId) (name : String) (n : Node)

theorem finding_clearAt : finding (n.clearAt id name) = finding n := by
  funext socket kind message
  simp only [finding, Node.index_clearAt, Node.op_clearAt]

theorem configuration_clearAt : configuration (n.clearAt id name) = configuration n := by
  simp only [configuration, Node.configuration_clearAt, finding_clearAt]

theorem flowOutputs_clearInput : flowOutputs (g.clearInput id name) (n.clearAt id name) = flowOutputs g n := by
  have targets : targetProblem? (g.clearInput id name) = targetProblem? g := by
    funext target
    simp only [targetProblem?, Graph.node?_clearInput]
    cases g.node? target.node with
    | none => rfl
    | some next => simp only [Option.map_some, Node.flowsIn_clearAt]
  simp only [flowOutputs, Node.flowsOut_clearAt, finding_clearAt, targets]

theorem tokensOf_clearAt (parameter : String) : tokensOf (n.clearAt id name) parameter = tokensOf n parameter := by
  simp only [tokensOf, Node.config?, Node.configuration_clearAt]

/-- The declared sockets depend on the operation and the parameters. -/
theorem sockets_clearInput (kept : (n.clearAt id name).valuesIn.keys = n.valuesIn.keys) :
    sockets (g.clearInput id name) (n.clearAt id name) = sockets g n := by
  have values : eventValueNames (g.clearInput id name) (n.clearAt id name) = eventValueNames g n := by
    simp only [eventValueNames, Node.config?, Node.op_clearAt, Node.configuration_clearAt, Graph.clearInput]
  have takes : takesValueInput (g.clearInput id name) (n.clearAt id name) = takesValueInput g n := by
    funext socket
    simp only [takesValueInput, Node.op_clearAt, tokensOf_clearAt, values]
  have has : hasValueOutput (g.clearInput id name) (n.clearAt id name) = hasValueOutput g n := by
    funext socket
    simp only [hasValueOutput, Node.op_clearAt, values]
  have enters : takesFlowInput (n.clearAt id name) = takesFlowInput n := by
    funext socket
    simp only [takesFlowInput, Node.op_clearAt]
  have leaves : hasFlowOutput (n.clearAt id name) = hasFlowOutput n := by
    funext socket
    simp only [hasFlowOutput, Node.op_clearAt]
  simp only [sockets, undeclared, kept, finding_clearAt, takes, has, enters, leaves, Node.valuesOut_clearAt,
    Node.flowsIn_clearAt, Node.flowsOut_clearAt]

theorem contains_clearAt (kept : (n.clearAt id name).valuesIn.keys = n.valuesIn.keys) (socket : String) :
    (n.clearAt id name).valuesIn.contains socket = n.valuesIn.contains socket := by
  rw [Bool.eq_iff_iff]
  constructor
  · exact fun has => Dict.contains_of_mem_keys (kept ▸ Dict.mem_keys_of_contains has)
  · exact fun has => Dict.contains_of_mem_keys (kept ▸ Dict.mem_keys_of_contains has)

theorem message_clearAt (kept : (n.clearAt id name).valuesIn.keys = n.valuesIn.keys) :
    message (n.clearAt id name) = message n := by
  have present (socket : String) : ((n.clearAt id name).valueIn? socket).isSome = (n.valueIn? socket).isSome :=
    contains_clearAt id name n kept socket
  simp only [message, tokensOf_clearAt, present, finding_clearAt]

theorem cases_clearAt (kept : (n.clearAt id name).valuesIn.keys = n.valuesIn.keys) :
    cases (n.clearAt id name) = cases n := by
  simp only [cases, Node.config?, Node.configuration_clearAt, Node.op_clearAt, Node.flowsOut_clearAt,
    contains_clearAt id name n kept, finding_clearAt]

theorem reference_clearAt {α : Type} (parameter : String) (table : Array α) (kind : FindingKind) :
    reference (n.clearAt id name) parameter table kind = reference n parameter table kind := by
  simp only [reference, Node.config?, Node.configuration_clearAt, finding_clearAt]

end Unchanged

section Checks

variable {g : Graph} {id : NodeId} {name : String} {n : Node}

/-- A node index that is no constant passes. -/
theorem pointer_clearAt (passes : pointer n = []) : pointer (n.clearAt id name) = [] := by
  simp only [pointer, tokensOf_clearAt, finding_clearAt, List.flatMap_eq_nil_iff] at passes ⊢
  intro token listed
  have passes := passes token listed
  rcases n.valueIn?_clearAt id name token with same | ⟨restriction, cleared⟩
  · rw [same]
    exact passes
  · rw [cleared]
    exact ite_self _

theorem special_clearInput (kept : (n.clearAt id name).valuesIn.keys = n.valuesIn.keys)
    (passes : special g n = []) : special (g.clearInput id name) (n.clearAt id name) = [] := by
  unfold special at passes ⊢
  split at passes
  all_goals simp only [Node.op_clearAt, *]
  · exact pointer_clearAt passes
  · exact pointer_clearAt passes
  · exact (reference_clearAt ..).trans passes
  · exact (reference_clearAt ..).trans passes
  · exact (reference_clearAt ..).trans passes
  · exact (reference_clearAt ..).trans passes
  · exact (message_clearAt _ _ _ kept).trans passes
  · exact (cases_clearAt _ _ _ kept).trans passes
  · exact (cases_clearAt _ _ _ kept).trans passes

/-- A node in order has nothing found but at its cleared input. -/
theorem node_clearInput (kept : (n.clearAt id name).valuesIn.keys = n.valuesIn.keys) (passes : node g n = []) :
    node (g.clearInput id name) (n.clearAt id name) = valueInputs (g.clearInput id name) (n.clearAt id name) := by
  simp only [node, List.append_eq_nil_iff] at passes
  obtain ⟨⟨⟨⟨configured, declared⟩, _⟩, flows⟩, special⟩ := passes
  rw [node, configuration_clearAt, configured, sockets_clearInput g id name n kept, declared,
    flowOutputs_clearInput, flows, special_clearInput kept special]
  simp only [List.nil_append, List.append_nil]

end Checks

section Cause

variable {g : Graph} {n : Node} {name : String} {input : ValueInput}

/-- A node in order that keeps what feeds it stays in order. -/
theorem node_clearInput_of_ne {id : NodeId} (other : n.index ≠ id) (passes : node g n = []) :
    node (g.clearInput id name) (n.clearAt id name) = [] := by
  have same : n.clearAt id name = n := if_neg other
  rw [node_clearInput (by rw [same]) passes, valueInputs, List.flatMap_eq_nil_iff]
  rintro ⟨socket, input⟩ listed
  rw [same] at listed
  exact valueInput_clearInput (valueInput_eq_nil passes (Dict.find?_of_mem_entries listed))

/-- All that is found at the node is that nothing feeds the cleared input. -/
theorem node_clearInput_self (passes : node g n = []) (found : n.valueIn? name = some input) :
    node (g.clearInput n.index name) (n.clearAt n.index name) =
      [finding n name .danglingInput "input has neither a literal nor a connection"] := by
  have here : n.clearAt n.index name = n.clearInput name := if_pos rfl
  have kept : (n.clearAt n.index name).valuesIn.keys = n.valuesIn.keys := by
    rw [here]
    exact Dict.keys_update found _
  obtain ⟨before, after, split, cleared⟩ :=
    Dict.split_update found fun old => { old.getD {} with literal := none, source := none }
  have entries : (n.clearAt n.index name).valuesIn.entries =
      before ++ (name, { input with literal := none, source := none }) :: after := by
    rw [here]
    exact cleared
  have rest {e : String × ValueInput} (listed : e ∈ n.valuesIn.entries) :
      valueInput (g.clearInput n.index name) (n.clearAt n.index name) e.1 e.2 = [] :=
    valueInput_clearInput (valueInput_eq_nil passes (Dict.find?_of_mem_entries listed))
  have first : before.flatMap (fun e =>
      valueInput (g.clearInput n.index name) (n.clearAt n.index name) e.1 e.2) = [] :=
    List.flatMap_eq_nil_iff.2 fun e listed => rest (split ▸ List.mem_append_left _ listed)
  have last : after.flatMap (fun e =>
      valueInput (g.clearInput n.index name) (n.clearAt n.index name) e.1 e.2) = [] :=
    List.flatMap_eq_nil_iff.2 fun e listed =>
      rest (split ▸ List.mem_append_right _ (List.mem_cons_of_mem _ listed))
  rw [node_clearInput kept passes, valueInputs, entries, List.flatMap_append, List.flatMap_cons, first, last,
    List.nil_append, List.append_nil]
  simp only [valueInput, finding_clearAt]

end Cause

end Validation

namespace Graph

/-- The nodes before and after one have other identities. -/
theorem Sorted.split {g : Graph} (sorted : g.Sorted) {n : Node} (member : n ∈ g.nodes) :
    ∃ before after, g.nodes.toList = before ++ n :: after ∧ (∀ m ∈ before, m.index ≠ n.index) ∧
      ∀ m ∈ after, m.index ≠ n.index := by
  obtain ⟨before, after, nodes⟩ := List.append_of_mem (Array.mem_toList_iff.2 member)
  rw [Sorted, nodes] at sorted
  obtain ⟨_, behind, across⟩ := List.pairwise_append.1 sorted
  refine ⟨before, after, nodes, fun m first same => ?_, fun m last same => ?_⟩
  · exact absurd (across m first n List.mem_cons_self) (by rw [same]; exact lt_irrefl _)
  · exact absurd ((List.pairwise_cons.1 behind).1 m last) (by rw [same]; exact lt_irrefl _)

/-- One cause, one finding: a graph without findings that loses what feeds one input has one finding, at that
input. -/
theorem findings_clearInput {g : Graph} (sorted : g.Sorted) (clean : g.validate.isClean = true) {n : Node}
    (member : n ∈ g.nodes) {name : String} {input : ValueInput} (found : n.valueIn? name = some input) :
    (g.clearInput n.index name).validate.findings =
      [{ node := n.index, op := n.op, socket := some name, kind := .danglingInput,
         message := "input has neither a literal nor a connection" }] := by
  have passes := isClean_validate_iff.1 clean
  obtain ⟨before, after, nodes, first, last⟩ := sorted.split member
  have listed {m : Node} (inside : m ∈ before ++ n :: after) : Validation.node g m = [] :=
    passes m (Array.mem_toList_iff.1 (nodes ▸ inside))
  have cleared : (g.clearInput n.index name).nodes.toList =
      before.map (Node.clearAt n.index name) ++
        n.clearAt n.index name :: after.map (Node.clearAt n.index name) := by
    rw [clearInput, Array.toList_map, nodes, List.map_append, List.map_cons]
  have silentBefore : (before.map (Node.clearAt n.index name)).flatMap
      (Validation.node (g.clearInput n.index name)) = [] := by
    rw [List.flatMap_map, List.flatMap_eq_nil_iff]
    exact fun m inside =>
      Validation.node_clearInput_of_ne (first m inside) (listed (List.mem_append_left _ inside))
  have silentAfter : (after.map (Node.clearAt n.index name)).flatMap
      (Validation.node (g.clearInput n.index name)) = [] := by
    rw [List.flatMap_map, List.flatMap_eq_nil_iff]
    exact fun m inside => Validation.node_clearInput_of_ne (last m inside)
      (listed (List.mem_append_right _ (List.mem_cons_of_mem _ inside)))
  have here := Validation.node_clearInput_self (listed (List.mem_append_right _ List.mem_cons_self)) found
  simp only [validate, cleared, List.flatMap_append, List.flatMap_cons, silentBefore, silentAfter, here,
    List.nil_append, List.append_nil, Validation.finding]

/-- Three negations in a row behind a constant. -/
def row : Graph :=
  let negation (n : Nat) (f : ValueInput → ValueInput) : Node := (Node.new (.ofNat n) .mathNeg).changeInput "a" f
  { nodes := #[negation 0 (·.holding (.int 3)), negation 1 (·.fedBy ⟨.ofNat 0, "value"⟩),
      negation 2 (·.fedBy ⟨.ofNat 1, "value"⟩)] }

/-- The row loses its constant: nothing is found at the other negations. -/
theorem row_findings_clearInput :
    row.Sorted ∧ row.validate.isClean = true ∧
      (row.clearInput (.ofNat 0) "a").validate.findings =
        [{ node := .ofNat 0, op := .mathNeg, socket := some "a", kind := .danglingInput,
           message := "input has neither a literal nor a connection" }] := by
  have sorted : row.Sorted := by simp [Sorted, row, Node.new, Node.changeInput]; decide
  have clean : row.validate.isClean = true := by cbv
  have first : row.nodes[0]? = some ((Node.new (.ofNat 0) .mathNeg).changeInput "a" (·.holding (.int 3))) := rfl
  have found : ((Node.new (.ofNat 0) .mathNeg).changeInput "a" (·.holding (.int 3))).valueIn? "a" =
      some (({} : ValueInput).holding (.int 3)) := by cbv
  exact ⟨sorted, clean, findings_clearInput sorted clean (Array.mem_of_getElem? first) found⟩

end Graph

end ScriptGraph
