import Mathlib
import ScriptGraph.Source.Loop

/-!
The names that source writes.

Source conforms if its identifiers carry names, its assignments use operators that write and stand where assignments
are expected, and its parameters are of known types. Of such source the scan for written names misses no target.
-/

namespace ScriptGraph

namespace Expression

mutual

/-- Identifiers carry names, and assignments use operators that write. -/
def conforms : Expression → Bool
  | ⟨kind, name, _, _, _, _, operator, children⟩ =>
    (kind ≠ .identifier || name.isSome) && (kind ≠ .assignment || writeOperators.contains (operator.getD "")) &&
      conformsAll children

/-- All expressions of a list conform. -/
def conformsAll : List Expression → Bool
  | [] => true
  | e :: es => conforms e && conformsAll es

end

theorem conforms_eq (e : Expression) : e.conforms =
    ((e.kind ≠ .identifier || e.name.isSome) &&
      (e.kind ≠ .assignment || writeOperators.contains e.operatorToken) && conformsAll e.children) := by
  cases e
  rw [conforms]
  rfl

theorem conforms_of_mem {e : Expression} {es : List Expression} (conforms : conformsAll es = true) (member : e ∈ es) :
    e.conforms = true := by
  induction es with
  | nil => cases member
  | cons head rest ih =>
    rw [conformsAll, Bool.and_eq_true] at conforms
    rcases List.mem_cons.1 member with rfl | later
    · exact conforms.1
    · exact ih conforms.2 later

theorem conforms_unwrapped {e : Expression} (conforms : e.conforms = true) : e.unwrapped.conforms = true := by
  fun_induction unwrapped e with
  | case1 _ _ _ _ _ _ inner rest ih =>
    rw [conforms_eq] at conforms
    simp only [Bool.and_eq_true] at conforms
    exact ih (conforms_of_mem conforms.2 List.mem_cons_self)
  | case2 => exact conforms

theorem assignedNames_eq (e : Expression) : e.assignedNames =
    (if e.isWrite && writeOperators.contains e.operatorToken then e.firstName?.toList else []) ++
      assignedNamesAll e.children := by
  cases e
  rw [assignedNames]

theorem changedNames_eq (e : Expression) : e.changedNames =
    (if e.isWrite || e.kind = .methodInvocation then e.firstName?.toList else []) ++ changedNamesAll e.children := by
  cases e
  rw [changedNames]

theorem assignedNamesAll_append (es es' : List Expression) :
    assignedNamesAll (es ++ es') = assignedNamesAll es ++ assignedNamesAll es' := by
  induction es with
  | nil => rfl
  | cons e es ih => rw [List.cons_append, assignedNamesAll, assignedNamesAll, ih, List.append_assoc]

theorem assignedNames_subset_of_mem {e : Expression} {es : List Expression} (member : e ∈ es) :
    e.assignedNames ⊆ assignedNamesAll es := by
  induction es with
  | nil => cases member
  | cons head rest ih =>
    rw [assignedNamesAll]
    rcases List.mem_cons.1 member with rfl | later
    · exact List.subset_append_left _ _
    · exact fun _ name => List.mem_append_right _ (ih later name)

theorem assignedNames_unwrapped_subset (e : Expression) : e.unwrapped.assignedNames ⊆ e.assignedNames := by
  fun_induction unwrapped e with
  | case1 _ _ _ _ _ _ inner rest ih =>
    intro name member
    rw [assignedNames_eq]
    exact List.mem_append_right _ (assignedNames_subset_of_mem List.mem_cons_self (ih member))
  | case2 => exact List.Subset.refl _

/-- What is written may change. -/
theorem assignedNamesAll_subset_changedNamesAll : ∀ es : List Expression, assignedNamesAll es ⊆ changedNamesAll es
  | [] => List.Subset.refl _
  | e :: es => by
    have inside : assignedNamesAll e.children ⊆ changedNamesAll e.children :=
      assignedNamesAll_subset_changedNamesAll e.children
    have later : assignedNamesAll es ⊆ changedNamesAll es := assignedNamesAll_subset_changedNamesAll es
    intro name member
    rw [assignedNamesAll, assignedNames_eq, List.mem_append, List.mem_append] at member
    rw [changedNamesAll, changedNames_eq, List.mem_append, List.mem_append]
    refine member.imp (Or.imp (fun own => ?_) fun deeper => inside deeper) fun other => later other
    split at own
    · next writes =>
      rw [Bool.and_eq_true] at writes
      rw [writes.1, Bool.true_or, if_pos rfl]
      exact own
    · cases own
termination_by es => sizeAll es
decreasing_by
  · have := size_eq e
    rw [sizeAll]
    omega
  · have := size_eq e
    rw [sizeAll]
    omega

theorem contains_operator {e : Expression} (conforms : e.conforms = true) (kind : e.kind = .assignment) :
    writeOperators.contains e.operatorToken = true := by
  rw [conforms_eq, kind] at conforms
  simp only [Bool.and_eq_true] at conforms
  simpa using conforms.1.2

/-- The target of a write that conforms is one of the names that are written. -/
theorem name_mem_assignedNames {e target : Expression} {rest : List Expression} (conforms : e.conforms = true)
    (writes : e.isWrite = true) (operator : writeOperators.contains e.operatorToken = true)
    (children : e.children = target :: rest) (plain : target.unwrapped.kind = .identifier) :
    target.unwrapped.name.getD "" ∈ e.assignedNames := by
  have inside : target.unwrapped.conforms = true := by
    rw [conforms_eq, children, conformsAll] at conforms
    simp only [Bool.and_eq_true] at conforms
    exact conforms_unwrapped conforms.2.1
  obtain ⟨name, named⟩ : ∃ name, target.unwrapped.name = some name := by
    rw [conforms_eq, plain] at inside
    simp only [Bool.and_eq_true] at inside
    exact Option.isSome_iff_exists.1 (by simpa using inside.1.1)
  have first : e.firstName? = some name := by
    rw [firstName?, child?, children]
    show target.plainName? = some name
    rw [plainName?, if_pos plain, named]
  rw [assignedNames_eq, writes, operator, first, named]
  exact List.mem_append_left _ List.mem_cons_self

end Expression

namespace Statement

mutual

/-- Assignment statements hold assignments, and all expressions conform. -/
def conforms : Statement → Bool
  | ⟨kind, children, expressions⟩ =>
    (kind ≠ .assignment || expressions.head?.all (·.kind = .assignment)) && Expression.conformsAll expressions &&
      conformsAll children

/-- All statements of a list conform. -/
def conformsAll : List Statement → Bool
  | [] => true
  | s :: ss => conforms s && conformsAll ss

end

theorem conforms_eq (s : Statement) : s.conforms =
    ((s.kind ≠ .assignment || s.expression?.all (·.kind = .assignment)) && Expression.conformsAll s.expressions &&
      conformsAll s.children) := by
  cases s
  rw [conforms]
  rfl

theorem conformsAll_iff {block : List Statement} : conformsAll block = true ↔ ∀ s ∈ block, s.conforms = true := by
  induction block with
  | nil => simp [conformsAll]
  | cons s rest ih => rw [conformsAll, Bool.and_eq_true, ih, List.forall_mem_cons]

theorem conforms_children {s : Statement} (conforms : s.conforms = true) : conformsAll s.children = true := by
  rw [conforms_eq] at conforms
  simp only [Bool.and_eq_true] at conforms
  exact conforms.2

theorem conforms_expression {s : Statement} {e : Expression} (conforms : s.conforms = true)
    (found : s.expression? = some e) : e.conforms = true := by
  rw [conforms_eq] at conforms
  simp only [Bool.and_eq_true] at conforms
  exact Expression.conforms_of_mem conforms.1.2 (List.mem_of_mem_head? found)

theorem allExpressionsIn_singleton (s : Statement) : allExpressionsIn [s] = s.expressions ++ allExpressionsIn s.children := by
  cases s
  rw [allExpressionsIn, allExpressions, allExpressionsIn, List.append_nil]

theorem assignedNames_cons (s : Statement) (rest : List Statement) :
    assignedNames (s :: rest) = assignedNames [s] ++ assignedNames rest := by
  rw [assignedNames, allExpressionsIn, Expression.assignedNamesAll_append, assignedNames, allExpressionsIn,
    allExpressionsIn, List.append_nil, assignedNames]

theorem mem_assignedNames {block : List Statement} {name : String} :
    name ∈ assignedNames block ↔ ∃ s ∈ block, name ∈ assignedNames [s] := by
  induction block with
  | nil => simp [assignedNames, allExpressionsIn, Expression.assignedNamesAll]
  | cons s rest ih =>
    rw [assignedNames_cons, List.mem_append, ih]
    simp only [List.mem_cons, exists_eq_or_imp]

theorem assignedNames_mono {block block' : List Statement} (sub : block ⊆ block') :
    assignedNames block ⊆ assignedNames block' := by
  intro name member
  obtain ⟨s, inside, writes⟩ := mem_assignedNames.1 member
  exact mem_assignedNames.2 ⟨s, sub inside, writes⟩

theorem assignedNames_children (s : Statement) : assignedNames s.children ⊆ assignedNames [s] := by
  intro name member
  rw [assignedNames, allExpressionsIn_singleton, Expression.assignedNamesAll_append]
  exact List.mem_append_right _ member

theorem assignedNames_expression {s : Statement} {e : Expression} (found : s.expression? = some e) :
    e.assignedNames ⊆ assignedNames [s] := by
  intro name member
  rw [assignedNames, allExpressionsIn_singleton, Expression.assignedNamesAll_append]
  exact List.mem_append_left _ (Expression.assignedNames_subset_of_mem (List.mem_of_mem_head? found) member)

theorem assignedNames_subset_changedNames (block : List Statement) : assignedNames block ⊆ changedNames block :=
  Expression.assignedNamesAll_subset_changedNamesAll _

end Statement

theorem CountingLoop.body_eq {s : Statement} {l : CountingLoop} (found : ofStatement? s = some l) :
    l.body = bodyOf s := by
  unfold ofStatement? at found
  simp only [Option.bind_eq_bind, Option.bind_eq_some_iff] at found
  obtain ⟨_, _, _, _, _, _, _, _, _, _, found⟩ := found
  split at found
  · simp only [Option.bind_eq_some_iff] at found
    obtain ⟨_, _, _, _, _, _, _, _, made⟩ := found
    cases made
    rfl
  · cases found

/-- Names are carried, assignments write, and parameters are of known types. -/
def Method.conforms (method : Method) : Bool :=
  method.parameters.all (·.paramType.storageType?.isSome) && Statement.conformsAll method.body

/-- All methods conform. -/
def ScriptClass.conforms (c : ScriptClass) : Bool := c.methods.all (·.conforms)

end ScriptGraph
