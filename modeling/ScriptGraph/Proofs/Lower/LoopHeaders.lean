import Mathlib
import ScriptGraph.Proofs.Lower.Lockstep.Basic

/-!
What a loop takes from its header.

Of every clause the first entry counts. A header that is cut down to these is recognized as the same loop and lowered
to the same nodes, so entries behind the first one have no effect. Only several declarators are refused.
-/

namespace ScriptGraph

namespace Statement

/-- A clause with its first expression only. -/
def cutClause (clause : Statement) : Statement := { clause with expressions := clause.expressions.take 1 }

/-- An initializer with its first declaration only, or without one with its first expression only. -/
def cutInitializer (clause : Statement) : Statement :=
  match clause.child? .declaration with
  | some declaration => { clause with expressions := [], children := [declaration] }
  | none => { clause.cutClause with children := [] }

/-- The first clause of a kind, cut down. -/
def firstClause (s : Statement) (kind : StatementKind) (cut : Statement → Statement) : List Statement :=
  ((s.child? kind).map cut).toList

/-- A loop whose header has one clause of each kind, each cut down to its first entry. -/
def cutHeader (s : Statement) : Statement :=
  { s with
    children := s.firstClause .forInitializer cutInitializer ++ s.firstClause .forCondition cutClause ++
      s.firstClause .forIncrementor cutClause ++ CountingLoop.bodyOf s }

/-- How many declarators and assignments an initializer holds. -/
def entryCount (clause : Statement) : Nat :=
  ((clause.children.filter (·.kind = .declaration)).flatMap
    (·.children.filter (·.kind = .variableDeclarator))).length + clause.expressions.length

/-- The header has an initializer with one declarator or assignment, and one condition and one incrementor. -/
structure HasOneEach (s : Statement) : Prop where
  initializer : ∃ clause, s.child? .forInitializer = some clause ∧ clause.entryCount = 1
  condition : ∃ clause, s.child? .forCondition = some clause ∧ clause.expressions.length = 1
  incrementor : ∃ clause, s.child? .forIncrementor = some clause ∧ clause.expressions.length = 1

section Cutting

variable (s clause : Statement) {kind : StatementKind} {cut : Statement → Statement}

theorem expression?_cutClause : clause.cutClause.expression? = clause.expression? := by
  rw [expression?, expression?, cutClause, List.head?_take, if_neg Nat.one_ne_zero]

theorem kind_cutClause : clause.cutClause.kind = clause.kind := rfl

theorem cutInitializer_of_declaration {declaration : Statement}
    (found : clause.child? .declaration = some declaration) :
    clause.cutInitializer = { clause with expressions := [], children := [declaration] } := by
  rw [cutInitializer, found]

theorem cutInitializer_of_none (found : clause.child? .declaration = none) :
    clause.cutInitializer = { clause.cutClause with children := [] } := by
  rw [cutInitializer, found]

theorem kind_cutInitializer : clause.cutInitializer.kind = clause.kind := by
  unfold cutInitializer
  split <;> rfl

theorem kind_of_mem_firstClause (keeps : ∀ t, (cut t).kind = t.kind) :
    ∀ t ∈ s.firstClause kind cut, t.kind = kind := by
  intro t member
  obtain ⟨old, found, rfl⟩ := Option.map_eq_some_iff.1 (Option.mem_toList.1 member)
  exact (keeps old).trans (kind_of_child? found)

theorem find?_firstClause (keeps : ∀ t, (cut t).kind = t.kind) :
    (s.firstClause kind cut).find? (·.kind = kind) = (s.child? kind).map cut := by
  cases found : s.child? kind with
  | none => rw [firstClause, found]; rfl
  | some t =>
    have same : (cut t).kind = kind := (keeps t).trans (kind_of_child? found)
    rw [firstClause, found]
    exact List.find?_cons_of_pos (decide_eq_true same)

theorem find?_firstClause_of_ne (keeps : ∀ t, (cut t).kind = t.kind) {other : StatementKind} (ne : kind ≠ other) :
    (s.firstClause kind cut).find? (·.kind = other) = none := by
  refine List.find?_eq_none.2 fun t member => ?_
  rw [s.kind_of_mem_firstClause keeps t member]
  simpa using ne

theorem find?_bodyOf (missing : s.child? kind = none) : (CountingLoop.bodyOf s).find? (·.kind = kind) = none :=
  List.find?_eq_none.2 fun t member =>
    List.find?_eq_none.1 missing t ((List.dropWhile_sublist _).subset member)

/-- A clause of a cut header is the cut clause. -/
theorem child?_of_cut {before after : List Statement} (keeps : ∀ t, (cut t).kind = t.kind)
    (children : s.cutHeader.children = before ++ (s.firstClause kind cut ++ after))
    (earlier : before.find? (·.kind = kind) = none)
    (later : s.child? kind = none → after.find? (·.kind = kind) = none) :
    s.cutHeader.child? kind = (s.child? kind).map cut := by
  rw [child?, children, List.find?_append, earlier, Option.none_or, List.find?_append, s.find?_firstClause keeps]
  cases found : s.child? kind with
  | none => rw [later found]; rfl
  | some t => rfl

theorem child?_forInitializer_cutHeader :
    s.cutHeader.child? .forInitializer = (s.child? .forInitializer).map cutInitializer := by
  have children : s.cutHeader.children =
      [] ++ (s.firstClause .forInitializer cutInitializer ++ (s.firstClause .forCondition cutClause ++
        (s.firstClause .forIncrementor cutClause ++ CountingLoop.bodyOf s))) := by
    simp only [cutHeader, List.append_assoc, List.nil_append]
  refine s.child?_of_cut kind_cutInitializer children rfl fun missing => ?_
  rw [List.find?_append, s.find?_firstClause_of_ne kind_cutClause (by decide), Option.none_or, List.find?_append,
    s.find?_firstClause_of_ne kind_cutClause (by decide), Option.none_or, s.find?_bodyOf missing]

theorem child?_forCondition_cutHeader :
    s.cutHeader.child? .forCondition = (s.child? .forCondition).map cutClause := by
  have children : s.cutHeader.children =
      s.firstClause .forInitializer cutInitializer ++ (s.firstClause .forCondition cutClause ++
        (s.firstClause .forIncrementor cutClause ++ CountingLoop.bodyOf s)) := by
    simp only [cutHeader, List.append_assoc]
  have earlier := s.find?_firstClause_of_ne kind_cutInitializer (by decide : .forInitializer ≠ .forCondition)
  refine s.child?_of_cut kind_cutClause children earlier fun missing => ?_
  rw [List.find?_append, s.find?_firstClause_of_ne kind_cutClause (by decide), Option.none_or, s.find?_bodyOf missing]

theorem child?_forIncrementor_cutHeader :
    s.cutHeader.child? .forIncrementor = (s.child? .forIncrementor).map cutClause := by
  refine s.child?_of_cut kind_cutClause (List.append_assoc ..) ?_ s.find?_bodyOf
  rw [List.find?_append, s.find?_firstClause_of_ne kind_cutInitializer (by decide), Option.none_or,
    s.find?_firstClause_of_ne kind_cutClause (by decide)]

end Cutting

end Statement

namespace CountingLoop

open Statement

variable (s clause : Statement)

/-- The body is what it was. -/
theorem bodyOf_cutHeader : bodyOf s.cutHeader = bodyOf s := by
  have header {kind : StatementKind} {cut : Statement → Statement} (keeps : ∀ t, (cut t).kind = t.kind)
      (belongs : kind = .forInitializer ∨ kind = .forCondition ∨ kind = .forIncrementor) :
      ∀ t ∈ s.firstClause kind cut, isHeader t = true := by
    intro t member
    rcases belongs with rfl | rfl | rfl <;> simp [isHeader, s.kind_of_mem_firstClause keeps t member]
  have front : ∀ t ∈ s.firstClause .forInitializer cutInitializer ++ s.firstClause .forCondition cutClause ++
      s.firstClause .forIncrementor cutClause, isHeader t = true := by
    intro t member
    rcases List.mem_append.1 member with member | last
    · rcases List.mem_append.1 member with first | second
      · exact header kind_cutInitializer (.inl rfl) t first
      · exact header kind_cutClause (.inr (.inl rfl)) t second
    · exact header kind_cutClause (.inr (.inr rfl)) t last
  rw [bodyOf, cutHeader, List.dropWhile_append_of_pos front, bodyOf, List.dropWhile_idempotent]

theorem initializer?_cutInitializer : initializer? clause.cutInitializer = initializer? clause := by
  cases found : clause.child? .declaration with
  | some declaration =>
    have kind : declaration.kind = .declaration := kind_of_child? found
    have again : clause.cutInitializer.child? .declaration = some declaration := by
      rw [clause.cutInitializer_of_declaration found]
      simp [child?, kind]
    rw [initializer?, initializer?, again, found]
  | none =>
    have again : clause.cutInitializer.child? .declaration = none := by
      rw [clause.cutInitializer_of_none found]
      rfl
    have expression : clause.cutInitializer.expression? = clause.expression? := by
      rw [clause.cutInitializer_of_none found]
      exact clause.expression?_cutClause
    rw [initializer?, initializer?, again, found, expression]

theorem step?_cutClause (counter : String) : step? clause.cutClause counter = step? clause counter := by
  rw [step?, step?, clause.expression?_cutClause]

/-- A cut header is that of the same loop. -/
theorem ofStatement?_cutHeader : ofStatement? s.cutHeader = ofStatement? s := by
  simp only [ofStatement?, child?_forInitializer_cutHeader, child?_forCondition_cutHeader,
    child?_forIncrementor_cutHeader, bodyOf_cutHeader, Option.bind_eq_bind, Option.bind_map, Function.comp_def,
    initializer?_cutInitializer, expression?_cutClause, step?_cutClause]

/-- A clause that has an expression has one after it is cut. -/
theorem length_cutClause {e : Expression} (found : clause.expression? = some e) :
    clause.cutClause.expressions.length = 1 := by
  rw [expression?] at found
  cases listed : clause.expressions with
  | nil => simp [listed] at found
  | cons first rest => simp [cutClause, listed]

/-- An initializer that is read has one entry after it is cut. -/
theorem entryCount_cutInitializer {read : String × Expression × Bool} (found : initializer? clause = some read) :
    clause.cutInitializer.entryCount = 1 := by
  rw [initializer?] at found
  cases declares : clause.child? .declaration with
  | some declaration =>
    rw [declares] at found
    dsimp only at found
    -- Several declarators are refused, so that there is one.
    split at found
    · next declarator single =>
      have kind : declaration.kind = .declaration := kind_of_child? declares
      rw [clause.cutInitializer_of_declaration declares]
      simp [entryCount, kind, single]
    · cases found
  | none =>
    rw [declares] at found
    obtain ⟨e, first, _⟩ := Option.bind_eq_some_iff.1 found
    have one := length_cutClause clause first
    rw [clause.cutInitializer_of_none declares]
    simpa [entryCount] using one

/-- What is recognized as a loop has one entry in each clause of its cut header. -/
theorem hasOneEach_cutHeader {l : CountingLoop} (found : ofStatement? s = some l) : s.cutHeader.HasOneEach := by
  simp only [ofStatement?, Option.bind_eq_bind, Option.bind_eq_some_iff] at found
  obtain ⟨start, hasStart, read, reads, test, hasTest, e, tested, _, _, found⟩ := found
  split at found
  · simp only [Option.bind_eq_some_iff] at found
    obtain ⟨_, _, _, _, step, hasStep, _, steps, _⟩ := found
    obtain ⟨_, stepped, _⟩ := Option.bind_eq_some_iff.1 steps
    refine ⟨⟨start.cutInitializer, ?_, entryCount_cutInitializer start reads⟩,
      ⟨test.cutClause, ?_, length_cutClause test tested⟩, ⟨step.cutClause, ?_, length_cutClause step stepped⟩⟩
    · rw [child?_forInitializer_cutHeader, hasStart, Option.map_some]
    · rw [child?_forCondition_cutHeader, hasTest, Option.map_some]
    · rw [child?_forIncrementor_cutHeader, hasStep, Option.map_some]
  · cases found

end CountingLoop

namespace Lower

variable (c : ScriptClass) (inliner : Inliner) (active : List String) {s : Statement}

theorem lowerStatement_of_loop (kind : s.kind = .forLoop) (flow : FlowOut) :
    lowerStatement c inliner active s flow = lowerLoop c inliner active s
      (fun flow => lowerBlock c inliner active (CountingLoop.bodyOf s) (.one flow)) flow := by
  simp only [lowerStatement, statementStep, kind]

/-- A loop is lowered as if only the first entry of each clause were there. -/
theorem lowerStatement_cutHeader (kind : s.kind = .forLoop) (flow : FlowOut) :
    lowerStatement c inliner active s.cutHeader flow = lowerStatement c inliner active s flow := by
  rw [lowerStatement_of_loop c inliner active kind, lowerStatement_of_loop c inliner active (s := s.cutHeader) kind,
    CountingLoop.bodyOf_cutHeader, lowerLoop, lowerLoop, CountingLoop.ofStatement?_cutHeader]

/-- Of a loop that is lowered without a note, one initializer, one condition and one incrementor are used: the first
ones of its header. -/
theorem hasOneEach_of_unnoted (kind : s.kind = .forLoop) (flow : FlowOut) (state : Lowering)
    (unnoted : (lowerStatement c inliner active s flow state).2.notes = state.notes) : s.cutHeader.HasOneEach := by
  cases found : CountingLoop.ofStatement? s with
  | some l => exact CountingLoop.hasOneEach_cutHeader s found
  | none =>
    -- A header that is not read is noted.
    rw [lowerStatement_of_loop c inliner active kind, lowerLoop, found] at unnoted
    have longer : (state.context.diagnostics.entries.push _).toList = state.notes := unnoted
    rw [Array.toList_push] at longer
    exact absurd longer (by simp [Lowering.notes])

end Lower

namespace Pairing

/-- A number that is known by name. -/
def number (name : String) : Expression :=
  { kind := .identifier, name := some name, resultType := some { name := "int" } }

/-- The expression `name++`. -/
def increment (name : String) : Expression :=
  { kind := .postfixUnary, operator := some "++", children := [number name] }

/-- The loop `for (int i = 0; i < 3; ..)` over nothing, with the given incrementors. -/
def loop (incrementors : List Expression) : Statement :=
  let literal (n : Int) : Expression :=
    { kind := .literal, literal := some (.int n), resultType := some { name := "int" } }
  let declarator : Statement :=
    { kind := .variableDeclarator
      expressions := [number "i"]
      children := [{ kind := .initializer, expressions := [literal 0] }] }
  let condition : Expression := { kind := .binary, operator := some "<", children := [number "i", literal 3] }
  { kind := .forLoop
    children := [
      { kind := .forInitializer, children := [{ kind := .declaration, children := [declarator] }] },
      { kind := .forCondition, expressions := [condition] },
      { kind := .forIncrementor, expressions := incrementors }] }

/-- The second incrementor of `i++, pairs++` is lost. -/
example : (loop [increment "i", increment "pairs"]).cutHeader = loop [increment "i"] := rfl

end Pairing

end ScriptGraph
