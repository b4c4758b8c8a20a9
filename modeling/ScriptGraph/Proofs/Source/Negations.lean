import Mathlib
import ScriptGraph.Source.Constant

/-!
Whole numbers behind minus signs.

The innermost minus negates the number that is written, which may be too large for 32 bits by one; every further one
negates a number of 32 bits. So the lowest number can be written with one minus and is refused behind any other
number of them, and nothing wraps around.
-/

namespace ScriptGraph

theorem fitsInt32_iff {n : ℤ} : fitsInt32 n = true ↔ -2 ^ 31 ≤ n ∧ n < 2 ^ 31 := by
  rw [fitsInt32, Bool.and_eq_true, decide_eq_true_iff, decide_eq_true_iff]
  norm_num

/-- A number that fits is narrowed to itself. -/
theorem Constant.toLiteral?_of_fits {n : ℤ} (fits : -2 ^ 31 ≤ n ∧ n < 2 ^ 31) :
    ∃ value : Int32, value.toInt = n ∧ (Constant.int n).toLiteral? (some .int) = some (.int value) := by
  refine ⟨.ofInt n, Int32.toInt_ofInt_of_le fits.1 fits.2, ?_⟩
  rw [toLiteral?, toLiteral, if_neg (by decide), if_pos (fitsInt32_iff.2 fits)]
  rfl

theorem Constant.toLiteral?_of_not_fits {n : ℤ} (large : ¬ (-2 ^ 31 ≤ n ∧ n < 2 ^ 31)) :
    (Constant.int n).toLiteral? (some .int) = none := by
  rw [toLiteral?, toLiteral, if_neg (by decide), if_neg (mt fitsInt32_iff.1 large)]
  rfl

theorem Literal.negate?_int {value : Int32} (other : value.toInt ≠ -2 ^ 31) :
    ∃ negative : Int32, negative.toInt = -value.toInt ∧ negate? (.int value) = some (.int negative) := by
  have notLowest : value ≠ Int32.minValue := fun same => other (same ▸ Int32.toInt_minValue)
  have low := value.le_toInt
  have high := value.toInt_lt
  refine ⟨-value, ?_, if_neg notLowest⟩
  rw [Int32.toInt_neg]
  exact Int.bmod_eq_of_le (by norm_num; omega) (by norm_num; omega)

theorem Literal.negate?_lowest {value : Int32} (lowest : value.toInt = -2 ^ 31) : negate? (.int value) = none :=
  if_pos (Int32.toInt_inj.1 (lowest.trans Int32.toInt_minValue.symm))

namespace Expression

/-- A whole number is written behind some minus signs, with any parentheses around it and around what is negated. -/
inductive Signed (number : ℤ) : ℕ → Expression → Prop
  | literal {e : Expression} (kind : e.kind = .literal) (value : e.literal = some (.int number)) : Signed number 0 e
  | parenthesized {e inner : Expression} {others : List Expression} {signs : ℕ} (kind : e.kind = .parenthesized)
      (children : e.children = inner :: others) (inside : Signed number signs inner) : Signed number signs e
  | minus {e operand : Expression} {others : List Expression} {signs : ℕ}
      (kind : e.kind = .unary ∨ e.kind = .prefixUnary) (operator : e.operator = some "-")
      (children : e.children = operand :: others) (negated : Signed number signs operand) :
      Signed number (signs + 1) e

/-- Whether a number can be written behind so many minus signs. -/
def Writable (number : ℤ) (signs : ℕ) : Prop :=
  (signs = 0 ∧ -2 ^ 31 ≤ number ∧ number < 2 ^ 31) ∨
    (1 ≤ signs ∧ (-2 ^ 31 ≤ -number ∧ -number < 2 ^ 31) ∧ (signs = 1 ∨ -number ≠ -2 ^ 31))

instance (number : ℤ) (signs : ℕ) : Decidable (Writable number signs) :=
  inferInstanceAs (Decidable (_ ∨ _))

theorem writable_zero {number : ℤ} : Writable number 0 ↔ -2 ^ 31 ≤ number ∧ number < 2 ^ 31 := by
  simp [Writable]

theorem writable_one {number : ℤ} : Writable number 1 ↔ -2 ^ 31 ≤ -number ∧ -number < 2 ^ 31 := by
  simp [Writable]

/-- After the first minus, a number with one more can be written unless it is the lowest. -/
theorem writable_add_two {number : ℤ} {signs : ℕ} :
    Writable number (signs + 2) ↔ Writable number (signs + 1) ∧ (-1) ^ (signs + 1) * number ≠ -2 ^ 31 := by
  rcases Nat.eq_zero_or_pos signs with rfl | positive
  · simp [Writable]
  · have sign : (-1 : ℤ) ^ (signs + 1) * number = number ∨ (-1 : ℤ) ^ (signs + 1) * number = -number := by
      rcases neg_one_pow_eq_or ℤ (signs + 1) with one | minusOne
      · exact .inl (by rw [one, one_mul])
      · exact .inr (by rw [minusOne, neg_one_mul])
    simp only [Writable]
    omega

section Steps

variable {e inner operand : Expression} {others : List Expression} {expected : Option ValueType}

theorem constant?_literal {number : ℤ} (kind : e.kind = .literal) (value : e.literal = some (.int number)) :
    e.constant? (some .int) = (Constant.int number).toLiteral? (some .int) := by
  obtain ⟨kind', _, _, _, _, literal, _, _⟩ := e
  obtain rfl : kind' = .literal := kind
  obtain rfl : literal = some (.int number) := value
  rfl

theorem constant?_parenthesized (kind : e.kind = .parenthesized) (children : e.children = inner :: others) :
    e.constant? expected = inner.constant? expected := by
  obtain ⟨kind', _, _, _, _, _, _, children'⟩ := e
  obtain rfl : kind' = .parenthesized := kind
  obtain rfl : children' = inner :: others := children
  rfl

theorem unwrapped_parenthesized (kind : e.kind = .parenthesized) (children : e.children = inner :: others) :
    e.unwrapped = inner.unwrapped := by
  obtain ⟨kind', _, _, _, _, _, _, children'⟩ := e
  obtain rfl : kind' = .parenthesized := kind
  obtain rfl : children' = inner :: others := children
  rw [unwrapped]

theorem unwrapped_of_ne (other : e.kind ≠ .parenthesized) : e.unwrapped = e := by
  obtain ⟨kind, _, _, _, _, _, _, _⟩ := e
  cases kind <;> first | rfl | exact absurd rfl other

theorem constant?_minus (kind : e.kind = .unary ∨ e.kind = .prefixUnary) (operator : e.operator = some "-")
    (children : e.children = operand :: others) :
    e.constant? (some .int) =
      match operand.unwrapped.wholeLiteral? with
      | some i => if i = -0x8000000000000000 then none else (Constant.int (-i)).toLiteral? (some .int)
      | none => (operand.constant? (some .int)).bind Literal.negate? := by
  obtain ⟨kind', _, _, _, _, _, operator', children'⟩ := e
  obtain rfl : operator' = some "-" := operator
  obtain rfl : children' = operand :: others := children
  rcases kind with rfl | rfl
  all_goals
    rw [constant?, if_pos rfl]
    rfl

end Steps

/-- What is written without a sign is a literal behind its parentheses; what has a sign is none. -/
theorem Signed.wholeLiteral?_unwrapped {number : ℤ} {signs : ℕ} {e : Expression} (signed : Signed number signs e) :
    e.unwrapped.wholeLiteral? = if signs = 0 then some number else none := by
  induction signed with
  | literal kind value => rw [unwrapped_of_ne (by simp [kind]), wholeLiteral?, kind, value, if_pos rfl]
  | parenthesized kind children _ ih => rw [unwrapped_parenthesized kind children, ih]
  | minus kind operator children _ _ =>
    rw [unwrapped_of_ne (by rcases kind with kind | kind <;> simp [kind]), wholeLiteral?, if_neg (Nat.succ_ne_zero _)]
    rcases kind with kind | kind <;> rw [kind]

/-- The first minus is applied before the number is narrowed. -/
theorem constant?_minus_literal {number : ℤ} {e operand : Expression} {others : List Expression}
    (kind : e.kind = .unary ∨ e.kind = .prefixUnary) (operator : e.operator = some "-")
    (children : e.children = operand :: others) (signed : Signed number 0 operand) :
    e.constant? (some .int) = (Constant.int (-number)).toLiteral? (some .int) := by
  rw [constant?_minus kind operator children, signed.wholeLiteral?_unwrapped, if_pos rfl]
  dsimp only
  split
  · next lowest =>
    refine (Constant.toLiteral?_of_not_fits fun fits => ?_).symm
    rw [lowest] at fits
    norm_num at fits
  · rfl

/-- A further minus is applied to a number of 32 bits. -/
theorem constant?_minus_signed {number : ℤ} {signs : ℕ} {e operand : Expression} {others : List Expression}
    (kind : e.kind = .unary ∨ e.kind = .prefixUnary) (operator : e.operator = some "-")
    (children : e.children = operand :: others) (signed : Signed number (signs + 1) operand) :
    e.constant? (some .int) = (operand.constant? (some .int)).bind Literal.negate? := by
  rw [constant?_minus kind operator children, signed.wholeLiteral?_unwrapped, if_neg (Nat.succ_ne_zero _)]

/-- A number behind minus signs is a constant exactly if it can be written so, and then it is the number with its
sign: nothing wraps around. -/
theorem constant?_signed {number : ℤ} {signs : ℕ} {e : Expression} (signed : Signed number signs e) :
    (Writable number signs →
      ∃ value : Int32, value.toInt = (-1) ^ signs * number ∧ e.constant? (some .int) = some (.int value)) ∧
    (¬ Writable number signs → e.constant? (some .int) = none) := by
  induction signed with
  | literal kind value =>
    rw [writable_zero, constant?_literal kind value, pow_zero, one_mul]
    exact ⟨Constant.toLiteral?_of_fits, Constant.toLiteral?_of_not_fits⟩
  | parenthesized kind children _ ih =>
    rw [constant?_parenthesized kind children]
    exact ih
  | @minus e operand others signs kind operator children negated ih =>
    cases signs with
    | zero =>
      rw [writable_one, constant?_minus_literal kind operator children negated, zero_add, pow_one, neg_one_mul]
      exact ⟨Constant.toLiteral?_of_fits, Constant.toLiteral?_of_not_fits⟩
    | succ signs =>
      rw [writable_add_two, constant?_minus_signed kind operator children negated]
      by_cases writable : Writable number (signs + 1)
      · obtain ⟨value, exact, found⟩ := ih.1 writable
        rw [found, Option.bind_some, ← exact]
        refine ⟨fun further => ?_, fun none => ?_⟩
        · obtain ⟨negative, opposite, negated⟩ := Literal.negate?_int further.2
          exact ⟨negative, by rw [opposite, exact, pow_succ _ (signs + 1)]; ring, negated⟩
        · exact Literal.negate?_lowest (not_not.1 fun other => none ⟨writable, other⟩)
      · rw [ih.2 writable]
        exact ⟨fun further => absurd further.1 writable, fun _ => rfl⟩

end Expression

namespace Lowest

/-- A minus before an expression. -/
def minus (operand : Expression) : Expression := { kind := .prefixUnary, operator := some "-", children := [operand] }

/-- The magnitude of the lowest number, in parentheses. -/
def magnitude : Expression :=
  { kind := .parenthesized, children := [{ kind := .literal, literal := some (.int 0x80000000) }] }

theorem signed_magnitude : Expression.Signed 0x80000000 0 magnitude :=
  .parenthesized rfl rfl (.literal rfl rfl)

theorem signed_minus {number : ℤ} {signs : ℕ} {e : Expression} (signed : Expression.Signed number signs e) :
    Expression.Signed number (signs + 1) (minus e) :=
  .minus (.inr rfl) rfl rfl signed

/-- The lowest number is written with one minus, and with no other number of them. -/
theorem lowest_signed :
    magnitude.constant? (some .int) = none ∧
      (∃ value : Int32, value.toInt = -0x80000000 ∧ (minus magnitude).constant? (some .int) = some (.int value)) ∧
      (minus (minus magnitude)).constant? (some .int) = none := by
  have once := (Expression.constant?_signed (signed_minus signed_magnitude)).1 (by decide)
  refine ⟨(Expression.constant?_signed signed_magnitude).2 (by decide), ?_,
    (Expression.constant?_signed (signed_minus (signed_minus signed_magnitude))).2 (by decide)⟩
  simpa using once

end Lowest

end ScriptGraph
