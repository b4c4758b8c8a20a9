import ScriptGraph.Source.Syntax

/-!
The size of expressions and statements, by which recursion over source ends.
-/

namespace ScriptGraph

namespace Expression

mutual

/-- The number of expressions in an expression, itself included. -/
def size : Expression → Nat
  | ⟨_, _, _, _, _, _, _, children⟩ => 1 + sizeAll children

/-- The number of expressions in a list of expressions. -/
def sizeAll : List Expression → Nat
  | [] => 0
  | e :: es => size e + sizeAll es

end

theorem size_eq (e : Expression) : e.size = 1 + sizeAll e.children := by
  cases e; rw [size]

theorem size_le_sizeAll {e : Expression} {es : List Expression} (member : e ∈ es) :
    e.size ≤ sizeAll es := by
  induction es with
  | nil => cases member
  | cons head rest ih =>
    rw [sizeAll]
    rcases List.mem_cons.1 member with rfl | later
    · omega
    · have := ih later; omega

theorem size_lt_of_mem {e child : Expression} (member : child ∈ e.children) :
    child.size < e.size := by
  have := size_le_sizeAll member
  rw [size_eq e]
  omega

theorem size_unwrapped_le (e : Expression) : e.unwrapped.size ≤ e.size := by
  fun_induction unwrapped e with
  | case1 _ _ _ _ _ _ inner rest ih =>
    have : inner.size ≤ sizeAll (inner :: rest) := size_le_sizeAll List.mem_cons_self
    rw [size]
    omega
  | case2 => exact Nat.le_refl _

end Expression

namespace Statement

mutual

/-- The number of statements in a statement, itself included. -/
def size : Statement → Nat
  | ⟨_, children, _⟩ => 1 + sizeAll children

/-- The number of statements in a list of statements. -/
def sizeAll : List Statement → Nat
  | [] => 0
  | s :: ss => size s + sizeAll ss

end

theorem size_eq (s : Statement) : s.size = 1 + sizeAll s.children := by
  cases s; rw [size]

theorem size_pos (s : Statement) : 0 < s.size := by
  rw [size_eq]; omega

theorem size_le_sizeAll {s : Statement} {ss : List Statement} (member : s ∈ ss) :
    s.size ≤ sizeAll ss := by
  induction ss with
  | nil => cases member
  | cons head rest ih =>
    rw [sizeAll]
    rcases List.mem_cons.1 member with rfl | later
    · omega
    · have := ih later; omega

theorem sizeAll_children_lt (s : Statement) : sizeAll s.children < s.size := by
  rw [size_eq]; omega

theorem sizeAll_child_lt {s child : Statement} {kind : StatementKind}
    (found : s.child? kind = some child) : sizeAll child.children < s.size := by
  have inside := size_le_sizeAll (List.mem_of_find?_eq_some found)
  have own := sizeAll_children_lt child
  rw [size_eq s]
  omega

theorem sizeAll_dropWhile_le (p : Statement → Bool) (ss : List Statement) :
    sizeAll (ss.dropWhile p) ≤ sizeAll ss := by
  induction ss with
  | nil => exact Nat.le_refl _
  | cons head rest ih =>
    rw [List.dropWhile_cons, sizeAll]
    split
    · omega
    · simp [sizeAll]

end Statement

end ScriptGraph
