import Mathlib
import ScriptGraph.Lower.Call

/-!
Source whose expressions have the operands that lowering takes for granted.

A binary expression, an element access and most calls are noted when operands are missing. Other expressions are
lowered on the understanding that their operands are there.
-/

namespace ScriptGraph

/-- How many children an access to the member takes for granted: a component needs its vector. -/
def HostProperty.leastChildren : HostProperty → Nat
  | component _ | normalized | magnitude => 1
  | _ => 0

/-- How many children a call of the method takes for granted, its receiver included. -/
def HostMethod.leastChildren : HostMethod → Nat
  | quaternionInverse | setActive | lookAt => 2
  | setPositionAndRotation => 3
  | _ => 0

namespace Expression

/-- How many children are taken for granted. -/
def leastChildren (e : Expression) : Nat :=
  match e.kind with
  | .await | .cast | .unary | .prefixUnary => 1
  | .memberAccess => (e.member.bind HostProperty.recognize?).elim 0 HostProperty.leastChildren
  | .methodInvocation => (e.method.bind HostMethod.recognize?).elim 0 HostMethod.leastChildren
  | _ => 0

mutual

/-- All operands that are taken for granted are there, at any depth. -/
def complete : Expression → Bool
  | ⟨kind, name, resultType, method, member, literal, operator, children⟩ =>
    leastChildren ⟨kind, name, resultType, method, member, literal, operator, children⟩ ≤ children.length &&
      completeAll children

/-- All expressions of a list are complete. -/
def completeAll : List Expression → Bool
  | [] => true
  | e :: es => complete e && completeAll es

end

theorem complete_eq (e : Expression) :
    e.complete = (decide (e.leastChildren ≤ e.children.length) && completeAll e.children) := by
  cases e
  rw [complete]

theorem completeAll_iff {es : List Expression} : completeAll es = true ↔ ∀ e ∈ es, e.complete = true := by
  induction es with
  | nil => simp [completeAll]
  | cons e es ih => rw [completeAll, Bool.and_eq_true, ih, List.forall_mem_cons]

theorem length_of_complete {e : Expression} (complete : e.complete = true) : e.leastChildren ≤ e.children.length := by
  rw [complete_eq, Bool.and_eq_true, decide_eq_true_iff] at complete
  exact complete.1

theorem complete_of_mem {e child : Expression} (complete : e.complete = true) (member : child ∈ e.children) :
    child.complete = true := by
  rw [complete_eq, Bool.and_eq_true] at complete
  exact completeAll_iff.1 complete.2 child member

theorem complete_unwrapped {e : Expression} (complete : e.complete = true) : e.unwrapped.complete = true := by
  fun_induction unwrapped e with
  | case1 _ _ _ _ _ _ inner rest ih => exact ih (complete_of_mem complete List.mem_cons_self)
  | case2 => exact complete

end Expression

/-- The expressions that are put in place of calls are complete. -/
def ScriptClass.complete (c : ScriptClass) : Bool :=
  c.methods.all fun method => method.returned?.all Expression.complete

end ScriptGraph
