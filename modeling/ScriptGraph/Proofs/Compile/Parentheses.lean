import Mathlib
import ScriptGraph.Compile
import ScriptGraph.Proofs.Lower.Parentheses.Blocks

/-!
Parentheses are transparent: wherever they are put in the bodies of a class, it compiles the same.
-/

namespace ScriptGraph

namespace ScriptClass

/-- A class compiles the same with parentheses put around expressions in the bodies of its methods. -/
theorem compile_wrappedAs {c c' : ScriptClass} (wrapped : c.WrappedAs c') (options : Options) (targets : Targets) :
    c'.compile options targets = c.compile options targets := by
  have name : c'.name = c.name := by rw [wrapped.shape]
  unfold compile
  rw [Lower.lowerClass_wrapped wrapped, name]

end ScriptClass

namespace Summing

/-- The expression in parentheses. -/
def enclosed (e : Expression) : Expression :=
  { kind := .parenthesized, resultType := e.resultType, children := [e] }

/-- A plain name of a number. -/
def name (n : String) : Expression :=
  { kind := .identifier, name := some n, resultType := some { name := "int" } }

/-- The number zero. -/
def zero : Expression := { kind := .literal, resultType := some { name := "int" }, literal := some (.int 0) }

/-- An operation on two operands. -/
def binary (operator type : String) (a b : Expression) : Expression :=
  { kind := .binary, resultType := some { name := type }, operator := some operator, children := [a, b] }

section Parts

variable (around : Expression → Expression)

/-- The clause `int i = 0`. -/
def initializer : Statement :=
  { kind := .forInitializer
    children := [{ kind := .declaration, children := [
      { kind := .variableDeclarator
        expressions := [name "i"]
        children := [{ kind := .initializer, expressions := [around zero] }] }] }] }

/-- The clause `i < n`. -/
def condition : Statement :=
  { kind := .forCondition, expressions := [around (binary "<" "bool" (around (name "i")) (around (name "n")))] }

/-- The clause `i++`. -/
def incrementor : Statement :=
  { kind := .forIncrementor
    expressions := [around { kind := .postfixUnary, operator := some "++", children := [around (name "i")] }] }

/-- The statement `sum = sum + i`. -/
def addition : Statement :=
  let sum := binary "+" "int" (around (name "sum")) (around (name "i"))
  { kind := .expression
    expressions := [around
      { kind := .assignment, operator := some "=", children := [around (name "sum"), around sum] }] }

/-- A class that sums up the numbers below `n`, with something put around its expressions. -/
def cls : ScriptClass :=
  { name := "Summing"
    fields := [{ name := "n", fieldType := { name := "int" } }, { name := "sum", fieldType := { name := "int" } }]
    methods := [{
      name := "Start"
      body := [
        { kind := .forLoop
          children := [initializer around, condition around, incrementor around, addition around] }] }] }

end Parts

theorem wrappedAs_enclosed {e e' : Expression} (wrapped : e.WrappedAs e') : e.WrappedAs (enclosed e') :=
  .parenthesized { kind := .parenthesized } wrapped

theorem wrappedAs_binary {a a' b b' : Expression} (left : a.WrappedAs a') (right : b.WrappedAs b')
    (operator type : String) : (binary operator type a b).WrappedAs (enclosed (binary operator type a' b')) :=
  wrappedAs_enclosed (.inside (.cons left (.cons right .nil)))

theorem wrappedAs_name (n : String) : (name n).WrappedAs (enclosed (name n)) := wrappedAs_enclosed (.refl _)

theorem wrappedAs_initializer : (initializer id).WrappedAs (initializer enclosed) := by
  have value := Statement.WrappedAs.of_free (s := { kind := .initializer, expressions := [zero] }) rfl .nil
    (.cons (wrappedAs_enclosed (.refl zero)) .nil)
  have declarator := Statement.WrappedAs.inside
    (s := { kind := .variableDeclarator, expressions := [name "i"], children := _ })
    (.cons value .nil) (.cons (.refl _) .nil) fun _ => .some ⟨[], rfl, .nil⟩
  exact .of_free rfl (.cons (.of_free rfl (.cons declarator .nil) .nil) .nil) .nil

theorem wrappedAs_condition : (condition id).WrappedAs (condition enclosed) :=
  .of_free rfl .nil (.cons (wrappedAs_binary (wrappedAs_name _) (wrappedAs_name _) _ _) .nil)

theorem wrappedAs_incrementor : (incrementor id).WrappedAs (incrementor enclosed) :=
  .of_free rfl .nil (.cons (wrappedAs_enclosed (.inside (.cons (wrappedAs_name _) .nil))) .nil)

theorem wrappedAs_addition : (addition id).WrappedAs (addition enclosed) := by
  have sum := wrappedAs_binary (wrappedAs_name "sum") (wrappedAs_name "i") "+" "int"
  exact .of_free rfl .nil (.cons (wrappedAs_enclosed (.inside (.cons (wrappedAs_name _) (.cons sum .nil)))) .nil)

theorem wrappedAs_cls : (cls id).WrappedAs (cls enclosed) where
  shape := rfl
  methods := by
    have loop := Statement.WrappedAs.of_free (s := { kind := .forLoop, children := _ }) rfl
      (.cons wrappedAs_initializer (.cons wrappedAs_condition
        (.cons wrappedAs_incrementor (.cons wrappedAs_addition .nil)))) .nil
    exact .cons ⟨rfl, .cons loop .nil⟩ .nil

/-- With parentheses around everything the loop is still recognized, and its start is still a constant. -/
theorem compile_enclosed : (cls id).WrappedAs (cls enclosed) ∧
    (cls enclosed).compile {} {} = (cls id).compile {} {} ∧
    ((cls id).compile {} {}).toOption.map (·.graph.nodes.toList.map (·.op)) =
      some [.eventOnStart, .variableGet, .flowFor, .variableGet, .mathAdd, .variableSet] :=
  ⟨wrappedAs_cls, ScriptClass.compile_wrappedAs wrappedAs_cls {} {}, by cbv⟩

end Summing

end ScriptGraph
