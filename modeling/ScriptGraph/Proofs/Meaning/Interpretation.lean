import Mathlib.Logic.Function.Basic
import ScriptGraph.Source.Constant

/-!
Direct interpretation of code that branches and counts.

The code computes with whole numbers and truth values: it declares locals, assigns, branches, returns, and counts up
to a bound. An expression has a value in a memory, and a statement takes one memory to another. What a record tells
to do is read off its layout (`Statement.Tells`), and every order has one way to be carried out (`Executes`).
-/

namespace ScriptGraph

/-- The values of names. -/
abbrev Memory := String → Option Literal

/-- Gives a name a value. -/
def Memory.put (m : Memory) (name : String) (value : Literal) : Memory := Function.update m name (some value)

namespace Memory

variable (m : Memory) (name : String) (value : Literal)

@[simp] theorem put_self : m.put name value name = some value := Function.update_self ..

theorem put_of_ne {other : String} (different : other ≠ name) : m.put name value other = m other :=
  Function.update_of_ne different ..

end Memory

namespace Literal

/-- What an operator makes of one value. -/
def applied? : String → Literal → Option Literal
  | "-", int a => some (int (-a))
  | "!", bool a => some (bool !a)
  | _, _ => none

/-- What an operator makes of two values. Numbers wrap around. -/
def combine? : String → Literal → Literal → Option Literal
  | "+", int a, int b => some (int (a + b))
  | "-", int a, int b => some (int (a - b))
  | "*", int a, int b => some (int (a * b))
  | "<", int a, int b => some (bool (a < b))
  | "<=", int a, int b => some (bool (a ≤ b))
  | ">", int a, int b => some (bool (a > b))
  | ">=", int a, int b => some (bool (a ≥ b))
  | "==", int a, int b => some (bool (a = b))
  | "==", bool a, bool b => some (bool (a = b))
  | "!=", int a, int b => some (bool (a ≠ b))
  | "!=", bool a, bool b => some (bool (a ≠ b))
  | "&&", bool a, bool b => some (bool (a && b))
  | "||", bool a, bool b => some (bool (a || b))
  | _, _, _ => none

/-- What an assignment makes of the value of its target and of its operand. -/
def assigned? : String → Literal → Literal → Option Literal
  | "=", _, b => some b
  | "+=", a, b => combine? "+" a b
  | "-=", a, b => combine? "-" a b
  | "*=", a, b => combine? "*" a b
  | _, _, _ => none

end Literal

/-- The value that a constant of the source is, if it is a truth value or a number of 32 bits. -/
def Constant.value? : Constant → Option Literal
  | bool b => some (.bool b)
  | int i => if fitsInt32 i then some (.int (.ofInt i)) else none
  | _ => none

namespace Expression

/-- The value of an expression in a memory. Expressions change nothing, so that both operands of `&&` and `||` may be
looked at. -/
def evaluate? (m : Memory) : Expression → Option Literal
  | ⟨.literal, _, _, _, _, literal, _, _⟩ => literal.bind Constant.value?
  | ⟨.identifier, name, _, _, _, _, _, _⟩ => name.bind m
  | ⟨.parenthesized, _, _, _, _, _, _, inner :: _⟩ => inner.evaluate? m
  | ⟨.unary, _, _, _, _, _, some operator, [a]⟩ | ⟨.prefixUnary, _, _, _, _, _, some operator, [a]⟩ =>
    (a.evaluate? m).bind (Literal.applied? operator)
  | ⟨.binary, _, _, _, _, _, some operator, [a, b]⟩ =>
    (a.evaluate? m).bind fun x => (b.evaluate? m).bind (Literal.combine? operator x)
  | _ => none

end Expression

/-- What a statement tells to do. -/
inductive Order where
  /-- Declares a local of a type, unless that is left to the value. -/
  | declare (name : String) (type : Option HostType) (value : Expression)
  /-- Assigns to a name of a type. -/
  | assign (name : String) (type : Option HostType) (operator : String) (value : Expression)
  /-- Adds one to a name of a type, or takes one away. -/
  | increment (name : String) (type : Option HostType) (up : Bool)
  | block (body : List Statement)
  | branch (condition : Expression) (yes no : List Statement)
  | leave
  /-- Counts from the start up to the bound, which is excluded. -/
  | count (counter : String) (start bound : Expression) (body : List Statement)

namespace Statement

/-- The kinds of an increment. -/
def IsIncrement (kind : ExpressionKind) : Prop := kind = .postfixUnary ∨ kind = .prefixUnary

/-- The record of a statement tells to do something. -/
inductive Tells : Statement → Order → Prop
  | declare (name : String) (type : Option HostType) (value : Expression) :
      Tells
        { kind := .declaration
          children := [{
            kind := .variableDeclarator
            expressions := [{ kind := .identifier, name := some name, resultType := type }]
            children := [{ kind := .initializer, expressions := [value] }] }] }
        (.declare name type value)
  | assign (name : String) (type resultType : Option HostType) (operator : String) (value : Expression) :
      Tells
        { kind := .expression
          expressions := [{
            kind := .assignment, operator := some operator, resultType
            children := [{ kind := .identifier, name := some name, resultType := type }, value] }] }
        (.assign name type operator value)
  | assignment (name : String) (type resultType : Option HostType) (operator : String) (value : Expression) :
      Tells
        { kind := .assignment
          expressions := [{
            kind := .assignment, operator := some operator, resultType
            children := [{ kind := .identifier, name := some name, resultType := type }, value] }] }
        (.assign name type operator value)
  | increment {kind : ExpressionKind} {operator : String} (isIncrement : IsIncrement kind) (name : String)
      (type resultType : Option HostType) (up : Bool) (token : operator = if up then "++" else "--") :
      Tells
        { kind := .expression
          expressions := [{
            kind, operator := some operator, resultType
            children := [{ kind := .identifier, name := some name, resultType := type }] }] }
        (.increment name type up)
  | block (body : List Statement) : Tells { kind := .block, children := body } (.block body)
  | branch (condition : Expression) (yes : List Statement) :
      Tells
        { kind := .ifStatement
          children := [{ kind := .condition, expressions := [condition] }, { kind := .thenClause, children := yes }] }
        (.branch condition yes [])
  | branchElse (condition : Expression) (yes no : List Statement) :
      Tells
        { kind := .ifStatement
          children := [{ kind := .condition, expressions := [condition] }, { kind := .thenClause, children := yes },
            { kind := .elseClause, children := no }] }
        (.branch condition yes no)
  | leave : Tells { kind := .returnStatement } .leave
  /-- The loop `for (int i = start; i < bound; i++) body`. -/
  | count {kind : ExpressionKind} (isIncrement : IsIncrement kind) (name : String)
      (declared compared stepped comparison step : Option HostType) (start bound : Expression)
      (body : List Statement) :
      Tells
        { kind := .forLoop
          children :=
            { kind := .forInitializer
              children := [{
                kind := .declaration
                children := [{
                  kind := .variableDeclarator
                  expressions := [{ kind := .identifier, name := some name, resultType := declared }]
                  children := [{ kind := .initializer, expressions := [start] }] }] }] } ::
            { kind := .forCondition
              expressions := [{
                kind := .binary, operator := some "<", resultType := comparison
                children := [{ kind := .identifier, name := some name, resultType := compared }, bound] }] } ::
            { kind := .forIncrementor
              expressions := [{
                kind, operator := some "++", resultType := step
                children := [{ kind := .identifier, name := some name, resultType := stepped }] }] } ::
            body }
        (.count name start bound body)

/-- A record tells to do one thing. -/
theorem Tells.unique {s : Statement} {order order' : Order} (first : s.Tells order) (second : s.Tells order') :
    order = order' := by
  cases first with
  | increment _ name type _ up token =>
    cases second with
    | increment _ _ _ _ up' token' =>
      have same : up = up' := by cases up <;> cases up' <;> simp_all
      rw [same]
  | _ => cases second; rfl

end Statement

/-- How statements end: what stands behind them goes on, or the method has returned. -/
inductive Ending where
  | onward
  | returned
deriving DecidableEq

/-- What there is to carry out. -/
inductive Work where
  | block (body : List Statement)
  | order (order : Order)
  /-- The passes of a loop that are left, with the counter in memory. -/
  | passes (counter : String) (bound : Expression) (body : List Statement)

/-- Carrying out the work takes one memory to another and ends in a way. -/
inductive Executes : Work → Memory → Memory → Ending → Prop
  | done {m : Memory} : Executes (.block []) m m .onward
  | next {s : Statement} {order : Order} {rest : List Statement} {m μ m' : Memory} {ending : Ending}
      (tells : s.Tells order) (first : Executes (.order order) m μ .onward)
      (others : Executes (.block rest) μ m' ending) : Executes (.block (s :: rest)) m m' ending
  | stop {s : Statement} {order : Order} {rest : List Statement} {m m' : Memory} (tells : s.Tells order)
      (first : Executes (.order order) m m' .returned) : Executes (.block (s :: rest)) m m' .returned
  | declare {name : String} {type : Option HostType} {e : Expression} {value : Literal} {m : Memory}
      (evaluates : e.evaluate? m = some value) : Executes (.order (.declare name type e)) m (m.put name value) .onward
  | assign {name operator : String} {type : Option HostType} {e : Expression} {old operand value : Literal} {m : Memory}
      (holds : m name = some old) (evaluates : e.evaluate? m = some operand)
      (result : Literal.assigned? operator old operand = some value) :
      Executes (.order (.assign name type operator e)) m (m.put name value) .onward
  | increment {name : String} {type : Option HostType} {up : Bool} {old : Int32} {m : Memory}
      (holds : m name = some (.int old)) :
      Executes (.order (.increment name type up)) m (m.put name (.int (old + if up then 1 else -1))) .onward
  | block {body : List Statement} {m m' : Memory} {ending : Ending} (inside : Executes (.block body) m m' ending) :
      Executes (.order (.block body)) m m' ending
  | branch {condition : Expression} {yes no : List Statement} {decision : Bool} {m m' : Memory} {ending : Ending}
      (evaluates : condition.evaluate? m = some (.bool decision))
      (inside : Executes (.block (if decision then yes else no)) m m' ending) :
      Executes (.order (.branch condition yes no)) m m' ending
  | leave {m : Memory} : Executes (.order .leave) m m .returned
  | count {counter : String} {start bound : Expression} {body : List Statement} {first : Int32} {m m' : Memory}
      {ending : Ending} (starts : start.evaluate? m = some (.int first))
      (passes : Executes (.passes counter bound body) (m.put counter (.int first)) m' ending) :
      Executes (.order (.count counter start bound body)) m m' ending
  | exhausted {counter : String} {bound : Expression} {body : List Statement} {i last : Int32} {m : Memory}
      (counts : m counter = some (.int i)) (stops : bound.evaluate? m = some (.int last)) (reached : ¬ i < last) :
      Executes (.passes counter bound body) m m .onward
  | pass {counter : String} {bound : Expression} {body : List Statement} {i j last : Int32} {m μ m' : Memory}
      {ending : Ending} (counts : m counter = some (.int i)) (stops : bound.evaluate? m = some (.int last))
      (below : i < last) (inside : Executes (.block body) m μ .onward) (counted : μ counter = some (.int j))
      (others : Executes (.passes counter bound body) (μ.put counter (.int (j + 1))) m' ending) :
      Executes (.passes counter bound body) m m' ending
  | escape {counter : String} {bound : Expression} {body : List Statement} {i last : Int32} {m m' : Memory}
      (counts : m counter = some (.int i)) (stops : bound.evaluate? m = some (.int last)) (below : i < last)
      (inside : Executes (.block body) m m' .returned) : Executes (.passes counter bound body) m m' .returned

namespace Executes

theorem int_unique {x : Option Literal} {i j : Int32} (first : x = some (.int i)) (second : x = some (.int j)) :
    i = j :=
  Literal.int.inj (Option.some.inj (first.symm.trans second))

/-- Interpretation leaves no choice. -/
theorem unique {work : Work} {m m₁ m₂ : Memory} {e₁ e₂ : Ending} (first : Executes work m m₁ e₁)
    (second : Executes work m m₂ e₂) : m₁ = m₂ ∧ e₁ = e₂ := by
  induction first generalizing m₂ e₂ with
  | done =>
    cases second
    exact ⟨rfl, rfl⟩
  | next tells _ _ ihFirst ihOthers =>
    cases second with
    | next tells' first others =>
      obtain rfl := tells.unique tells'
      obtain ⟨rfl, _⟩ := ihFirst first
      exact ihOthers others
    | stop tells' first =>
      obtain rfl := tells.unique tells'
      cases (ihFirst first).2
  | stop tells _ ih =>
    cases second with
    | next tells' first _ =>
      obtain rfl := tells.unique tells'
      cases (ih first).2
    | stop tells' first =>
      obtain rfl := tells.unique tells'
      exact ih first
  | declare evaluates =>
    cases second with
    | declare evaluates' =>
      cases evaluates.symm.trans evaluates'
      exact ⟨rfl, rfl⟩
  | assign holds evaluates result =>
    cases second with
    | assign holds' evaluates' result' =>
      cases holds.symm.trans holds'
      cases evaluates.symm.trans evaluates'
      cases result.symm.trans result'
      exact ⟨rfl, rfl⟩
  | increment holds =>
    cases second with
    | increment holds' =>
      cases holds.symm.trans holds'
      exact ⟨rfl, rfl⟩
  | block _ ih =>
    cases second with
    | block inside => exact ih inside
  | branch evaluates _ ih =>
    cases second with
    | branch evaluates' inside =>
      cases evaluates.symm.trans evaluates'
      exact ih inside
  | leave =>
    cases second
    exact ⟨rfl, rfl⟩
  | count starts _ ih =>
    cases second with
    | count starts' passes =>
      cases starts.symm.trans starts'
      exact ih passes
  | exhausted counts stops reached =>
    cases second with
    | exhausted => exact ⟨rfl, rfl⟩
    | pass counts' stops' below | escape counts' stops' below =>
      obtain rfl := int_unique counts counts'
      obtain rfl := int_unique stops stops'
      exact absurd below reached
  | pass counts stops below _ counted _ ihInside ihOthers =>
    cases second with
    | exhausted counts' stops' reached =>
      obtain rfl := int_unique counts counts'
      obtain rfl := int_unique stops stops'
      exact absurd below reached
    | pass _ _ _ inside counted' others =>
      obtain ⟨rfl, _⟩ := ihInside inside
      obtain rfl := int_unique counted counted'
      exact ihOthers others
    | escape _ _ _ inside => cases (ihInside inside).2
  | escape counts stops below _ ih =>
    cases second with
    | exhausted counts' stops' reached =>
      obtain rfl := int_unique counts counts'
      obtain rfl := int_unique stops stops'
      exact absurd below reached
    | pass _ _ _ inside => cases (ih inside).2
    | escape _ _ _ inside => exact ih inside

end Executes

end ScriptGraph
