import ScriptGraph.Source.Constant
import ScriptGraph.Source.Names
import ScriptGraph.Source.Size

/-!
Counting loops, recognized by the three clauses of their header.
-/

namespace ScriptGraph

/-- How the counter is compared with the bound. -/
inductive Comparison where
  | lt
  | le
  | gt
  | ge
deriving DecidableEq

/-- The comparison with a given operator. -/
def Comparison.ofOperator? : String → Option Comparison
  | "<" => some lt
  | "<=" => some le
  | ">" => some gt
  | ">=" => some ge
  | _ => none

/-- By how much the counter changes. -/
inductive LoopStep where
  | constant (amount : Int32)
  /-- An amount to be computed, taken away if `negate`. -/
  | computed (amount : Expression) (negate : Bool)

/-- A counting loop. -/
structure CountingLoop where
  counter : String
  /-- Whether the header declares the counter. -/
  declared : Bool
  start : Expression
  comparison : Comparison
  bound : Expression
  step : LoopStep
  body : List Statement

namespace CountingLoop

/-- Whether a part belongs to the header of a loop. -/
def isHeader (s : Statement) : Bool :=
  s.kind = .forInitializer || s.kind = .forCondition || s.kind = .forIncrementor

/-- The statements from the first one on that is no part of the header. -/
def bodyOf (s : Statement) : List Statement := s.children.dropWhile isHeader

/-- The counter, its first value, and whether it is declared: `int i = e` or `i = e`. -/
def initializer? (clause : Statement) : Option (String × Expression × Bool) :=
  match clause.child? .declaration with
  | some declaration =>
    match declaration.children.filter (·.kind = .variableDeclarator) with
    | [declarator] => do
      let name ← (← declarator.expression?).name
      let value ← (← declarator.child? .initializer).expression?
      return (name, value, true)
    | _ => none
  | none => do
    let assignment := (← clause.expression?).unwrapped
    if assignment.kind = .assignment &&
        (assignment.operatorToken = "=" || assignment.operatorToken = "") then
      let name ← (← assignment.child? 0).plainName?
      return (name, ← assignment.child? 1, false)
    else none

/-- A step by an amount; a constant one is computed now. -/
def stepBy (amount : Expression) (negate : Bool) : LoopStep :=
  match (amount.constant? (some .int)).bind Literal.toInt? with
  | some n => .constant (if negate then -n else n)
  | none => .computed amount negate

/-- The step of `counter = counter + e` or `counter = counter - e`. -/
def sumStep? (counter : String) (sum : Expression) : Option LoopStep := do
  if sum.kind = .binary && (← (← sum.child? 0).plainName?) = counter then
    match sum.operatorToken with
    | "+" => return stepBy (← sum.child? 1) false
    | "-" => return stepBy (← sum.child? 1) true
    | _ => none
  else none

/-- The step of an incrementor: `i++`, `i--`, `i += e`, `i -= e`, `i = i + e` or `i = i - e`. -/
def step? (clause : Statement) (counter : String) : Option LoopStep := do
  let e := (← clause.expression?).unwrapped
  if !e.isWrite then none
  else if (← e.firstName?) ≠ counter then none
  else if e.kind = .assignment then
    let amount ← e.child? 1
    match e.operatorToken with
    | "+=" => return stepBy amount false
    | "-=" => return stepBy amount true
    | "=" | "" => sumStep? counter amount.unwrapped
    | _ => none
  else
    match e.operatorToken with
    | "++" => return .constant 1
    | "--" => return .constant (-1)
    | _ => none

/-- The counting loop that a statement is, if its header has that shape. -/
def ofStatement? (s : Statement) : Option CountingLoop := do
  let (counter, start, declared) ← initializer? (← s.child? .forInitializer)
  let condition := (← (← s.child? .forCondition).expression?).unwrapped
  if condition.kind = .binary && (← condition.firstName?) = counter then
    let comparison ← Comparison.ofOperator? condition.operatorToken
    let bound ← condition.child? 1
    let step ← step? (← s.child? .forIncrementor) counter
    return { counter, declared, start, comparison, bound, step, body := bodyOf s }
  else none

/-- Whether the step is one. -/
def hasUnitStep (l : CountingLoop) : Bool :=
  match l.step with
  | .constant amount => amount = 1
  | .computed .. => false

/-- Whether a loop node can run the loop: it declares its counter, goes up by one to a bound that is
excluded and that the body does not change, and its body neither waits nor changes the counter. -/
def isCanonical (l : CountingLoop) : Bool :=
  let changed := Statement.changedNames l.body
  l.declared && l.comparison = .lt && l.hasUnitStep && !Statement.suspends l.body &&
    !l.bound.holds .methodInvocation && !changed.contains l.counter &&
    !l.bound.readNames.any changed.contains

theorem sizeAll_bodyOf_lt (s : Statement) : Statement.sizeAll (bodyOf s) < s.size :=
  Nat.lt_of_le_of_lt (Statement.sizeAll_dropWhile_le _ _) (Statement.sizeAll_children_lt s)

end CountingLoop

end ScriptGraph
