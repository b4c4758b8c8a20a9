import ScriptGraph.Source.Syntax

/-!
The names that source reads and writes, as far as they can be seen from its shape.
-/

namespace ScriptGraph

namespace Expression

/-- The plain name that an expression is. -/
def plainName? (e : Expression) : Option String :=
  let e := e.unwrapped
  if e.kind = .identifier then e.name else none

/-- Whether the expression has the shape of a write: an assignment or an increment. -/
def isWrite (e : Expression) : Bool :=
  e.kind = .assignment || e.kind = .postfixUnary || e.kind = .prefixUnary

/-- The operators that really write. -/
def writeOperators : List String := ["++", "--", "", "=", "+=", "-=", "*=", "/=", "%="]

/-- The plain name of the first child. -/
def firstName? (e : Expression) : Option String := (e.child? 0).bind plainName?

mutual

/-- The plain names that assignments and increments inside an expression write. -/
def assignedNames : Expression → List String
  | e@⟨_, _, _, _, _, _, _, children⟩ =>
    (if e.isWrite && writeOperators.contains e.operatorToken then e.firstName?.toList else []) ++
      assignedNamesAll children

/-- The plain names that the expressions of a list write. -/
def assignedNamesAll : List Expression → List String
  | [] => []
  | e :: es => assignedNames e ++ assignedNamesAll es

end

mutual

/-- The names an expression may change: targets of writes, whatever their operator, and receivers
of calls. -/
def changedNames : Expression → List String
  | e@⟨_, _, _, _, _, _, _, children⟩ =>
    (if e.isWrite || e.kind = .methodInvocation then e.firstName?.toList else []) ++
      changedNamesAll children

/-- The names the expressions of a list may change. -/
def changedNamesAll : List Expression → List String
  | [] => []
  | e :: es => changedNames e ++ changedNamesAll es

end

mutual

/-- Whether an expression holds a part of a kind. -/
def holds (kind : ExpressionKind) : Expression → Bool
  | ⟨own, _, _, _, _, _, _, children⟩ => own = kind || holdsAny kind children

/-- Whether an expression of a list holds a part of a kind. -/
def holdsAny (kind : ExpressionKind) : List Expression → Bool
  | [] => false
  | e :: es => holds kind e || holdsAny kind es

end

mutual

/-- The names in an expression. -/
def readNames : Expression → List String
  | ⟨kind, name, _, _, _, _, _, children⟩ =>
    (if kind = .identifier then name.toList else []) ++ readNamesAll children

/-- The names in the expressions of a list. -/
def readNamesAll : List Expression → List String
  | [] => []
  | e :: es => readNames e ++ readNamesAll es

end

end Expression

namespace Statement

mutual

/-- All expressions of a statement and of the statements inside it. -/
def allExpressions : Statement → List Expression
  | ⟨_, children, expressions⟩ => expressions ++ allExpressionsIn children

/-- All expressions of the statements of a list. -/
def allExpressionsIn : List Statement → List Expression
  | [] => []
  | s :: ss => allExpressions s ++ allExpressionsIn ss

end

/-- The plain names that a block writes. -/
def assignedNames (block : List Statement) : List String :=
  Expression.assignedNamesAll (allExpressionsIn block)

/-- The names that a block may change. -/
def changedNames (block : List Statement) : List String :=
  Expression.changedNamesAll (allExpressionsIn block)

/-- Whether a block waits for something. -/
def suspends (block : List Statement) : Bool :=
  Expression.holdsAny .await (allExpressionsIn block)

end Statement

end ScriptGraph
