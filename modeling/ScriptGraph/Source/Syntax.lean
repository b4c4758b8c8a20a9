import ScriptGraph.Numeric.Float

/-!
The reflected source of a script class: types, symbols, expressions, statements and methods, as
their producer hands them over with every name already resolved.

A record carries a kind and whatever parts the producer filled in. By convention

* a `methodInvocation` has its receiver as first child, then the arguments;
* a `memberAccess`, a `cast`, an `await`, a `parenthesized` and a unary expression have their
  operand as first child, `binary` and `assignment` have two operands, `elementAccess` has the
  collection and the index;
* an `ifStatement` has a `condition`, a `thenClause` and perhaps an `elseClause` among its children;
* a `forLoop` has a `forInitializer`, a `forCondition` and a `forIncrementor` and then its body;
* a `declaration` has one `variableDeclarator` for each name, which carries the name as an
  identifier and perhaps an `initializer`.

Nothing here enforces the conventions.
-/

namespace ScriptGraph

/-- A type of the host language. -/
structure HostType where
  name : String := ""
  space : Option String := none
  arguments : List HostType := []

namespace HostType

instance : Inhabited HostType := ⟨{}⟩

/-- The name with its namespace in front, unless that is empty. -/
def fullName (t : HostType) : String :=
  match t.space with
  | some space => if space = "" then t.name else space ++ "." ++ t.name
  | none => t.name

/-- The text without `suffix`, if it ends in it. -/
def dropEnd? (text suffix : String) : Option String :=
  if suffix.toList.isSuffixOf text.toList then
    some (String.ofList (text.toList.take (text.length - suffix.length)))
  else none

/-- The element type of a `List` or of an array type. -/
def elementType? (t : HostType) : Option HostType :=
  if t.name = "List" then t.arguments.head?
  else (dropEnd? t.name "[]").map fun element => { name := element, space := t.space }

end HostType

/-- A resolved method. -/
structure MethodSymbol where
  name : String := ""
  declaringType : HostType := {}
  isStatic : Bool := false
  returnType : Option HostType := none

/-- A resolved field or property. -/
structure MemberSymbol where
  name : String := ""
  declaringType : HostType := {}
  memberType : Option HostType := none

/-- The constant of a literal expression. -/
inductive Constant where
  | bool (value : Bool)
  /-- A whole number of at most 64 bits. -/
  | int (value : Int)
  | float (value : Double)
  | text (value : String)

/-- The kinds of expressions. -/
inductive ExpressionKind where
  | literal
  | identifier
  | this
  | memberAccess
  | methodInvocation
  | binary
  | unary
  | postfixUnary
  | prefixUnary
  | objectCreation
  | elementAccess
  | cast
  | await
  | assignment
  | parenthesized
deriving DecidableEq

/-- An expression. -/
structure Expression where
  kind : ExpressionKind
  name : Option String := none
  resultType : Option HostType := none
  method : Option MethodSymbol := none
  member : Option MemberSymbol := none
  literal : Option Constant := none
  operator : Option String := none
  children : List Expression := []

/-- The kinds of statements and of their parts. -/
inductive StatementKind where
  | expression
  | declaration
  | assignment
  | ifStatement
  | returnStatement
  | block
  | forLoop
  | variableDeclarator
  | initializer
  | condition
  | thenClause
  | elseClause
  | forInitializer
  | forCondition
  | forIncrementor
deriving DecidableEq

/-- A statement, or a part of one. -/
structure Statement where
  kind : StatementKind
  children : List Statement := []
  expressions : List Expression := []

/-- A field of a class. -/
structure Field where
  name : String := ""
  fieldType : HostType := {}
  initializer : Option Expression := none
  /-- How many elements a list field holds. -/
  capacity : Option Nat := none

/-- A parameter of a method. -/
structure Parameter where
  name : String := ""
  paramType : HostType := {}

/-- A method of a class. -/
structure Method where
  name : String := ""
  parameters : List Parameter := []
  returnType : Option HostType := none
  isAsync : Bool := false
  body : List Statement := []

/-- A class, the unit of compilation. -/
structure ScriptClass where
  name : String := ""
  fields : List Field := []
  methods : List Method := []

namespace ExpressionKind

/-- Every kind of expression with its name. -/
def names : List (String × ExpressionKind) :=
  [("literal", literal), ("identifier", identifier), ("this", this),
   ("memberAccess", memberAccess), ("methodInvocation", methodInvocation), ("binary", binary),
   ("unary", unary), ("postfixUnary", postfixUnary), ("prefixUnary", prefixUnary),
   ("objectCreation", objectCreation), ("elementAccess", elementAccess), ("cast", cast),
   ("await", await), ("assignment", assignment), ("parenthesized", parenthesized)]

/-- The kind with a given name. -/
def ofName? (name : String) : Option ExpressionKind :=
  (names.find? (·.1 == name)).map (·.2)

/-- The name of a kind. -/
def name (kind : ExpressionKind) : String :=
  ((names.find? (·.2 = kind)).map (·.1)).getD ""

/-- The name of a kind with a capital letter, as messages show it. -/
def title (kind : ExpressionKind) : String := kind.name.capitalize

end ExpressionKind

namespace StatementKind

/-- Every kind of statement with its name. -/
def names : List (String × StatementKind) :=
  [("expression", expression), ("declaration", declaration), ("assignment", assignment),
   ("if", ifStatement), ("return", returnStatement), ("block", block), ("for", forLoop),
   ("variableDeclarator", variableDeclarator), ("initializer", initializer),
   ("condition", condition), ("thenClause", thenClause), ("elseClause", elseClause),
   ("forInitializer", forInitializer), ("forCondition", forCondition),
   ("forIncrementor", forIncrementor)]

/-- The kind with a given name. -/
def ofName? (name : String) : Option StatementKind :=
  (names.find? (·.1 == name)).map (·.2)

/-- The name of a kind. -/
def name (kind : StatementKind) : String :=
  ((names.find? (·.2 = kind)).map (·.1)).getD ""

/-- The name of a kind with a capital letter, as messages show it. -/
def title (kind : StatementKind) : String := kind.name.capitalize

end StatementKind

namespace Expression

instance : Inhabited Expression := ⟨{ kind := .literal }⟩

/-- The child at an index. -/
def child? (e : Expression) (index : Nat) : Option Expression := e.children[index]?

/-- The operator token; empty when there is none. -/
def operatorToken (e : Expression) : String := e.operator.getD ""

/-- The expression inside any parentheses. Parentheses around nothing stay. -/
def unwrapped : Expression → Expression
  | ⟨.parenthesized, _, _, _, _, _, _, inner :: _⟩ => inner.unwrapped
  | e => e

/-- The name of the result type. -/
def typeName? (e : Expression) : Option String := e.resultType.map (·.name)

end Expression

namespace Statement

instance : Inhabited Statement := ⟨{ kind := .block }⟩

/-- The first child of a kind. -/
def child? (s : Statement) (kind : StatementKind) : Option Statement :=
  s.children.find? (·.kind = kind)

theorem kind_of_child? {s t : Statement} {kind : StatementKind} (found : s.child? kind = some t) :
    t.kind = kind := by
  rw [child?] at found
  exact of_decide_eq_true (List.find?_some (p := fun t : Statement => decide (t.kind = kind)) found)

/-- The first expression. -/
def expression? (s : Statement) : Option Expression := s.expressions.head?

end Statement

namespace ScriptClass

/-- The first method of a name. -/
def method? (c : ScriptClass) (name : String) : Option Method :=
  c.methods.find? (·.name == name)

/-- The first field of a name. -/
def field? (c : ScriptClass) (name : String) : Option Field :=
  c.fields.find? (·.name == name)

end ScriptClass

end ScriptGraph
