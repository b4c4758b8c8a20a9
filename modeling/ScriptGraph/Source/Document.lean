import ScriptGraph.Graph.Document
import ScriptGraph.Source.Syntax

/-!
Script classes as documents. Every field of a record may be left out except the kind of a
statement or an expression.

The readings of recursive records take a bound on their own recursion; the nesting budget runs out
no later, so `Json.maxNesting` loses nothing.
-/

namespace ScriptGraph

namespace HostType

/-- Reads a type with at most the given number of levels. -/
def readLevels : Nat → Json.Reading HostType
  | 0 => fun _ _ => none
  | levels + 1 => fun budget j => do
    let r ← Json.Record.ofJson? ["name", "namespace", "genericArguments"] budget j
    return {
      name := ← r.defaulted "name" Json.readText ""
      space := ← r.defaulted "namespace" (Json.readNullable Json.readText) none
      arguments := ← r.defaulted "genericArguments" (Json.readList (readLevels levels)) [] }

/-- Reads a type. -/
def ofJson? : Json.Reading HostType := readLevels Json.maxNesting

mutual

/-- A type as a record. -/
def toJson : HostType → Json
  | ⟨name, space, arguments⟩ =>
    .obj [("name", .str name), ("namespace", .ofOption .str space),
      ("genericArguments", .array (listToJson arguments))]

/-- The types of a list as records. -/
def listToJson : List HostType → List Json
  | [] => []
  | t :: ts => toJson t :: listToJson ts

end

end HostType

namespace MethodSymbol

/-- Reads a method symbol. -/
def ofJson? : Json.Reading MethodSymbol := fun budget j => do
  let r ← Json.Record.ofJson? ["name", "declaringType", "isStatic", "returnType"] budget j
  return {
    name := ← r.defaulted "name" Json.readText ""
    declaringType := ← r.defaulted "declaringType" HostType.ofJson? {}
    isStatic := ← r.defaulted "isStatic" Json.readBool false
    returnType := ← r.defaulted "returnType" (Json.readNullable HostType.ofJson?) none }

/-- A method symbol as a record. -/
def toJson (m : MethodSymbol) : Json :=
  .obj [("name", .str m.name), ("declaringType", m.declaringType.toJson),
    ("isStatic", .bool m.isStatic), ("returnType", .ofOption HostType.toJson m.returnType)]

end MethodSymbol

namespace MemberSymbol

/-- Reads a member symbol. -/
def ofJson? : Json.Reading MemberSymbol := fun budget j => do
  let r ← Json.Record.ofJson? ["name", "declaringType", "memberType"] budget j
  return {
    name := ← r.defaulted "name" Json.readText ""
    declaringType := ← r.defaulted "declaringType" HostType.ofJson? {}
    memberType := ← r.defaulted "memberType" (Json.readNullable HostType.ofJson?) none }

/-- A member symbol as a record. -/
def toJson (m : MemberSymbol) : Json :=
  .obj [("name", .str m.name), ("declaringType", m.declaringType.toJson),
    ("memberType", .ofOption HostType.toJson m.memberType)]

end MemberSymbol

namespace Constant

/-- Reads a constant. A number is whole if its token is and 64 bits with a sign hold it. -/
def ofJson? : Json.Reading Constant
  | _, .bool value => some (bool value)
  | _, .text content => content.map text
  | _, .number token => do
    match ← JsonNumber.ofToken? token with
    | .natural value =>
      return if value < 0x8000000000000000 then int value else float (.ofInt value)
    | .negative value => return int value
    | .real value => return float value
  | _, _ => none

/-- A constant as itself. -/
def toJson : Constant → Json
  | bool value => .bool value
  | int value => .int value
  | float value => value.toJson
  | text value => .str value

end Constant

namespace Expression

/-- Reads an expression with at most the given number of levels. -/
def readLevels : Nat → Json.Reading Expression
  | 0 => fun _ _ => none
  | levels + 1 => fun budget j => do
    let r ← Json.Record.ofJson?
      ["kind", "name", "resultType", "method", "member", "literal", "operator", "children"] budget j
    return {
      kind := ← r.required "kind" (Json.readName ExpressionKind.ofName?)
      name := ← r.defaulted "name" (Json.readNullable Json.readText) none
      resultType := ← r.defaulted "resultType" (Json.readNullable HostType.ofJson?) none
      method := ← r.defaulted "method" (Json.readNullable MethodSymbol.ofJson?) none
      member := ← r.defaulted "member" (Json.readNullable MemberSymbol.ofJson?) none
      literal := ← r.defaulted "literal" (Json.readNullable Constant.ofJson?) none
      operator := ← r.defaulted "operator" (Json.readNullable Json.readText) none
      children := ← r.defaulted "children" (Json.readList (readLevels levels)) [] }

/-- Reads an expression. -/
def ofJson? : Json.Reading Expression := readLevels Json.maxNesting

mutual

/-- An expression as a record. -/
def toJson : Expression → Json
  | ⟨kind, name, resultType, method, member, literal, operator, children⟩ =>
    .obj [("kind", .str kind.name), ("name", .ofOption .str name),
      ("resultType", .ofOption HostType.toJson resultType),
      ("method", .ofOption MethodSymbol.toJson method),
      ("member", .ofOption MemberSymbol.toJson member),
      ("literal", .ofOption Constant.toJson literal),
      ("operator", .ofOption .str operator),
      ("children", .array (listToJson children))]

/-- The expressions of a list as records. -/
def listToJson : List Expression → List Json
  | [] => []
  | e :: es => toJson e :: listToJson es

end

end Expression

namespace Statement

/-- Reads a statement with at most the given number of levels. -/
def readLevels : Nat → Json.Reading Statement
  | 0 => fun _ _ => none
  | levels + 1 => fun budget j => do
    let r ← Json.Record.ofJson? ["kind", "children", "expressions"] budget j
    return {
      kind := ← r.required "kind" (Json.readName StatementKind.ofName?)
      children := ← r.defaulted "children" (Json.readList (readLevels levels)) []
      expressions := ← r.defaulted "expressions" (Json.readList Expression.ofJson?) [] }

/-- Reads a statement. -/
def ofJson? : Json.Reading Statement := readLevels Json.maxNesting

mutual

/-- A statement as a record. -/
def toJson : Statement → Json
  | ⟨kind, children, expressions⟩ =>
    .obj [("kind", .str kind.name), ("children", .array (listToJson children)),
      ("expressions", .ofList Expression.toJson expressions)]

/-- The statements of a list as records. -/
def listToJson : List Statement → List Json
  | [] => []
  | s :: ss => toJson s :: listToJson ss

end

end Statement

namespace Field

/-- Reads a field. -/
def ofJson? : Json.Reading Field := fun budget j => do
  let r ← Json.Record.ofJson? ["name", "fieldType", "initializer", "capacity"] budget j
  return {
    name := ← r.defaulted "name" Json.readText ""
    fieldType := ← r.defaulted "fieldType" HostType.ofJson? {}
    initializer := ← r.defaulted "initializer" (Json.readNullable Expression.ofJson?) none
    capacity := ← r.defaulted "capacity" (Json.readNullable Json.readSize) none }

/-- A field as a record. -/
def toJson (f : Field) : Json :=
  .obj [("name", .str f.name), ("fieldType", f.fieldType.toJson),
    ("initializer", .ofOption Expression.toJson f.initializer),
    ("capacity", .ofOption .nat f.capacity)]

end Field

namespace Parameter

/-- Reads a parameter. -/
def ofJson? : Json.Reading Parameter := fun budget j => do
  let r ← Json.Record.ofJson? ["name", "paramType"] budget j
  return {
    name := ← r.defaulted "name" Json.readText ""
    paramType := ← r.defaulted "paramType" HostType.ofJson? {} }

/-- A parameter as a record. -/
def toJson (p : Parameter) : Json :=
  .obj [("name", .str p.name), ("paramType", p.paramType.toJson)]

end Parameter

namespace Method

/-- Reads a method. -/
def ofJson? : Json.Reading Method := fun budget j => do
  let r ← Json.Record.ofJson? ["name", "parameters", "returnType", "isAsync", "body"] budget j
  return {
    name := ← r.defaulted "name" Json.readText ""
    parameters := ← r.defaulted "parameters" (Json.readList Parameter.ofJson?) []
    returnType := ← r.defaulted "returnType" (Json.readNullable HostType.ofJson?) none
    isAsync := ← r.defaulted "isAsync" Json.readBool false
    body := ← r.defaulted "body" (Json.readList Statement.ofJson?) [] }

/-- A method as a record. -/
def toJson (m : Method) : Json :=
  .obj [("name", .str m.name), ("parameters", .ofList Parameter.toJson m.parameters),
    ("returnType", .ofOption HostType.toJson m.returnType), ("isAsync", .bool m.isAsync),
    ("body", .ofList Statement.toJson m.body)]

end Method

namespace ScriptClass

/-- Reads a class. -/
def ofJson? : Json.Reading ScriptClass := fun budget j => do
  let r ← Json.Record.ofJson? ["name", "fields", "methods"] budget j
  return {
    name := ← r.defaulted "name" Json.readText ""
    fields := ← r.defaulted "fields" (Json.readList Field.ofJson?) []
    methods := ← r.defaulted "methods" (Json.readList Method.ofJson?) [] }

/-- A class as a record. -/
def toJson (c : ScriptClass) : Json :=
  .obj [("name", .str c.name), ("fields", .ofList Field.toJson c.fields),
    ("methods", .ofList Method.toJson c.methods)]

end ScriptClass

end ScriptGraph
