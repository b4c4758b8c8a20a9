import ScriptGraph.Graph.Literal
import ScriptGraph.Source.Host

/-!
Constants of the source as constants of a graph.
-/

namespace ScriptGraph

/-- Why a constant of the source is none of a graph. -/
inductive LiteralError where
  /-- The number does not fit in 32 bits. -/
  | outOfRange (value : String)
  /-- A text has no value. -/
  | text

/-- The wording of an error. -/
def LiteralError.message : LiteralError → String
  | outOfRange value => "Literal " ++ value ++ " does not fit in a 32-bit int"
  | text => "Text literal has no numeric or boolean value"

/-- Whether a number fits in 32 bits with a sign. -/
def fitsInt32 (n : Int) : Bool := -0x80000000 ≤ n && n < 0x80000000

namespace Constant

/-- The constant of a graph for a constant of the source. Whole numbers become floats where a
float is expected, floats are cut to whole numbers where an `int` is expected, and nothing wraps
around. -/
def toLiteral (value : Constant) (expected : Option ValueType) : Except LiteralError Literal :=
  match value with
  | bool b => .ok (.bool b)
  | int i =>
    if expected = some .float then .ok (.float (.ofInt i))
    else if fitsInt32 i then .ok (.int (.ofInt i))
    else .error (.outOfRange (toString i))
  | float f =>
    if expected = some .int then
      match f.truncate? with
      | some i =>
        if fitsInt32 i then .ok (.int (.ofInt i)) else .error (.outOfRange (f.render .plain))
      | none => .error (.outOfRange (f.render .plain))
    else .ok (.float (.ofDouble f))
  | text _ => .error .text

/-- The constant of a graph, if there is one. -/
def toLiteral? (value : Constant) (expected : Option ValueType) : Option Literal :=
  (value.toLiteral expected).toOption

end Constant

namespace Literal

/-- The negative of a number. The lowest `int` has none. -/
def negate? : Literal → Option Literal
  | int i => if i = Int32.minValue then none else some (int (-i))
  | float f => some (float f.neg)
  | _ => none

end Literal

namespace Expression

/-- The whole number that is written as a literal, if the expression is one. -/
def wholeLiteral? (e : Expression) : Option Int :=
  match e.kind, e.literal with
  | .literal, some (.int i) => some i
  | _, _ => none

mutual

/-- The value of a constant expression: a literal, its negative, or a construction from constants.
A whole number is negated before it is narrowed, so that the lowest `int` can be written. -/
def constant? (expected : Option ValueType) : Expression → Option Literal
  | ⟨.parenthesized, _, _, _, _, _, _, inner :: _⟩ => constant? expected inner
  | ⟨kind, _, resultType, _, _, literal, operator, children⟩ =>
    let own := resultType.bind HostType.valueType?
    let type := expected.or own
    match kind, children with
    | .literal, _ => literal.bind (·.toLiteral? type)
    | .unary, operand :: _ | .prefixUnary, operand :: _ =>
      if operator = some "-" then
        match operand.unwrapped.wholeLiteral? with
        | some i => if i = -0x8000000000000000 then none else (Constant.int (-i)).toLiteral? type
        | none => (constant? type operand).bind Literal.negate?
      else none
    | .objectCreation, children =>
      match own.or type with
      | none => none
      | some type =>
        match components? children with
        | none => none
        | some [] => some type.default
        | some components => Literal.ofComponents? type components
    | _, _ => none

/-- The values of constant expressions as floats. -/
def components? : List Expression → Option (List Single)
  | [] => some []
  | e :: es =>
    match (constant? (some .float) e).bind Literal.toSingle? with
    | none => none
    | some value => (components? es).map (value :: ·)

end

end Expression

end ScriptGraph
