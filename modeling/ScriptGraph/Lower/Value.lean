import ScriptGraph.Lower.State
import ScriptGraph.Source.Size

/-!
The parts of lowering an expression, each given how to lower smaller expressions.
-/

namespace ScriptGraph

open Pattern Build

/-- How to lower the expressions below a size. -/
abbrev Below (bound : Nat) := (e : Expression) → e.size < bound → Lower (Option ValueOut)

namespace Lower

/-- The size of the first child is below that of the expression. -/
theorem size_head_lt {e child : Expression} {rest : List Expression}
    (children : e.children = child :: rest) : child.size < e.size :=
  Expression.size_lt_of_mem (by simp [children])

/-- The size of the second child is below that of the expression. -/
theorem size_second_lt {e first child : Expression} {rest : List Expression}
    (children : e.children = first :: child :: rest) : child.size < e.size :=
  Expression.size_lt_of_mem (by simp [children])

/-- Lowers expressions in order; stops at the first that has no value. -/
def lowerAll {bound : Nat} (low : Below bound) : (es : List Expression) →
    (∀ e ∈ es, e.size < bound) → Lower (Option (List ValueOut))
  | [], _ => return some []
  | e :: es, small => do
    let some value ← low e (small e List.mem_cons_self) | return none
    let some values ← lowerAll low es fun e member => small e (List.mem_cons_of_mem _ member)
      | return none
    return some (value :: values)

/-- The arguments of a call: all children but the receiver. -/
def arguments (e : Expression) : List Expression := e.children.drop 1

theorem size_arguments_lt {e : Expression} : ∀ a ∈ arguments e, a.size < e.size :=
  fun _ member => Expression.size_lt_of_mem (List.mem_of_mem_drop member)

/-- A value, or a constant that is not known. -/
def valueOrUnknown (step : Lower (Option ValueOut)) : Lower ValueOut := do
  match ← step with
  | some value => return value
  | none => createUnknownLiteral

/-- Whether a member is the same object as its receiver. -/
def passesThrough (member : Option MemberSymbol) : Bool :=
  match member.bind HostProperty.recognize? with
  | some .transform | some .gameObject => true
  | _ => false

/-- The object that an expression is; one without a known number stays open. -/
def lowerObject {bound : Nat} (low : Below bound) : (e : Expression) → e.size < bound →
    Lower ValueOut
  | ⟨.parenthesized, _, _, _, _, _, _, inner :: _⟩, small =>
    lowerObject low inner (Nat.lt_trans (size_head_lt rfl) small)
  | ⟨.this, _, _, _, _, _, _, _⟩, _ => objectLiteral .self
  | ⟨.memberAccess, name, resultType, method, member, literal, operator, receiver :: rest⟩, small =>
    if passesThrough member then
      lowerObject low receiver (Nat.lt_trans (size_head_lt rfl) small)
    else
      valueOrUnknown
        (low ⟨.memberAccess, name, resultType, method, member, literal, operator, receiver :: rest⟩
          small)
  | e, small =>
    if e.kind = .memberAccess && passesThrough e.member then objectLiteral .self
    else valueOrUnknown (low e small)

/-- What relates a literal to itself, and the values that are made of an expression in two ways,
relates the objects that are made in these ways. -/
theorem lowerObject_related {bound : Nat} {low low' : Below bound}
    {R : Lower ValueOut → Lower ValueOut → Prop}
    (literal : R (objectLiteral .self) (objectLiteral .self))
    (value : ∀ e small, R (valueOrUnknown (low e small)) (valueOrUnknown (low' e small)))
    (e : Expression) (small : e.size < bound) :
    R (lowerObject low e small) (lowerObject low' e small) := by
  fun_induction lowerObject low e small with
  | case1 _ _ _ _ _ _ _ _ _ ih => exact ih
  | case2 => exact literal
  | case3 _ _ _ _ _ _ _ _ _ passes ih =>
    rw [lowerObject, if_pos passes]
    exact ih
  | case4 _ _ _ _ _ _ _ _ _ passes =>
    rw [lowerObject, if_neg passes]
    exact value _ _
  | case5 _ _ _ _ _ passes =>
    rw [lowerObject, if_pos passes]
    · exact literal
    all_goals assumption
  | case6 _ _ _ _ _ passes =>
    rw [lowerObject, if_neg passes]
    · exact value _ _
    all_goals assumption

/-- What holds of a literal and of the values of expressions holds of objects. -/
theorem lowerObject_induction {bound : Nat} {low : Below bound} {P : Lower ValueOut → Prop}
    (literal : P (objectLiteral .self)) (value : ∀ e small, P (valueOrUnknown (low e small)))
    (e : Expression) (small : e.size < bound) : P (lowerObject low e small) :=
  @lowerObject_related bound low low (fun x _ => P x) literal value e small

/-- The object that a member or a call belongs to; without a receiver it is the object itself. -/
def lowerReceiver (e : Expression) (low : Below e.size) : Lower ValueOut :=
  match children : e.children with
  | [] => objectLiteral .self
  | receiver :: _ => lowerObject low receiver (size_head_lt children)

/-- Reads a property of the receiver. -/
def readProperty (e : Expression) (low : Below e.size) (property : Build PropertyGet) :
    Lower ValueOut := do
  let object ← lowerReceiver e low
  let read ← property
  connect read.target object
  return read.value

/-- The number of components of a vector type, by its name. -/
def vectorSize : String → Nat
  | "Vector2" => 2
  | "Vector3" => 3
  | _ => 4

/-- A plain name: a value or a variable of the method, a field, or an object in a field. -/
def lowerIdentifier (c : ScriptClass) (e : Expression) : Lower (Option ValueOut) := do
  let name := e.name.getD ""
  let frame ← frame?
  match frame.bind (·.bindings.find? name) with
  | some bound => return some bound
  | none =>
    match (frame.bind (·.locals.find? name)).or ((← get).fields.find? name) with
    | some id => return some (← getVariable id)
    | none =>
      if (c.field? name).any (·.fieldType.isObject) then
        return some (← objectLiteral (.field name))
      else
        unresolved ("unknown name '" ++ name ++ "'")
        return none

/-- A component of a vector. -/
def lowerComponent (e : Expression) (low : Below e.size) (member : MemberSymbol) (index : Nat) :
    Lower (Option ValueOut) := do
  match children : e.children with
  | [] => return none
  | receiver :: _ =>
    let count := (receiver.valueType?.map (·.componentCount)).getD
      (vectorSize member.declaringType.name)
    let some vector ← low receiver (size_head_lt children) | return none
    match (← extract? vector count).bind (·[index]?) with
    | some part => return some part
    | none =>
      unsupported ("component " ++ member.name ++ " of a " ++ toString count ++
        "-component value")
      return none

/-- An operation on the first child. -/
def lowerOperand (e : Expression) (low : Below e.size) (op : Op) : Lower (Option ValueOut) := do
  match children : e.children with
  | [] => return none
  | operand :: _ =>
    let some value ← low operand (size_head_lt children) | return none
    return some (← unary op value)

/-- The number of elements of a list field. -/
def lowerCount (e : Expression) : Lower (Option ValueOut) := do
  let name? ← match e.child? 0 with
    | some receiver => listName? receiver
    | none => pure none
  let count? ← match name? with
    | some name => onList? name BoundedList.countValue
    | none => pure none
  match count? with
  | some count => return some count
  | none =>
    unsupported "Count of something other than a list field"
    return none

/-- A known member of the host. -/
def lowerProperty (e : Expression) (low : Below e.size) (member : MemberSymbol) :
    HostProperty → Lower (Option ValueOut)
  | .position => return some (← readProperty e low worldPositionGet)
  | .localPosition => return some (← readProperty e low localPositionGet)
  | .rotation => return some (← readProperty e low worldRotationGet)
  | .localRotation => return some (← readProperty e low localRotationGet)
  | .localScale => return some (← readProperty e low localScaleGet)
  | .lossyScale => return some (← readProperty e low worldScaleGet)
  | .component index => lowerComponent e low member index
  | .normalized => lowerOperand e low .mathNormalize
  | .magnitude => lowerOperand e low .mathLength
  | .listCount => lowerCount e
  | .deltaTime => return some ((← tickNode).valueOut "timeSinceLastTick")
  | .time => return some ((← tickNode).valueOut "timeSinceStart")
  | .transform | .gameObject => return some (← lowerReceiver e low)

/-- A member: a field of the class, or a known member of the host. -/
def lowerMemberAccess (e : Expression) (low : Below e.size) : Lower (Option ValueOut) := do
  match e.member with
  | none =>
    malformed "member access without member"
    return none
  | some member =>
    let fields := (← get).fields
    let field? := if onSelf e then fields.find? member.name else none
    match field?, HostProperty.recognize? member with
    | some id, _ => return some (← getVariable id)
    | none, some property => lowerProperty e low member property
    | none, none =>
      unresolved ("unknown member '" ++ member.declaringType.name ++ "." ++ member.name ++ "'")
      return none

/-- The node of a binary operator, and whether its result is negated. -/
def binaryOperator? : String → Option (Op × Bool)
  | "+" => some (.mathAdd, false)
  | "-" => some (.mathSub, false)
  | "*" => some (.mathMul, false)
  | "/" => some (.mathDiv, false)
  | "%" => some (.mathRem, false)
  | "<" => some (.mathLt, false)
  | "<=" => some (.mathLe, false)
  | ">" => some (.mathGt, false)
  | ">=" => some (.mathGe, false)
  | "==" => some (.mathEq, false)
  | "!=" => some (.mathEq, true)
  | "&&" => some (.mathAnd, false)
  | "||" => some (.mathOr, false)
  | _ => none

/-- An operation on two operands, each brought to the shape of the other. -/
def lowerBinary (e : Expression) (low : Below e.size) : Lower (Option ValueOut) := do
  match children : e.children with
  | left :: right :: _ =>
    match binaryOperator? e.operatorToken with
    | none =>
      unsupported ("binary operator '" ++ e.operatorToken ++ "'")
      return none
    | some (op, negated) =>
      let some a ← low left (size_head_lt children) | return none
      let some b ← low right (size_second_lt children) | return none
      let a ← coerce a left.valueType? right.valueType?
      let b ← coerce b right.valueType? left.valueType?
      let value ← binary op a b
      if negated then return some (← unary .mathNot value) else return some value
  | _ =>
    malformed "binary expression without both operands"
    return none

/-- An operation on one operand. The negative of a constant is a constant. -/
def lowerUnary (e : Expression) (low : Below e.size) : Lower (Option ValueOut) := do
  match children : e.children with
  | [] => return none
  | operand :: _ =>
    match e.operatorToken with
    | "-" =>
      match e.constant? e.valueType? with
      | some literal => return some (← createLiteral literal)
      | none =>
        let some value ← low operand (size_head_lt children) | return none
        return some (← unary .mathNeg value)
    | "!" =>
      let some value ← low operand (size_head_lt children) | return none
      return some (← unary .mathNot value)
    | "+" => low operand (size_head_lt children)
    | other =>
      unsupported ("unary operator '" ++ other ++ "' in a value")
      return none

/-- The components of a construction as floats; stops at the first that has no value. -/
def lowerComponents {bound : Nat} (low : Below bound) : (es : List Expression) →
    (∀ e ∈ es, e.size < bound) → Lower (Option (List ValueOut))
  | [], _ => return some []
  | e :: es, small => do
    let some value ← low e (small e List.mem_cons_self) | return none
    let part ← coerce value e.valueType? (some .float)
    let some parts ← lowerComponents low es
      fun e member => small e (List.mem_cons_of_mem _ member) | return none
    return some (part :: parts)

/-- As many constants zero as asked for. -/
def createZeros : Nat → Lower (List ValueOut)
  | 0 => return []
  | count + 1 => do
    let zero ← createLiteral (.float .zero)
    return zero :: (← createZeros count)

/-- A construction. Constant arguments give a constant; missing components are zero. -/
def lowerConstruction (e : Expression) (low : Below e.size) : Lower (Option ValueOut) := do
  match e.valueType? with
  | none =>
    unsupported ("construction of '" ++ e.typeName?.getD "?" ++ "'")
    return none
  | some type =>
    match e.constant? (some type) with
    | some literal => return some (← createLiteral literal)
    | none =>
      let some parts ← lowerComponents low e.children fun _ => Expression.size_lt_of_mem
        | return none
      let parts := parts ++ (← createZeros (type.componentCount - parts.length))
      match ← combine? parts with
      | some value => return some value
      | none =>
        unsupported ("construction of " ++ type.name ++ " from " ++ toString parts.length ++
          " components")
        return none

/-- An element of a list field. -/
def lowerElement (e : Expression) (low : Below e.size) : Lower (Option ValueOut) := do
  match children : e.children with
  | collection :: index :: _ =>
    match ← listName? collection with
    | none =>
      unsupported "indexing something other than a list field"
      return none
    | some name =>
      let some index ← low index (size_second_lt children) | return none
      onList? name (BoundedList.getItemChecked index)
  | _ =>
    malformed "element access without collection and index"
    return none

/-- A conversion between `int` and float; other casts change nothing. -/
def lowerCast (e : Expression) (low : Below e.size) : Lower (Option ValueOut) := do
  match children : e.children with
  | [] => return none
  | operand :: _ =>
    let some value ← low operand (size_head_lt children) | return none
    match operand.valueType?, e.valueType? with
    | some .float, some .int => return some (← unary .typeFloatToInt value)
    | some .int, some .float => return some (← unary .typeIntToFloat value)
    | _, _ => return some value

/-- A literal; one without a value in a graph is noted. -/
def lowerLiteral (e : Expression) : Lower (Option ValueOut) := do
  match e.literal with
  | none =>
    malformed "literal without value"
    return none
  | some value =>
    match value.toLiteral e.valueType? with
    | .ok literal => return some (← createLiteral literal)
    | .error .text =>
      unsupported "text literal outside a log message"
      return none
    | .error problem =>
      malformed problem.message
      return none

end Lower

end ScriptGraph
