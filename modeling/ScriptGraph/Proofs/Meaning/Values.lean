import Mathlib
import ScriptGraph.Proofs.Meaning.Cells

/-!
Plain expressions become outputs that have their values.

What is lowered is looked at one operation at a time. Where the memory of interpretation and the state of the running
graph agree, the output of an expression has the value that interpretation gives it, in every graph that this one
grows into.
-/

namespace ScriptGraph

open Pattern Build

namespace Program

/-- An output is the counter of a loop node, which has its start. -/
structure IsCounter (p : Program) (output : ValueOut) : Prop where
  real : output.address.node.isPlaceholder = false
  op : p.op? output.address.node = some .flowFor
  started : p.feed? ⟨output.address.node, "startIndex"⟩ ≠ none

/-- The counters in scope are those of loop nodes. -/
def Counters (p : Program) (roles : Roles) (layout : Layout) : Prop :=
  ∀ name output, roles name = some .counter → layout name = .value output → p.IsCounter output

/-- A name that does not count comes into scope. -/
theorem Counters.store {p : Program} {roles : Roles} {layout : Layout} (counters : p.Counters roles layout)
    {name : String} {role : NameRole} (writable : role ≠ .counter) (meaning : Meaning) :
    p.Counters (roles.having name role) (layout.having name meaning) := by
  intro other output known reads
  by_cases own : other = name
  · subst own
    exact absurd (Option.some.inj (Roles.having_self.symm.trans known)) writable
  · rw [Roles.having_of_ne own] at known
    rw [Layout.having_of_ne own] at reads
    exact counters other output known reads

/-- The counter of a loop node comes into scope. -/
theorem Counters.count {p : Program} {roles : Roles} {layout : Layout} (counters : p.Counters roles layout)
    {name : String} {output : ValueOut} (counts : p.IsCounter output) :
    p.Counters (roles.having name .counter) (layout.having name (.value output)) := by
  intro other output' known reads
  by_cases own : other = name
  · rw [own, Layout.having_self] at reads
    cases reads
    exact counts
  · rw [Roles.having_of_ne own] at known
    rw [Layout.having_of_ne own] at reads
    exact counters other output' known reads

/-- An output has the value of an expression wherever memory and store agree. -/
def Computes (p : Program) (roles : Roles) (layout : Layout) (e : Expression) (v : ValueOut) : Prop :=
  ∀ m σ value, layout.Holds roles m σ → e.evaluate? m = some value → p.Gives σ (.output v.address) value

end Program

theorem Constant.toLiteral_of_value? {constant : Constant} {value : Literal} {t : ValueType}
    (known : constant.value? = some value) (is : value.valueType = t) : constant.toLiteral (some t) = .ok value := by
  cases constant with
  | bool b =>
    obtain rfl : Literal.bool b = value := Option.some.inj known
    rfl
  | int i =>
    rw [value?] at known
    split at known
    · next fits =>
      obtain rfl : Literal.int (.ofInt i) = value := Option.some.inj known
      obtain rfl : .int = t := is
      simp [toLiteral, fits]
    · cases known
  | float | text => cases known

namespace Literal

theorem compute?_combine? {operator : String} {t result : ValueType} {op : Op} {negated : Bool} {x y value : Literal}
    (signature : binaryType? operator t = some result) (token : Lower.binaryOperator? operator = some (op, negated))
    (combined : combine? operator x y = some value) (typedX : x.valueType = t) (typedY : y.valueType = t) :
    ∃ z, op.compute? [x, y] = some z ∧ (if negated then Op.compute? .mathNot [z] else some z) = some value := by
  unfold binaryType? at signature
  split at signature <;> cases signature <;> cases token
  all_goals
    first
    | obtain ⟨i, rfl⟩ := exists_int typedX
      obtain ⟨j, rfl⟩ := exists_int typedY
      cases combined
    | obtain ⟨a, rfl⟩ := exists_bool typedX
      obtain ⟨b, rfl⟩ := exists_bool typedY
      cases combined
    exact ⟨_, rfl, by simp [Op.compute?]⟩

/-- Operators with a type have a node. -/
theorem binaryOperator?_of_type {operator : String} {t result : ValueType}
    (signature : binaryType? operator t = some result) :
    ∃ op negated, Lower.binaryOperator? operator = some (op, negated) ∧ op.schema.valuesIn = ["a", "b"] := by
  unfold binaryType? at signature
  split at signature <;> cases signature
  all_goals exact ⟨_, _, rfl, rfl⟩

end Literal

namespace Lower

variable {cls : ScriptClass} {inliner : Inliner} {active : List String}

/-- A value that has the shape already stays as it is. -/
theorem coerce_same (value : ValueOut) (t : ValueType) : coerce value (some t) (some t) = pure value := by
  cases t <;> rfl

section Equations

variable {type : Option HostType} {operator : String} {a b : Expression} {kind : ExpressionKind}

theorem lowerExpression_literal (constant : Constant) :
    lowerExpression cls inliner active { kind := .literal, literal := some constant, resultType := type } =
      lowerLiteral { kind := .literal, literal := some constant, resultType := type } := by
  rw [lowerExpression]
  rfl

theorem lowerExpression_parenthesized :
    lowerExpression cls inliner active { kind := .parenthesized, resultType := type, children := [a] } =
      lowerExpression cls inliner active a := by
  rw [lowerExpression]
  rfl

/-- The negative of a constant is a constant, and that of anything else a node. -/
theorem lowerExpression_negative (isUnary : kind = .unary ∨ kind = .prefixUnary) :
    lowerExpression cls inliner active { kind, operator := some "-", resultType := type, children := [a] } =
      match Expression.constant? (type.bind HostType.storageType?)
          { kind, operator := some "-", resultType := type, children := [a] } with
      | some literal => do return some (← createLiteral literal)
      | none => do
        let some value ← lowerExpression cls inliner active a | return none
        return some (← unary .mathNeg value) := by
  rcases isUnary with rfl | rfl
  all_goals
    rw [lowerExpression]
    rfl

theorem lowerExpression_not (isUnary : kind = .unary ∨ kind = .prefixUnary) :
    lowerExpression cls inliner active { kind, operator := some "!", resultType := type, children := [a] } = do
      let some value ← lowerExpression cls inliner active a | return none
      return some (← unary .mathNot value) := by
  rcases isUnary with rfl | rfl
  all_goals
    rw [lowerExpression]
    rfl

theorem lowerExpression_binary {op : Op} {negated : Bool} (token : binaryOperator? operator = some (op, negated)) :
    lowerExpression cls inliner active
        { kind := .binary, operator := some operator, resultType := type, children := [a, b] } = do
      let some x ← lowerExpression cls inliner active a | return none
      let some y ← lowerExpression cls inliner active b | return none
      let x ← coerce x a.valueType? b.valueType?
      let y ← coerce y b.valueType? a.valueType?
      let value ← binary op x y
      if negated then return some (← unary .mathNot value) else return some value := by
  have step : lowerExpression cls inliner active
      { kind := .binary, operator := some operator, resultType := type, children := [a, b] } =
        lowerBinary { kind := .binary, operator := some operator, resultType := type, children := [a, b] }
          fun smaller _ => lowerExpression cls inliner active smaller := by
    rw [lowerExpression]
    rfl
  have found : binaryOperator? (Expression.operatorToken
      { kind := .binary, operator := some operator, resultType := type, children := [a, b] }) =
        some (op, negated) := token
  rw [step, lowerBinary]
  dsimp only
  generalize binaryOperator? (Expression.operatorToken _) = found? at found ⊢
  subst found
  rfl

end Equations

/-- A step leaves an output that has the value of an expression. Nothing but the context changes. -/
def Becomes (start : Context) (blanks idles : List SocketAddress) (holding : Program → Prop) (roles : Roles)
    (layout : Layout) (e : Expression) (s : Lowering) (v? : Option ValueOut) (s' : Lowering) : Prop :=
  ∃ v c, v? = some v ∧ s' = { s with context := c } ∧ s.context.KeepsRows c ∧
    Plan start blanks idles (fun q => q.Computes roles layout e v ∧ holding q) c

variable {start : Context} {blanks idles : List SocketAddress} {holding : Program → Prop} {method : String}
  {roles : Roles} {layout : Layout} {s : Lowering}

section Operands

variable {operator : String} {a b : Expression} {t result : ValueType} {type : HostType} {kind : ExpressionKind}

theorem becomes_literal {constant : Constant} {value : Literal} (known : constant.value? = some value)
    (is : value.valueType = t) (typed : type.valueType? = some t) (plan : Plan start blanks idles holding s.context) :
    Ensures (lowerExpression cls inliner active
        { kind := .literal, literal := some constant, resultType := some type }) s
      (Becomes start blanks idles holding roles layout
        { kind := .literal, literal := some constant, resultType := some type } s) := by
  have converted := Constant.toLiteral_of_value? known is
  rw [lowerExpression_literal, lowerLiteral]
  dsimp only [Expression.valueType?, Option.bind_some]
  rw [HostType.storageType?, typed, Option.some_or, converted]
  refine .liftBind ((plan.createLiteral value).keeping (goesOn_createLiteral value)) ?_
  rintro v c ⟨plan, rows⟩
  refine .pure ⟨v, c, rfl, rfl, rows, plan.mono ?_⟩
  rintro q ⟨gives, old⟩
  refine ⟨fun m σ other _ evaluates => ?_, old⟩
  obtain rfl : value = other := Option.some.inj (known.symm.trans evaluates)
  exact gives σ

/-- What is found in memory is where the name is read. -/
theorem computes_name {name : String} {role : NameRole} {q : Program} {v : ValueOut} (known : roles name = some role)
    (gives : ∀ σ value, (layout name).Holds σ value → q.Gives σ (.output v.address) value) :
    q.Computes roles layout { kind := .identifier, name := some name, resultType := some type } v := by
  intro m σ value holds evaluates
  obtain ⟨held, there, _, meets⟩ := holds name role known
  obtain rfl : held = value := Option.some.inj (there.symm.trans evaluates)
  exact gives σ held meets

theorem becomes_name {name : String} {role : NameRole} (known : roles name = some role)
    (houses : s.Houses method roles layout) (counters : ∀ q, holding q → q.Counters roles layout)
    (plan : Plan start blanks idles holding s.context) :
    Ensures (lowerExpression cls inliner active { kind := .identifier, name := some name, resultType := some type }) s
      (Becomes start blanks idles holding roles layout
        { kind := .identifier, name := some name, resultType := some type } s) := by
  have reads := houses.reads name role known
  rw [lowerExpression_identifier rfl]
  have same := lowerIdentifier_eq cls (e := { kind := .identifier, name := some name, resultType := some type }) reads
  suffices read : Ensures (some <$> (layout name).output) s (Becomes start blanks idles holding roles layout
      { kind := .identifier, name := some name, resultType := some type } s) by
    rw [Ensures, same]
    exact read
  refine .map ?_
  cases meaning : layout name with
  | «variable» id =>
    refine .lift (((plan.getVariable id).keeping (goesOn_getVariable id)).mono ?_)
    rintro v c ⟨plan, rows⟩
    refine ⟨v, c, rfl, rfl, rows, plan.mono ?_⟩
    rintro q ⟨reads, old⟩
    refine ⟨computes_name known fun σ value meets => ?_, old⟩
    rw [meaning] at meets
    exact meets ▸ reads σ
  | value output =>
    refine .pure ⟨output, s.context, rfl, rfl, .refl _, plan.mono fun q old => ⟨?_, old⟩⟩
    refine computes_name known fun σ value meets => ?_
    rw [meaning] at meets
    obtain rfl := houses.counter known meaning
    have counts := counters q old name output known meaning
    obtain rfl := meets
    exact .counter counts.real counts.op

/-- The node of an operation on what the operand becomes. -/
theorem becomes_unary (isUnary : kind = .unary ∨ kind = .prefixUnary) {op : Op} (inputs : op.schema.valuesIn = ["a"])
    (computes : ∀ x value, Literal.applied? operator x = some value → op.compute? [x] = some value)
    (operand : Ensures (lowerExpression cls inliner active a) s (Becomes start blanks idles holding roles layout a s)) :
    Ensures (do
      let some value ← lowerExpression cls inliner active a | return none
      return some (← unary op value)) s (Becomes start blanks idles holding roles layout
        { kind, operator := some operator, resultType := some type, children := [a] } s) := by
  refine operand.bind ?_
  rintro _ _ ⟨x, c, rfl, rfl, rows, plan⟩
  refine .liftBind ((plan.unary x inputs).keeping (goesOn_unary op x)) ?_
  rintro v c ⟨plan, rows'⟩
  refine .pure ⟨v, c, rfl, rfl, rows.trans rows', plan.mono ?_⟩
  rintro q ⟨converts, value, old⟩
  refine ⟨fun m σ result holds evaluates => ?_, old⟩
  have value? : Expression.evaluate? m
      { kind, operator := some operator, resultType := some type, children := [a] } =
        (a.evaluate? m).bind (Literal.applied? operator) := by
    rcases isUnary with rfl | rfl <;> rfl
  rw [value?] at evaluates
  obtain ⟨y, inner, applied⟩ := Option.bind_eq_some_iff.1 evaluates
  exact converts σ y result (value m σ y holds inner) (computes y result applied)

theorem becomes_negative (isUnary : kind = .unary ∨ kind = .prefixUnary) (operand : a.Plain roles .int)
    (typed : type.valueType? = some .int) (plan : Plan start blanks idles holding s.context)
    (inside : Ensures (lowerExpression cls inliner active a) s (Becomes start blanks idles holding roles layout a s)) :
    Ensures (lowerExpression cls inliner active
        { kind, operator := some "-", resultType := some type, children := [a] }) s
      (Becomes start blanks idles holding roles layout
        { kind, operator := some "-", resultType := some type, children := [a] } s) := by
  rw [lowerExpression_negative isUnary]
  cases constant : Expression.constant? ((some type).bind HostType.storageType?)
      { kind, operator := some "-", resultType := some type, children := [a] } with
  | some literal =>
    refine .liftBind ((plan.createLiteral literal).keeping (goesOn_createLiteral literal)) ?_
    rintro v c ⟨plan, rows⟩
    refine .pure ⟨v, c, rfl, rfl, rows, plan.mono ?_⟩
    rintro q ⟨gives, old⟩
    refine ⟨fun m σ value _ evaluates => ?_, old⟩
    rw [Option.bind_some, HostType.storageType?, typed, Option.some_or] at constant
    obtain ⟨i, rfl, found⟩ :=
      (Expression.Plain.unary isUnary rfl operand typed).evaluate?_of_constant? (m := m) rfl constant
    obtain rfl : .int i = value := Option.some.inj (found.symm.trans evaluates)
    exact gives σ
  | none =>
    refine becomes_unary isUnary rfl (fun x value applied => ?_) inside
    cases x <;> cases applied
    rfl

theorem becomes_not (isUnary : kind = .unary ∨ kind = .prefixUnary)
    (inside : Ensures (lowerExpression cls inliner active a) s (Becomes start blanks idles holding roles layout a s)) :
    Ensures (lowerExpression cls inliner active
        { kind, operator := some "!", resultType := some type, children := [a] }) s
      (Becomes start blanks idles holding roles layout
        { kind, operator := some "!", resultType := some type, children := [a] } s) := by
  rw [lowerExpression_not isUnary]
  refine becomes_unary isUnary rfl (fun x value applied => ?_) inside
  cases x <;> cases applied
  rfl

/-- Both operands have their values, and the node has what it computes from them. -/
theorem gives_binary {op : Op} {negated : Bool} {x y z : ValueOut} {q : Program}
    (signature : Literal.binaryType? operator t = some result) (first : a.Plain roles t) (second : b.Plain roles t)
    (token : binaryOperator? operator = some (op, negated)) (combines : q.Combines op x y z)
    (valueX : q.Computes roles layout a x) (valueY : q.Computes roles layout b y) {m : Memory} {σ : Store}
    {value : Literal} (holds : layout.Holds roles m σ) (evaluates : Expression.evaluate? m
      { kind := .binary, operator := some operator, resultType := some type, children := [a, b] } = some value) :
    ∃ w, q.Gives σ (.output z.address) w ∧ (if negated then Op.compute? .mathNot [w] else some w) = some value := by
  obtain ⟨l, evaluatesA, typedA⟩ := first.evaluates holds.fits
  obtain ⟨r, evaluatesB, typedB⟩ := second.evaluates holds.fits
  have combined : Literal.combine? operator l r = some value := by
    have evaluates :
        ((a.evaluate? m).bind fun x => (b.evaluate? m).bind (Literal.combine? operator x)) = some value := evaluates
    rwa [evaluatesA, Option.bind_some, evaluatesB, Option.bind_some] at evaluates
  obtain ⟨w, made, rest⟩ := Literal.compute?_combine? signature token combined typedA typedB
  exact ⟨w, combines σ l r w (valueX m σ l holds evaluatesA) (valueY m σ r holds evaluatesB) made, rest⟩

end Operands

/-- A plain expression becomes an output that has its value. -/
theorem plan_lowerExpression {e : Expression} {t : ValueType} (plain : e.Plain roles t) {holding : Program → Prop}
    {s : Lowering} (houses : s.Houses method roles layout) (counters : ∀ q, holding q → q.Counters roles layout)
    (plan : Plan start blanks idles holding s.context) :
    Ensures (lowerExpression cls inliner active e) s (Becomes start blanks idles holding roles layout e s) := by
  induction plain generalizing holding s with
  | literal known is typed => exact becomes_literal known is typed plan
  | name known => exact becomes_name known houses counters plan
  | parenthesized _ _ ih =>
    rw [lowerExpression_parenthesized]
    exact ih houses counters plan
  | unary isUnary signature operand typed ih =>
    have inside := ih houses counters plan
    unfold Literal.unaryType? at signature
    split at signature <;> cases signature
    · exact becomes_negative isUnary operand typed plan inside
    · exact becomes_not isUnary inside
  | @binary operator a b type t result signature first second typed ihFirst ihSecond =>
    obtain ⟨op, negated, token, inputs⟩ := Literal.binaryOperator?_of_type signature
    rw [lowerExpression_binary token]
    refine (ihFirst houses counters plan).bind ?_
    rintro _ _ ⟨x, c, rfl, rfl, rows, plan⟩
    refine (ihSecond (houses.advance rows) (fun q both => counters q both.2) plan).bind ?_
    rintro _ _ ⟨y, c', rfl, rfl, rows', plan⟩
    dsimp only
    rw [first.valueType?, second.valueType?, coerce_same, coerce_same, pure_bind, pure_bind]
    have rows := rows.trans rows'
    refine .liftBind ((plan.binary x y inputs).keeping (goesOn_binary op x y)) ?_
    rintro z c ⟨plan, rows'⟩
    have rows := rows.trans rows'
    cases negated with
    | false =>
      refine .pure ⟨z, c, rfl, rfl, rows, plan.mono ?_⟩
      rintro q ⟨combines, valueY, valueX, old⟩
      refine ⟨fun m σ value holds evaluates => ?_, old⟩
      obtain ⟨w, gives, same⟩ := gives_binary signature first second token combines valueX valueY holds evaluates
      exact Option.some.inj same ▸ gives
    | true =>
      refine .liftBind ((plan.unary z rfl).keeping (goesOn_unary .mathNot z)) ?_
      rintro v c ⟨plan, rows'⟩
      refine .pure ⟨v, c, rfl, rfl, rows.trans rows', plan.mono ?_⟩
      rintro q ⟨converts, combines, valueY, valueX, old⟩
      refine ⟨fun m σ value holds evaluates => ?_, old⟩
      obtain ⟨w, gives, same⟩ := gives_binary signature first second token combines valueX valueY holds evaluates
      exact converts σ w value gives same

end Lower

end ScriptGraph
