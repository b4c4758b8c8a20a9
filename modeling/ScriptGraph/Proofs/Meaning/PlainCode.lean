import Mathlib
import ScriptGraph.Proofs.Meaning.Interpretation
import ScriptGraph.Source.Loop

/-!
Plain code: typed, and with a meaning whatever the values are.

A name in scope is a field, a local or a counter, with a type. Locals are declared once, counters are not written, and
no loop changes what its bound reads. An expression of plain code has a value in every memory that fits the names in
scope, and the loops of plain code are the ones that a loop node may run.
-/

namespace ScriptGraph

/-- What a name in scope is. -/
inductive NameRole where
  | field (type : ValueType)
  | «local» (type : ValueType)
  | counter
deriving DecidableEq

namespace NameRole

/-- The type of its values. -/
def type : NameRole → ValueType
  | field type | «local» type => type
  | counter => .int

/-- The name of the variable for it, while a method is lowered. -/
def storage? (method name : String) : NameRole → Option String
  | field _ => some name
  | «local» _ => some (method ++ "_" ++ name)
  | counter => none

end NameRole

/-- The names in scope. -/
abbrev Roles := String → Option NameRole

namespace Roles

/-- One more name is in scope. -/
def having (roles : Roles) (name : String) (role : NameRole) : Roles := Function.update roles name (some role)

/-- A local may have the name: nothing in scope has it, and no field has that of its variable. -/
structure Admits (roles : Roles) (method name : String) : Prop where
  fresh : roles name = none
  apart : ∀ type, roles (method ++ "_" ++ name) ≠ some (.field type)

/-- Names that share a variable are the same. -/
def Separate (roles : Roles) (method : String) : Prop :=
  ∀ x y role role' place, roles x = some role → roles y = some role' → role.storage? method x = some place →
    role'.storage? method y = some place → x = y

variable {roles : Roles} {name other method : String} {role : NameRole}

@[simp] theorem having_self : roles.having name role name = some role := Function.update_self ..

theorem having_of_ne (different : other ≠ name) : roles.having name role other = roles other :=
  Function.update_of_ne different ..

/-- A new name is different from those in scope. -/
theorem ne_of_fresh (fresh : roles name = none) (known : roles other = some role) : other ≠ name := by
  rintro rfl
  cases fresh.symm.trans known

theorem Separate.declare (separate : roles.Separate method) {type : ValueType} (admits : roles.Admits method name) :
    (roles.having name (.local type)).Separate method := by
  -- The variable of an older name is not that of the new local.
  have older {x : String} {role : NameRole} (known : roles x = some role)
      (stored : role.storage? method x = some (method ++ "_" ++ name)) : x = name := by
    cases role with
    | field type =>
      obtain rfl : x = method ++ "_" ++ name := Option.some.inj stored
      exact absurd known (admits.apart type)
    | «local» => exact (String.append_right_inj _).1 (Option.some.inj stored)
    | counter => cases stored
  intro x y role role' place known known' stored stored'
  by_cases first : x = name <;> by_cases second : y = name
  · exact first.trans second.symm
  · subst first
    rw [having_self] at known
    rw [having_of_ne second] at known'
    cases known
    cases stored
    exact (older known' stored').symm
  · subst second
    rw [having_self] at known'
    rw [having_of_ne first] at known
    cases known'
    cases stored'
    exact older known stored
  · rw [having_of_ne first] at known
    rw [having_of_ne second] at known'
    exact separate x y role role' place known known' stored stored'

theorem Separate.count (separate : roles.Separate method) : (roles.having name .counter).Separate method := by
  intro x y role role' place known known' stored stored'
  by_cases first : x = name
  · subst first
    rw [having_self] at known
    cases known
    cases stored
  by_cases second : y = name
  · subst second
    rw [having_self] at known'
    cases known'
    cases stored'
  rw [having_of_ne first] at known
  rw [having_of_ne second] at known'
  exact separate x y role role' place known known' stored stored'

end Roles

/-- Every name in scope has a value of its type. -/
def Memory.Fits (m : Memory) (roles : Roles) : Prop :=
  ∀ name role, roles name = some role → ∃ value, m name = some value ∧ value.valueType = role.type

namespace Literal

/-- The type of the operand of an operator, which is that of its result. -/
def unaryType? : String → Option ValueType
  | "-" => some .int
  | "!" => some .bool
  | _ => none

/-- The type of the result of an operator on operands of a type. -/
def binaryType? : String → ValueType → Option ValueType
  | "+", .int | "-", .int | "*", .int => some .int
  | "<", .int | "<=", .int | ">", .int | ">=", .int | "==", .int | "!=", .int => some .bool
  | "==", .bool | "!=", .bool | "&&", .bool | "||", .bool => some .bool
  | _, _ => none

theorem exists_int {value : Literal} (typed : value.valueType = .int) : ∃ i, value = int i := by
  cases value <;> cases typed
  exact ⟨_, rfl⟩

theorem exists_bool {value : Literal} (typed : value.valueType = .bool) : ∃ b, value = bool b := by
  cases value <;> cases typed
  exact ⟨_, rfl⟩

/-- A typed operator has a result. -/
theorem applied?_of_type {operator : String} {type : ValueType} {a : Literal}
    (signature : unaryType? operator = some type) (typed : a.valueType = type) :
    ∃ value, applied? operator a = some value ∧ value.valueType = type := by
  unfold unaryType? at signature
  split at signature <;> cases signature
  · obtain ⟨i, rfl⟩ := exists_int typed
    exact ⟨_, rfl, rfl⟩
  · obtain ⟨b, rfl⟩ := exists_bool typed
    exact ⟨_, rfl, rfl⟩

theorem combine?_of_type {operator : String} {type result : ValueType} {a b : Literal}
    (signature : binaryType? operator type = some result) (typedA : a.valueType = type)
    (typedB : b.valueType = type) :
    ∃ value, combine? operator a b = some value ∧ value.valueType = result := by
  unfold binaryType? at signature
  split at signature <;> cases signature
  all_goals
    first
    | obtain ⟨i, rfl⟩ := exists_int typedA
      obtain ⟨j, rfl⟩ := exists_int typedB
      exact ⟨_, rfl, rfl⟩
    | obtain ⟨x, rfl⟩ := exists_bool typedA
      obtain ⟨y, rfl⟩ := exists_bool typedB
      exact ⟨_, rfl, rfl⟩

end Literal

namespace Expression

/-- An expression of a type over the names in scope. -/
inductive Plain (roles : Roles) : Expression → ValueType → Prop
  | literal {constant : Constant} {value : Literal} {type : HostType} {t : ValueType}
      (known : constant.value? = some value) (is : value.valueType = t) (typed : type.valueType? = some t) :
      Plain roles { kind := .literal, literal := some constant, resultType := some type } t
  | name {name : String} {role : NameRole} {type : HostType} {t : ValueType} (known : roles name = some role)
      (is : role.type = t) (typed : type.valueType? = some t) :
      Plain roles { kind := .identifier, name := some name, resultType := some type } t
  | parenthesized {inner : Expression} {type : HostType} {t : ValueType} (inside : Plain roles inner t)
      (typed : type.valueType? = some t) :
      Plain roles { kind := .parenthesized, resultType := some type, children := [inner] } t
  | unary {kind : ExpressionKind} {operator : String} {a : Expression} {type : HostType} {t : ValueType}
      (isUnary : kind = .unary ∨ kind = .prefixUnary) (signature : Literal.unaryType? operator = some t)
      (operand : Plain roles a t) (typed : type.valueType? = some t) :
      Plain roles { kind, operator := some operator, resultType := some type, children := [a] } t
  | binary {operator : String} {a b : Expression} {type : HostType} {t result : ValueType}
      (signature : Literal.binaryType? operator t = some result) (first : Plain roles a t)
      (second : Plain roles b t) (typed : type.valueType? = some result) :
      Plain roles { kind := .binary, operator := some operator, resultType := some type, children := [a, b] } result

namespace Plain

variable {roles : Roles} {e : Expression} {t : ValueType} {m : Memory}

theorem hostType (plain : e.Plain roles t) : ∃ type, e.resultType = some type ∧ type.valueType? = some t := by
  cases plain <;> exact ⟨_, rfl, by assumption⟩

theorem valueType? (plain : e.Plain roles t) : e.valueType? = some t := by
  obtain ⟨type, declared, typed⟩ := plain.hostType
  rw [Expression.valueType?, declared, Option.bind_some, HostType.storageType?, typed, Option.some_or]

/-- An expression has a value of its type. -/
theorem evaluates (plain : e.Plain roles t) (fits : m.Fits roles) :
    ∃ value, e.evaluate? m = some value ∧ value.valueType = t := by
  induction plain with
  | literal known is => exact ⟨_, known, is⟩
  | name known is =>
    obtain ⟨value, held, typed⟩ := fits _ _ known
    exact ⟨value, held, typed.trans is⟩
  | parenthesized _ _ ih => exact ih
  | @unary kind operator a _ _ isUnary signature _ _ ih =>
    obtain ⟨x, evaluates, typed⟩ := ih
    obtain ⟨value, applied, typed⟩ := Literal.applied?_of_type signature typed
    refine ⟨value, ?_, typed⟩
    rcases isUnary with rfl | rfl
    all_goals
      show (a.evaluate? m).bind (Literal.applied? operator) = _
      rw [evaluates, Option.bind_some, applied]
  | @binary operator a b _ _ _ signature _ _ _ ihA ihB =>
    obtain ⟨x, evaluatesA, typedA⟩ := ihA
    obtain ⟨y, evaluatesB, typedB⟩ := ihB
    obtain ⟨value, combined, typed⟩ := Literal.combine?_of_type signature typedA typedB
    refine ⟨value, ?_, typed⟩
    show ((a.evaluate? m).bind fun x => (b.evaluate? m).bind (Literal.combine? operator x)) = _
    rw [evaluatesA, Option.bind_some, evaluatesB, Option.bind_some, combined]

/-- Only names in scope are read. -/
theorem known_of_read (plain : e.Plain roles t) {x : String} (read : x ∈ e.readNames) : roles x ≠ none := by
  induction plain with
  | literal => simp [readNames, readNamesAll] at read
  | name known =>
    obtain rfl : x = _ := by simpa [readNames, readNamesAll] using read
    simp [known]
  | parenthesized _ _ ih => exact ih (by simpa [readNames, readNamesAll] using read)
  | unary isUnary _ _ _ ih =>
    refine ih ?_
    rcases isUnary with rfl | rfl
    all_goals simpa [readNames, readNamesAll] using read
  | @binary _ a b _ _ _ _ _ _ _ ihA ihB =>
    have read : x ∈ a.readNames ∨ x ∈ b.readNames := by simpa [readNames, readNamesAll] using read
    exact read.elim ihA ihB

/-- The value depends on the names that are read. -/
theorem evaluate?_congr (plain : e.Plain roles t) {m' : Memory} (same : ∀ x ∈ e.readNames, m' x = m x) :
    e.evaluate? m' = e.evaluate? m := by
  induction plain with
  | literal => rfl
  | @name name => exact same name (by simp [readNames])
  | @parenthesized inner _ _ _ _ ih =>
    show inner.evaluate? m' = inner.evaluate? m
    exact ih fun x read => same x (by simpa [readNames, readNamesAll] using read)
  | @unary kind operator a _ _ isUnary _ _ _ ih =>
    have inner : a.evaluate? m' = a.evaluate? m := by
      refine ih fun x read => same x ?_
      rcases isUnary with rfl | rfl
      all_goals simpa [readNames, readNamesAll] using read
    rcases isUnary with rfl | rfl
    all_goals
      show (a.evaluate? m').bind (Literal.applied? operator) = (a.evaluate? m).bind (Literal.applied? operator)
      rw [inner]
  | @binary operator a b _ _ _ _ _ _ _ ihA ihB =>
    have first : a.evaluate? m' = a.evaluate? m :=
      ihA fun x read => same x (by simp [readNames, readNamesAll, read])
    have second : b.evaluate? m' = b.evaluate? m :=
      ihB fun x read => same x (by simp [readNames, readNamesAll, read])
    show ((a.evaluate? m').bind fun x => (b.evaluate? m').bind (Literal.combine? operator x)) =
      (a.evaluate? m).bind fun x => (b.evaluate? m).bind (Literal.combine? operator x)
    rw [first, second]

/-- Plain expressions neither call nor wait. -/
theorem holds_eq_false (plain : e.Plain roles t) {kind : ExpressionKind}
    (other : kind = .methodInvocation ∨ kind = .await) : e.holds kind = false := by
  induction plain with
  | literal | name => rcases other with rfl | rfl <;> rfl
  | parenthesized _ _ ih => rcases other with rfl | rfl <;> simpa [holds, holdsAny] using ih
  | unary isUnary _ _ _ ih =>
    rcases other with rfl | rfl <;> rcases isUnary with rfl | rfl <;> simpa [holds, holdsAny] using ih
  | binary _ _ _ _ ihA ihB =>
    rcases other with rfl | rfl <;> simp only [holds, holdsAny, ihA, ihB] <;> rfl

/-- Parentheses do not matter. -/
theorem unwrapped (plain : e.Plain roles t) :
    e.unwrapped.Plain roles t ∧ ∀ m, e.unwrapped.evaluate? m = e.evaluate? m := by
  induction plain with
  | parenthesized _ _ ih => exact ih
  | literal known is typed => exact ⟨.literal known is typed, fun _ => rfl⟩
  | name known is typed => exact ⟨.name known is typed, fun _ => rfl⟩
  | unary isUnary signature operand typed =>
    rcases isUnary with rfl | rfl
    · exact ⟨.unary (.inl rfl) signature operand typed, fun _ => rfl⟩
    · exact ⟨.unary (.inr rfl) signature operand typed, fun _ => rfl⟩
  | binary signature first second typed => exact ⟨.binary signature first second typed, fun _ => rfl⟩

theorem kind_ne (plain : e.Plain roles t) : e.kind ≠ .methodInvocation ∧ e.kind ≠ .await := by
  cases plain with
  | unary isUnary => rcases isUnary with rfl | rfl <;> exact ⟨nofun, nofun⟩
  | _ => exact ⟨nofun, nofun⟩

/-- A whole number that is written down is one of 32 bits. -/
theorem of_wholeLiteral? (plain : e.Plain roles t) {i : Int} (whole : e.wholeLiteral? = some i) :
    e.evaluate? m = some (.int (.ofInt i)) := by
  cases plain with
  | @literal constant value _ _ known =>
    cases constant with
    | int j =>
      obtain rfl : j = i := Option.some.inj whole
      have fits : fitsInt32 j = true := by
        by_contra outside
        simp [Constant.value?, outside] at known
      show Constant.value? (.int j) = _
      rw [Constant.value?, if_pos fits]
    | _ => cases whole
  | unary isUnary => rcases isUnary with rfl | rfl <;> cases whole
  | _ => cases whole

theorem constant?_unary {kind : ExpressionKind} {operator : String} {a : Expression} {type : Option HostType}
    (isUnary : kind = .unary ∨ kind = .prefixUnary) (expected : Option ValueType) :
    constant? expected { kind, operator := some operator, resultType := type, children := [a] } =
      if operator = "-" then
        match a.unwrapped.wholeLiteral? with
        | some i =>
          if i = -0x8000000000000000 then none
          else (Constant.int (-i)).toLiteral? (expected.or (type.bind HostType.valueType?))
        | none => (constant? (expected.or (type.bind HostType.valueType?)) a).bind Literal.negate?
      else none := by
  rcases isUnary with rfl | rfl
  all_goals
    rw [constant?]
    exact if_congr Option.some_inj rfl rfl

theorem toLiteral?_int {i : Int} {value : Literal} (known : (Constant.int i).toLiteral? (some .int) = some value) :
    value = .int (.ofInt i) := by
  unfold Constant.toLiteral? Constant.toLiteral at known
  by_cases fits : fitsInt32 i = true
  · simpa [fits, Except.toOption] using known.symm
  · simp [fits, Except.toOption] at known

/-- What is found to be a constant number is the value. -/
theorem evaluate?_of_constant? (plain : e.Plain roles t) (number : t = .int) {value : Literal}
    (known : e.constant? (some .int) = some value) : ∃ i, value = .int i ∧ e.evaluate? m = some (.int i) := by
  induction plain generalizing value with
  | @literal constant held _ _ holds is =>
    cases constant with
    | int i =>
      have fits : fitsInt32 i = true := by
        by_contra outside
        simp [Constant.value?, outside] at holds
      refine ⟨_, toLiteral?_int known, ?_⟩
      show Constant.value? (.int i) = _
      rw [Constant.value?, if_pos fits]
    | bool b =>
      obtain rfl : Literal.bool b = held := Option.some.inj holds
      cases is.trans number
    | _ => cases holds
  | name => cases known
  | parenthesized _ _ ih => exact ih number known
  | @unary kind operator a type _ isUnary signature operand _ ih =>
    rw [constant?_unary isUnary] at known
    split at known
    · next negative =>
      subst negative
      have value? : Expression.evaluate? m
          { kind, operator := some "-", resultType := some type, children := [a] } =
            (a.evaluate? m).bind (Literal.applied? "-") := by
        rcases isUnary with rfl | rfl <;> rfl
      rw [value?]
      split at known
      · next i whole =>
        have evaluates := operand.unwrapped.1.of_wholeLiteral? (m := m) whole
        rw [operand.unwrapped.2] at evaluates
        split at known
        · cases known
        · refine ⟨_, toLiteral?_int known, ?_⟩
          rw [evaluates, Option.bind_some, Int32.ofInt_neg]
          rfl
      · obtain ⟨inner, found, negated⟩ := Option.bind_eq_some_iff.1 known
        obtain ⟨i, rfl, evaluates⟩ := ih number found
        rw [Literal.negate?] at negated
        split at negated
        · cases negated
        · exact ⟨-i, (Option.some.inj negated).symm, by rw [evaluates]; rfl⟩
    · cases known
  | binary => cases known

end Plain

end Expression

namespace Literal

/-- Operators that compute an assigned number. -/
def IsCompound (operator : String) : Prop := operator = "+=" ∨ operator = "-=" ∨ operator = "*="

end Literal

/-- Plain work over the names in scope, in a method; it may return or not. -/
inductive Work.Plain (method : String) : Roles → Bool → Work → Prop
  | done {roles : Roles} {returns : Bool} : Plain method roles returns (.block [])
  | declare {roles : Roles} {returns : Bool} {s : Statement} {name : String} {type : Option HostType} {e : Expression}
      {t : ValueType} {rest : List Statement} (tells : s.Tells (.declare name type e)) (value : e.Plain roles t)
      (typed : (type.or e.resultType).bind HostType.valueType? = some t) (admits : roles.Admits method name)
      (others : Plain method (roles.having name (.local t)) returns (.block rest)) :
      Plain method roles returns (.block (s :: rest))
  | next {roles : Roles} {returns : Bool} {s : Statement} {order : Order} {rest : List Statement}
      (tells : s.Tells order) (first : Plain method roles returns (.order order))
      (others : Plain method roles returns (.block rest)) : Plain method roles returns (.block (s :: rest))
  | assign {roles : Roles} {returns : Bool} {name operator : String} {type : Option HostType} {e : Expression}
      {role : NameRole} (known : roles name = some role) (writable : role ≠ .counter)
      (typed : type.bind HostType.valueType? = some role.type)
      (assigns : operator = "=" ∨ role.type = .int ∧ Literal.IsCompound operator) (value : e.Plain roles role.type) :
      Plain method roles returns (.order (.assign name type operator e))
  | increment {roles : Roles} {returns : Bool} {name : String} {type : Option HostType} {up : Bool} {role : NameRole}
      (known : roles name = some role) (writable : role ≠ .counter) (number : role.type = .int)
      (typed : type.bind HostType.valueType? = some .int) :
      Plain method roles returns (.order (.increment name type up))
  | block {roles : Roles} {returns : Bool} {body : List Statement}
      (inside : Plain method roles returns (.block body)) : Plain method roles returns (.order (.block body))
  | branch {roles : Roles} {returns : Bool} {condition : Expression} {yes no : List Statement}
      (decides : condition.Plain roles .bool) (insideYes : Plain method roles returns (.block yes))
      (insideNo : Plain method roles returns (.block no)) :
      Plain method roles returns (.order (.branch condition yes no))
  | leave {roles : Roles} : Plain method roles true (.order .leave)
  | count {roles : Roles} {returns : Bool} {counter : String} {start bound : Expression} {body : List Statement}
      (fresh : roles counter = none) (first : start.Plain roles .int) (last : bound.Plain roles .int)
      (inside : Plain method (roles.having counter .counter) false (.block body))
      (kept : ∀ name ∈ counter :: bound.readNames, name ∉ Statement.changedNames body) :
      Plain method roles returns (.order (.count counter start bound body))

namespace Expression

theorem holdsAny_append (kind : ExpressionKind) (es es' : List Expression) :
    holdsAny kind (es ++ es') = (holdsAny kind es || holdsAny kind es') := by
  induction es with
  | nil => rfl
  | cons e es ih => rw [List.cons_append, holdsAny, holdsAny, ih, Bool.or_assoc]

theorem changedNamesAll_append (es es' : List Expression) :
    changedNamesAll (es ++ es') = changedNamesAll es ++ changedNamesAll es' := by
  induction es with
  | nil => rfl
  | cons e es ih => rw [List.cons_append, changedNamesAll, changedNamesAll, ih, List.append_assoc]

end Expression

namespace Statement

variable {s : Statement} {order : Order}

/-- The names that a statement may change. -/
def changes (s : Statement) : List String := Expression.changedNamesAll s.allExpressions

theorem changedNames_cons (s : Statement) (rest : List Statement) :
    changedNames (s :: rest) = s.changes ++ changedNames rest := by
  rw [changedNames, allExpressionsIn, Expression.changedNamesAll_append]
  rfl

theorem suspends_cons (s : Statement) (rest : List Statement) :
    suspends (s :: rest) = (Expression.holdsAny .await s.allExpressions || suspends rest) := by
  rw [suspends, allExpressionsIn, Expression.holdsAny_append]
  rfl

/-- What tells to do something is no part of the header of a loop. -/
theorem Tells.isHeader_eq_false (tells : s.Tells order) : CountingLoop.isHeader s = false := by
  cases tells <;> rfl

/-- What a block may change, a statement that has it as a part may change. -/
theorem Tells.block_subset {body : List Statement} (tells : s.Tells (.block body)) :
    changedNames body ⊆ s.changes := by
  cases tells
  exact List.Subset.refl _

theorem Tells.branch_subset {condition : Expression} {yes no : List Statement}
    (tells : s.Tells (.branch condition yes no)) :
    changedNames yes ⊆ s.changes ∧ changedNames no ⊆ s.changes := by
  cases tells
  all_goals
    simp only [changes, allExpressions, allExpressionsIn, Expression.changedNamesAll_append, changedNames,
      List.nil_append, List.append_nil]
    constructor <;> intro x member <;> simp_all [Expression.changedNamesAll]

theorem Tells.count_subset {counter : String} {start bound : Expression} {body : List Statement}
    (tells : s.Tells (.count counter start bound body)) : changedNames body ⊆ s.changes := by
  cases tells
  simp only [changes, allExpressions, allExpressionsIn, Expression.changedNamesAll_append, changedNames]
  intro x member
  simp [member]

theorem Tells.assign_mem {name operator : String} {type : Option HostType} {e : Expression}
    (tells : s.Tells (.assign name type operator e)) : name ∈ s.changes := by
  cases tells <;> exact List.mem_cons_self

theorem Tells.increment_mem {name : String} {type : Option HostType} {up : Bool}
    (tells : s.Tells (.increment name type up)) : name ∈ s.changes := by
  cases tells with
  | increment isIncrement => rcases isIncrement with rfl | rfl <;> exact List.mem_cons_self

end Statement

/-- No part of the work waits. -/
def Work.Waitless : Work → Prop
  | .block body => Statement.suspends body = false
  | .order o => ∀ s : Statement, s.Tells o → Expression.holdsAny .await s.allExpressions = false
  | .passes .. => True

namespace Work.Plain

variable {method : String} {roles : Roles} {returns : Bool}

/-- The statements of a plain block tell to do something. -/
theorem tells_of_cons {s : Statement} {rest : List Statement}
    (plain : Plain method roles returns (.block (s :: rest))) : ∃ order, s.Tells order := by
  cases plain with
  | declare tells => exact ⟨_, tells⟩
  | next tells => exact ⟨_, tells⟩

theorem dropWhile_isHeader {body : List Statement} (plain : Plain method roles returns (.block body)) :
    body.dropWhile CountingLoop.isHeader = body := by
  cases body with
  | nil => rfl
  | cons s rest =>
    obtain ⟨order, tells⟩ := plain.tells_of_cons
    rw [List.dropWhile_cons, tells.isHeader_eq_false]
    rfl

/-- Plain work does not wait. -/
theorem waitless {work : Work} (plain : Plain method roles returns work) : work.Waitless := by
  have value {roles : Roles} {e : Expression} {t : ValueType} (plain : e.Plain roles t) : e.holds .await = false :=
    plain.holds_eq_false (.inr rfl)
  have inside {body : List Statement} (waitless : (Work.block body).Waitless) :
      Expression.holdsAny .await (Statement.allExpressionsIn body) = false := waitless
  induction plain with
  | done => rfl
  | declare tells plain _ _ _ ih =>
    have others : Statement.suspends _ = false := ih
    show Statement.suspends _ = false
    rw [Statement.suspends_cons, others, Bool.or_false]
    cases tells
    simp only [Statement.allExpressions, Statement.allExpressionsIn, List.append_nil, List.nil_append,
      List.cons_append, Expression.holdsAny, Expression.holds, value plain]
    rfl
  | next tells _ _ ihFirst ihOthers =>
    have first := ihFirst _ tells
    have others : Statement.suspends _ = false := ihOthers
    show Statement.suspends _ = false
    rw [Statement.suspends_cons, first, others]
    rfl
  | assign _ _ _ _ plain =>
    intro s tells
    cases tells
    all_goals
      simp only [Statement.allExpressions, Statement.allExpressionsIn, List.append_nil, Expression.holdsAny,
        Expression.holds, value plain]
      rfl
  | increment =>
    intro s tells
    cases tells with
    | increment isIncrement => rcases isIncrement with rfl | rfl <;> rfl
  | block _ ih =>
    intro s tells
    cases tells
    exact inside ih
  | branch plain _ _ ihYes ihNo =>
    intro s tells
    cases tells
    all_goals
      simp only [Statement.allExpressions, Statement.allExpressionsIn, List.append_nil, List.nil_append,
        Expression.holdsAny_append, Expression.holdsAny, value plain, inside ihYes, inside ihNo]
      rfl
  | leave =>
    intro s tells
    cases tells
    rfl
  | count _ first last _ _ ih =>
    intro s tells
    cases tells with
    | count isIncrement =>
      simp only [Statement.allExpressions, Statement.allExpressionsIn, List.append_nil, List.nil_append,
        Expression.holdsAny_append, Expression.holdsAny, Expression.holds, value first, value last, inside ih]
      rcases isIncrement with rfl | rfl <;> rfl

end Work.Plain

namespace CountingLoop

variable {s : Statement} {counter method : String} {start bound : Expression} {body : List Statement} {roles : Roles}

/-- The loop that a plain one is read as. -/
def upTo (counter : String) (start bound : Expression) (body : List Statement) : CountingLoop :=
  { counter, declared := true, start, comparison := .lt, bound, step := .constant 1, body }

theorem ofStatement?_of_tells (tells : s.Tells (.count counter start bound body))
    (headless : body.dropWhile isHeader = body) :
    ofStatement? s = some (upTo counter start bound body) ∧ bodyOf s = body := by
  cases tells with
  | @count kind isIncrement _ declared compared stepped comparison step =>
    refine ⟨?_, headless⟩
    let incrementor : Statement :=
      { kind := .forIncrementor
        expressions := [{
          kind, operator := some "++", resultType := step
          children := [{ kind := .identifier, name := some counter, resultType := stepped }] }] }
    have steps : step? incrementor counter = some (.constant 1) := by
      have steps : step? incrementor counter =
          if counter ≠ counter then none else some (.constant 1) := by
        rcases isIncrement with rfl | rfl <;> rfl
      rw [steps, if_neg (not_not_intro rfl)]
    calc ofStatement? _
      _ = if decide (counter = counter) = true then
            (step? incrementor counter).bind fun step =>
              some { upTo counter start bound (body.dropWhile isHeader) with step }
          else none := rfl
      _ = some (upTo counter start bound body) := by
        rw [if_pos (decide_eq_true rfl), steps, headless]
        rfl

/-- A loop node may run it. -/
theorem isCanonical_upTo (last : bound.Plain roles .int) (waitless : Statement.suspends body = false)
    (kept : ∀ name ∈ counter :: bound.readNames, name ∉ Statement.changedNames body) :
    (upTo counter start bound body).isCanonical = true := by
  have counted : (Statement.changedNames body).contains counter = false := by
    simpa using kept counter List.mem_cons_self
  have bounded : (bound.readNames.any (Statement.changedNames body).contains) = false := by
    simpa using fun x read => kept x (List.mem_cons_of_mem _ read)
  simp only [isCanonical, upTo, hasUnitStep, waitless, last.holds_eq_false (.inl rfl), counted, bounded]
  rfl

end CountingLoop

end ScriptGraph
