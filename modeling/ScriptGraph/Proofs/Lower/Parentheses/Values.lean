import Mathlib
import ScriptGraph.Proofs.Lower.Lockstep.Blocks
import ScriptGraph.Proofs.Source.Parentheses

/-!
Parentheses are transparent to lowering.

Two classes of which the second is the first one with parentheses put around expressions are lowered by the same
steps. The proof follows the walk over the source: each construct takes the same steps if its parts do.
-/

namespace ScriptGraph

open Pattern Build

/-- Smaller expressions are lowered the same with parentheses put around parts of them. -/
def Below.Agrees {bound bound' : Nat} (low : Below bound) (low' : Below bound') : Prop :=
  ∀ e e', e.WrappedAs e' → ∀ small small', low' e' small' = low e small

/-- Bodies are inlined the same with parentheses put around expressions in them. -/
structure Inliner.Agrees (own other : Inliner) : Prop where
  block : ∀ active block block' flow, List.Forall₂ Statement.WrappedAs block block' →
    other.block active block' flow = own.block active block flow
  value : ∀ active e e', e.WrappedAs e' → other.value active e' = own.value active e

namespace Lower

variable {α β : Type} {c c' : ScriptClass} {inliner inliner' : Inliner} {active : List String}

theorem bind_eq {x y : Lower α} {f g : α → Lower β} (first : y = x) (second : ∀ a, g a = f a) :
    y >>= g = x >>= f :=
  first ▸ bind_congr second

section Names

theorem onSelf_wrapped {e e' : Expression} (inside : e.WrappedInside e') : onSelf e' = onSelf e := by
  obtain ⟨children', rfl, wrapped⟩ := inside
  obtain ⟨kind, name, type, method, member, literal, operator, children⟩ := e
  cases wrapped with
  | nil => rfl
  | cons head _ => simp only [onSelf, head.unwrapped.kind_eq]

theorem listName?_wrapped {e e' : Expression} (wrapped : e.WrappedAs e') : listName? e' = listName? e := by
  have inside := wrapped.unwrapped
  have self := onSelf_wrapped inside
  unfold listName?
  revert inside self
  generalize e.unwrapped = e
  generalize e'.unwrapped = e'
  rintro ⟨children', rfl, _⟩ self
  simp only [self]

end Names

section Values

variable {bound bound' : Nat} {low : Below bound} {low' : Below bound'}

theorem lowerAll_wrapped (agrees : low.Agrees low') {es es' : List Expression}
    (wrapped : List.Forall₂ Expression.WrappedAs es es') (small : ∀ e ∈ es, e.size < bound)
    (small' : ∀ e ∈ es', e.size < bound') : lowerAll low' es' small' = lowerAll low es small := by
  induction wrapped with
  | nil => rfl
  | cons head _ ih =>
    refine bind_eq (agrees _ _ head _ _) fun v? => ?_
    cases v? with
    | none => rfl
    | some v => exact bind_eq (ih _ _) fun _ => rfl

theorem lowerObject_wrapped (agrees : low.Agrees low') {e e' : Expression} (wrapped : e.WrappedAs e')
    (small : e.size < bound) (small' : e'.size < bound') : lowerObject low' e' small' = lowerObject low e small := by
  induction wrapped using Expression.WrappedAs.induction with
  | inside e children wrapped ih =>
    have whole := agrees _ _ (.inside wrapped) small small'
    obtain ⟨kind, name, type, method, member, literal, operator, old⟩ := e
    cases kind with
    | parenthesized =>
      cases ih with
      | nil => exact congrArg valueOrUnknown whole
      | cons head _ => exact head.2 _ _
    | this => rfl
    | memberAccess =>
      cases ih with
      | nil =>
        show (if passesThrough member = true then objectLiteral .self else valueOrUnknown (low' _ _)) =
          if passesThrough member = true then objectLiteral .self else valueOrUnknown (low _ _)
        rw [whole]
      | cons head _ =>
        show (if passesThrough member = true then lowerObject low' _ _ else valueOrUnknown (low' _ _)) =
          if passesThrough member = true then lowerObject low _ _ else valueOrUnknown (low _ _)
        rw [head.2 _ _, whole]
    | _ => exact congrArg valueOrUnknown whole
  | parenthesized _ _ _ _ ih => exact ih _ _

theorem lowerComponents_wrapped (agrees : low.Agrees low') {es es' : List Expression}
    (wrapped : List.Forall₂ Expression.WrappedAs es es') (small : ∀ e ∈ es, e.size < bound)
    (small' : ∀ e ∈ es', e.size < bound') : lowerComponents low' es' small' = lowerComponents low es small := by
  induction wrapped with
  | nil => rfl
  | cons head _ ih =>
    refine bind_eq (agrees _ _ head _ _) fun v? => ?_
    cases v? with
    | none => rfl
    | some v =>
      refine bind_eq (by rw [head.valueType?_eq]) fun part => bind_eq (ih _ _) fun _ => rfl

end Values

section Parts

variable {e e' : Expression} (inside : e.WrappedInside e') {low : Below e.size} {low' : Below e'.size}
  (agrees : low.Agrees low')
include inside agrees

theorem lowerReceiver_wrapped : lowerReceiver e' low' = lowerReceiver e low := by
  obtain ⟨children', rfl, wrapped⟩ := inside
  obtain ⟨kind, name, type, method, member, literal, operator, children⟩ := e
  cases wrapped with
  | nil => rfl
  | cons head _ => exact lowerObject_wrapped agrees head _ _

theorem readProperty_wrapped (property : Build PropertyGet) :
    readProperty e' low' property = readProperty e low property :=
  bind_eq (lowerReceiver_wrapped inside agrees) fun _ => rfl

theorem lowerComponent_wrapped (member : MemberSymbol) (index : Nat) :
    lowerComponent e' low' member index = lowerComponent e low member index := by
  obtain ⟨children', rfl, wrapped⟩ := inside
  obtain ⟨kind, name, type, method, own, literal, operator, children⟩ := e
  cases wrapped with
  | nil => rfl
  | cons head _ =>
    have type := head.valueType?_eq
    refine bind_eq (agrees _ _ head _ _) fun v? => ?_
    cases v? with
    | none => rfl
    | some v => simp only [type]

theorem lowerOperand_wrapped (op : Op) : lowerOperand e' low' op = lowerOperand e low op := by
  obtain ⟨children', rfl, wrapped⟩ := inside
  obtain ⟨kind, name, type, method, member, literal, operator, children⟩ := e
  cases wrapped with
  | nil => rfl
  | cons head _ => exact bind_eq (agrees _ _ head _ _) fun _ => rfl

theorem lowerBinary_wrapped : lowerBinary e' low' = lowerBinary e low := by
  obtain ⟨children', rfl, wrapped⟩ := inside
  obtain ⟨kind, name, type, method, member, literal, operator, children⟩ := e
  cases wrapped with
  | nil => rfl
  | cons left tail =>
    cases tail with
    | nil => rfl
    | cons right _ =>
      have leftSame := fun small small' => agrees _ _ left small small'
      have rightSame := fun small small' => agrees _ _ right small small'
      simp only [lowerBinary, Expression.operatorToken, left.valueType?_eq, right.valueType?_eq]
      split
      · rfl
      · refine bind_eq (leftSame _ _) fun a? => ?_
        cases a? with
        | none => rfl
        | some a => exact bind_eq (rightSame _ _) fun _ => rfl

theorem lowerUnary_wrapped : lowerUnary e' low' = lowerUnary e low := by
  have type := inside.valueType?_eq
  have constant := inside.wrappedAs.constant?_eq
  obtain ⟨children', rfl, wrapped⟩ := inside
  obtain ⟨kind, name, resultType, method, member, literal, operator, children⟩ := e
  cases wrapped with
  | nil => rfl
  | cons head _ =>
    simp only [lowerUnary, Expression.operatorToken] at type constant ⊢
    rw [type, constant]
    split
    · split
      · rfl
      · exact bind_eq (agrees _ _ head _ _) fun _ => rfl
    · exact bind_eq (agrees _ _ head _ _) fun _ => rfl
    · exact agrees _ _ head _ _
    · rfl

theorem lowerConstruction_wrapped : lowerConstruction e' low' = lowerConstruction e low := by
  unfold lowerConstruction
  rw [inside.valueType?_eq, inside.typeName?_eq]
  split
  · rfl
  · rw [inside.wrappedAs.constant?_eq]
    split
    · rfl
    · exact bind_eq (lowerComponents_wrapped agrees inside.children _ _) fun _ => rfl

theorem lowerElement_wrapped : lowerElement e' low' = lowerElement e low := by
  obtain ⟨children', rfl, wrapped⟩ := inside
  obtain ⟨kind, name, type, method, member, literal, operator, children⟩ := e
  cases wrapped with
  | nil => rfl
  | cons collection tail =>
    cases tail with
    | nil => rfl
    | cons index _ =>
      refine bind_eq (listName?_wrapped collection) fun name? => ?_
      cases name? with
      | none => rfl
      | some name => exact bind_eq (agrees _ _ index _ _) fun _ => rfl

theorem lowerCast_wrapped : lowerCast e' low' = lowerCast e low := by
  have type := inside.valueType?_eq
  obtain ⟨children', rfl, wrapped⟩ := inside
  obtain ⟨kind, name, resultType, method, member, literal, operator, children⟩ := e
  cases wrapped with
  | nil => rfl
  | cons head _ =>
    refine bind_eq (agrees _ _ head _ _) fun v? => ?_
    simp only [head.valueType?_eq, type]

omit agrees in
theorem lowerCount_wrapped : lowerCount e' = lowerCount e := by
  obtain ⟨children', rfl, wrapped⟩ := inside
  obtain ⟨kind, name, type, method, member, literal, operator, children⟩ := e
  cases wrapped with
  | nil => rfl
  | cons head _ => exact bind_eq (listName?_wrapped head) fun _ => rfl

theorem lowerProperty_wrapped (member : MemberSymbol) (property : HostProperty) :
    lowerProperty e' low' member property = lowerProperty e low member property := by
  cases property <;>
    simp only [lowerProperty, readProperty_wrapped inside agrees, lowerComponent_wrapped inside agrees,
      lowerOperand_wrapped inside agrees, lowerCount_wrapped inside, lowerReceiver_wrapped inside agrees]

theorem lowerMemberAccess_wrapped : lowerMemberAccess e' low' = lowerMemberAccess e low := by
  have self := onSelf_wrapped inside
  have property (member : MemberSymbol) (known : HostProperty) := lowerProperty_wrapped inside agrees member known
  have same : e'.member = e.member := by obtain ⟨_, rfl, _⟩ := inside; rfl
  simp only [lowerMemberAccess, self, same, property]

end Parts

section Calls

variable {e e' : Expression}

theorem forall₂_arguments (inside : e.WrappedInside e') :
    List.Forall₂ Expression.WrappedAs (arguments e) (arguments e') :=
  List.forall₂_drop 1 inside.children

theorem connectCoerced_wrapped {es es' : List Expression} (wrapped : List.Forall₂ Expression.WrappedAs es es')
    (node : NodeId) (result : Option ValueType) (sockets : List String) (values : List ValueOut) :
    connectCoerced node result sockets values es' = connectCoerced node result sockets values es := by
  induction wrapped generalizing sockets values with
  | nil => cases sockets <;> cases values <;> rfl
  | cons head _ ih =>
    cases sockets with
    | nil => rfl
    | cons socket sockets =>
      cases values with
      | nil => rfl
      | cons value values => simp only [connectCoerced, head.valueType?_eq, ih]

theorem coerceAll_wrapped {es es' : List Expression} (wrapped : List.Forall₂ Expression.WrappedAs es es')
    (values : List ValueOut) : coerceAll values es' = coerceAll values es := by
  induction wrapped generalizing values with
  | nil => cases values <;> rfl
  | cons head _ ih =>
    cases values with
    | nil => rfl
    | cons value values => simp only [coerceAll, head.valueType?_eq, ih]

theorem lowerParts_wrapped {bound bound' : Nat} {low : Below bound} {low' : Below bound'} (agrees : low.Agrees low')
    (node : NodeId) {parts parts' : List MessagePart} (wrapped : List.Forall₂ MessagePart.WrappedAs parts parts')
    (slot : Nat) (small : ∀ e, .value e ∈ parts → e.size < bound) (small' : ∀ e, .value e ∈ parts' → e.size < bound') :
    lowerParts low' node slot parts' small' = lowerParts low node slot parts small := by
  induction wrapped generalizing slot with
  | nil => rfl
  | cons head _ ih =>
    cases head with
    | text content => exact bind_eq (ih slot _ _) fun _ => rfl
    | value wrapped =>
      refine bind_eq (agrees _ _ wrapped _ _) fun v? => ?_
      cases v? with
      | none => exact bind_eq (ih _ _ _) fun _ => rfl
      | some v => exact bind_congr fun _ => bind_eq (ih _ _ _) fun _ => rfl

theorem bindArguments_wrapped {bound bound' : Nat} {low : Below bound} {low' : Below bound'} (agrees : low.Agrees low')
    (parameters : List Parameter) {es es' : List Expression} (wrapped : List.Forall₂ Expression.WrappedAs es es')
    (small : ∀ e ∈ es, e.size < bound) (small' : ∀ e ∈ es', e.size < bound') (bindings : Dict ValueOut) :
    bindArguments low' parameters es' small' bindings = bindArguments low parameters es small bindings := by
  induction wrapped generalizing parameters bindings with
  | nil => cases parameters <;> rfl
  | cons head _ ih =>
    cases parameters with
    | nil => rfl
    | cons parameter parameters =>
      refine bind_eq (agrees _ _ head _ _) fun v? => ?_
      cases v? with
      | none => exact ih _ _ _ _
      | some v => exact ih _ _ _ _

variable (inside : e.WrappedInside e') {low : Below e.size} {low' : Below e'.size} (agrees : low.Agrees low')
include inside agrees

theorem lowerArguments_wrapped :
    lowerAll low' (arguments e') size_arguments_lt = lowerAll low (arguments e) size_arguments_lt :=
  lowerAll_wrapped agrees (forall₂_arguments inside) _ _

theorem lowerFunction_wrapped (op : Op) : lowerFunction e' low' op = lowerFunction e low op := by
  simp only [lowerFunction, lowerArguments_wrapped inside agrees, inside.valueType?_eq,
    connectCoerced_wrapped (forall₂_arguments inside)]

theorem lowerDistance_wrapped : lowerDistance e' low' = lowerDistance e low := by
  simp only [lowerDistance, lowerArguments_wrapped inside agrees]

theorem lowerVector_wrapped (count : Nat) : lowerVector e' low' count = lowerVector e low count := by
  simp only [lowerVector, lowerArguments_wrapped inside agrees, coerceAll_wrapped (forall₂_arguments inside)]

theorem lowerFirst_wrapped : lowerFirst e' low' = lowerFirst e low := by
  obtain ⟨children', rfl, wrapped⟩ := inside
  obtain ⟨kind, name, type, method, member, literal, operator, children⟩ := e
  cases wrapped with
  | nil => rfl
  | cons _ tail =>
    cases tail with
    | nil => rfl
    | cons argument _ => exact agrees _ _ argument _ _

theorem lowerSecond_wrapped : lowerSecond e' low' = lowerSecond e low := by
  obtain ⟨children', rfl, wrapped⟩ := inside
  obtain ⟨kind, name, type, method, member, literal, operator, children⟩ := e
  cases wrapped with
  | nil => rfl
  | cons _ tail =>
    cases tail with
    | nil => rfl
    | cons _ tail =>
      cases tail with
      | nil => rfl
      | cons argument _ => exact agrees _ _ argument _ _

theorem lowerPureMethod_wrapped (method : HostMethod) :
    lowerPureMethod e' low' method = lowerPureMethod e low method := by
  cases method <;>
    simp only [lowerPureMethod, lowerFunction_wrapped inside agrees, lowerDistance_wrapped inside agrees,
      lowerVector_wrapped inside agrees, lowerFirst_wrapped inside agrees]

theorem lowerDelay_wrapped : lowerDelay e' low' = lowerDelay e low := by
  obtain ⟨children', rfl, wrapped⟩ := inside
  obtain ⟨kind, name, type, method, member, literal, operator, children⟩ := e
  cases wrapped with
  | nil => rfl
  | cons _ tail =>
    cases tail with
    | nil => rfl
    | cons argument _ =>
      refine bind_eq (agrees _ _ argument _ _) fun duration? => ?_
      simp only [argument.valueType?_eq]

theorem lowerAction_wrapped (action : Build TransformAction) :
    lowerAction e' low' action = lowerAction e low action := by
  simp only [lowerAction, lowerReceiver_wrapped inside agrees]

theorem lowerSetActive_wrapped : lowerSetActive e' low' = lowerSetActive e low := by
  simp only [lowerSetActive, lowerFirst_wrapped inside agrees, lowerReceiver_wrapped inside agrees]

theorem lowerLookTarget_wrapped : lowerLookTarget e' low' = lowerLookTarget e low := by
  obtain ⟨children', rfl, wrapped⟩ := inside
  obtain ⟨kind, name, type, method, member, literal, operator, children⟩ := e
  cases wrapped with
  | nil => rfl
  | cons _ tail =>
    cases tail with
    | nil => rfl
    | @cons argument argument' _ _ wrapped _ =>
      show (if argument'.resultType.any HostType.isObject then _ else low' argument' _) =
        if argument.resultType.any HostType.isObject then _ else low argument _
      rw [wrapped.resultType_eq]
      split
      · exact bind_eq (lowerObject_wrapped agrees wrapped _ _) fun _ => rfl
      · exact agrees _ _ wrapped _ _

theorem lowerSetPositionAndRotation_wrapped :
    lowerSetPositionAndRotation e' low' = lowerSetPositionAndRotation e low := by
  simp only [lowerSetPositionAndRotation, lowerFirst_wrapped inside agrees, lowerSecond_wrapped inside agrees,
    lowerReceiver_wrapped inside agrees]

theorem lowerListCall_wrapped (method : HostMethod) : lowerListCall e' low' method = lowerListCall e low method := by
  have receiver := inside.child? 0
  simp only [lowerListCall, lowerArguments_wrapped inside agrees]
  revert receiver
  generalize e.child? 0 = receiver?
  generalize e'.child? 0 = receiver?'
  intro receiver
  cases receiver with
  | none => rfl
  | some receiver => exact bind_eq (listName?_wrapped receiver) fun _ => rfl

theorem lowerLog_wrapped (severity : Severity) : lowerLog e' low' severity = lowerLog e low severity := by
  have pieces := Expression.forall₂_messageParts (forall₂_arguments inside)
  have parts (node : NodeId) := lowerParts_wrapped agrees node pieces 0 size_messageParts_lt size_messageParts_lt
  simp only [lowerLog, parts]

theorem lowerStepMethod_wrapped (method : HostMethod) :
    lowerStepMethod e' low' method = lowerStepMethod e low method := by
  cases method <;>
    simp only [lowerStepMethod, lowerDelay_wrapped inside agrees, lowerSetActive_wrapped inside agrees,
      lowerLog_wrapped inside agrees, lowerVector_wrapped inside agrees, lowerAction_wrapped inside agrees, lowerLookTarget_wrapped inside agrees,
      lowerSetPositionAndRotation_wrapped inside agrees, lowerListCall_wrapped inside agrees]

theorem lowerHostMethod_wrapped (symbol : MethodSymbol) (method : HostMethod) (flow : Option FlowOut) :
    lowerHostMethod e' low' symbol method flow = lowerHostMethod e low symbol method flow := by
  simp only [lowerHostMethod, lowerPureMethod_wrapped inside agrees, lowerStepMethod_wrapped inside agrees]

end Calls

section Callees

variable {m m' : Method}

theorem returned?_wrapped (wrapped : m.WrappedAs m') :
    Option.Rel Expression.WrappedAs m.returned? m'.returned? := by
  have body := wrapped.body
  unfold Method.returned?
  revert body
  generalize m.body = block
  generalize m'.body = block'
  intro body
  match body with
  | .nil => exact .none
  | .cons (a := s) head .nil =>
    dsimp only
    rw [head.kind_eq]
    exact rel_ite head.expression? .none
  | .cons _ (.cons _ _) => exact .none

theorem method?_wrapped (wrapped : c.WrappedAs c') (name : String) :
    Option.Rel Method.WrappedAs (c.method? name) (c'.method? name) :=
  rel_find? wrapped.methods fun _ _ method => by rw [method.signature]

theorem callee?_wrapped (wrapped : c.WrappedAs c') {e e' : Expression} (inside : e.WrappedInside e') :
    Option.Rel Method.WrappedAs (c.callee? e) (c'.callee? e') := by
  have symbol : e'.method = e.method := by obtain ⟨_, rfl, _⟩ := inside; rfl
  have name : c'.name = c.name := by rw [wrapped.shape]
  unfold ScriptClass.callee?
  rw [symbol, onSelf_wrapped inside, name]
  exact rel_bindSame fun symbol => rel_ite (method?_wrapped wrapped _) .none

theorem needsFlow_wrapped (wrapped : c.WrappedAs c') {e e' : Expression} (inside : e.WrappedInside e') :
    c'.needsFlow e' = c.needsFlow e := by
  have symbol : e'.method = e.method := by obtain ⟨_, rfl, _⟩ := inside; rfl
  have callee := callee?_wrapped wrapped inside
  unfold ScriptClass.needsFlow
  rw [symbol]
  split
  · rfl
  · revert callee
    generalize c.callee? e = callee?
    generalize c'.callee? e' = callee?'
    intro callee
    cases callee with
    | none => rfl
    | some callee => exact isNone_eq_of_rel (returned?_wrapped callee)

end Callees

section Inlining

variable {e e' : Expression} (inside : e.WrappedInside e') {low : Below e.size} {low' : Below e'.size}
  (agrees : low.Agrees low') (inlined : inliner.Agrees inliner')
include inside agrees inlined

theorem lowerCallee_wrapped {callee callee' : Method} (wrapped : callee.WrappedAs callee') (flow : Option FlowOut) :
    lowerCallee inliner' active e' low' callee' flow = lowerCallee inliner active e low callee flow := by
  obtain ⟨name, parameters, returnType, isAsync, body⟩ := callee
  obtain ⟨name', parameters', returnType', isAsync', body'⟩ := callee'
  have returned := returned?_wrapped wrapped
  obtain ⟨signature, block⟩ := wrapped
  cases signature
  refine bind_congr fun s => ?_
  dsimp only
  split
  · rfl
  · refine bind_eq (bindArguments_wrapped agrees _ (forall₂_arguments inside) _ _ _) fun bindings => ?_
    cases flow with
    | none =>
      revert returned
      dsimp only
      generalize Method.returned? _ = body?
      generalize Method.returned? _ = body?'
      intro returned
      cases returned with
      | none => rfl
      | some body => exact bind_eq (congrArg (inCallee _) (inlined.value _ _ _ body)) fun _ => rfl
    | some flow =>
      refine bind_congr fun returnVariable => bind_congr fun sequence => bind_congr fun _ => ?_
      refine bind_eq (congrArg (inCallee _) ?_) fun _ => rfl
      rw [Statement.assignedNames_eq block]
      exact bind_congr fun entry => inlined.block _ _ _ entry block

theorem lowerInvocation_wrapped (wrapped : c.WrappedAs c') (flow : Option FlowOut) :
    lowerInvocation c' inliner' active e' low' flow = lowerInvocation c inliner active e low flow := by
  have symbol : e'.method = e.method := by obtain ⟨_, rfl, _⟩ := inside; rfl
  have callee := callee?_wrapped wrapped inside
  have host := lowerHostMethod_wrapped inside agrees
  unfold lowerInvocation
  rw [symbol]
  revert callee
  generalize c.callee? e = callee?
  generalize c'.callee? e' = callee?'
  intro callee
  cases e.method with
  | none => rfl
  | some symbol =>
    dsimp only
    cases HostMethod.recognize? symbol with
    | some method => exact host symbol method flow
    | none =>
      cases callee with
      | none => rfl
      | some callee => exact lowerCallee_wrapped inside agrees inlined callee flow

theorem expressionStep_wrapped (wrapped : c.WrappedAs c') :
    expressionStep c' inliner' active e' low' = expressionStep c inliner active e low := by
  have member := lowerMemberAccess_wrapped inside agrees
  have call : lowerInvocation c' inliner' active e' low' none = lowerInvocation c inliner active e low none :=
    lowerInvocation_wrapped inside agrees inlined wrapped none
  have binary := lowerBinary_wrapped inside agrees
  have unary := lowerUnary_wrapped inside agrees
  have construction := lowerConstruction_wrapped inside agrees
  have element := lowerElement_wrapped inside agrees
  have cast := lowerCast_wrapped inside agrees
  have fields : c'.field? = c.field? := by rw [wrapped.shape]; rfl
  obtain ⟨children', rfl, parts⟩ := inside
  obtain ⟨kind, name, type, method, own, literal, operator, children⟩ := e
  cases kind with
  | literal => rfl
  | identifier => simp only [expressionStep, lowerIdentifier, fields]
  | this => rfl
  | memberAccess => exact member
  | methodInvocation => exact bind_eq call fun _ => rfl
  | binary => exact binary
  | unary => exact unary
  | prefixUnary => exact unary
  | objectCreation => exact construction
  | elementAccess => exact element
  | cast => exact cast
  | await =>
    cases parts with
    | nil => rfl
    | cons head _ => exact agrees _ _ head _ _
  | parenthesized =>
    cases parts with
    | nil => rfl
    | cons head _ => exact agrees _ _ head _ _
  | postfixUnary => rfl
  | assignment => rfl

end Inlining

theorem lowerExpression_wrapped (wrapped : c.WrappedAs c') (inlined : inliner.Agrees inliner') {e e' : Expression}
    (same : e.WrappedAs e') : lowerExpression c' inliner' active e' = lowerExpression c inliner active e := by
  -- Induction on the parenthesized expression: in every step it loses something, its parentheses if nothing else.
  induction sized : e'.size using Nat.strong_induction_on generalizing e e' with
  | _ size ih =>
  subst sized
  cases same with
  | inside parts =>
    rw [lowerExpression, lowerExpression]
    refine expressionStep_wrapped ⟨_, rfl, parts⟩ (fun smaller smaller' same _ small' => ?_) inlined wrapped
    exact ih _ small' same rfl
  | parenthesized around same =>
    rw [lowerExpression]
    exact ih _ (size_head_lt rfl) same rfl

end Lower

end ScriptGraph
