import Mathlib
import ScriptGraph.Source.Loop
import ScriptGraph.Source.Message

/-!
Parentheses in source.

Parentheses may be put around expressions anywhere in the bodies of a class, as long as they carry the type of what
they are put around. What is read off the shape of source does not see them: plain names, constants, the names that
are read and written, the pieces of messages, and the headers of counting loops.
-/

namespace ScriptGraph

/-- The second expression is the first one with parentheses put around parts of it or around the whole. -/
inductive Expression.WrappedAs : Expression → Expression → Prop
  | inside {e : Expression} {children : List Expression} :
      List.Forall₂ WrappedAs e.children children → WrappedAs e { e with children }
  | parenthesized {e e' : Expression} (around : Expression) : WrappedAs e e' →
      WrappedAs e { around with kind := .parenthesized, resultType := e'.resultType, children := [e'] }

/-- Parentheses are put around parts of the expression, not around the whole. -/
def Expression.WrappedInside (e e' : Expression) : Prop :=
  ∃ children, e' = { e with children } ∧ List.Forall₂ WrappedAs e.children children

/-- The kinds of statements whose first expression is looked at as it is. -/
def StatementKind.keepsHead (kind : StatementKind) : Bool := kind = .variableDeclarator || kind = .assignment

/-- The second statement is the first one with parentheses put around expressions in it. The name that a declarator
declares and the assignment of an assignment statement get none. -/
inductive Statement.WrappedAs : Statement → Statement → Prop
  | inside {s : Statement} {children : List Statement} {expressions : List Expression} :
      List.Forall₂ WrappedAs s.children children → List.Forall₂ Expression.WrappedAs s.expressions expressions →
      (s.kind.keepsHead → Option.Rel Expression.WrappedInside s.expressions.head? expressions.head?) →
      WrappedAs s { s with children, expressions }

/-- The second method is the first one with parentheses put around expressions in its body. -/
structure Method.WrappedAs (m m' : Method) : Prop where
  signature : m' = { m with body := m'.body }
  body : List.Forall₂ Statement.WrappedAs m.body m'.body

/-- The second class is the first one with parentheses put around expressions in the bodies of its methods. -/
structure ScriptClass.WrappedAs (c c' : ScriptClass) : Prop where
  shape : c' = { c with methods := c'.methods }
  methods : List.Forall₂ Method.WrappedAs c.methods c'.methods

section Lists

variable {α : Type} {R S : α → α → Prop} {l l' : List α}

/-- What is found first in related lists by what related elements share is related. -/
theorem rel_find? {p : α → Bool} (related : List.Forall₂ R l l') (same : ∀ a a', R a a' → p a' = p a) :
    Option.Rel R (l.find? p) (l'.find? p) := by
  induction related with
  | nil => exact .none
  | @cons a a' _ _ head _ ih =>
    rw [List.find?_cons, List.find?_cons, same a a' head]
    cases p a with
    | true => exact .some head
    | false => exact ih

theorem rel_head? (related : List.Forall₂ R l l') : Option.Rel R l.head? l'.head? := by
  cases related with
  | nil => exact .none
  | cons head _ => exact .some head

theorem rel_getElem? (related : List.Forall₂ R l l') (index : Nat) : Option.Rel R l[index]? l'[index]? := by
  induction related generalizing index with
  | nil => exact .none
  | cons head _ ih =>
    cases index with
    | zero => exact .some head
    | succ index => exact ih index

theorem forall₂_dropWhile {p : α → Bool} (related : List.Forall₂ R l l') (same : ∀ a a', R a a' → p a' = p a) :
    List.Forall₂ R (l.dropWhile p) (l'.dropWhile p) := by
  induction related with
  | nil => exact .nil
  | @cons a a' _ _ head tail ih =>
    rw [List.dropWhile_cons, List.dropWhile_cons, same a a' head]
    split
    · exact ih
    · exact .cons head tail

end Lists

section Options

variable {α β : Type} {R : α → α → Prop} {S : β → β → Prop} {o o' : Option α}

theorem rel_bind {f f' : α → Option β} (related : Option.Rel R o o')
    (next : ∀ a a', R a a' → Option.Rel S (f a) (f' a')) : Option.Rel S (o.bind f) (o'.bind f') := by
  cases related with
  | none => exact .none
  | some related => exact next _ _ related

theorem rel_map {f : α → β} (related : Option.Rel R o o') (next : ∀ a a', R a a' → S (f a) (f a')) :
    Option.Rel S (o.map f) (o'.map f) := by
  cases related with
  | none => exact .none
  | some related => exact .some (next _ _ related)

theorem rel_bindSame {o : Option α} {f f' : α → Option β} (next : ∀ a, Option.Rel S (f a) (f' a)) :
    Option.Rel S (o.bind f) (o.bind f') := by
  cases o with
  | none => exact .none
  | some a => exact next a

theorem rel_ite {γ : Type} {T : γ → γ → Prop} {p : Prop} [Decidable p] {b b' d d' : γ} (yes : T b b') (no : T d d') :
    T (if p then b else d) (if p then b' else d') := by
  split
  · exact yes
  · exact no

theorem isNone_eq_of_rel (related : Option.Rel R o o') : o'.isNone = o.isNone := by cases related <;> rfl

/-- What is the same of related values is the same of both. -/
theorem bind_eq_of_rel {f f' : α → Option β} (related : Option.Rel R o o')
    (same : ∀ a a', R a a' → f' a' = f a) : o'.bind f' = o.bind f := by
  cases related with
  | none => rfl
  | some related => exact same _ _ related

end Options

namespace Expression

variable {e e' : Expression} {es es' : List Expression}

theorem WrappedInside.wrappedAs (inside : e.WrappedInside e') : e.WrappedAs e' := by
  obtain ⟨children, rfl, wrapped⟩ := inside
  exact .inside wrapped

/-- Induction on where parentheses are put. -/
@[elab_as_elim]
theorem WrappedAs.induction {motive : (e e' : Expression) → e.WrappedAs e' → Prop}
    (inside : ∀ (e : Expression) (children : List Expression) (wrapped : List.Forall₂ WrappedAs e.children children),
      List.Forall₂ (fun e e' => ∃ w, motive e e' w) e.children children → motive e _ (.inside wrapped))
    (parenthesized : ∀ (e e' around : Expression) (wrapped : e.WrappedAs e'),
      motive e e' wrapped → motive e _ (.parenthesized around wrapped))
    (wrapped : e.WrappedAs e') : motive e e' wrapped :=
  @WrappedAs.rec motive (fun es es' _ => List.Forall₂ (fun e e' => ∃ w, motive e e' w) es es')
    (fun children ih => inside _ _ children ih) (fun around wrapped ih => parenthesized _ _ around wrapped ih)
    .nil (fun head _ ih tail => .cons ⟨head, ih⟩ tail) _ _ wrapped

theorem WrappedAs.refl (e : Expression) : e.WrappedAs e := by
  have parts : List.Forall₂ WrappedAs e.children e.children :=
    List.forall₂_same.2 fun child _ => WrappedAs.refl child
  cases e
  exact .inside parts
termination_by e.size
decreasing_by exact size_lt_of_mem (by assumption)

theorem WrappedAs.resultType_eq (wrapped : e.WrappedAs e') : e'.resultType = e.resultType := by
  induction wrapped using WrappedAs.induction with
  | inside => rfl
  | parenthesized _ _ _ _ ih => exact ih

theorem WrappedAs.valueType?_eq (wrapped : e.WrappedAs e') : e'.valueType? = e.valueType? := by
  rw [valueType?, wrapped.resultType_eq, valueType?]

/-- Inside all parentheses there is the same expression, but for the parentheses around its parts. -/
theorem WrappedAs.unwrapped (wrapped : e.WrappedAs e') : e.unwrapped.WrappedInside e'.unwrapped := by
  induction wrapped using WrappedAs.induction with
  | inside e children wrapped ih =>
    obtain ⟨kind, name, type, method, member, literal, operator, old⟩ := e
    cases ih with
    | nil => exact ⟨[], by cases kind <;> rfl, by cases kind <;> exact .nil⟩
    | cons head tail =>
      cases kind with
      | parenthesized => exact head.2
      | _ => exact ⟨_, rfl, wrapped⟩
  | parenthesized _ _ _ _ ih => exact ih

section Unwrapped

variable (inside : e.WrappedInside e')
include inside

theorem WrappedInside.kind_eq : e'.kind = e.kind := by obtain ⟨_, rfl, _⟩ := inside; rfl

theorem WrappedInside.children : List.Forall₂ WrappedAs e.children e'.children := by
  obtain ⟨_, rfl, wrapped⟩ := inside; exact wrapped

theorem WrappedInside.child? (index : Nat) : Option.Rel WrappedAs (e.child? index) (e'.child? index) :=
  rel_getElem? inside.children index

theorem WrappedInside.operand {first : Expression} {rest : List Expression} (children : e.children = first :: rest) :
    ∃ first' rest', e'.children = first' :: rest' ∧ first.WrappedAs first' ∧ List.Forall₂ WrappedAs rest rest' := by
  have wrapped := inside.children
  rw [children] at wrapped
  obtain ⟨first', rest', head, tail, same⟩ := List.forall₂_cons_left_iff.1 wrapped
  exact ⟨first', rest', same, head, tail⟩

end Unwrapped

theorem WrappedAs.plainName?_eq (wrapped : e.WrappedAs e') : e'.plainName? = e.plainName? := by
  obtain ⟨children, same, -⟩ := wrapped.unwrapped
  simp only [plainName?, same]

theorem WrappedInside.firstName?_eq (inside : e.WrappedInside e') : e'.firstName? = e.firstName? :=
  bind_eq_of_rel (inside.child? 0) fun _ _ wrapped => wrapped.plainName?_eq

theorem WrappedInside.valueType?_eq (inside : e.WrappedInside e') : e'.valueType? = e.valueType? :=
  inside.wrappedAs.valueType?_eq

theorem WrappedInside.typeName?_eq (inside : e.WrappedInside e') : e'.typeName? = e.typeName? := by
  rw [typeName?, inside.wrappedAs.resultType_eq, typeName?]

theorem WrappedInside.isWrite_eq (inside : e.WrappedInside e') : e'.isWrite = e.isWrite := by
  rw [isWrite, inside.kind_eq, isWrite]

theorem WrappedInside.operatorToken_eq (inside : e.WrappedInside e') : e'.operatorToken = e.operatorToken := by
  obtain ⟨_, rfl, _⟩ := inside
  rfl

theorem WrappedInside.wholeLiteral?_eq (inside : e.WrappedInside e') : e'.wholeLiteral? = e.wholeLiteral? := by
  obtain ⟨_, rfl, _⟩ := inside
  rfl

section Scans

theorem assignedNamesAll_congr (same : List.Forall₂ (fun e e' => assignedNames e' = assignedNames e) es es') :
    assignedNamesAll es' = assignedNamesAll es := by
  induction same with
  | nil => rfl
  | cons head _ ih => rw [assignedNamesAll, head, ih, assignedNamesAll]

theorem changedNamesAll_congr (same : List.Forall₂ (fun e e' => changedNames e' = changedNames e) es es') :
    changedNamesAll es' = changedNamesAll es := by
  induction same with
  | nil => rfl
  | cons head _ ih => rw [changedNamesAll, head, ih, changedNamesAll]

theorem readNamesAll_congr (same : List.Forall₂ (fun e e' => readNames e' = readNames e) es es') :
    readNamesAll es' = readNamesAll es := by
  induction same with
  | nil => rfl
  | cons head _ ih => rw [readNamesAll, head, ih, readNamesAll]

theorem holdsAny_congr {kind : ExpressionKind}
    (same : List.Forall₂ (fun e e' => holds kind e' = holds kind e) es es') : holdsAny kind es' = holdsAny kind es := by
  induction same with
  | nil => rfl
  | cons head _ ih => rw [holdsAny, head, ih, holdsAny]

theorem WrappedAs.assignedNames_eq (wrapped : e.WrappedAs e') : e'.assignedNames = e.assignedNames := by
  induction wrapped using WrappedAs.induction with
  | inside e children wrapped ih =>
    have first := WrappedInside.firstName?_eq ⟨children, rfl, wrapped⟩
    obtain ⟨kind, name, type, method, member, literal, operator, old⟩ := e
    rw [assignedNames, assignedNames, first, assignedNamesAll_congr (ih.imp fun _ _ known => known.2)]
    rfl
  | parenthesized e e' around _ ih => simpa [assignedNames, assignedNamesAll, isWrite] using ih

theorem WrappedAs.changedNames_eq (wrapped : e.WrappedAs e') : e'.changedNames = e.changedNames := by
  induction wrapped using WrappedAs.induction with
  | inside e children wrapped ih =>
    have first := WrappedInside.firstName?_eq ⟨children, rfl, wrapped⟩
    obtain ⟨kind, name, type, method, member, literal, operator, old⟩ := e
    rw [changedNames, changedNames, first, changedNamesAll_congr (ih.imp fun _ _ known => known.2)]
    rfl
  | parenthesized e e' around _ ih => simpa [changedNames, changedNamesAll, isWrite] using ih

theorem WrappedAs.readNames_eq (wrapped : e.WrappedAs e') : e'.readNames = e.readNames := by
  induction wrapped using WrappedAs.induction with
  | inside e children _ ih =>
    obtain ⟨kind, name, type, method, member, literal, operator, old⟩ := e
    rw [readNames, readNames, readNamesAll_congr (ih.imp fun _ _ known => known.2)]
  | parenthesized e e' around _ ih => simpa [readNames, readNamesAll] using ih

/-- No scan looks for parentheses. -/
theorem WrappedAs.holds_eq (wrapped : e.WrappedAs e') {kind : ExpressionKind} (other : kind ≠ .parenthesized) :
    e'.holds kind = e.holds kind := by
  induction wrapped using WrappedAs.induction with
  | inside e children _ ih =>
    obtain ⟨kind, name, type, method, member, literal, operator, old⟩ := e
    rw [holds, holds, holdsAny_congr (ih.imp fun _ _ known => known.2)]
  | parenthesized e e' around _ ih => simpa [holds, holdsAny, other.symm] using ih

end Scans

section Constants

theorem components?_congr
    (same : List.Forall₂ (fun e e' => ∀ expected, constant? expected e' = constant? expected e) es es') :
    components? es' = components? es := by
  induction same with
  | nil => rfl
  | cons head _ ih => rw [components?, head, ih, components?]

theorem WrappedAs.constant?_eq (wrapped : e.WrappedAs e') (expected : Option ValueType) :
    e'.constant? expected = e.constant? expected := by
  induction wrapped using WrappedAs.induction generalizing expected with
  | inside e children wrapped ih =>
    obtain ⟨kind, name, type, method, member, literal, operator, old⟩ := e
    have components : components? children = components? old := components?_congr (ih.imp fun _ _ known => known.2)
    cases ih with
    | nil => rfl
    | @cons operand operand' _ _ head _ =>
      obtain ⟨head, same⟩ := head
      have whole := head.unwrapped.wholeLiteral?_eq
      cases kind with
      | parenthesized => exact same expected
      | unary => simp only [constant?, whole, same]
      | prefixUnary => simp only [constant?, whole, same]
      | objectCreation => simp only [constant?, components]
      | _ => rfl
  | parenthesized _ _ _ _ ih => exact ih expected

end Constants

end Expression

/-- The second piece of a message is the first one with parentheses put around parts of it. -/
inductive MessagePart.WrappedAs : MessagePart → MessagePart → Prop
  | text (content : String) : WrappedAs (.text content) (.text content)
  | value {e e' : Expression} : e.WrappedAs e' → WrappedAs (.value e) (.value e')

namespace Expression

theorem messagePartsAll_wrapped {es es' : List Expression}
    (wrapped : List.Forall₂ (fun e e' => List.Forall₂ MessagePart.WrappedAs e.messageParts e'.messageParts) es es') :
    List.Forall₂ MessagePart.WrappedAs (messagePartsAll es) (messagePartsAll es') := by
  induction wrapped with
  | nil => exact .nil
  | cons head _ ih => exact List.rel_append head ih

theorem WrappedAs.messageParts {e e' : Expression} (wrapped : e.WrappedAs e') :
    List.Forall₂ MessagePart.WrappedAs e.messageParts e'.messageParts := by
  induction wrapped using WrappedAs.induction with
  | inside e children wrapped ih =>
    have pieces := messagePartsAll_wrapped (ih.imp fun _ _ known => known.2)
    have whole := MessagePart.WrappedAs.value (.inside wrapped)
    obtain ⟨kind, name, type, method, member, literal, operator, old⟩ := e
    cases kind with
    | parenthesized =>
      cases ih with
      | nil => exact .cons whole .nil
      | cons head _ => exact head.2
    | binary =>
      rw [Expression.messageParts, Expression.messageParts]
      exact rel_ite pieces (.cons whole .nil)
    | literal =>
      cases literal with
      | none => exact .cons whole .nil
      | some constant =>
        cases constant with
        | text content => exact .cons (.text content) .nil
        | _ => exact .cons whole .nil
    | _ => exact .cons whole .nil
  | parenthesized _ _ _ _ ih => exact ih

theorem forall₂_messageParts {es es' : List Expression} (wrapped : List.Forall₂ WrappedAs es es') :
    List.Forall₂ MessagePart.WrappedAs (messagePartsAll es) (messagePartsAll es') :=
  messagePartsAll_wrapped (wrapped.imp fun _ _ wrapped => wrapped.messageParts)

end Expression

namespace Statement

variable {s s' : Statement} {block block' : List Statement}

/-- Parentheses around expressions of a statement whose first expression may get some, too. -/
theorem WrappedAs.of_free {children : List Statement} {expressions : List Expression}
    (free : s.kind.keepsHead = false) (wrapped : List.Forall₂ WrappedAs s.children children)
    (around : List.Forall₂ Expression.WrappedAs s.expressions expressions) :
    s.WrappedAs { s with children, expressions } :=
  .inside wrapped around fun kept => absurd (free.symm.trans kept) Bool.false_ne_true

theorem WrappedAs.kind_eq (wrapped : s.WrappedAs s') : s'.kind = s.kind := by cases wrapped; rfl

theorem WrappedAs.children (wrapped : s.WrappedAs s') : List.Forall₂ WrappedAs s.children s'.children := by
  cases wrapped with
  | inside children => exact children

theorem WrappedAs.expression? (wrapped : s.WrappedAs s') :
    Option.Rel Expression.WrappedAs s.expression? s'.expression? := by
  cases wrapped with
  | inside _ expressions _ => exact rel_head? expressions

theorem WrappedAs.head (wrapped : s.WrappedAs s') (kept : s.kind.keepsHead) :
    Option.Rel Expression.WrappedInside s.expression? s'.expression? := by
  cases wrapped with
  | inside _ _ head => exact head kept

theorem WrappedAs.child? (wrapped : s.WrappedAs s') (kind : StatementKind) :
    Option.Rel WrappedAs (s.child? kind) (s'.child? kind) :=
  rel_find? wrapped.children fun _ _ wrapped => by rw [wrapped.kind_eq]

mutual

theorem WrappedAs.allExpressions : ∀ {s s' : Statement}, s.WrappedAs s' →
    List.Forall₂ Expression.WrappedAs s.allExpressions s'.allExpressions
  | ⟨_, _, _⟩, _, .inside children expressions _ => List.rel_append expressions (forall₂_allExpressionsIn children)

theorem forall₂_allExpressionsIn : ∀ {block block' : List Statement}, List.Forall₂ WrappedAs block block' →
    List.Forall₂ Expression.WrappedAs (allExpressionsIn block) (allExpressionsIn block')
  | [], _, .nil => .nil
  | _ :: _, _, .cons head tail => List.rel_append head.allExpressions (forall₂_allExpressionsIn tail)

end

section Blocks

variable (wrapped : List.Forall₂ WrappedAs block block')
include wrapped

theorem assignedNames_eq : assignedNames block' = assignedNames block :=
  Expression.assignedNamesAll_congr
    ((forall₂_allExpressionsIn wrapped).imp fun _ _ wrapped => wrapped.assignedNames_eq)

theorem changedNames_eq : changedNames block' = changedNames block :=
  Expression.changedNamesAll_congr
    ((forall₂_allExpressionsIn wrapped).imp fun _ _ wrapped => wrapped.changedNames_eq)

theorem suspends_eq : suspends block' = suspends block :=
  Expression.holdsAny_congr
    ((forall₂_allExpressionsIn wrapped).imp fun _ _ wrapped => wrapped.holds_eq (by decide))

end Blocks

end Statement

/-- The second step of a loop is the first one with parentheses put around parts of it. -/
inductive LoopStep.WrappedAs : LoopStep → LoopStep → Prop
  | constant (amount : Int32) : WrappedAs (.constant amount) (.constant amount)
  | computed {amount amount' : Expression} (negate : Bool) : amount.WrappedAs amount' →
      WrappedAs (.computed amount negate) (.computed amount' negate)

/-- The second loop is the first one with parentheses put around parts of it. -/
structure CountingLoop.WrappedAs (l l' : CountingLoop) : Prop where
  counter : l'.counter = l.counter
  declared : l'.declared = l.declared
  comparison : l'.comparison = l.comparison
  start : l.start.WrappedAs l'.start
  bound : l.bound.WrappedAs l'.bound
  step : l.step.WrappedAs l'.step
  body : List.Forall₂ Statement.WrappedAs l.body l'.body

namespace CountingLoop

variable {s s' : Statement}

theorem forall₂_bodyOf (wrapped : s.WrappedAs s') : List.Forall₂ Statement.WrappedAs (bodyOf s) (bodyOf s') :=
  forall₂_dropWhile wrapped.children fun _ _ wrapped => by rw [isHeader, wrapped.kind_eq, isHeader]

/-- The two clauses start the same counter from the same value. -/
def StartsAlike (start start' : String × Expression × Bool) : Prop :=
  start'.1 = start.1 ∧ start.2.1.WrappedAs start'.2.1 ∧ start'.2.2 = start.2.2

theorem initializer?_wrapped (wrapped : s.WrappedAs s') :
    Option.Rel StartsAlike (initializer? s) (initializer? s') := by
  have clause := wrapped.child? .declaration
  unfold initializer?
  revert clause
  generalize s.child? .declaration = declaration?
  generalize s'.child? .declaration = declaration?'
  intro clause
  cases clause with
  | @some declaration declaration' clause =>
    have declarators : List.Forall₂ Statement.WrappedAs
        (declaration.children.filter (·.kind = .variableDeclarator))
        (declaration'.children.filter (·.kind = .variableDeclarator)) :=
      List.rel_filter (fun _ _ wrapped => by simp only [wrapped.kind_eq]) clause.children
    have kinds : ∀ declarator ∈ declaration.children.filter (·.kind = .variableDeclarator),
        declarator.kind = .variableDeclarator := fun _ member => by simpa using (List.mem_filter.1 member).2
    dsimp only
    revert declarators kinds
    generalize declaration.children.filter (·.kind = .variableDeclarator) = declarators
    generalize declaration'.children.filter (·.kind = .variableDeclarator) = declarators'
    intro wrapped kinds
    match wrapped with
    | .nil => exact .none
    | .cons (a := declarator) head .nil =>
      have named := head.head (by rw [kinds declarator List.mem_cons_self]; rfl)
      refine rel_bind named fun name name' inside => ?_
      have same : name'.name = name.name := by obtain ⟨_, rfl, _⟩ := inside; rfl
      rw [same]
      refine rel_bindSame fun name => rel_bind (head.child? .initializer) fun _ _ initializer => ?_
      exact rel_bind initializer.expression? fun _ _ value => .some ⟨rfl, value, rfl⟩
    | .cons _ (.cons _ _) => exact .none
  | none =>
    refine rel_bind wrapped.expression? fun e e' wrapped => ?_
    have inside := wrapped.unwrapped
    dsimp only
    rw [inside.kind_eq, inside.operatorToken_eq]
    refine rel_ite ?_ .none
    refine rel_bind (inside.child? 0) fun target target' wrapped => ?_
    rw [wrapped.plainName?_eq]
    exact rel_bindSame fun name => rel_bind (inside.child? 1) fun _ _ value => .some ⟨rfl, value, rfl⟩

theorem stepBy_wrapped {amount amount' : Expression} (wrapped : amount.WrappedAs amount') (negate : Bool) :
    LoopStep.WrappedAs (stepBy amount negate) (stepBy amount' negate) := by
  unfold stepBy
  rw [wrapped.constant?_eq]
  split
  · exact .constant _
  · exact .computed negate wrapped

theorem sumStep?_wrapped {sum sum' : Expression} (inside : sum.WrappedInside sum') (counter : String) :
    Option.Rel LoopStep.WrappedAs (sumStep? counter sum) (sumStep? counter sum') := by
  unfold sumStep?
  rw [inside.kind_eq, inside.operatorToken_eq]
  refine rel_bind (inside.child? 0) fun first first' wrapped => ?_
  rw [wrapped.plainName?_eq]
  refine rel_bindSame fun name => rel_ite ?_ .none
  split
  · exact rel_bind (inside.child? 1) fun _ _ amount => .some (stepBy_wrapped amount _)
  · exact rel_bind (inside.child? 1) fun _ _ amount => .some (stepBy_wrapped amount _)
  · exact .none

theorem step?_wrapped (wrapped : s.WrappedAs s') (counter : String) :
    Option.Rel LoopStep.WrappedAs (step? s counter) (step? s' counter) := by
  refine rel_bind wrapped.expression? fun e e' wrapped => ?_
  have inside := wrapped.unwrapped
  dsimp only
  rw [inside.isWrite_eq, inside.firstName?_eq, inside.kind_eq, inside.operatorToken_eq]
  refine rel_ite .none (rel_bindSame fun name => rel_ite .none (rel_ite ?_ ?_))
  · refine rel_bind (inside.child? 1) fun amount amount' wrapped => ?_
    split
    · exact .some (stepBy_wrapped wrapped _)
    · exact .some (stepBy_wrapped wrapped _)
    · exact sumStep?_wrapped wrapped.unwrapped counter
    · exact sumStep?_wrapped wrapped.unwrapped counter
    · exact .none
  · split
    · exact .some (.constant _)
    · exact .some (.constant _)
    · exact .none

theorem ofStatement?_wrapped (wrapped : s.WrappedAs s') :
    Option.Rel WrappedAs (ofStatement? s) (ofStatement? s') := by
  refine rel_bind (wrapped.child? .forInitializer) fun _ _ clause => ?_
  refine rel_bind (initializer?_wrapped clause) fun start start' alike => ?_
  obtain ⟨counter, first, declared⟩ := start
  obtain ⟨_, first', _⟩ := start'
  obtain ⟨rfl, first, rfl⟩ := alike
  refine rel_bind (wrapped.child? .forCondition) fun _ _ clause => ?_
  refine rel_bind clause.expression? fun _ _ wrappedCondition => ?_
  have condition := wrappedCondition.unwrapped
  dsimp only
  rw [condition.kind_eq, condition.firstName?_eq, condition.operatorToken_eq]
  refine rel_bindSame fun name => rel_ite ?_ .none
  refine rel_bindSame fun comparison => rel_bind (condition.child? 1) fun _ _ bound => ?_
  refine rel_bind (wrapped.child? .forIncrementor) fun _ _ clause => ?_
  refine rel_bind (step?_wrapped clause _) fun _ _ step => ?_
  exact .some ⟨rfl, rfl, rfl, first, bound, step, forall₂_bodyOf wrapped⟩

section Canonical

variable {l l' : CountingLoop} (wrapped : l.WrappedAs l')
include wrapped

theorem hasUnitStep_eq : l'.hasUnitStep = l.hasUnitStep := by
  have step := wrapped.step
  unfold hasUnitStep
  revert step
  generalize l.step = step
  generalize l'.step = step'
  intro step
  cases step <;> rfl

theorem isCanonical_eq : l'.isCanonical = l.isCanonical := by
  unfold isCanonical
  rw [wrapped.declared, wrapped.comparison, hasUnitStep_eq wrapped, Statement.suspends_eq wrapped.body,
    wrapped.bound.holds_eq (by decide), Statement.changedNames_eq wrapped.body, wrapped.counter,
    wrapped.bound.readNames_eq]

end Canonical

end CountingLoop

end ScriptGraph
