import Mathlib
import ScriptGraph.Proofs.Space.Lowering

/-!
Values and methods of the host keep pace: each part of an expression, given that smaller expressions do.
-/

namespace ScriptGraph

open Pattern Build

/-- Smaller expressions keep pace. -/
def Below.Tracks {bound : Nat} (low : Below bound) : Prop :=
  ∀ (p : Pairing) e small, ScriptGraph.Tracks p (low e small) (low e small)

namespace Lower

variable {p : Pairing}

section Parts

variable {bound : Nat} {low : Below bound}

theorem tracks_lowerAll (tracks : low.Tracks) (es : List Expression) (small : ∀ e ∈ es, e.size < bound) :
    Tracks p (lowerAll low es small) (lowerAll low es small) := by
  induction es generalizing p with
  | nil => exact .pure (.some .nil)
  | cons e es ih =>
    refine .bind (tracks p e _) fun p₁ _ _ _ value? => ?_
    cases value? with
    | none => exact .pure .none
    | some value =>
      refine .bind (ih _) fun p₂ _ _ _ values? => ?_
      cases values? with
      | none => exact .pure .none
      | some values => exact .pure (.some (.cons (Pair.lift value) values))

theorem tracks_valueOrUnknown {x : Lower (Option ValueOut)} (tracks : Tracks p x x) :
    Tracks p (valueOrUnknown x) (valueOrUnknown x) := by
  refine .bind tracks fun p₁ _ _ _ value? => ?_
  cases value? with
  | some value => exact .pure value
  | none => exact .lift tracks_createUnknownLiteral

theorem tracks_lowerObject (tracks : low.Tracks) (e : Expression) (small : e.size < bound) :
    Tracks p (lowerObject low e small) (lowerObject low e small) :=
  lowerObject_related (R := Tracks p) (tracks_objectLiteral .self)
    (fun _ _ => tracks_valueOrUnknown (tracks p _ _)) e small

theorem tracks_lowerComponents (tracks : low.Tracks) (es : List Expression) (small : ∀ e ∈ es, e.size < bound) :
    Tracks p (lowerComponents low es small) (lowerComponents low es small) := by
  induction es generalizing p with
  | nil => exact .pure (.some .nil)
  | cons e es ih =>
    refine .bind (tracks p e _) fun p₁ _ _ _ value? => ?_
    cases value? with
    | none => exact .pure .none
    | some value =>
      refine .bind (tracks_coerce value _ _) fun p₂ _ _ _ part => .bind (ih _) fun p₃ _ _ _ parts? => ?_
      cases parts? with
      | none => exact .pure .none
      | some parts => exact .pure (.some (.cons part.lift parts))

theorem tracks_createZeros (p : Pairing) (count : Nat) : Tracks p (createZeros count) (createZeros count) := by
  induction count generalizing p with
  | zero => exact .pure .nil
  | succ count ih =>
    exact .bind (.lift (tracks_createLiteral _)) fun _ _ _ _ zero => .bind (ih _) fun _ _ _ _ zeros =>
      .pure (.cons zero.lift zeros)

theorem tracks_bindArguments (tracks : low.Tracks) (parameters : List Parameter) (es : List Expression)
    (small : ∀ e ∈ es, e.size < bound) {bindings bindings' : Dict ValueOut} (pair : Pair p bindings bindings') :
    Tracks p (bindArguments low parameters es small bindings) (bindArguments low parameters es small bindings') := by
  induction parameters generalizing p es bindings bindings' with
  | nil => exact .pure pair
  | cons parameter parameters ih =>
    cases es with
    | nil => exact .pure pair
    | cons e es =>
      refine .bind (tracks p e _) fun p₁ _ _ _ value? => ?_
      cases value? with
      | none => exact ih es _ pair.lift
      | some value => exact ih es _ (pairs_insert pair.lift parameter.name value)

theorem tracks_coerceAll {values values' : List ValueOut} (pairs : Pair p values values') (es : List Expression) :
    Tracks p (coerceAll values es) (coerceAll values' es) := by
  induction values generalizing p values' es with
  | nil =>
    cases pairs
    exact .pure .nil
  | cons value values ih =>
    cases pairs with
    | @cons _ value' _ values' first rest =>
      have rest : Pair p values values' := rest
      cases es with
      | nil => exact .pure .nil
      | cons e es =>
        exact .bind (tracks_coerce first _ _) fun _ _ _ _ part => .bind (ih rest.lift es) fun _ _ _ _ parts =>
          .pure (.cons part.lift parts)

theorem tracks_connectCoerced {id id' : NodeId} (node : Pair p id id') (result : Option ValueType)
    (sockets : List String) {values values' : List ValueOut} (pairs : Pair p values values') (es : List Expression) :
    Tracks p (connectCoerced id result sockets values es) (connectCoerced id' result sockets values' es) := by
  induction sockets generalizing p values values' es with
  | nil => exact .pure rfl
  | cons socket sockets ih =>
    cases pairs with
    | nil => exact .pure rfl
    | @cons value value' values values' first rest =>
      have rest : Pair p values values' := rest
      cases es with
      | nil => exact .pure rfl
      | cons e es =>
        refine .bind (tracks_coerce first _ _) fun p₁ _ _ _ value => ?_
        exact .andThen (.lift (tracks_connect (node.lift.valueIn socket) value)) fun p₂ _ => ih node.lift rest.lift es

theorem tracks_lowerParts (tracks : low.Tracks) {id id' : NodeId} (node : Pair p id id') (slot : Nat)
    (parts : List MessagePart) (small : ∀ e, .value e ∈ parts → e.size < bound) :
    Tracks p (lowerParts low id slot parts small) (lowerParts low id' slot parts small) := by
  induction parts generalizing p slot with
  | nil => exact .pure rfl
  | cons part parts ih =>
    cases part with
    | text content =>
      refine .bind (ih node slot _) ?_
      rintro p₁ rest _ _ ⟨⟩
      exact .pure rfl
    | value e =>
      refine .bind (tracks p e _) fun p₁ _ _ _ value? => ?_
      cases value? with
      | none =>
        refine .bind (ih node.lift (slot + 1) _) ?_
        rintro p₂ rest _ _ ⟨⟩
        exact .pure rfl
      | some value =>
        refine .andThen (.lift (tracks_connect (node.lift.valueIn _) value)) fun p₂ _ => ?_
        refine .bind (ih node.lift (slot + 1) _) ?_
        rintro p₃ rest _ _ ⟨⟩
        exact .pure rfl

end Parts

section Values

variable {e : Expression} {low : Below e.size}

theorem tracks_lowerReceiver (tracks : low.Tracks) : Tracks p (lowerReceiver e low) (lowerReceiver e low) := by
  unfold lowerReceiver
  split
  · exact tracks_objectLiteral .self
  · exact tracks_lowerObject tracks _ _

theorem tracks_readProperty (tracks : low.Tracks) {property : Build PropertyGet}
    (reads : ∀ p, ScriptGraph.Tracks p property property) :
    Tracks p (readProperty e low property) (readProperty e low property) := by
  refine .bind (tracks_lowerReceiver tracks) fun p₁ _ _ _ object => .bind (.lift (reads p₁)) fun p₂ _ _ _ read => ?_
  exact .andThen (.lift (tracks_connect read.1 object.lift)) fun p₃ _ => .pure (Pair.lift read.2)

theorem tracks_lowerLiteral : Tracks p (lowerLiteral e) (lowerLiteral e) := by
  unfold lowerLiteral
  split
  · exact tracks_note _ _ .none
  · split
    · exact .bind (.lift (tracks_createLiteral _)) fun _ _ _ _ value => .pure (.some value)
    · exact tracks_note _ _ .none
    · exact tracks_note _ _ .none

theorem tracks_lowerIdentifier (c : ScriptClass) : Tracks p (lowerIdentifier c e) (lowerIdentifier c e) := by
  refine .bind tracks_frame? fun p₁ frame? frame'? _ frame => ?_
  have bound : Pair p₁ (frame?.bind (·.bindings.find? (e.name.getD "")))
      (frame'?.bind (·.bindings.find? (e.name.getD ""))) := by
    cases frame with
    | some frame =>
      obtain ⟨bindings, rfl, bound⟩ := frame
      exact bound _
    | none => exact .none
  have locals : frame'?.bind (·.locals.find? (e.name.getD "")) = frame?.bind (·.locals.find? (e.name.getD "")) := by
    cases frame with
    | some frame =>
      obtain ⟨bindings, rfl, -⟩ := frame
      rfl
    | none => rfl
  revert bound
  generalize frame?.bind (·.bindings.find? (e.name.getD "")) = bound?
  generalize frame'?.bind (·.bindings.find? (e.name.getD "")) = bound'?
  intro bound
  cases bound with
  | some bound => exact .pure (.some bound)
  | none =>
    refine .bind .read fun p₂ s s' _ pairs => ?_
    rw [locals, Lowering.Pairs.fields pairs]
    split
    · exact .bind (.lift (tracks_getVariable _)) fun _ _ _ _ value => .pure (.some value)
    · split
      · exact .bind (tracks_objectLiteral _) fun _ _ _ _ value => .pure (.some value)
      · exact tracks_note _ _ .none

/-- A value of a smaller expression, and one more node behind it. -/
theorem tracks_andUnary (tracks : low.Tracks) (operand : Expression) (small : operand.size < e.size) (op : Op) :
    Tracks p
      (do let some value ← low operand small | return none
          return some (← liftM (unary op value)))
      (do let some value ← low operand small | return none
          return some (← liftM (unary op value))) := by
  refine .bind (tracks p operand small) fun p₁ _ _ _ value? => ?_
  cases value? with
  | none => exact .pure .none
  | some value => exact .bind (.lift (tracks_unary op value)) fun _ _ _ _ value => .pure (.some value)

theorem tracks_lowerComponent (tracks : low.Tracks) (member : MemberSymbol) (index : Nat) :
    Tracks p (lowerComponent e low member index) (lowerComponent e low member index) := by
  unfold lowerComponent
  split
  · exact .pure .none
  · refine .bind (tracks p _ _) fun p₁ _ _ _ value? => ?_
    cases value? with
    | none => exact .pure .none
    | some vector =>
      refine .bind (.lift (tracks_extract? vector _)) fun p₂ parts? parts'? _ parts => ?_
      have part : Pair p₂ (parts?.bind (·[index]?)) (parts'?.bind (·[index]?)) := by
        cases parts with
        | none => exact .none
        | some parts => exact pairs_getElem? parts index
      revert part
      generalize parts?.bind (·[index]?) = part?
      generalize parts'?.bind (·[index]?) = part'?
      intro part
      cases part with
      | some part => exact .pure (.some part)
      | none => exact tracks_note _ _ .none

theorem tracks_lowerOperand (tracks : low.Tracks) (op : Op) :
    Tracks p (lowerOperand e low op) (lowerOperand e low op) := by
  unfold lowerOperand
  split
  · exact .pure .none
  · exact tracks_andUnary tracks _ _ op

theorem tracks_lowerCount : Tracks p (lowerCount e) (lowerCount e) := by
  unfold lowerCount
  dsimp only
  split
  · refine .bind (tracks_listName? _) fun p₁ _ _ _ name? => ?_
    cases name? with
    | none => exact tracks_note _ _ .none
    | some same =>
      cases same
      refine .bind (tracks_onList? _ fun _ _ => BoundedList.tracks_countValue) fun p₂ _ _ _ count? => ?_
      cases count? with
      | none => exact tracks_note _ _ .none
      | some count => exact .pure (.some count)
  · exact tracks_note _ _ .none

theorem tracks_lowerProperty (tracks : low.Tracks) (member : MemberSymbol) (property : HostProperty) :
    Tracks p (lowerProperty e low member property) (lowerProperty e low member property) := by
  have reading {property : Build PropertyGet} (reads : ∀ p, ScriptGraph.Tracks p property property) :
      Tracks p (do return some (← readProperty e low property)) (do return some (← readProperty e low property)) :=
    .bind (tracks_readProperty tracks reads) fun _ _ _ _ value => .pure (.some value)
  cases property with
  | position => exact reading fun _ => tracks_worldPositionGet
  | localPosition => exact reading fun _ => tracks_localPositionGet
  | rotation => exact reading fun _ => tracks_worldRotationGet
  | localRotation => exact reading fun _ => tracks_localRotationGet
  | localScale => exact reading fun _ => tracks_localScaleGet
  | lossyScale => exact reading fun _ => tracks_worldScaleGet
  | component index => exact tracks_lowerComponent tracks member index
  | normalized => exact tracks_lowerOperand tracks _
  | magnitude => exact tracks_lowerOperand tracks _
  | listCount => exact tracks_lowerCount
  | deltaTime => exact .bind tracks_tickNode fun _ _ _ _ node => .pure (.some (node.valueOut "timeSinceLastTick"))
  | time => exact .bind tracks_tickNode fun _ _ _ _ node => .pure (.some (node.valueOut "timeSinceStart"))
  | transform => exact .bind (tracks_lowerReceiver tracks) fun _ _ _ _ object => .pure (.some object)
  | gameObject => exact .bind (tracks_lowerReceiver tracks) fun _ _ _ _ object => .pure (.some object)

theorem tracks_lowerMemberAccess (tracks : low.Tracks) :
    Tracks p (lowerMemberAccess e low) (lowerMemberAccess e low) := by
  unfold lowerMemberAccess
  split
  · exact tracks_note _ _ .none
  · refine .bind .read fun p₁ s s' _ pairs => ?_
    dsimp only
    rw [Lowering.Pairs.fields pairs]
    split
    · exact .bind (.lift (tracks_getVariable _)) fun _ _ _ _ value => .pure (.some value)
    · exact tracks_lowerProperty tracks _ _
    · exact tracks_note _ _ .none

theorem tracks_lowerBinary (tracks : low.Tracks) : Tracks p (lowerBinary e low) (lowerBinary e low) := by
  unfold lowerBinary
  split
  · split
    · exact tracks_note _ _ .none
    · refine .bind (tracks p _ _) fun p₁ _ _ _ a? => ?_
      cases a? with
      | none => exact .pure .none
      | some a =>
        refine .bind (tracks p₁ _ _) fun p₂ _ _ _ b? => ?_
        cases b? with
        | none => exact .pure .none
        | some b =>
          refine .bind (tracks_coerce (Pair.lift a) _ _) fun p₃ _ _ _ a => ?_
          refine .bind (tracks_coerce (Pair.lift b) _ _) fun p₄ _ _ _ b => ?_
          refine .bind (.lift (tracks_binary _ a.lift b)) fun p₅ _ _ _ value => ?_
          split
          · exact .bind (.lift (tracks_unary .mathNot value)) fun _ _ _ _ value => .pure (.some value)
          · exact .pure (.some value)
  · exact tracks_note _ _ .none

theorem tracks_lowerUnary (tracks : low.Tracks) : Tracks p (lowerUnary e low) (lowerUnary e low) := by
  unfold lowerUnary
  split
  · exact .pure .none
  · split
    · split
      · exact .bind (.lift (tracks_createLiteral _)) fun _ _ _ _ value => .pure (.some value)
      · exact tracks_andUnary tracks _ _ _
    · exact tracks_andUnary tracks _ _ _
    · exact tracks p _ _
    · exact tracks_note _ _ .none

theorem tracks_lowerConstruction (tracks : low.Tracks) :
    Tracks p (lowerConstruction e low) (lowerConstruction e low) := by
  unfold lowerConstruction
  split
  · exact tracks_note _ _ .none
  · split
    · exact .bind (.lift (tracks_createLiteral _)) fun _ _ _ _ value => .pure (.some value)
    · refine .bind (tracks_lowerComponents tracks e.children _) fun p₁ _ _ _ parts? => ?_
      cases parts? with
      | none => exact .pure .none
      | @some parts parts' pairs =>
        have pairs : Pair p₁ parts parts' := pairs
        have length : parts'.length = parts.length := (List.Forall₂.length_eq pairs).symm
        dsimp only
        rw [length]
        refine .bind (tracks_createZeros _ _) fun p₂ zeros zeros' _ zero => ?_
        have all : Pair p₂ (parts ++ zeros) (parts' ++ zeros') := List.rel_append pairs.lift zero
        refine .bind (.lift (tracks_combine? all)) fun p₃ _ _ _ value? => ?_
        cases value? with
        | none =>
          rw [List.length_append, List.length_append, length, List.Forall₂.length_eq zero]
          exact tracks_note _ _ .none
        | some value => exact .pure (.some value)

theorem tracks_lowerElement (tracks : low.Tracks) : Tracks p (lowerElement e low) (lowerElement e low) := by
  unfold lowerElement
  split
  · refine .bind (tracks_listName? _) fun p₁ _ _ _ name? => ?_
    cases name? with
    | none => exact tracks_note _ _ .none
    | some same =>
      cases same
      refine .bind (tracks p₁ _ _) fun p₂ _ _ _ index? => ?_
      cases index? with
      | none => exact .pure .none
      | some index => exact tracks_onList? _ fun _ le => BoundedList.tracks_getItemChecked (Pair.lift index)
  · exact tracks_note _ _ .none

theorem tracks_lowerCast (tracks : low.Tracks) : Tracks p (lowerCast e low) (lowerCast e low) := by
  unfold lowerCast
  split
  · exact .pure .none
  · refine .bind (tracks p _ _) fun p₁ _ _ _ value? => ?_
    cases value? with
    | none => exact .pure .none
    | some value =>
      dsimp only
      split
      · exact .bind (.lift (tracks_unary _ value)) fun _ _ _ _ value => .pure (.some value)
      · exact .bind (.lift (tracks_unary _ value)) fun _ _ _ _ value => .pure (.some value)
      · exact .pure (.some value)

end Values

end Lower

end ScriptGraph
