import ScriptGraph.Lower.Value
import ScriptGraph.Proofs.Lower.Environment

/-!
What is known after the parts of an expression were lowered, given that smaller expressions give values.
-/

namespace ScriptGraph

open Pattern (BoundedList)

namespace Lower

/-- Smaller expressions give values. -/
def Below.Valued {bound : Nat} (low : Below bound) : Prop := ∀ e small, Values (low e small)

section Parts

variable {bound : Nat} {low : Below bound}

theorem gives_lowerAll (valued : Below.Valued low) : ∀ (es : List Expression)
    (small : ∀ e ∈ es, e.size < bound),
    Gives (lowerAll low es small) fun values? => (values?.getD []).map .out
  | [], _, _, _, _, _, knows => .pure knows
  | e :: es, small, w, facts, exits, s, knows => by
    refine (valued e _ knows).bind fun v? _ k => ?_
    cases v? with
    | none => exact .pure k
    | some v =>
      refine (gives_lowerAll valued es _ k).bind fun values? _ k => ?_
      cases values? with
      | none => exact .pure (k.weaken (by simp +contextual))
      | some values => exact .pure (k.weaken (by simp +contextual [or_imp]))

theorem gives_valueOrUnknown {step : Lower (Option ValueOut)} (values : Values step) :
    Gives (valueOrUnknown step) fun v => [.out v] := by
  intro w facts exits s knows
  refine (values knows).bind fun v? _ k => ?_
  cases v? with
  | some v => exact .pure k
  | none => exact .lift (k.known.createUnknownLiteral.mono fun _ _ k' => k.add k')

theorem gives_lowerObject (valued : Below.Valued low) (e : Expression) (small : e.size < bound) :
    Gives (lowerObject low e small) fun v => [.out v] :=
  lowerObject_induction (P := fun step => Gives step fun v => [.out v]) (gives_objectLiteral _)
    (fun _ _ => gives_valueOrUnknown (valued _ _)) e small

end Parts

section Expressions

variable {e : Expression} {low : Below e.size}

theorem gives_lowerReceiver (valued : Below.Valued low) :
    Gives (lowerReceiver e low) fun v => [.out v] := by
  unfold lowerReceiver
  split
  · exact gives_objectLiteral _
  · exact gives_lowerObject valued _ _

/-- A read of a property, its target still to be fed. -/
def ReadsProperty (property : Build Pattern.PropertyGet) : Prop :=
  ∀ ⦃w : Scope⦄ ⦃facts : List Fact⦄ ⦃exits : List FlowOut⦄ ⦃c : Context⦄, Known w facts exits c →
    Ensures property c fun read c' => Known w (read.facts ++ facts) exits c'

theorem gives_readProperty (valued : Below.Valued low) {property : Build Pattern.PropertyGet}
    (reads : ReadsProperty property) : Gives (readProperty e low property) fun v => [.out v] := by
  intro w facts exits s knows
  refine (gives_lowerReceiver valued knows).bind fun object s k => ?_
  refine .liftBind (reads k.known.enter) fun read _ inner => ?_
  refine .liftBind (inner.connect (t := read.target) (by simp +contextual) (by simp)) fun _ _ inner => ?_
  exact .pure (k.advance (k.known.leave inner (by simp +contextual [or_imp])))

theorem values_lowerIdentifier (c : ScriptClass) : Values (lowerIdentifier c e) := by
  intro w facts exits s knows
  refine ensures_frame?.bind ?_
  rintro _ _ ⟨rfl, rfl⟩
  rcases bound : s.frames.head?.bind (·.bindings.find? (e.name.getD "")) with _ | v
  · refine .getBind ?_
    rcases found : (s.frames.head?.bind (·.locals.find? (e.name.getD ""))).or
        (s.fields.find? (e.name.getD "")) with _ | id
    · dsimp only
      split
      · exact (gives_objectLiteral _ knows).bind fun _ _ k => .pure k
      · exact .liftBind (knows_note knows) fun _ _ k => .pure k
    · have declared : .row id ∈ s.facts ++ facts := by
        rcases Option.or_eq_some_iff.1 found with own | ⟨_, field⟩
        · obtain ⟨frame, top, here⟩ := Option.bind_eq_some_iff.1 own
          exact List.mem_append_left _ (Lowering.local_mem_facts top here)
        · exact List.mem_append_left _ (Lowering.row_mem_facts field)
      exact .liftBind (knows.known.getVariable declared) fun _ _ k => .pure (knows.add k)
  · obtain ⟨frame, top, found⟩ := Option.bind_eq_some_iff.1 bound
    have given := Lowering.out_mem_facts top found
    exact .pure (knows.advance (knows.known.weaken (by simp +contextual [or_imp, given])))

theorem values_lowerComponent (valued : Below.Valued low) (member : MemberSymbol) (index : Nat) :
    Values (lowerComponent e low member index) := by
  intro w facts exits s knows
  unfold lowerComponent
  split
  · exact .pure knows
  · refine (valued _ _ knows).bind fun v? s k => ?_
    cases v? with
    | none => exact .pure k
    | some vector =>
      refine .liftBind (k.known.extract? (by simp)) fun parts? c k' => ?_
      have k := k.gain ((parts?.getD []).map .out) k' (by simp +contextual [or_imp])
      rcases part : parts?.bind (·[index]?) with _ | v
      · exact .liftBind (knows_note k) fun _ _ k => .pure (k.weaken (by simp +contextual))
      · obtain ⟨parts, rfl, found⟩ := Option.bind_eq_some_iff.1 part
        have member := List.mem_of_getElem? found
        exact .pure (k.weaken (by simp +contextual [or_imp, member]))

theorem values_lowerOperand (valued : Below.Valued low) {op : Op} (computes : op.Computes ["a"]) :
    Values (lowerOperand e low op) := by
  intro w facts exits s knows
  unfold lowerOperand
  split
  · exact .pure knows
  · refine (valued _ _ knows).bind fun v? s k => ?_
    cases v? with
    | none => exact .pure k
    | some v =>
      exact .liftBind (k.known.unary computes (by simp)) fun _ _ k' => .pure (k.replace k')

theorem values_lowerCount : Values (lowerCount e) := by
  intro w facts exits s knows
  unfold lowerCount
  dsimp only
  split
  · refine ensures_listName?.bind ?_
    rintro name? _ rfl
    cases name? with
    | none => exact .liftBind (knows_note knows) fun _ _ k => .pure k
    | some name =>
      refine (ensures_onListValue knows fun l ready => knows.known.countValue ready).bind fun v? _ k => ?_
      cases v? with
      | none => exact .liftBind (knows_note k) fun _ _ k => .pure k
      | some v => exact .pure k
  · exact .liftBind (knows_note knows) fun _ _ k => .pure k

theorem values_lowerProperty (valued : Below.Valued low) (member : MemberSymbol) (property : HostProperty) :
    Values (lowerProperty e low member property) := by
  intro w facts exits s knows
  have reading {property : Build Pattern.PropertyGet} (reads : ReadsProperty property) :
      Ensures (do return some (← readProperty e low property)) s fun v? s' =>
        s'.Knows w (v?.toList.map .out ++ facts) exits :=
    (gives_readProperty valued reads knows).bind fun _ _ k => .pure k
  cases property with
  | position => exact reading fun _ _ _ _ k => k.worldPositionGet
  | localPosition => exact reading fun _ _ _ _ k => k.localPositionGet
  | rotation => exact reading fun _ _ _ _ k => k.worldRotationGet
  | localRotation => exact reading fun _ _ _ _ k => k.localRotationGet
  | localScale => exact reading fun _ _ _ _ k => k.localScaleGet
  | lossyScale => exact reading fun _ _ _ _ k => k.worldScaleGet
  | component index => exact values_lowerComponent valued member index knows
  | normalized => exact values_lowerOperand valued (by decide) knows
  | magnitude => exact values_lowerOperand valued (by decide) knows
  | listCount => exact values_lowerCount knows
  | deltaTime => exact (ensures_tickNode knows).bind fun _ _ k => .pure (k.weaken (by simp +contextual))
  | time => exact (ensures_tickNode knows).bind fun _ _ k => .pure (k.weaken (by simp +contextual))
  | transform => exact (gives_lowerReceiver valued knows).bind fun _ _ k => .pure k
  | gameObject => exact (gives_lowerReceiver valued knows).bind fun _ _ k => .pure k

theorem values_lowerMemberAccess (valued : Below.Valued low) : Values (lowerMemberAccess e low) := by
  intro w facts exits s knows
  unfold lowerMemberAccess
  split
  · exact .liftBind (knows_note knows) fun _ _ k => .pure k
  · next member _ =>
    refine .getBind ?_
    dsimp only
    rcases field : (if onSelf e then s.fields.find? member.name else none) with _ | id
    · rcases HostProperty.recognize? member with _ | property
      · exact .liftBind (knows_note knows) fun _ _ k => .pure k
      · exact values_lowerProperty valued _ _ knows
    · have found : s.fields.find? member.name = some id := by
        split at field
        · exact field
        · cases field
      refine .liftBind (knows.known.getVariable ?_) fun _ _ k => .pure (knows.add k)
      exact List.mem_append_left _ (Lowering.row_mem_facts found)

theorem computes_binaryOperator {token : String} {op : Op} {negated : Bool}
    (found : binaryOperator? token = some (op, negated)) : op.Computes ["a", "b"] := by
  revert found
  unfold binaryOperator?
  split <;> simp only [Option.some.injEq, Prod.mk.injEq, reduceCtorEq, false_implies, and_imp] <;>
    rintro rfl rfl <;> decide

theorem values_lowerBinary (valued : Below.Valued low) : Values (lowerBinary e low) := by
  intro w facts exits s knows
  unfold lowerBinary
  split
  · split
    · exact .liftBind (knows_note knows) fun _ _ k => .pure k
    · next op negated found =>
      have computes := computes_binaryOperator found
      refine (valued _ _ knows).bind fun a? _ k => ?_
      cases a? with
      | none => exact .pure k
      | some a =>
        refine (valued _ _ k).bind fun b? _ k => ?_
        cases b? with
        | none => exact .pure (k.weaken (by simp +contextual))
        | some b =>
          refine (gives_coerce k (by simp)).bind fun a _ k => ?_
          refine (gives_coerce k (by simp)).bind fun b _ k => ?_
          refine .liftBind (k.known.binary computes (by simp) (by simp)) fun value _ k' => ?_
          have k := k.gain [.out value] k' (by simp +contextual [or_imp])
          dsimp only
          split
          · exact .liftBind (k.known.unary (by decide) (by simp)) fun _ _ k' =>
              .pure (k.advance (k'.weaken (by simp +contextual [or_imp])))
          · exact .pure (k.weaken (by simp +contextual))
  · exact .liftBind (knows_note knows) fun _ _ k => .pure k

theorem values_lowerUnary (valued : Below.Valued low) : Values (lowerUnary e low) := by
  intro w facts exits s knows
  unfold lowerUnary
  split
  · exact .pure knows
  · split
    · split
      · exact .liftBind knows.known.createLiteral fun _ _ k => .pure (knows.add k)
      · refine (valued _ _ knows).bind fun v? _ k => ?_
        cases v? with
        | none => exact .pure k
        | some v =>
          exact .liftBind (k.known.unary (by decide) (by simp)) fun _ _ k' => .pure (k.replace k')
    · refine (valued _ _ knows).bind fun v? _ k => ?_
      cases v? with
      | none => exact .pure k
      | some v =>
        exact .liftBind (k.known.unary (by decide) (by simp)) fun _ _ k' => .pure (k.replace k')
    · exact valued _ _ knows
    · exact .liftBind (knows_note knows) fun _ _ k => .pure k

theorem gives_lowerComponents {bound : Nat} {low : Below bound} (valued : Below.Valued low) :
    ∀ (es : List Expression) (small : ∀ e ∈ es, e.size < bound),
      Gives (lowerComponents low es small) fun parts? => (parts?.getD []).map .out
  | [], _, _, _, _, _, knows => .pure knows
  | e :: es, small, w, facts, exits, s, knows => by
    refine (valued e _ knows).bind fun v? _ k => ?_
    cases v? with
    | none => exact .pure k
    | some v =>
      refine (gives_coerce k (by simp)).bind fun part _ k => ?_
      refine (gives_lowerComponents valued es _ k).bind fun parts? _ k => ?_
      cases parts? with
      | none => exact .pure (k.weaken (by simp +contextual))
      | some parts => exact .pure (k.weaken (by simp +contextual [or_imp]))

theorem gives_createZeros : ∀ count : Nat, Gives (createZeros count) fun zeros => zeros.map .out
  | 0, _, _, _, _, knows => .pure knows
  | count + 1, w, facts, exits, s, knows => by
    refine .liftBind knows.known.createLiteral fun zero _ k => ?_
    exact (gives_createZeros count (knows.add k)).bind fun _ _ k => .pure (k.weaken (by simp +contextual [or_imp]))

theorem values_lowerConstruction (valued : Below.Valued low) : Values (lowerConstruction e low) := by
  intro w facts exits s knows
  unfold lowerConstruction
  split
  · exact .liftBind (knows_note knows) fun _ _ k => .pure k
  · split
    · exact .liftBind knows.known.createLiteral fun _ _ k => .pure (knows.add k)
    · refine (gives_lowerComponents valued e.children _ knows).bind fun parts? _ k => ?_
      cases parts? with
      | none => exact .pure k
      | some parts =>
        refine (gives_createZeros _ k).bind fun zeros _ k => ?_
        refine .liftBind (k.known.combine? ?_) fun v? _ k' => ?_
        · intro v member
          rcases List.mem_append.1 member with part | zero <;> simp [*]
        · have k := k.gain (v?.toList.map .out) k' (by simp +contextual [or_imp])
          cases v? with
          | none => exact .liftBind (knows_note k) fun _ _ k => .pure (k.weaken (by simp +contextual))
          | some v => exact .pure (k.weaken (by simp +contextual))

theorem values_lowerElement (valued : Below.Valued low) : Values (lowerElement e low) := by
  intro w facts exits s knows
  unfold lowerElement
  split
  · refine ensures_listName?.bind ?_
    rintro name? _ rfl
    cases name? with
    | none => exact .liftBind (knows_note knows) fun _ _ k => .pure k
    | some name =>
      refine (valued _ _ knows).bind fun index? _ k => ?_
      cases index? with
      | none => exact .pure k
      | some index =>
        refine (ensures_onListValue k fun l ready => k.known.getItemChecked ready (by simp)).mono ?_
        exact fun v? _ k => k.weaken (by simp +contextual [or_imp])
  · exact .liftBind (knows_note knows) fun _ _ k => .pure k

theorem values_lowerCast (valued : Below.Valued low) : Values (lowerCast e low) := by
  intro w facts exits s knows
  unfold lowerCast
  split
  · exact .pure knows
  · refine (valued _ _ knows).bind fun v? _ k => ?_
    cases v? with
    | none => exact .pure k
    | some v =>
      dsimp only
      split
      · exact .liftBind (k.known.unary (by decide) (by simp)) fun _ _ k' => .pure (k.replace k')
      · exact .liftBind (k.known.unary (by decide) (by simp)) fun _ _ k' => .pure (k.replace k')
      · exact .pure k

theorem values_lowerLiteral : Values (lowerLiteral e) := by
  intro w facts exits s knows
  unfold lowerLiteral
  split
  · exact .liftBind (knows_note knows) fun _ _ k => .pure k
  · split
    · exact .liftBind knows.known.createLiteral fun _ _ k => .pure (knows.add k)
    · exact .liftBind (knows_note knows) fun _ _ k => .pure k
    · exact .liftBind (knows_note knows) fun _ _ k => .pure k

end Expressions

end Lower

end ScriptGraph
