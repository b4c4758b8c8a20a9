import Mathlib
import ScriptGraph.Proofs.Lower.Lockstep.Basic

/-!
Values and methods of the host keep pace: each part of an expression, given that smaller expressions do.
-/

namespace ScriptGraph

open Pattern Build

namespace Lower

variable {v : Limits} {stack : List String}

section Values

variable {e : Expression} {low low' : Below e.size}

theorem alike_lowerReceiver (alike : Below.Alike v stack low low') :
    Alike v stack (lowerReceiver e low) (lowerReceiver e low') := by
  unfold lowerReceiver
  split
  · exact alike_objectLiteral .self
  · exact alike_lowerObject alike _ _

theorem alike_readProperty (alike : Below.Alike v stack low low') {property : Build PropertyGet}
    (plain : Plain property) : Alike v stack (readProperty e low property) (readProperty e low' property) := by
  refine .bind (alike_lowerReceiver alike) fun object => .bind (.lift plain) fun read => ?_
  exact .bind (.lift (plain_connect _ _)) fun _ => .pure _

theorem alike_lowerLiteral : Alike v stack (lowerLiteral e) (lowerLiteral e) := by
  unfold lowerLiteral
  split
  · exact .note _ _ none
  · split
    · exact .bind (.lift (plain_createLiteral _)) fun _ => .pure _
    · exact .note _ _ none
    · exact .note _ _ none

theorem alike_lowerIdentifier (c : ScriptClass) : Alike v stack (lowerIdentifier c e) (lowerIdentifier c e) := by
  refine .bind alike_frame? fun frame => ?_
  split
  · exact .pure _
  · refine .getBind (fun _ _ => rfl) fun s => ?_
    split
    · exact .bind (.lift (plain_getVariable _)) fun _ => .pure _
    · split
      · exact .bind (alike_objectLiteral _) fun _ => .pure _
      · exact .note _ _ none

/-- A value of a smaller expression, and one more node behind it. -/
theorem alike_unary (alike : Below.Alike v stack low low') (operand : Expression) (small : operand.size < e.size)
    (op : Op) : Alike v stack
      (do let some value ← low operand small | return none
          return some (← liftM (unary op value)))
      (do let some value ← low' operand small | return none
          return some (← liftM (unary op value))) := by
  refine .bind (alike operand small) fun v? => ?_
  cases v? with
  | none => exact .pure none
  | some v => exact .bind (.lift (plain_unary op v)) fun _ => .pure _

theorem alike_lowerComponent (alike : Below.Alike v stack low low') (member : MemberSymbol) (index : Nat) :
    Alike v stack (lowerComponent e low member index) (lowerComponent e low' member index) := by
  unfold lowerComponent
  split
  · exact .pure none
  · refine .bind (alike _ _) fun v? => ?_
    cases v? with
    | none => exact .pure none
    | some vector =>
      refine .bind (.lift (plain_extract? vector _)) fun parts? => ?_
      split
      · exact .pure _
      · exact .note _ _ none

theorem alike_lowerOperand (alike : Below.Alike v stack low low') (op : Op) :
    Alike v stack (lowerOperand e low op) (lowerOperand e low' op) := by
  unfold lowerOperand
  split
  · exact .pure none
  · exact alike_unary alike _ _ op

theorem alike_lowerCount : Alike v stack (lowerCount e) (lowerCount e) := by
  unfold lowerCount
  dsimp only
  split
  · refine .bind (alike_listName? _) fun name? => ?_
    cases name? with
    | none => exact .note _ _ none
    | some name =>
      refine .bind (alike_onList? name BoundedList.plain_countValue) fun count? => ?_
      cases count? with
      | none => exact .note _ _ none
      | some count => exact .pure _
  · exact .note _ _ none

theorem alike_lowerProperty (alike : Below.Alike v stack low low') (member : MemberSymbol) (property : HostProperty) :
    Alike v stack (lowerProperty e low member property) (lowerProperty e low' member property) := by
  have reading {property : Build PropertyGet} (plain : Plain property) :
      Alike v stack (do return some (← readProperty e low property)) (do return some (← readProperty e low' property)) :=
    .bind (alike_readProperty alike plain) fun _ => .pure _
  cases property with
  | position => exact reading plain_worldPositionGet
  | localPosition => exact reading plain_localPositionGet
  | rotation => exact reading plain_worldRotationGet
  | localRotation => exact reading plain_localRotationGet
  | localScale => exact reading plain_localScaleGet
  | lossyScale => exact reading plain_worldScaleGet
  | component index => exact alike_lowerComponent alike member index
  | normalized => exact alike_lowerOperand alike _
  | magnitude => exact alike_lowerOperand alike _
  | listCount => exact alike_lowerCount
  | deltaTime => exact .bind alike_tickNode fun _ => .pure _
  | time => exact .bind alike_tickNode fun _ => .pure _
  | transform => exact .bind (alike_lowerReceiver alike) fun _ => .pure _
  | gameObject => exact .bind (alike_lowerReceiver alike) fun _ => .pure _

theorem alike_lowerMemberAccess (alike : Below.Alike v stack low low') :
    Alike v stack (lowerMemberAccess e low) (lowerMemberAccess e low') := by
  unfold lowerMemberAccess
  split
  · exact .note _ _ none
  · refine .getBind (fun _ _ => rfl) fun s => ?_
    dsimp only
    split
    · exact .bind (.lift (plain_getVariable _)) fun _ => .pure _
    · exact alike_lowerProperty alike _ _
    · exact .note _ _ none

theorem alike_lowerBinary (alike : Below.Alike v stack low low') :
    Alike v stack (lowerBinary e low) (lowerBinary e low') := by
  unfold lowerBinary
  split
  · split
    · exact .note _ _ none
    · refine .bind (alike _ _) fun a? => ?_
      cases a? with
      | none => exact .pure none
      | some a =>
        refine .bind (alike _ _) fun b? => ?_
        cases b? with
        | none => exact .pure none
        | some b =>
          refine .bind (alike_coerce a _ _) fun a => .bind (alike_coerce b _ _) fun b => ?_
          refine .bind (.lift (plain_binary _ a b)) fun value => ?_
          split
          · exact .bind (.lift (plain_unary _ value)) fun _ => .pure _
          · exact .pure _
  · exact .note _ _ none

theorem alike_lowerUnary (alike : Below.Alike v stack low low') :
    Alike v stack (lowerUnary e low) (lowerUnary e low') := by
  unfold lowerUnary
  split
  · exact .pure none
  · split
    · split
      · exact .bind (.lift (plain_createLiteral _)) fun _ => .pure _
      · exact alike_unary alike _ _ _
    · exact alike_unary alike _ _ _
    · exact alike _ _
    · exact .note _ _ none

theorem alike_lowerConstruction (alike : Below.Alike v stack low low') :
    Alike v stack (lowerConstruction e low) (lowerConstruction e low') := by
  unfold lowerConstruction
  split
  · exact .note _ _ none
  · split
    · exact .bind (.lift (plain_createLiteral _)) fun _ => .pure _
    · refine .bind (alike_lowerComponents alike e.children _) fun parts? => ?_
      cases parts? with
      | none => exact .pure none
      | some parts =>
        refine .bind (alike_createZeros _) fun zeros => .bind (.lift (plain_combine? _)) fun v? => ?_
        cases v? with
        | none => exact .note _ _ none
        | some v => exact .pure _

theorem alike_lowerElement (alike : Below.Alike v stack low low') :
    Alike v stack (lowerElement e low) (lowerElement e low') := by
  unfold lowerElement
  split
  · refine .bind (alike_listName? _) fun name? => ?_
    cases name? with
    | none => exact .note _ _ none
    | some name =>
      refine .bind (alike _ _) fun index? => ?_
      cases index? with
      | none => exact .pure none
      | some index => exact alike_onList? name (BoundedList.plain_getItemChecked index)
  · exact .note _ _ none

theorem alike_lowerCast (alike : Below.Alike v stack low low') :
    Alike v stack (lowerCast e low) (lowerCast e low') := by
  unfold lowerCast
  split
  · exact .pure none
  · refine .bind (alike _ _) fun v? => ?_
    cases v? with
    | none => exact .pure none
    | some v =>
      dsimp only
      split
      · exact .bind (.lift (plain_unary _ v)) fun _ => .pure _
      · exact .bind (.lift (plain_unary _ v)) fun _ => .pure _
      · exact .pure _

end Values

section Calls

variable {e : Expression} {low low' : Below e.size}

theorem alike_lowerFunction (alike : Below.Alike v stack low low') (op : Op) :
    Alike v stack (lowerFunction e low op) (lowerFunction e low' op) := by
  refine .bind (alike_lowerAll alike _ _) fun values? => ?_
  cases values? with
  | none => exact .pure none
  | some values =>
    dsimp only
    split
    · exact .note _ _ none
    · exact .bind (.lift (plain_createNode _)) fun _ => .bind (alike_connectCoerced _ _ _ _ _) fun _ => .pure _

theorem alike_lowerDistance (alike : Below.Alike v stack low low') :
    Alike v stack (lowerDistance e low) (lowerDistance e low') := by
  refine .bind (alike_lowerAll alike _ _) fun values? => ?_
  cases values? with
  | none => exact .pure none
  | some values =>
    dsimp only
    split
    · exact .bind (.lift (plain_binary _ _ _)) fun offset => .bind (.lift (plain_unary _ offset)) fun _ => .pure _
    · exact .note _ _ none

theorem alike_lowerVector (alike : Below.Alike v stack low low') (count : Nat) :
    Alike v stack (lowerVector e low count) (lowerVector e low' count) := by
  refine .bind (alike_lowerAll alike _ _) fun values? => ?_
  cases values? with
  | none => exact .pure none
  | some values =>
    dsimp only
    split
    · exact .pure _
    · split
      · exact .bind (alike_coerceAll _ _) fun parts => .lift (plain_combine? parts)
      · exact .note _ _ none

theorem alike_lowerFirst (alike : Below.Alike v stack low low') :
    Alike v stack (lowerFirst e low) (lowerFirst e low') := by
  unfold lowerFirst
  split
  · exact .pure none
  · exact alike _ _

theorem alike_lowerSecond (alike : Below.Alike v stack low low') :
    Alike v stack (lowerSecond e low) (lowerSecond e low') := by
  unfold lowerSecond
  split
  · exact alike _ _
  · exact .pure none

theorem alike_lowerPureMethod (alike : Below.Alike v stack low low') (method : HostMethod) :
    Alike v stack (lowerPureMethod e low method) (lowerPureMethod e low' method) := by
  unfold lowerPureMethod
  split
  · exact alike_lowerFunction alike _
  · exact alike_lowerDistance alike
  · refine .bind (alike_lowerVector alike 3) fun euler? => ?_
    cases euler? with
    | none => exact .pure none
    | some euler => exact .bind (.lift (plain_fromEulerDegrees euler)) fun _ => .pure _
  · refine .bind (alike_lowerFirst alike) fun rotation? => ?_
    cases rotation? with
    | none => exact .pure none
    | some rotation => exact .bind (.lift (plain_invert rotation)) fun _ => .pure _
  · exact .pure none

theorem alike_lowerDelay (alike : Below.Alike v stack low low') :
    Alike v stack (lowerDelay e low) (lowerDelay e low') := by
  unfold lowerDelay
  split
  · exact .note _ _ none
  · refine .bind (alike _ _) fun duration? => ?_
    cases duration? with
    | none => exact .pure none
    | some duration =>
      exact .bind (.lift (plain_delayMilliseconds _)) fun _ => .bind (.lift (plain_connect _ _)) fun _ => .pure _

theorem alike_lowerAction (alike : Below.Alike v stack low low') {action : Build TransformAction}
    (plain : Plain action) : Alike v stack (lowerAction e low action) (lowerAction e low' action) := by
  refine .bind (alike_lowerReceiver alike) fun object => .bind (.lift plain) fun action => ?_
  exact .bind (.lift (plain_connect _ _)) fun _ => .pure _

theorem alike_lowerSetActive (alike : Below.Alike v stack low low') :
    Alike v stack (lowerSetActive e low) (lowerSetActive e low') := by
  refine .bind (alike_lowerFirst alike) fun value? => ?_
  cases value? with
  | none => exact .pure none
  | some value =>
    refine .bind (alike_lowerReceiver alike) fun object => .bind (.lift plain_activeSet) fun write => ?_
    exact .bind (.lift (plain_connect _ _)) fun _ => .bind (.lift (plain_connect _ _)) fun _ => .pure _

theorem alike_lowerLookTarget (alike : Below.Alike v stack low low') :
    Alike v stack (lowerLookTarget e low) (lowerLookTarget e low') := by
  unfold lowerLookTarget
  split
  · exact .pure none
  · dsimp only
    split
    · refine .bind (alike_lowerObject alike _ _) fun object => .bind (.lift plain_worldPositionGet) fun position => ?_
      exact .bind (.lift (plain_connect _ _)) fun _ => .pure _
    · exact alike _ _

theorem alike_lowerSetPositionAndRotation (alike : Below.Alike v stack low low') :
    Alike v stack (lowerSetPositionAndRotation e low) (lowerSetPositionAndRotation e low') := by
  refine .bind (alike_lowerFirst alike) fun position? => .bind (alike_lowerSecond alike) fun rotation? => ?_
  split
  · refine .bind (alike_lowerReceiver alike) fun object => .bind (.lift plain_worldPositionSet) fun moving => ?_
    refine .bind (.lift plain_worldRotationSet) fun turning => .bind (.lift (plain_connect _ _)) fun _ => ?_
    refine .bind (.lift (plain_connect _ _)) fun _ => .bind (.lift (plain_connect _ _)) fun _ => ?_
    exact .bind (.lift (plain_connectFlow _ _)) fun _ => .pure _
  · exact .pure none

theorem listPlain_listStep {method : HostMethod} {values : List ValueOut} {step : ListBuild Step}
    (found : listStep? method values = some step) : BoundedList.ListPlain step := by
  unfold listStep? at found
  split at found <;> cases found
  all_goals with_reducible repeat' refine BoundedList.listPlain_bind ?_ fun _ => ?_
  all_goals simp

theorem alike_lowerListCall (alike : Below.Alike v stack low low') (method : HostMethod) :
    Alike v stack (lowerListCall e low method) (lowerListCall e low' method) := by
  unfold lowerListCall
  dsimp only
  split
  · refine .bind (alike_listName? _) fun name? => ?_
    cases name? with
    | none => exact .note _ _ none
    | some name =>
      refine .bind (alike_lowerAll alike _ _) fun values? => ?_
      cases values? with
      | none => exact .pure none
      | some values =>
        dsimp only
        split
        · next found => exact alike_onList? name (listPlain_listStep found)
        · exact .note _ _ none
  · exact .note _ _ none

theorem alike_lowerLog (alike : Below.Alike v stack low low') (severity : Severity) :
    Alike v stack (lowerLog e low severity) (lowerLog e low' severity) := by
  refine .bind (.lift (plain_createNode _)) fun node => .bind (alike_lowerParts alike node 0 _ _) fun template => ?_
  exact .bind (.lift (plain_configure _ _ _)) fun _ => .bind (.lift (plain_configure _ _ _)) fun _ => .pure _

theorem alike_lowerStepMethod (alike : Below.Alike v stack low low') (method : HostMethod) :
    Alike v stack (lowerStepMethod e low method) (lowerStepMethod e low' method) := by
  unfold lowerStepMethod
  split
  · exact alike_lowerDelay alike
  · exact alike_lowerSetActive alike
  · exact .bind (alike_lowerLog alike _) fun _ => .pure _
  · refine .bind (alike_lowerVector alike 3) fun offset? => ?_
    cases offset? with
    | none => exact .pure none
    | some offset => exact alike_lowerAction alike (plain_translate offset)
  · refine .bind (alike_lowerVector alike 3) fun euler? => ?_
    cases euler? with
    | none => exact .pure none
    | some euler => exact alike_lowerAction alike (plain_bind (plain_fromEulerDegrees euler) fun _ => plain_rotate _)
  · refine .bind (alike_lowerLookTarget alike) fun point? => ?_
    cases point? with
    | none => exact .pure none
    | some point => exact alike_lowerAction alike (plain_lookAt point)
  · exact alike_lowerSetPositionAndRotation alike
  · exact .pure none
  · exact .pure none
  · exact .pure none
  · exact .pure none
  · exact alike_lowerListCall alike _

theorem alike_lowerHostMethod (alike : Below.Alike v stack low low') (symbol : MethodSymbol) (method : HostMethod)
    (flow : Option FlowOut) :
    Alike v stack (lowerHostMethod e low symbol method flow) (lowerHostMethod e low' symbol method flow) := by
  unfold lowerHostMethod
  split
  · exact .bind (alike_lowerPureMethod alike _) fun _ => .pure _
  · split
    · exact .note _ _ _
    · refine .bind (alike_lowerStepMethod alike _) fun step? => ?_
      cases step? with
      | none => exact .pure _
      | some step => exact .bind (.lift (plain_connectFlow _ _)) fun _ => .pure _

end Calls

end Lower

end ScriptGraph
