import Mathlib
import ScriptGraph.Proofs.Lower.Scopes.Frames

/-!
Values and calls leave the names of a method alone.

The names are those of any set, so that a value may stand wherever a statement concerns some of them. A method that
is inlined works in a frame of its own.
-/

namespace ScriptGraph

open Pattern Build

namespace Lower

variable {α β : Type} {names : List String}

/-- A step that goes on in one of two ways, with a value or without one. -/
theorem Keeps.bindOption {x : Lower (Option α)} {f : Option α → Lower β} (first : Keeps names x)
    (stop : Keeps names (f none)) (next : ∀ a, Keeps names (f (some a))) : Keeps names (x >>= f) :=
  first.bind fun a? => by
    cases a? with
    | none => exact stop
    | some a => exact next a

section Parts

theorem keeps_objectLiteral (object : ObjectRef) : Keeps names (objectLiteral object) :=
  .bindOption (.lift _) (.bind (.lift _) fun _ => .lift _) fun _ => .lift _

theorem keeps_tickNode : Keeps names tickNode :=
  .getBind fun _ => .bind (.lift _) fun _ => .bind (.setTick _) fun _ => .pure _

theorem keeps_onList? (name : String) (step : ListBuild α) : Keeps names (onList? name step) := by
  refine .getBind fun s => ?_
  split
  · exact .pure none
  · have inserted (list : BoundedList) :
        Keeps names (modify fun s => { s with lists := s.lists.insert name list } : Lower Unit) :=
      fun _ => ⟨rfl, .refl _ _⟩
    exact .bind (.lift _) fun _ => .bind (inserted _) fun _ => .pure _

theorem keeps_listName? (e : Expression) : Keeps names (listName? e) := .getBind fun _ => .pure _

theorem keeps_frame? : Keeps names frame? := .getBind fun _ => .pure _

theorem keeps_connectFlows (flows : List FlowOut) (target : FlowIn) : Keeps names (connectFlows flows target) := by
  induction flows with
  | nil => exact .pure _
  | cons flow flows ih => exact .bind (.lift _) fun _ => ih

theorem keeps_storeVariable (id : Nat) (value : ValueOut) (flow : FlowOut) :
    Keeps names (storeVariable id value flow) :=
  .bind (.lift _) fun _ => .bind (.lift _) fun _ => .pure _

theorem keeps_coerce (value : ValueOut) (own other : Option ValueType) : Keeps names (coerce value own other) := by
  unfold coerce
  split
  · next own other =>
    have filled (value : ValueOut) :
        Keeps names (if (own = .int || own = .float) && (other = .float2 || other = .float3 || other = .float4)
          then do return (← liftM (combine? (List.replicate other.componentCount value))).getD value
          else pure value : Lower ValueOut) := by
      split
      · exact .bind (.lift _) fun _ => .pure _
      · exact .pure value
    dsimp only
    split
    · exact .bind (.lift _) filled
    · exact filled value
  · exact .pure value

/-- Smaller expressions leave names alone. -/
def Below.Keeps (names : List String) {bound : Nat} (low : Below bound) : Prop :=
  ∀ e small, Lower.Keeps names (low e small)

variable {bound : Nat} {low : Below bound}

theorem keeps_lowerAll (keeps : Below.Keeps names low) : ∀ (es : List Expression)
    (small : ∀ e ∈ es, e.size < bound), Keeps names (lowerAll low es small)
  | [], _ => .pure _
  | e :: es, _ =>
    .bindOption (keeps e _) (.pure none) fun _ =>
      .bindOption (keeps_lowerAll keeps es _) (.pure none) fun _ => .pure _

theorem keeps_valueOrUnknown {x : Lower (Option ValueOut)} (keeps : Keeps names x) : Keeps names (valueOrUnknown x) :=
  .bindOption keeps (.lift _) fun _ => .pure _

theorem keeps_lowerObject (keeps : Below.Keeps names low) (e : Expression) (small : e.size < bound) :
    Keeps names (lowerObject low e small) :=
  lowerObject_induction (P := Keeps names) (keeps_objectLiteral .self)
    (fun _ _ => keeps_valueOrUnknown (keeps _ _)) e small

theorem keeps_lowerComponents (keeps : Below.Keeps names low) : ∀ (es : List Expression)
    (small : ∀ e ∈ es, e.size < bound), Keeps names (lowerComponents low es small)
  | [], _ => .pure _
  | e :: es, _ =>
    .bindOption (keeps e _) (.pure none) fun value => .bind (keeps_coerce value _ _) fun _ =>
      .bindOption (keeps_lowerComponents keeps es _) (.pure none) fun _ => .pure _

theorem keeps_createZeros : ∀ count : Nat, Keeps names (createZeros count)
  | 0 => .pure _
  | count + 1 => .bind (.lift _) fun _ => .bind (keeps_createZeros count) fun _ => .pure _

theorem keeps_bindArguments (keeps : Below.Keeps names low) (parameters : List Parameter) (es : List Expression)
    (small : ∀ e ∈ es, e.size < bound) (bindings : Dict ValueOut) :
    Keeps names (bindArguments low parameters es small bindings) := by
  induction parameters generalizing es bindings with
  | nil => exact .pure bindings
  | cons parameter parameters ih =>
    cases es with
    | nil => exact .pure bindings
    | cons e es => exact .bindOption (keeps e _) (ih es _ _) fun _ => ih es _ _

theorem keeps_coerceAll (values : List ValueOut) (es : List Expression) : Keeps names (coerceAll values es) := by
  induction values generalizing es with
  | nil => exact .pure []
  | cons value values ih =>
    cases es with
    | nil => exact .pure []
    | cons e es => exact .bind (keeps_coerce value _ _) fun _ => .bind (ih es) fun _ => .pure _

theorem keeps_connectCoerced (node : NodeId) (result : Option ValueType) (sockets : List String)
    (values : List ValueOut) (es : List Expression) :
    Keeps names (connectCoerced node result sockets values es) := by
  induction sockets generalizing values es with
  | nil => exact .pure _
  | cons socket sockets ih =>
    cases values with
    | nil => exact .pure _
    | cons value values =>
      cases es with
      | nil => exact .pure _
      | cons e es => exact .bind (keeps_coerce value _ _) fun _ => .bind (.lift _) fun _ => ih values es

theorem keeps_lowerParts (keeps : Below.Keeps names low) (node : NodeId) (slot : Nat) (parts : List MessagePart)
    (small : ∀ e, .value e ∈ parts → e.size < bound) : Keeps names (lowerParts low node slot parts small) := by
  induction parts generalizing slot with
  | nil => exact .pure _
  | cons part parts ih =>
    cases part with
    | text content => exact .bind (ih slot _) fun _ => .pure _
    | value e =>
      exact .bindOption (keeps e _) (.bind (ih (slot + 1) _) fun _ => .pure _) fun _ =>
        .bind (.lift _) fun _ => .bind (ih (slot + 1) _) fun _ => .pure _

end Parts

section Values

variable {e : Expression} {low : Below e.size}

theorem keeps_lowerReceiver (keeps : Below.Keeps names low) : Keeps names (lowerReceiver e low) := by
  unfold lowerReceiver
  split
  · exact keeps_objectLiteral .self
  · exact keeps_lowerObject keeps _ _

theorem keeps_lowerLiteral : Keeps names (lowerLiteral e) := by
  unfold lowerLiteral
  split
  · exact .note _ _ none
  · split
    · exact .bind (.lift _) fun _ => .pure _
    · exact .note _ _ none
    · exact .note _ _ none

theorem keeps_lowerIdentifier (c : ScriptClass) : Keeps names (lowerIdentifier c e) := by
  refine .bind keeps_frame? fun frame => ?_
  split
  · exact .pure _
  · refine .getBind fun s => ?_
    split
    · exact .bind (.lift _) fun _ => .pure _
    · split
      · exact .bind (keeps_objectLiteral _) fun _ => .pure _
      · exact .note _ _ none

/-- A value of a smaller expression, and one more node behind it. -/
theorem keeps_unary (keeps : Below.Keeps names low) (operand : Expression) (small : operand.size < e.size) (op : Op) :
    Keeps names (do let some value ← low operand small | return none
                    return some (← liftM (unary op value))) :=
  .bindOption (keeps operand small) (.pure none) fun _ => .bind (.lift _) fun _ => .pure _

theorem keeps_lowerComponent (keeps : Below.Keeps names low) (member : MemberSymbol) (index : Nat) :
    Keeps names (lowerComponent e low member index) := by
  unfold lowerComponent
  split
  · exact .pure none
  · refine .bindOption (keeps _ _) (.pure none) fun vector => .bind (.lift _) fun parts? => ?_
    split
    · exact .pure _
    · exact .note _ _ none

theorem keeps_lowerOperand (keeps : Below.Keeps names low) (op : Op) : Keeps names (lowerOperand e low op) := by
  unfold lowerOperand
  split
  · exact .pure none
  · exact keeps_unary keeps _ _ op

theorem keeps_lowerCount : Keeps names (lowerCount e) := by
  unfold lowerCount
  dsimp only
  split
  · exact .bindOption (keeps_listName? _) (.note _ _ none) fun name =>
      .bindOption (keeps_onList? name _) (.note _ _ none) fun _ => .pure _
  · exact .note _ _ none

theorem keeps_lowerProperty (keeps : Below.Keeps names low) (member : MemberSymbol) (property : HostProperty) :
    Keeps names (lowerProperty e low member property) := by
  have reading (property : Build PropertyGet) : Keeps names (do return some (← readProperty e low property)) :=
    .bind (.bind (keeps_lowerReceiver keeps) fun _ => .bind (.lift _) fun _ => .bind (.lift _) fun _ => .pure _)
      fun _ => .pure _
  cases property with
  | position => exact reading worldPositionGet
  | localPosition => exact reading localPositionGet
  | rotation => exact reading worldRotationGet
  | localRotation => exact reading localRotationGet
  | localScale => exact reading localScaleGet
  | lossyScale => exact reading worldScaleGet
  | component index => exact keeps_lowerComponent keeps member index
  | normalized => exact keeps_lowerOperand keeps _
  | magnitude => exact keeps_lowerOperand keeps _
  | listCount => exact keeps_lowerCount
  | deltaTime => exact .bind keeps_tickNode fun _ => .pure _
  | time => exact .bind keeps_tickNode fun _ => .pure _
  | transform => exact .bind (keeps_lowerReceiver keeps) fun _ => .pure _
  | gameObject => exact .bind (keeps_lowerReceiver keeps) fun _ => .pure _

theorem keeps_lowerMemberAccess (keeps : Below.Keeps names low) : Keeps names (lowerMemberAccess e low) := by
  unfold lowerMemberAccess
  split
  · exact .note _ _ none
  · refine .getBind fun s => ?_
    dsimp only
    split
    · exact .bind (.lift _) fun _ => .pure _
    · exact keeps_lowerProperty keeps _ _
    · exact .note _ _ none

theorem keeps_lowerBinary (keeps : Below.Keeps names low) : Keeps names (lowerBinary e low) := by
  unfold lowerBinary
  split
  · split
    · exact .note _ _ none
    · refine .bindOption (keeps _ _) (.pure none) fun a => .bindOption (keeps _ _) (.pure none) fun b => ?_
      refine .bind (keeps_coerce a _ _) fun a => .bind (keeps_coerce b _ _) fun b => .bind (.lift _) fun value => ?_
      split
      · exact .bind (.lift _) fun _ => .pure _
      · exact .pure _
  · exact .note _ _ none

theorem keeps_lowerUnary (keeps : Below.Keeps names low) : Keeps names (lowerUnary e low) := by
  unfold lowerUnary
  split
  · exact .pure none
  · split
    · split
      · exact .bind (.lift _) fun _ => .pure _
      · exact keeps_unary keeps _ _ _
    · exact keeps_unary keeps _ _ _
    · exact keeps _ _
    · exact .note _ _ none

theorem keeps_lowerConstruction (keeps : Below.Keeps names low) : Keeps names (lowerConstruction e low) := by
  unfold lowerConstruction
  split
  · exact .note _ _ none
  · split
    · exact .bind (.lift _) fun _ => .pure _
    · exact .bindOption (keeps_lowerComponents keeps e.children _) (.pure none) fun _ =>
        .bind (keeps_createZeros _) fun _ => .bindOption (.lift _) (.note _ _ none) fun _ => .pure _

theorem keeps_lowerElement (keeps : Below.Keeps names low) : Keeps names (lowerElement e low) := by
  unfold lowerElement
  split
  · exact .bindOption (keeps_listName? _) (.note _ _ none) fun name =>
      .bindOption (keeps _ _) (.pure none) fun _ => keeps_onList? name _
  · exact .note _ _ none

theorem keeps_lowerCast (keeps : Below.Keeps names low) : Keeps names (lowerCast e low) := by
  unfold lowerCast
  split
  · exact .pure none
  · refine .bindOption (keeps _ _) (.pure none) fun value => ?_
    dsimp only
    split
    · exact .bind (.lift _) fun _ => .pure _
    · exact .bind (.lift _) fun _ => .pure _
    · exact .pure _

end Values

section Calls

variable {e : Expression} {low : Below e.size}

theorem keeps_lowerFunction (keeps : Below.Keeps names low) (op : Op) : Keeps names (lowerFunction e low op) := by
  refine .bindOption (keeps_lowerAll keeps _ _) (.pure none) fun values => ?_
  dsimp only
  split
  · exact .note _ _ none
  · exact .bind (.lift _) fun _ => .bind (keeps_connectCoerced _ _ _ _ _) fun _ => .pure _

theorem keeps_lowerDistance (keeps : Below.Keeps names low) : Keeps names (lowerDistance e low) := by
  refine .bindOption (keeps_lowerAll keeps _ _) (.pure none) fun values => ?_
  dsimp only
  split
  · exact .bind (.lift _) fun _ => .bind (.lift _) fun _ => .pure _
  · exact .note _ _ none

theorem keeps_lowerVector (keeps : Below.Keeps names low) (count : Nat) : Keeps names (lowerVector e low count) := by
  refine .bindOption (keeps_lowerAll keeps _ _) (.pure none) fun values => ?_
  dsimp only
  split
  · exact .pure _
  · split
    · exact .bind (keeps_coerceAll _ _) fun _ => .lift _
    · exact .note _ _ none

theorem keeps_lowerFirst (keeps : Below.Keeps names low) : Keeps names (lowerFirst e low) := by
  unfold lowerFirst
  split
  · exact .pure none
  · exact keeps _ _

theorem keeps_lowerSecond (keeps : Below.Keeps names low) : Keeps names (lowerSecond e low) := by
  unfold lowerSecond
  split
  · exact keeps _ _
  · exact .pure none

theorem keeps_lowerPureMethod (keeps : Below.Keeps names low) (method : HostMethod) :
    Keeps names (lowerPureMethod e low method) := by
  unfold lowerPureMethod
  split
  · exact keeps_lowerFunction keeps _
  · exact keeps_lowerDistance keeps
  · exact .bindOption (keeps_lowerVector keeps 3) (.pure none) fun _ => .bind (.lift _) fun _ => .pure _
  · exact .bindOption (keeps_lowerFirst keeps) (.pure none) fun _ => .bind (.lift _) fun _ => .pure _
  · exact .pure none

theorem keeps_lowerDelay (keeps : Below.Keeps names low) : Keeps names (lowerDelay e low) := by
  unfold lowerDelay
  split
  · exact .note _ _ none
  · exact .bindOption (keeps _ _) (.pure none) fun _ => .bind (.lift _) fun _ => .bind (.lift _) fun _ => .pure _

theorem keeps_lowerAction (keeps : Below.Keeps names low) (action : Build TransformAction) :
    Keeps names (lowerAction e low action) :=
  .bind (keeps_lowerReceiver keeps) fun _ => .bind (.lift _) fun _ => .bind (.lift _) fun _ => .pure _

theorem keeps_lowerSetActive (keeps : Below.Keeps names low) : Keeps names (lowerSetActive e low) :=
  .bindOption (keeps_lowerFirst keeps) (.pure none) fun _ => .bind (keeps_lowerReceiver keeps) fun _ =>
    .bind (.lift _) fun _ => .bind (.lift _) fun _ => .bind (.lift _) fun _ => .pure _

theorem keeps_lowerLookTarget (keeps : Below.Keeps names low) : Keeps names (lowerLookTarget e low) := by
  unfold lowerLookTarget
  split
  · exact .pure none
  · dsimp only
    split
    · exact .bind (keeps_lowerObject keeps _ _) fun _ => .bind (.lift _) fun _ => .bind (.lift _) fun _ => .pure _
    · exact keeps _ _

theorem keeps_lowerSetPositionAndRotation (keeps : Below.Keeps names low) :
    Keeps names (lowerSetPositionAndRotation e low) := by
  refine .bind (keeps_lowerFirst keeps) fun position? => .bind (keeps_lowerSecond keeps) fun rotation? => ?_
  split
  · refine .bind (keeps_lowerReceiver keeps) fun object => ?_
    refine .bind (.lift _) fun moving => .bind (.lift _) fun turning => ?_
    exact .bind (.lift _) fun _ => .bind (.lift _) fun _ => .bind (.lift _) fun _ => .bind (.lift _) fun _ => .pure _
  · exact .pure none

theorem keeps_lowerListCall (keeps : Below.Keeps names low) (method : HostMethod) :
    Keeps names (lowerListCall e low method) := by
  unfold lowerListCall
  dsimp only
  split
  · refine .bindOption (keeps_listName? _) (.note _ _ none) fun name => ?_
    refine .bindOption (keeps_lowerAll keeps _ _) (.pure none) fun values => ?_
    dsimp only
    split
    · exact keeps_onList? name _
    · exact .note _ _ none
  · exact .note _ _ none

theorem keeps_lowerLog (keeps : Below.Keeps names low) (severity : Severity) : Keeps names (lowerLog e low severity) :=
  .bind (.lift _) fun node => .bind (keeps_lowerParts keeps node 0 _ _) fun _ =>
    .bind (.lift _) fun _ => .bind (.lift _) fun _ => .pure _

theorem keeps_lowerStepMethod (keeps : Below.Keeps names low) (method : HostMethod) :
    Keeps names (lowerStepMethod e low method) := by
  unfold lowerStepMethod
  split
  · exact keeps_lowerDelay keeps
  · exact keeps_lowerSetActive keeps
  · exact .bind (keeps_lowerLog keeps _) fun _ => .pure _
  · exact .bindOption (keeps_lowerVector keeps 3) (.pure none) fun _ => keeps_lowerAction keeps _
  · exact .bindOption (keeps_lowerVector keeps 3) (.pure none) fun _ => keeps_lowerAction keeps _
  · exact .bindOption (keeps_lowerLookTarget keeps) (.pure none) fun _ => keeps_lowerAction keeps _
  · exact keeps_lowerSetPositionAndRotation keeps
  · exact .pure none
  · exact .pure none
  · exact .pure none
  · exact .pure none
  · exact keeps_lowerListCall keeps _

theorem keeps_lowerHostMethod (keeps : Below.Keeps names low) (symbol : MethodSymbol) (method : HostMethod)
    (flow : Option FlowOut) : Keeps names (lowerHostMethod e low symbol method flow) := by
  unfold lowerHostMethod
  split
  · exact .bind (keeps_lowerPureMethod keeps _) fun _ => .pure _
  · split
    · exact .note _ _ _
    · exact .bindOption (keeps_lowerStepMethod keeps _) (.pure _) fun _ => .bind (.lift _) fun _ => .pure _

/-- The parameters of a method become locals of its frame. -/
theorem keeps_copyParameters (written : List String) (all : Bool) (parameters : List Parameter) (flow : FlowOut)
    (declared : ∀ parameter ∈ parameters, parameter.name ∈ names) :
    Keeps names (copyParameters written all parameters flow) := by
  induction parameters generalizing flow with
  | nil => exact .pure flow
  | cons parameter parameters ih =>
    have ih (flow : FlowOut) := ih flow fun parameter member => declared parameter (List.mem_cons_of_mem _ member)
    refine .bind keeps_frame? fun frame => ?_
    split
    · split
      · exact .bind (.declareLocal (declared parameter List.mem_cons_self) _) fun _ =>
          .bind (keeps_storeVariable _ _ _) fun flow => ih flow
      · exact ih flow
    · exact ih flow

theorem keeps_declareResult (callee : Method) : Keeps names (declareResult callee) := by
  unfold declareResult
  split
  · exact .pure none
  · exact .bind (.lift _) fun _ => .pure _

theorem keeps_continueAfter (sequence : NodeId) (tails : List FlowOut) :
    Keeps names (continueAfter sequence tails) := by
  unfold continueAfter
  split
  · exact .pure _
  · exact .bind (.lift _) fun _ => .bind (.lift _) fun _ => .bind (keeps_connectFlows _ _) fun _ =>
      .bind (.lift _) fun _ => .pure _

end Calls

end Lower

/-- What is inlined concerns the names of its own frame only, and a value none. -/
structure Inliner.Keeps (inliner : Inliner) : Prop where
  block : ∀ active block, ∃ names, ∀ flow, Lower.Keeps names (inliner.block active block flow)
  value : ∀ active e, Lower.Keeps [] (inliner.value active e)

namespace Lower

variable {names : List String} {c : ScriptClass} {inliner : Inliner} {active : List String}

section Callees

variable {e : Expression} {low : Below e.size}

theorem keeps_lowerCallee (inlined : inliner.Keeps) (keeps : Below.Keeps names low) (callee : Method)
    (flow : Option FlowOut) : Keeps names (lowerCallee inliner active e low callee flow) := by
  refine .getBind fun s => ?_
  dsimp only
  split
  · exact .note _ _ _
  · refine .bind (keeps_bindArguments keeps _ _ _ _) fun bindings => ?_
    cases flow with
    | none =>
      dsimp only
      split
      · exact .note _ _ _
      · exact .bind (.inCallee (inlined.value _ _) _) fun _ => .pure _
    | some flow =>
      refine .bind (keeps_declareResult callee) fun returnVariable => .bind (.lift _) fun node => ?_
      refine .bind (.lift _) fun _ => .bind ?_ fun exits => .bind (keeps_continueAfter _ _) fun next => ?_
      · -- In its own frame, the callee declares its parameters and what its body declares.
        obtain ⟨own, body⟩ := inlined.block (callee.name :: active) callee.body
        have copied (entry : FlowOut) : Keeps (callee.parameters.map (·.name) ++ own)
            (copyParameters (Statement.assignedNames callee.body) true callee.parameters entry) :=
          keeps_copyParameters _ _ _ _ fun parameter member => List.mem_append_left _ (List.mem_map_of_mem member)
        exact .inCallee (.bind (copied _) fun entry => (body entry).mono (List.subset_append_right _ _)) _
      · cases returnVariable with
        | none => exact .pure _
        | some id => exact .bind (.lift _) fun _ => .pure _

theorem keeps_lowerInvocation (inlined : inliner.Keeps) (keeps : Below.Keeps names low) (flow : Option FlowOut) :
    Keeps names (lowerInvocation c inliner active e low flow) := by
  unfold lowerInvocation
  split
  · exact .note _ _ _
  · split
    · exact keeps_lowerHostMethod keeps _ _ flow
    · exact keeps_lowerCallee inlined keeps _ flow
    · exact .note _ _ _

theorem keeps_expressionStep (inlined : inliner.Keeps) (keeps : Below.Keeps names low) :
    Keeps names (expressionStep c inliner active e low) := by
  unfold expressionStep
  split
  · exact keeps _ _
  · split
    · exact keeps_lowerLiteral
    · exact keeps_lowerIdentifier c
    · exact .bind (keeps_objectLiteral .self) fun _ => .pure _
    · exact keeps_lowerMemberAccess keeps
    · exact .bind (keeps_lowerInvocation inlined keeps none) fun _ => .pure _
    · exact keeps_lowerBinary keeps
    · exact keeps_lowerUnary keeps
    · exact keeps_lowerUnary keeps
    · exact keeps_lowerConstruction keeps
    · exact keeps_lowerElement keeps
    · exact keeps_lowerCast keeps
    · split
      · exact .pure none
      · exact keeps _ _
    · exact .note _ _ none
    · exact .note _ _ none
    · exact .note _ _ none

end Callees

theorem keeps_lowerExpression (inlined : inliner.Keeps) (e : Expression) :
    Keeps names (lowerExpression c inliner active e) := by
  rw [lowerExpression]
  exact keeps_expressionStep inlined fun smaller _ => keeps_lowerExpression inlined smaller
termination_by e.size

theorem keeps_lowerCall (inlined : inliner.Keeps) (e : Expression) (flow : Option FlowOut) :
    Keeps names (lowerCall c inliner active e flow) :=
  keeps_lowerInvocation inlined (fun smaller _ => keeps_lowerExpression inlined smaller) flow

theorem keeps_lowerWithFlow (inlined : inliner.Keeps) (e : Expression) (flow : FlowOut) :
    Keeps names (lowerWithFlow c inliner active e flow) := by
  unfold lowerWithFlow
  dsimp only
  split
  · exact .pure _
  · split
    · exact .bind (keeps_lowerCall inlined _ _) fun _ => .pure _
    · exact .bind (keeps_lowerExpression inlined e) fun _ => .pure _

end Lower

end ScriptGraph
