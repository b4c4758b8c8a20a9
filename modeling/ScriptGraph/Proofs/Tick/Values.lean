import Mathlib
import ScriptGraph.Lower.Class
import ScriptGraph.Proofs.Lower.Calls
import ScriptGraph.Proofs.Tick.Chain

/-!
Values and methods of the host take no output behind the tick event: at most they make the event, to read its times.
-/

namespace ScriptGraph

open Pattern Build

namespace Lower

variable {α β : Type} {base : Nat}

/-- The step takes no node away, and as long as the numbers of nodes suffice nobody else is served after it. -/
structure Quiet (base : Nat) (step : Lower α) : Prop where
  size_le : ∀ s : Lowering, s.context.graph.nodes.size ≤ (step s).2.context.graph.nodes.size
  quiet : ∀ (s : Lowering) (journal : List Subscriber), s.context.graph.Identified →
    base ≤ s.context.graph.nodes.size → (step s).2.context.graph.nodes.size ≤ 0x100000000 →
      s.context.Serves base s.tick journal → s.context.Remains base (step s).2.context ∧
        (step s).2.context.Serves base (step s).2.tick journal ∧ (step s).2.context.waits = s.context.waits

namespace Quiet

theorem bind {step : Lower α} {next : α → Lower β} (first : Quiet base step)
    (second : ∀ a, Quiet base (next a)) : Quiet base (step >>= next) where
  size_le s := (first.size_le s).trans ((second (step s).1).size_le (step s).2)
  quiet s journal identified le inRange serves := by
    have middle := (second (step s).1).size_le (step s).2
    obtain ⟨remains, serves, waits⟩ := first.quiet s journal identified le (middle.trans inRange) serves
    obtain ⟨remains', serves', waits'⟩ := (second (step s).1).quiet (step s).2 journal remains.identified
      (le.trans (first.size_le s)) inRange serves
    exact ⟨remains.trans remains', serves', waits'.trans waits⟩

theorem pure (a : α) : Quiet base (Pure.pure a) :=
  ⟨fun _ => le_rfl, fun _ _ identified _ _ serves => ⟨.refl identified, serves, rfl⟩⟩

theorem getBind {next : Lowering → Lower β} (second : ∀ s, Quiet base (next s)) : Quiet base (get >>= next) :=
  ⟨fun s => (second s).size_le s, fun s => (second s).quiet s⟩

/-- The names change, and nothing else. -/
theorem modify {change : Lowering → Lowering} (context : ∀ s, (change s).context = s.context)
    (tick : ∀ s, (change s).tick = s.tick) : Quiet base (modify change) where
  size_le s := (congrArg (·.graph.nodes.size) (context s)).ge
  quiet s _ identified _ _ serves := by
    show s.context.Remains base (change s).context ∧ (change s).context.Serves base (change s).tick _ ∧ _
    rw [context, tick]
    exact ⟨.refl identified, serves, congrArg Context.waits (context s)⟩

/-- A step of construction as a step of lowering. -/
theorem lift {step : Build α} (quiet : Build.Quiet base step) :
    Quiet base (@liftM (StateT Context Id) (StateT Lowering Id) _ α step) where
  size_le s := quiet.size_le s.context
  quiet s _ identified le inRange serves := by
    have quiet := quiet.quiet s.context identified le inRange
    exact ⟨quiet.toRemains, serves.quiet quiet, quiet.waits⟩

theorem node {op : Op} (other : op ≠ .eventOnTick) {next : NodeId → Lower β}
    (second : ∀ (node : NodeId) (base : Nat), base ≤ node.toNat → Quiet base (next node)) :
    Quiet base (@liftM (StateT Context Id) (StateT Lowering Id) _ NodeId (createNode op) >>= next) where
  size_le s := (grows_createNode op s.context).trans
    ((second (.ofNat s.context.graph.nodes.size) 0 (Nat.zero_le _)).size_le
      { s with context := (createNode op s.context).2 })
  quiet s journal identified le inRange serves := by
    have placed : s.context.Quiet base (createNode op s.context).2 := Context.quiet_place identified rfl other
    have size : (createNode op s.context).2.graph.nodes.size = s.context.graph.nodes.size + 1 := Array.size_push _
    let made : Lowering := { s with context := (createNode op s.context).2 }
    have grown : made.context.graph.nodes.size ≤ _ :=
      (second (.ofNat s.context.graph.nodes.size) 0 (Nat.zero_le _)).size_le made
    have inRange : (next (.ofNat s.context.graph.nodes.size) made).2.context.graph.nodes.size ≤ 0x100000000 := inRange
    have small : s.context.graph.nodes.size < 0x100000000 := by
      have := size ▸ grown
      omega
    obtain ⟨remains, serves', waits⟩ := (second (.ofNat s.context.graph.nodes.size) base
      (by rwa [NodeId.toNat_ofNat small])).quiet made journal placed.identified (le.trans (size ▸ Nat.le_succ _))
        inRange (serves.quiet placed)
    exact ⟨placed.toRemains.trans remains, serves', waits.trans placed.waits⟩

/-- A note, and nothing more. -/
theorem note (kind : DiagnosticKind) (message : String) (a : α) :
    Quiet base (do Build.report kind message; return a : Lower α) :=
  .bind (.lift (quiet_report kind message)) fun _ => .pure a

theorem modifyFrame (f : Frame → Frame) : Quiet base (modifyFrame f) := .modify (fun _ => rfl) fun _ => rfl

theorem withFrame {step : Lower α} (frame : Frame) (quiet : Quiet base step) : Quiet base (withFrame frame step) :=
  .bind (.modify (fun _ => rfl) fun _ => rfl) fun _ => .bind quiet fun _ =>
    .bind (.modify (fun _ => rfl) fun _ => rfl) fun _ => .pure _

theorem inCallee {step : Lower α} (frame : Frame) (quiet : Quiet base step) : Quiet base (inCallee frame step) :=
  .getBind fun _ => .bind (.lift (quiet_setMethod _)) fun _ => .bind (.withFrame frame quiet) fun _ =>
    .bind (.lift (quiet_setMethod _)) fun _ => .pure _

end Quiet

section Parts

theorem quiet_objectLiteral (object : ObjectRef) : Quiet base (objectLiteral object) := by
  refine .bind (.lift (quiet_targetOf? object)) fun target? => ?_
  cases target? with
  | some id => exact .lift (quiet_createLiteral _)
  | none => exact .bind (.lift (quiet_unresolved _)) fun _ => .lift quiet_createUnknownLiteral

/-- The event of the tick may be new; nobody takes an output. -/
theorem quiet_tickNode : Quiet base tickNode where
  size_le s := grows_getOrNew s.tick s.context
  quiet s journal identified le inRange serves := by
    obtain ⟨_, marked⟩ := (Marked.refl identified le serves).getOrNew
    exact ⟨marked.remains inRange, marked.serves inRange, marked.waits inRange⟩

theorem quiet_onList? (name : String) {step : ListBuild α} (quiet : BoundedList.ListQuiet base step) :
    Quiet base (onList? name step) := by
  refine .getBind fun s => ?_
  split
  · exact .pure none
  · next l _ =>
    exact .bind (.lift (quiet l)) fun result => .bind (.modify (fun _ => rfl) fun _ => rfl) fun _ => .pure _

theorem quiet_frame? : Quiet base frame? := .getBind fun _ => .pure _

theorem quiet_listName? (e : Expression) : Quiet base (listName? e) := .getBind fun _ => .pure _

theorem quiet_variableOf? (name : String) : Quiet base (variableOf? name) :=
  .bind quiet_frame? fun _ => .getBind fun _ => .pure _

theorem quiet_connectFlows (flows : List FlowOut) (target : FlowIn) : Quiet base (connectFlows flows target) := by
  induction flows with
  | nil => exact .pure _
  | cons flow flows ih => exact .bind (.lift (quiet_connectFlow _ _)) fun _ => ih

theorem quiet_join (flows : List FlowOut) : Quiet base (join flows) :=
  .node (by decide) fun _ _ _ => .bind (quiet_connectFlows _ _) fun _ => .pure _

theorem quiet_storeVariable (id : Nat) (value : ValueOut) (flow : FlowOut) : Quiet base (storeVariable id value flow) :=
  .bind (.lift (quiet_setVariableFrom id value)) fun _ => .bind (.lift (quiet_connectFlow _ _)) fun _ => .pure _

theorem quiet_declareLocal (name : String) (type : ValueType) : Quiet base (declareLocal name type) :=
  .bind quiet_frame? fun _ => .bind (.lift (quiet_declareVariable _ _ _)) fun _ =>
    .bind (.modifyFrame _) fun _ => .pure _

theorem quiet_coerce (value : ValueOut) (own other : Option ValueType) : Quiet base (coerce value own other) := by
  unfold coerce
  split
  · next own other =>
    have filled (value : ValueOut) : Quiet base
        (if (own = .int || own = .float) && (other = .float2 || other = .float3 || other = .float4)
          then do return (← liftM (combine? (List.replicate other.componentCount value))).getD value
          else pure value : Lower ValueOut) := by
      split
      · exact .bind (.lift (quiet_combine? _)) fun _ => .pure _
      · exact .pure value
    dsimp only
    split
    · exact .bind (.lift (quiet_unary (by decide) value)) filled
    · exact filled value
  · exact .pure value

/-- Smaller expressions are quiet. -/
def Below.Quiet {bound : Nat} (low : Below bound) : Prop := ∀ base e small, Lower.Quiet base (low e small)

variable {bound : Nat} {low : Below bound}

theorem quiet_lowerAll (quiet : Below.Quiet low) : ∀ (es : List Expression) (small : ∀ e ∈ es, e.size < bound),
    Quiet base (lowerAll low es small)
  | [], _ => .pure _
  | e :: es, small => by
    refine .bind (quiet base e _) fun v? => ?_
    cases v? with
    | none => exact .pure none
    | some v =>
      refine .bind (quiet_lowerAll quiet es _) fun values? => ?_
      cases values? with
      | none => exact .pure none
      | some values => exact .pure _

theorem quiet_valueOrUnknown {step : Lower (Option ValueOut)} (quiet : Quiet base step) :
    Quiet base (valueOrUnknown step) := by
  refine .bind quiet fun v? => ?_
  cases v? with
  | some v => exact .pure v
  | none => exact .lift quiet_createUnknownLiteral

theorem quiet_lowerObject (quiet : Below.Quiet low) (e : Expression) (small : e.size < bound) :
    Quiet base (lowerObject low e small) :=
  lowerObject_induction (P := Quiet base) (quiet_objectLiteral .self)
    (fun _ _ => quiet_valueOrUnknown (quiet _ _ _)) e small

theorem quiet_lowerComponents (quiet : Below.Quiet low) : ∀ (es : List Expression)
    (small : ∀ e ∈ es, e.size < bound), Quiet base (lowerComponents low es small)
  | [], _ => .pure _
  | e :: es, small => by
    refine .bind (quiet base e _) fun v? => ?_
    cases v? with
    | none => exact .pure none
    | some v =>
      refine .bind (quiet_coerce v _ _) fun part => .bind (quiet_lowerComponents quiet es _) fun parts? => ?_
      cases parts? with
      | none => exact .pure none
      | some parts => exact .pure _

theorem quiet_createZeros : ∀ count : Nat, Quiet base (createZeros count)
  | 0 => .pure _
  | count + 1 => .bind (.lift (quiet_createLiteral _)) fun _ => .bind (quiet_createZeros count) fun _ => .pure _

theorem quiet_bindArguments (quiet : Below.Quiet low) (parameters : List Parameter) (es : List Expression)
    (small : ∀ e ∈ es, e.size < bound) (bindings : Dict ValueOut) :
    Quiet base (bindArguments low parameters es small bindings) := by
  induction parameters generalizing es bindings with
  | nil => exact .pure bindings
  | cons parameter parameters ih =>
    cases es with
    | nil => exact .pure bindings
    | cons e es =>
      refine .bind (quiet base e _) fun v? => ?_
      cases v? with
      | none => exact ih es _ _
      | some v => exact ih es _ _

theorem quiet_coerceAll (values : List ValueOut) (es : List Expression) : Quiet base (coerceAll values es) := by
  induction values generalizing es with
  | nil => exact .pure []
  | cons value values ih =>
    cases es with
    | nil => exact .pure []
    | cons e es => exact .bind (quiet_coerce value _ _) fun _ => .bind (ih es) fun _ => .pure _

theorem quiet_connectCoerced (node : NodeId) (result : Option ValueType) (sockets : List String)
    (values : List ValueOut) (es : List Expression) :
    Quiet base (connectCoerced node result sockets values es) := by
  induction sockets generalizing values es with
  | nil => exact .pure _
  | cons socket sockets ih =>
    cases values with
    | nil => exact .pure _
    | cons value values =>
      cases es with
      | nil => exact .pure _
      | cons e es =>
        refine .bind (quiet_coerce value _ _) fun _ => ?_
        exact .bind (.lift (quiet_connect _ _)) fun _ => ih values es

theorem quiet_lowerParts (quiet : Below.Quiet low) (node : NodeId) (slot : Nat) (parts : List MessagePart)
    (small : ∀ e, .value e ∈ parts → e.size < bound) : Quiet base (lowerParts low node slot parts small) := by
  induction parts generalizing slot with
  | nil => exact .pure _
  | cons part parts ih =>
    cases part with
    | text content => exact .bind (ih slot _) fun _ => .pure _
    | value e =>
      refine .bind (quiet base e _) fun v? => ?_
      cases v? with
      | none => exact .bind (ih (slot + 1) _) fun _ => .pure _
      | some v => exact .bind (.lift (quiet_connect _ _)) fun _ => .bind (ih (slot + 1) _) fun _ => .pure _

end Parts

section Values

variable {e : Expression} {low : Below e.size}

theorem quiet_lowerReceiver (quiet : Below.Quiet low) : Quiet base (lowerReceiver e low) := by
  unfold lowerReceiver
  split
  · exact quiet_objectLiteral .self
  · exact quiet_lowerObject quiet _ _

theorem quiet_readProperty (quiet : Below.Quiet low) {property : Build PropertyGet}
    (silent : Build.Quiet base property) : Quiet base (readProperty e low property) :=
  .bind (quiet_lowerReceiver quiet) fun _ => .bind (.lift silent) fun _ =>
    .bind (.lift (quiet_connect _ _)) fun _ => .pure _

theorem quiet_lowerLiteral : Quiet base (lowerLiteral e) := by
  unfold lowerLiteral
  split
  · exact .note _ _ none
  · split
    · exact .bind (.lift (quiet_createLiteral _)) fun _ => .pure _
    · exact .note _ _ none
    · exact .note _ _ none

theorem quiet_lowerIdentifier (c : ScriptClass) : Quiet base (lowerIdentifier c e) := by
  refine .bind quiet_frame? fun frame => ?_
  split
  · exact .pure _
  · refine .getBind fun s => ?_
    split
    · exact .bind (.lift (quiet_getVariable _)) fun _ => .pure _
    · split
      · exact .bind (quiet_objectLiteral _) fun _ => .pure _
      · exact .note _ _ none

/-- A value of a smaller expression, and one more node behind it. -/
theorem quiet_behind (quiet : Below.Quiet low) (operand : Expression) (small : operand.size < e.size)
    {op : Op} (other : op ≠ .eventOnTick) : Quiet base
      (do let some value ← low operand small | return none
          return some (← liftM (unary op value)) : Lower (Option ValueOut)) := by
  refine .bind (quiet base operand small) fun v? => ?_
  cases v? with
  | none => exact .pure none
  | some v => exact .bind (.lift (quiet_unary other v)) fun _ => .pure _

theorem quiet_lowerComponent (quiet : Below.Quiet low) (member : MemberSymbol) (index : Nat) :
    Quiet base (lowerComponent e low member index) := by
  unfold lowerComponent
  split
  · exact .pure none
  · refine .bind (quiet _ _ _) fun v? => ?_
    cases v? with
    | none => exact .pure none
    | some vector =>
      refine .bind (.lift (quiet_extract? vector _)) fun parts? => ?_
      split
      · exact .pure _
      · exact .note _ _ none

theorem quiet_lowerOperand (quiet : Below.Quiet low) {op : Op} (other : op ≠ .eventOnTick) :
    Quiet base (lowerOperand e low op) := by
  unfold lowerOperand
  split
  · exact .pure none
  · exact quiet_behind quiet _ _ other

theorem quiet_lowerCount : Quiet base (lowerCount e) := by
  unfold lowerCount
  dsimp only
  split
  · refine .bind (quiet_listName? _) fun name? => ?_
    cases name? with
    | none => exact .note _ _ none
    | some name =>
      refine .bind (quiet_onList? name BoundedList.quiet_countValue) fun count? => ?_
      cases count? with
      | none => exact .note _ _ none
      | some count => exact .pure _
  · exact .note _ _ none

theorem quiet_lowerProperty (quiet : Below.Quiet low) (member : MemberSymbol) (property : HostProperty) :
    Quiet base (lowerProperty e low member property) := by
  have reading {property : Build PropertyGet} (silent : Build.Quiet base property) :
      Quiet base (do return some (← readProperty e low property)) :=
    .bind (quiet_readProperty quiet silent) fun _ => .pure _
  cases property with
  | position => exact reading quiet_worldPositionGet
  | localPosition => exact reading quiet_localPositionGet
  | rotation => exact reading quiet_worldRotationGet
  | localRotation => exact reading quiet_localRotationGet
  | localScale => exact reading quiet_localScaleGet
  | lossyScale => exact reading quiet_worldScaleGet
  | component index => exact quiet_lowerComponent quiet member index
  | normalized => exact quiet_lowerOperand quiet (by decide)
  | magnitude => exact quiet_lowerOperand quiet (by decide)
  | listCount => exact quiet_lowerCount
  | deltaTime => exact .bind quiet_tickNode fun _ => .pure _
  | time => exact .bind quiet_tickNode fun _ => .pure _
  | transform => exact .bind (quiet_lowerReceiver quiet) fun _ => .pure _
  | gameObject => exact .bind (quiet_lowerReceiver quiet) fun _ => .pure _

theorem quiet_lowerMemberAccess (quiet : Below.Quiet low) : Quiet base (lowerMemberAccess e low) := by
  unfold lowerMemberAccess
  split
  · exact .note _ _ none
  · refine .getBind fun s => ?_
    dsimp only
    split
    · exact .bind (.lift (quiet_getVariable _)) fun _ => .pure _
    · exact quiet_lowerProperty quiet _ _
    · exact .note _ _ none

theorem binaryOperator?_ne {token : String} {op : Op} {negated : Bool}
    (found : binaryOperator? token = some (op, negated)) : op ≠ .eventOnTick := by
  unfold binaryOperator? at found
  split at found <;> cases found <;> decide

theorem quiet_lowerBinary (quiet : Below.Quiet low) : Quiet base (lowerBinary e low) := by
  unfold lowerBinary
  split
  · split
    · exact .note _ _ none
    · next found =>
      refine .bind (quiet _ _ _) fun a? => ?_
      cases a? with
      | none => exact .pure none
      | some a =>
        refine .bind (quiet _ _ _) fun b? => ?_
        cases b? with
        | none => exact .pure none
        | some b =>
          refine .bind (quiet_coerce a _ _) fun a => .bind (quiet_coerce b _ _) fun b => ?_
          refine .bind (.lift (quiet_binary (binaryOperator?_ne found) a b)) fun value => ?_
          split
          · exact .bind (.lift (quiet_unary (by decide) value)) fun _ => .pure _
          · exact .pure _
  · exact .note _ _ none

theorem quiet_lowerUnary (quiet : Below.Quiet low) : Quiet base (lowerUnary e low) := by
  unfold lowerUnary
  split
  · exact .pure none
  · split
    · split
      · exact .bind (.lift (quiet_createLiteral _)) fun _ => .pure _
      · exact quiet_behind quiet _ _ (by decide)
    · exact quiet_behind quiet _ _ (by decide)
    · exact quiet _ _ _
    · exact .note _ _ none

theorem quiet_lowerConstruction (quiet : Below.Quiet low) : Quiet base (lowerConstruction e low) := by
  unfold lowerConstruction
  split
  · exact .note _ _ none
  · split
    · exact .bind (.lift (quiet_createLiteral _)) fun _ => .pure _
    · refine .bind (quiet_lowerComponents quiet e.children _) fun parts? => ?_
      cases parts? with
      | none => exact .pure none
      | some parts =>
        refine .bind (quiet_createZeros _) fun zeros => .bind (.lift (quiet_combine? _)) fun v? => ?_
        cases v? with
        | none => exact .note _ _ none
        | some v => exact .pure _

theorem quiet_lowerElement (quiet : Below.Quiet low) : Quiet base (lowerElement e low) := by
  unfold lowerElement
  split
  · refine .bind (quiet_listName? _) fun name? => ?_
    cases name? with
    | none => exact .note _ _ none
    | some name =>
      refine .bind (quiet _ _ _) fun index? => ?_
      cases index? with
      | none => exact .pure none
      | some index => exact quiet_onList? name (BoundedList.quiet_getItemChecked index)
  · exact .note _ _ none

theorem quiet_lowerCast (quiet : Below.Quiet low) : Quiet base (lowerCast e low) := by
  unfold lowerCast
  split
  · exact .pure none
  · refine .bind (quiet _ _ _) fun v? => ?_
    cases v? with
    | none => exact .pure none
    | some v =>
      dsimp only
      split
      · exact .bind (.lift (quiet_unary (by decide) v)) fun _ => .pure _
      · exact .bind (.lift (quiet_unary (by decide) v)) fun _ => .pure _
      · exact .pure _

end Values

section Calls

variable {e : Expression} {low : Below e.size}

theorem quiet_lowerFunction (quiet : Below.Quiet low) {op : Op} (other : op ≠ .eventOnTick) :
    Quiet base (lowerFunction e low op) := by
  refine .bind (quiet_lowerAll quiet _ _) fun values? => ?_
  cases values? with
  | none => exact .pure none
  | some values =>
    dsimp only
    split
    · exact .note _ _ none
    · exact .node other fun _ _ _ => .bind (quiet_connectCoerced _ _ _ _ _) fun _ => .pure _

theorem quiet_lowerDistance (quiet : Below.Quiet low) : Quiet base (lowerDistance e low) := by
  refine .bind (quiet_lowerAll quiet _ _) fun values? => ?_
  cases values? with
  | none => exact .pure none
  | some values =>
    dsimp only
    split
    · exact .bind (.lift (quiet_binary (by decide) _ _)) fun offset =>
        .bind (.lift (quiet_unary (by decide) offset)) fun _ => .pure _
    · exact .note _ _ none

theorem quiet_lowerVector (quiet : Below.Quiet low) (count : Nat) : Quiet base (lowerVector e low count) := by
  refine .bind (quiet_lowerAll quiet _ _) fun values? => ?_
  cases values? with
  | none => exact .pure none
  | some values =>
    dsimp only
    split
    · exact .pure _
    · split
      · exact .bind (quiet_coerceAll _ _) fun parts => .lift (quiet_combine? parts)
      · exact .note _ _ none

theorem quiet_lowerFirst (quiet : Below.Quiet low) : Quiet base (lowerFirst e low) := by
  unfold lowerFirst
  split
  · exact .pure none
  · exact quiet _ _ _

theorem quiet_lowerSecond (quiet : Below.Quiet low) : Quiet base (lowerSecond e low) := by
  unfold lowerSecond
  split
  · exact quiet _ _ _
  · exact .pure none

theorem quiet_lowerPureMethod (quiet : Below.Quiet low) {method : HostMethod}
    (other : ∀ op, method = .math op → op ≠ .eventOnTick) : Quiet base (lowerPureMethod e low method) := by
  unfold lowerPureMethod
  split
  · next op => exact quiet_lowerFunction quiet (other op rfl)
  · exact quiet_lowerDistance quiet
  · refine .bind (quiet_lowerVector quiet 3) fun euler? => ?_
    cases euler? with
    | none => exact .pure none
    | some euler => exact .bind (.lift (quiet_fromEulerDegrees euler)) fun _ => .pure _
  · refine .bind (quiet_lowerFirst quiet) fun rotation? => ?_
    cases rotation? with
    | none => exact .pure none
    | some rotation => exact .bind (.lift (quiet_invert rotation)) fun _ => .pure _
  · exact .pure none

theorem quiet_lowerDelay (quiet : Below.Quiet low) : Quiet base (lowerDelay e low) := by
  unfold lowerDelay
  split
  · exact .note _ _ none
  · refine .bind (quiet _ _ _) fun duration? => ?_
    cases duration? with
    | none => exact .pure none
    | some duration =>
      exact .bind (.lift (quiet_delayMilliseconds _)) fun _ => .bind (.lift (quiet_connect _ _)) fun _ => .pure _

theorem quiet_lowerAction (quiet : Below.Quiet low) {action : Build TransformAction}
    (silent : Build.Quiet base action) : Quiet base (lowerAction e low action) :=
  .bind (quiet_lowerReceiver quiet) fun _ => .bind (.lift silent) fun _ =>
    .bind (.lift (quiet_connect _ _)) fun _ => .pure _

theorem quiet_lowerSetActive (quiet : Below.Quiet low) : Quiet base (lowerSetActive e low) := by
  refine .bind (quiet_lowerFirst quiet) fun value? => ?_
  cases value? with
  | none => exact .pure none
  | some value =>
    refine .bind (quiet_lowerReceiver quiet) fun object => .bind (.lift quiet_activeSet) fun write => ?_
    exact .bind (.lift (quiet_connect _ _)) fun _ => .bind (.lift (quiet_connect _ _)) fun _ => .pure _

theorem quiet_lowerLookTarget (quiet : Below.Quiet low) : Quiet base (lowerLookTarget e low) := by
  unfold lowerLookTarget
  split
  · exact .pure none
  · dsimp only
    split
    · refine .bind (quiet_lowerObject quiet _ _) fun object => .bind (.lift quiet_worldPositionGet) fun position => ?_
      exact .bind (.lift (quiet_connect _ _)) fun _ => .pure _
    · exact quiet _ _ _

theorem quiet_lowerSetPositionAndRotation (quiet : Below.Quiet low) :
    Quiet base (lowerSetPositionAndRotation e low) := by
  refine .bind (quiet_lowerFirst quiet) fun position? => .bind (quiet_lowerSecond quiet) fun rotation? => ?_
  split
  · refine .bind (quiet_lowerReceiver quiet) fun object => .bind (.lift quiet_worldPositionSet) fun moving => ?_
    refine .bind (.lift quiet_worldRotationSet) fun turning => .bind (.lift (quiet_connect _ _)) fun _ => ?_
    refine .bind (.lift (quiet_connect _ _)) fun _ => .bind (.lift (quiet_connect _ _)) fun _ => ?_
    exact .bind (.lift (quiet_connectFlow _ _)) fun _ => .pure _
  · exact .pure none

theorem listQuiet_listStep {method : HostMethod} {values : List ValueOut} {step : ListBuild Step}
    (found : listStep? method values = some step) : BoundedList.ListQuiet base step := by
  unfold listStep? at found
  split at found <;> cases found
  all_goals with_reducible repeat' refine BoundedList.ListQuiet.bind ?_ fun _ => ?_
  all_goals simp

theorem quiet_lowerListCall (quiet : Below.Quiet low) (method : HostMethod) :
    Quiet base (lowerListCall e low method) := by
  unfold lowerListCall
  dsimp only
  split
  · refine .bind (quiet_listName? _) fun name? => ?_
    cases name? with
    | none => exact .note _ _ none
    | some name =>
      refine .bind (quiet_lowerAll quiet _ _) fun values? => ?_
      cases values? with
      | none => exact .pure none
      | some values =>
        dsimp only
        split
        · next found => exact quiet_onList? name (listQuiet_listStep found)
        · exact .note _ _ none
  · exact .note _ _ none

/-- The log node is its builder's own until its message is known. -/
theorem quiet_lowerLog (quiet : Below.Quiet low) (severity : Severity) : Quiet base (lowerLog e low severity) :=
  .node (by decide) fun node _ own => .bind (quiet_lowerParts quiet node 0 _ _) fun _ =>
    .bind (.lift (quiet_configure own _ _)) fun _ => .bind (.lift (quiet_configure own _ _)) fun _ => .pure _

theorem quiet_lowerStepMethod (quiet : Below.Quiet low) (method : HostMethod) :
    Quiet base (lowerStepMethod e low method) := by
  unfold lowerStepMethod
  split
  · exact quiet_lowerDelay quiet
  · exact quiet_lowerSetActive quiet
  · exact .bind (quiet_lowerLog quiet _) fun _ => .pure _
  · refine .bind (quiet_lowerVector quiet 3) fun offset? => ?_
    cases offset? with
    | none => exact .pure none
    | some offset => exact quiet_lowerAction quiet (quiet_translate offset)
  · refine .bind (quiet_lowerVector quiet 3) fun euler? => ?_
    cases euler? with
    | none => exact .pure none
    | some euler =>
      exact quiet_lowerAction quiet (.bind (quiet_fromEulerDegrees euler) fun _ => quiet_rotate _)
  · refine .bind (quiet_lowerLookTarget quiet) fun point? => ?_
    cases point? with
    | none => exact .pure none
    | some point => exact quiet_lowerAction quiet (quiet_lookAt point)
  · exact quiet_lowerSetPositionAndRotation quiet
  · exact .pure none
  · exact .pure none
  · exact .pure none
  · exact .pure none
  · exact quiet_lowerListCall quiet _

theorem ne_of_recognize? {symbol : MethodSymbol} {method : HostMethod}
    (found : HostMethod.recognize? symbol = some method) (op : Op) (same : method = .math op) :
    op ≠ .eventOnTick := by
  subst same
  have computes := HostMethod.computes_of_recognize? found
  rintro rfl
  revert computes
  decide

theorem quiet_lowerHostMethod (quiet : Below.Quiet low) {symbol : MethodSymbol} {method : HostMethod}
    (found : HostMethod.recognize? symbol = some method) (flow : Option FlowOut) :
    Quiet base (lowerHostMethod e low symbol method flow) := by
  unfold lowerHostMethod
  split
  · exact .bind (quiet_lowerPureMethod quiet (ne_of_recognize? found)) fun _ => .pure _
  · split
    · exact .note _ _ _
    · refine .bind (quiet_lowerStepMethod quiet _) fun step? => ?_
      cases step? with
      | none => exact .pure _
      | some step => exact .bind (.lift (quiet_connectFlow _ _)) fun _ => .pure _

end Calls

end Lower

end ScriptGraph
