import Mathlib
import ScriptGraph.Lower.Class
import ScriptGraph.Proofs.Lower.Calls
import ScriptGraph.Proofs.Pattern.Readings

/-!
Expressions touch neither flows nor storage.

Lowering an expression only appends value nodes, whatever it inlines, looks up or shares on the way. What is
shown of every part is that it keeps a window on the nodes made since some earlier state (`Extends`); the
parts then follow one another as the expression does. The methods being inlined are handed down and not part
of the state, so they cannot change either.
-/

namespace ScriptGraph

open Pattern (BoundedList)

/-- From `start` on, only value nodes were appended, and names stand for what they stood for. -/
structure Lowering.Extends (start : Lowering) (own : List NodeId) (s : Lowering) : Prop where
  context : start.context.Extends own s.context
  fields : s.fields = start.fields
  frames : s.frames = start.frames

namespace Lower

variable {α β : Type}

/-- The step only appends value nodes. -/
def Appends (step : Lower α) : Prop :=
  ∀ ⦃start : Lowering⦄ ⦃own : List NodeId⦄ ⦃s : Lowering⦄, start.Extends own s →
    Ensures step s fun _ s' => start.Extends own s'

namespace Appends

theorem bind {step : Lower α} {next : α → Lower β} (first : Appends step) (second : ∀ a, Appends (next a)) :
    Appends (step >>= next) :=
  fun _ _ _ window => (first window).bind fun a _ window => second a window

theorem pure (a : α) : Appends (Pure.pure a) := fun _ _ _ window => .pure window

theorem getBind {next : Lowering → Lower β} (second : ∀ s, Appends (next s)) : Appends (get >>= next) :=
  fun _ _ s window => .getBind (second s window)

/-- A step of construction as a step of lowering. -/
theorem lift {step : Build α} (appends : Build.Appends step) :
    Appends (@liftM (StateT Context Id) (StateT Lowering Id) _ α step) :=
  fun _ _ _ window => .lift ((appends window.context).mono fun _ _ grown => { window with context := grown })

/-- A note, and nothing more. -/
theorem note (kind : DiagnosticKind) (message : String) (a : α) :
    Appends (do Build.report kind message; return a) :=
  .bind (.lift (.report kind message)) fun _ => .pure a

/-- What is not part of the window may change. -/
theorem modify {change : Lowering → Lowering} (context : ∀ s, (change s).context = s.context)
    (fields : ∀ s, (change s).fields = s.fields) (frames : ∀ s, (change s).frames = s.frames) :
    Appends (modify change) :=
  fun _ _ s window => ⟨(context s).symm ▸ window.context, (fields s).trans window.fields,
    (frames s).trans window.frames⟩

/-- A step in the frame of a callee: the frame is taken off again, and notes belong to the caller again. -/
theorem inCallee {step : Lower α} (appends : Appends step) (frame : Frame) : Appends (inCallee frame step) := by
  intro start own s window
  -- The step has a window of its own, which begins where the frame is put on.
  let inside : Lowering :=
    { s with
      context := { s.context with diagnostics := { s.context.diagnostics with method := frame.method } }
      frames := frame :: s.frames }
  have opened : inside.Extends [] inside :=
    ⟨.refl fun room => (window.context.appended room).identified, rfl, rfl⟩
  have done := appends opened
  have taken : (step inside).2.frames.tail = s.frames := congrArg List.tail done.frames
  exact
    { context := window.context.trans done.context rfl rfl rfl
      fields := done.fields.trans window.fields
      frames := taken.trans window.frames }

end Appends

section Parts

theorem appends_objectLiteral (object : ObjectRef) : Appends (objectLiteral object) := by
  refine .bind (.lift (.getBind fun _ => .pure _)) fun target? => ?_
  cases target? with
  | some id => exact .lift (.createPlaceholder _)
  | none => exact .bind (.lift (.report _ _)) fun _ => .lift (.createPlaceholder none)

theorem appends_tickNode : Appends tickNode := by
  refine .getBind fun s => .bind (.lift (Pattern.appends_tick s.tick)) fun chain => ?_
  exact .bind (.modify (fun _ => rfl) (fun _ => rfl) fun _ => rfl) fun _ => .pure _

theorem appends_onList? (name : String) {step : Pattern.ListBuild α}
    (appends : ∀ l : BoundedList, Build.Appends (step.run l)) : Appends (onList? name step) := by
  refine .getBind fun s => ?_
  split
  · exact .pure none
  · next l _ =>
    refine .bind (.lift (appends l)) fun ⟨_, _⟩ => ?_
    exact .bind (.modify (fun _ => rfl) (fun _ => rfl) fun _ => rfl) fun _ => .pure _

theorem appends_listName? (e : Expression) : Appends (listName? e) := .getBind fun _ => .pure _

theorem appends_frame? : Appends frame? := .getBind fun _ => .pure _

theorem appends_coerce (value : ValueOut) (own other : Option ValueType) : Appends (coerce value own other) := by
  unfold coerce
  split
  · next own other =>
    have filled (v : ValueOut) :
        Appends (if (own = .int || own = .float) && (other = .float2 || other = .float3 || other = .float4)
          then do return (← liftM (Pattern.combine? (List.replicate other.componentCount v))).getD v
          else pure v : Lower ValueOut) := by
      split
      · exact .bind (.lift (Pattern.appends_combine? _)) fun _ => .pure _
      · exact .pure v
    dsimp only
    split
    · exact .bind (.lift (Pattern.appends_unary rfl value)) filled
    · exact filled value
  · exact .pure value

/-- Smaller expressions only append. -/
def Below.Silent {bound : Nat} (low : Below bound) : Prop := ∀ e small, Appends (low e small)

variable {bound : Nat} {low : Below bound}

theorem appends_lowerAll (silent : Below.Silent low) : ∀ (es : List Expression)
    (small : ∀ e ∈ es, e.size < bound), Appends (lowerAll low es small)
  | [], _ => .pure _
  | e :: es, small => by
    refine .bind (silent e _) fun v? => ?_
    cases v? with
    | none => exact .pure none
    | some v =>
      refine .bind (appends_lowerAll silent es _) fun values? => ?_
      cases values? with
      | none => exact .pure none
      | some values => exact .pure _

theorem appends_valueOrUnknown {step : Lower (Option ValueOut)} (appends : Appends step) :
    Appends (valueOrUnknown step) := by
  refine .bind appends fun v? => ?_
  cases v? with
  | some v => exact .pure v
  | none => exact .lift (.createPlaceholder none)

theorem appends_lowerObject (silent : Below.Silent low) (e : Expression) (small : e.size < bound) :
    Appends (lowerObject low e small) :=
  lowerObject_induction (P := Appends) (appends_objectLiteral .self)
    (fun _ _ => appends_valueOrUnknown (silent _ _)) e small

theorem appends_lowerComponents (silent : Below.Silent low) : ∀ (es : List Expression)
    (small : ∀ e ∈ es, e.size < bound), Appends (lowerComponents low es small)
  | [], _ => .pure _
  | e :: es, small => by
    refine .bind (silent e _) fun v? => ?_
    cases v? with
    | none => exact .pure none
    | some v =>
      refine .bind (appends_coerce v _ _) fun part => .bind (appends_lowerComponents silent es _) fun parts? => ?_
      cases parts? with
      | none => exact .pure none
      | some parts => exact .pure _

theorem appends_createZeros : ∀ count : Nat, Appends (createZeros count)
  | 0 => .pure _
  | count + 1 => .bind (.lift (.createPlaceholder _)) fun _ => .bind (appends_createZeros count) fun _ => .pure _

theorem appends_bindArguments (silent : Below.Silent low) (parameters : List Parameter) (es : List Expression)
    (small : ∀ e ∈ es, e.size < bound) (bindings : Dict ValueOut) :
    Appends (bindArguments low parameters es small bindings) := by
  induction parameters generalizing es bindings with
  | nil => exact .pure bindings
  | cons parameter parameters ih =>
    cases es with
    | nil => exact .pure bindings
    | cons e es =>
      refine .bind (silent e _) fun v? => ?_
      cases v? with
      | none => exact ih es _ _
      | some v => exact ih es _ _

theorem appends_coerceAll (values : List ValueOut) (es : List Expression) : Appends (coerceAll values es) := by
  induction values generalizing es with
  | nil => exact .pure []
  | cons value values ih =>
    cases es with
    | nil => exact .pure []
    | cons e es => exact .bind (appends_coerce value _ _) fun _ => .bind (ih es) fun _ => .pure _

/-- Feeds a new node; what brings the values to their shape is appended behind it. -/
theorem extends_connectCoerced {start s : Lowering} {own : List NodeId} {node : NodeId} (new : node ∈ own)
    (result : Option ValueType) (sockets : List String) (values : List ValueOut) (es : List Expression)
    (window : start.Extends own s) :
    Ensures (connectCoerced node result sockets values es) s fun _ s' => start.Extends own s' := by
  induction sockets generalizing values es s with
  | nil => exact .pure window
  | cons socket sockets ih =>
    cases values with
    | nil => exact .pure window
    | cons value values =>
      cases es with
      | nil => exact .pure window
      | cons e es =>
        refine (appends_coerce value _ result window).bind fun value s window => ?_
        refine .liftBind (window.context.connect (t := node.valueIn socket) (by simp [new]) value)
          fun _ c grown => ?_
        exact ih values es { window with context := grown }

end Parts

section Expressions

variable {e : Expression} {low : Below e.size}

theorem appends_lowerReceiver (silent : Below.Silent low) : Appends (lowerReceiver e low) := by
  unfold lowerReceiver
  split
  · exact appends_objectLiteral .self
  · exact appends_lowerObject silent _ _

theorem appends_readProperty (silent : Below.Silent low) {property : Build Pattern.PropertyGet}
    (reads : Pattern.Reads property Pattern.PropertyGet.target) : Appends (readProperty e low property) := by
  refine .bind (appends_lowerReceiver silent) fun object => ?_
  exact .lift (reads.feed object Pattern.PropertyGet.value)

theorem appends_lowerLiteral : Appends (lowerLiteral e) := by
  unfold lowerLiteral
  split
  · exact .note _ _ none
  · split
    · exact .bind (.lift (.createPlaceholder _)) fun _ => .pure _
    · exact .note _ _ none
    · exact .note _ _ none

theorem appends_lowerIdentifier (c : ScriptClass) : Appends (lowerIdentifier c e) := by
  refine .bind appends_frame? fun frame => ?_
  split
  · exact .pure _
  · refine .getBind fun s => ?_
    split
    · exact .bind (.lift (Pattern.appends_getVariable _)) fun _ => .pure _
    · split
      · exact .bind (appends_objectLiteral _) fun _ => .pure _
      · exact .note _ _ none

theorem appends_lowerComponent (silent : Below.Silent low) (member : MemberSymbol) (index : Nat) :
    Appends (lowerComponent e low member index) := by
  unfold lowerComponent
  split
  · exact .pure none
  · refine .bind (silent _ _) fun v? => ?_
    cases v? with
    | none => exact .pure none
    | some vector =>
      refine .bind (.lift (Pattern.appends_extract? vector _)) fun parts? => ?_
      split
      · exact .pure _
      · exact .note _ _ none

/-- A value of a smaller expression, and one more node behind it. -/
theorem appends_unary (silent : Below.Silent low) (operand : Expression) (small : operand.size < e.size) {op : Op}
    (without : op.schema.flowsIn = []) :
    Appends (do let some value ← low operand small | return none
                return some (← liftM (Pattern.unary op value))) := by
  refine .bind (silent operand small) fun v? => ?_
  cases v? with
  | none => exact .pure none
  | some v => exact .bind (.lift (Pattern.appends_unary without v)) fun _ => .pure _

theorem appends_lowerOperand (silent : Below.Silent low) {op : Op} (without : op.schema.flowsIn = []) :
    Appends (lowerOperand e low op) := by
  unfold lowerOperand
  split
  · exact .pure none
  · exact appends_unary silent _ _ without

theorem appends_lowerCount : Appends (lowerCount e) := by
  unfold lowerCount
  dsimp only
  split
  · refine .bind (appends_listName? _) fun name? => ?_
    cases name? with
    | none => exact .note _ _ none
    | some name =>
      refine .bind (appends_onList? name BoundedList.appends_countValue) fun count? => ?_
      cases count? with
      | none => exact .note _ _ none
      | some count => exact .pure _
  · exact .note _ _ none

theorem appends_lowerProperty (silent : Below.Silent low) (member : MemberSymbol) (property : HostProperty) :
    Appends (lowerProperty e low member property) := by
  have reading {property : Build Pattern.PropertyGet}
      (reads : Pattern.Reads property Pattern.PropertyGet.target) :
      Appends (do return some (← readProperty e low property)) :=
    .bind (appends_readProperty silent reads) fun _ => .pure _
  cases property with
  | position => exact reading Pattern.reads_worldPositionGet
  | localPosition => exact reading Pattern.reads_localPositionGet
  | rotation => exact reading Pattern.reads_worldRotationGet
  | localRotation => exact reading Pattern.reads_localRotationGet
  | localScale => exact reading Pattern.reads_localScaleGet
  | lossyScale => exact reading Pattern.reads_worldScaleGet
  | component index => exact appends_lowerComponent silent member index
  | normalized => exact appends_lowerOperand silent rfl
  | magnitude => exact appends_lowerOperand silent rfl
  | listCount => exact appends_lowerCount
  | deltaTime => exact .bind appends_tickNode fun _ => .pure _
  | time => exact .bind appends_tickNode fun _ => .pure _
  | transform => exact .bind (appends_lowerReceiver silent) fun _ => .pure _
  | gameObject => exact .bind (appends_lowerReceiver silent) fun _ => .pure _

theorem appends_lowerMemberAccess (silent : Below.Silent low) : Appends (lowerMemberAccess e low) := by
  unfold lowerMemberAccess
  split
  · exact .note _ _ none
  · refine .getBind fun s => ?_
    dsimp only
    split
    · exact .bind (.lift (Pattern.appends_getVariable _)) fun _ => .pure _
    · exact appends_lowerProperty silent _ _
    · exact .note _ _ none

theorem appends_lowerBinary (silent : Below.Silent low) : Appends (lowerBinary e low) := by
  unfold lowerBinary
  split
  · split
    · exact .note _ _ none
    · next op negated found =>
      have without : op.schema.flowsIn = [] :=
        Op.flowsIn_of_value ((computes_binaryOperator found).2.1 _ List.mem_cons_self)
      refine .bind (silent _ _) fun a? => ?_
      cases a? with
      | none => exact .pure none
      | some a =>
        refine .bind (silent _ _) fun b? => ?_
        cases b? with
        | none => exact .pure none
        | some b =>
          refine .bind (appends_coerce a _ _) fun a => .bind (appends_coerce b _ _) fun b => ?_
          refine .bind (.lift (Pattern.appends_binary without a b)) fun value => ?_
          split
          · exact .bind (.lift (Pattern.appends_unary rfl value)) fun _ => .pure _
          · exact .pure _
  · exact .note _ _ none

theorem appends_lowerUnary (silent : Below.Silent low) : Appends (lowerUnary e low) := by
  unfold lowerUnary
  split
  · exact .pure none
  · split
    · split
      · exact .bind (.lift (.createPlaceholder _)) fun _ => .pure _
      · exact appends_unary silent _ _ rfl
    · exact appends_unary silent _ _ rfl
    · exact silent _ _
    · exact .note _ _ none

theorem appends_lowerConstruction (silent : Below.Silent low) : Appends (lowerConstruction e low) := by
  unfold lowerConstruction
  split
  · exact .note _ _ none
  · split
    · exact .bind (.lift (.createPlaceholder _)) fun _ => .pure _
    · refine .bind (appends_lowerComponents silent e.children _) fun parts? => ?_
      cases parts? with
      | none => exact .pure none
      | some parts =>
        refine .bind (appends_createZeros _) fun zeros => .bind (.lift (Pattern.appends_combine? _)) fun v? => ?_
        cases v? with
        | none => exact .note _ _ none
        | some v => exact .pure _

theorem appends_lowerElement (silent : Below.Silent low) : Appends (lowerElement e low) := by
  unfold lowerElement
  split
  · refine .bind (appends_listName? _) fun name? => ?_
    cases name? with
    | none => exact .note _ _ none
    | some name =>
      refine .bind (silent _ _) fun index? => ?_
      cases index? with
      | none => exact .pure none
      | some index => exact appends_onList? name (BoundedList.appends_getItemChecked index)
  · exact .note _ _ none

theorem appends_lowerCast (silent : Below.Silent low) : Appends (lowerCast e low) := by
  unfold lowerCast
  split
  · exact .pure none
  · refine .bind (silent _ _) fun v? => ?_
    cases v? with
    | none => exact .pure none
    | some v =>
      dsimp only
      split
      · exact .bind (.lift (Pattern.appends_unary rfl v)) fun _ => .pure _
      · exact .bind (.lift (Pattern.appends_unary rfl v)) fun _ => .pure _
      · exact .pure _

theorem appends_lowerFunction (silent : Below.Silent low) {op : Op} (without : op.schema.flowsIn = []) :
    Appends (lowerFunction e low op) := by
  refine .bind (appends_lowerAll silent _ _) fun values? => ?_
  cases values? with
  | none => exact .pure none
  | some values =>
    dsimp only
    split
    · exact .note _ _ none
    · intro start own s window
      refine .liftBind (window.context.createNode op without) fun node c grown => ?_
      have widened : start.Extends (node :: own) { s with context := c } := { window with context := grown }
      refine (extends_connectCoerced List.mem_cons_self _ _ values _ widened).bind fun _ s window => ?_
      exact .pure { window with context := window.context.forget }

theorem appends_lowerDistance (silent : Below.Silent low) : Appends (lowerDistance e low) := by
  refine .bind (appends_lowerAll silent _ _) fun values? => ?_
  cases values? with
  | none => exact .pure none
  | some values =>
    dsimp only
    split
    · refine .bind (.lift (Pattern.appends_binary rfl _ _)) fun offset => ?_
      exact .bind (.lift (Pattern.appends_unary rfl offset)) fun _ => .pure _
    · exact .note _ _ none

theorem appends_lowerVector (silent : Below.Silent low) (count : Nat) : Appends (lowerVector e low count) := by
  refine .bind (appends_lowerAll silent _ _) fun values? => ?_
  cases values? with
  | none => exact .pure none
  | some values =>
    dsimp only
    split
    · exact .pure _
    · split
      · exact .bind (appends_coerceAll _ _) fun parts => .lift (Pattern.appends_combine? parts)
      · exact .note _ _ none

theorem appends_lowerFirst (silent : Below.Silent low) : Appends (lowerFirst e low) := by
  unfold lowerFirst
  split
  · exact .pure none
  · exact silent _ _

theorem appends_lowerPureMethod (silent : Below.Silent low) {symbol : MethodSymbol} {method : HostMethod}
    (found : HostMethod.recognize? symbol = some method) : Appends (lowerPureMethod e low method) := by
  unfold lowerPureMethod
  split
  · have computes := HostMethod.computes_of_recognize? found
    exact appends_lowerFunction silent (Op.flowsIn_of_value (computes.2.1 _ List.mem_cons_self))
  · exact appends_lowerDistance silent
  · refine .bind (appends_lowerVector silent 3) fun euler? => ?_
    cases euler? with
    | none => exact .pure none
    | some euler => exact .bind (.lift (Pattern.appends_fromEulerDegrees euler)) fun _ => .pure _
  · refine .bind (appends_lowerFirst silent) fun rotation? => ?_
    cases rotation? with
    | none => exact .pure none
    | some rotation => exact .bind (.lift (Pattern.appends_invert rotation)) fun _ => .pure _
  · exact .pure none

/-- A method of the host without a flow to stand in. -/
theorem appends_lowerHostMethod (silent : Below.Silent low) {symbol : MethodSymbol} {method : HostMethod}
    (found : HostMethod.recognize? symbol = some method) :
    Appends (lowerHostMethod e low symbol method none) := by
  unfold lowerHostMethod
  split
  · exact .bind (appends_lowerPureMethod silent found) fun _ => .pure _
  · exact .note _ _ _

variable {inliner : Inliner}

/-- A method of the class that is inlined as a value. -/
theorem appends_lowerCallee (inlined : ∀ active body, Appends (inliner.value active body))
    (silent : Below.Silent low) (active : List String) (callee : Method) :
    Appends (lowerCallee inliner active e low callee none) := by
  refine .getBind fun s => ?_
  dsimp only
  split
  · exact .note _ _ _
  · refine .bind (appends_bindArguments silent _ _ _ _) fun bindings => ?_
    split
    · exact .note _ _ _
    · exact .bind (.inCallee (inlined _ _) _) fun _ => .pure _

theorem appends_lowerInvocation (c : ScriptClass) (inlined : ∀ active body, Appends (inliner.value active body))
    (silent : Below.Silent low) (active : List String) :
    Appends (lowerInvocation c inliner active e low none) := by
  unfold lowerInvocation
  split
  · exact .note _ _ _
  · split
    · next found => exact appends_lowerHostMethod silent found
    · exact appends_lowerCallee inlined silent active _
    · exact .note _ _ _

theorem appends_expressionStep (c : ScriptClass) (inlined : ∀ active body, Appends (inliner.value active body))
    (active : List String) (silent : Below.Silent low) : Appends (expressionStep c inliner active e low) := by
  unfold expressionStep
  split
  · exact silent _ _
  · split
    · exact appends_lowerLiteral
    · exact appends_lowerIdentifier c
    · exact .bind (appends_objectLiteral .self) fun _ => .pure _
    · exact appends_lowerMemberAccess silent
    · exact .bind (appends_lowerInvocation c inlined silent active) fun _ => .pure _
    · exact appends_lowerBinary silent
    · exact appends_lowerUnary silent
    · exact appends_lowerUnary silent
    · exact appends_lowerConstruction silent
    · exact appends_lowerElement silent
    · exact appends_lowerCast silent
    · split
      · exact .pure none
      · exact silent _ _
    · exact .note _ _ none
    · exact .note _ _ none
    · exact .note _ _ none

end Expressions

theorem appends_lowerExpression (c : ScriptClass) {inliner : Inliner}
    (inlined : ∀ active body, Appends (inliner.value active body)) (active : List String) (e : Expression) :
    Appends (lowerExpression c inliner active e) := by
  rw [lowerExpression]
  exact appends_expressionStep c inlined active fun smaller _ => appends_lowerExpression c inlined active smaller
termination_by e.size

/-- Inlined bodies only append, however deep calls are nested. -/
theorem appends_inlined (c : ScriptClass) (levels : Nat) (active : List String) (body : Expression) :
    Appends ((inliner c levels).value active body) := by
  induction levels generalizing active body with
  | zero => exact .pure none
  | succ levels ih => exact appends_lowerExpression c ih active body

end Lower

/-- All that happened from `s` to `s'` is that value nodes were appended: those of `s` stand in front as they
were, no flow enters or leaves one behind them, and no variable, event or name has changed. -/
structure Lowering.OnlyAppends (s s' : Lowering) : Prop where
  nodes : s.context.graph.nodes.toList <+: s'.context.graph.nodes.toList
  silent : ∀ n ∈ s'.context.graph.nodes.toList.drop s.context.graph.nodes.size, n.Silent
  vars : s'.context.graph.vars = s.context.graph.vars
  events : s'.context.graph.events = s.context.graph.events
  method : s'.context.diagnostics.method = s.context.diagnostics.method
  fields : s'.fields = s.fields
  frames : s'.frames = s.frames

theorem Lowering.Extends.onlyAppends {s s' : Lowering} (window : s.Extends [] s')
    (room : s'.context.graph.nodes.size ≤ 0x100000000) : s.OnlyAppends s' where
  nodes := by
    rw [List.prefix_iff_getElem?]
    intro i inside
    rw [Array.getElem?_toList, (window.context.appended room).kept i inside, ← Array.getElem?_toList]
    exact List.getElem?_eq_getElem inside
  silent n member := by
    obtain ⟨i, found⟩ := List.mem_iff_getElem?.1 member
    rw [List.getElem?_drop, Array.getElem?_toList] at found
    exact (window.context.appended room).silent _ n (Nat.le_add_right ..) found
  vars := window.context.vars
  events := window.context.events
  method := window.context.method
  fields := window.fields
  frames := window.frames

namespace Lower

/-- Lowering an expression touches neither flows nor storage, from every state whose nodes are numbered in
the order of their creation and as long as there are numbers for new ones. -/
theorem lowerExpression_onlyAppends (c : ScriptClass) (levels : Nat) (active : List String) (e : Expression)
    (s : Lowering) (identified : s.context.graph.Identified)
    (room : (lowerExpression c (inliner c levels) active e s).2.context.graph.nodes.size ≤ 0x100000000) :
    s.OnlyAppends (lowerExpression c (inliner c levels) active e s).2 := by
  have opened : s.Extends [] s := ⟨.refl fun _ => identified, rfl, rfl⟩
  exact (appends_lowerExpression c (appends_inlined c levels) active e opened).onlyAppends room

end Lower

namespace Pacing

/-- A call that returns a number. -/
def call (owner name : String) (arguments : List Expression) : Expression :=
  { kind := .methodInvocation
    resultType := some { name := "float" }
    method := some { name, declaringType := { name := owner } }
    children := { kind := .this } :: arguments }

/-- A class with a field `limit` and the method `Capped(t)`, which returns `Mathf.Min(limit, t)`. -/
def cls : ScriptClass :=
  let name (n : String) : Expression :=
    { kind := .identifier, name := some n, resultType := some { name := "float" } }
  { name := "Pacing"
    fields := [{ name := "limit", fieldType := { name := "float" } }]
    methods := [{
      name := "Capped"
      parameters := [{ name := "t", paramType := { name := "float" } }]
      body := [{ kind := .returnStatement, expressions := [call "Mathf" "Min" [name "limit", name "t"]] }] }] }

/-- The duration of the last tick. -/
def deltaTime : Expression :=
  { kind := .memberAccess
    resultType := some { name := "float" }
    member := some { name := "deltaTime", declaringType := { name := "Time" } } }

/-- The state in which the method `Start` of the class is lowered. -/
def opened : Lowering := Prod.snd <|
  (do Lower.declareFields cls; Build.createNode .eventOnStart : Lower NodeId) { frames := [{ method := "Start" }] }

/-- The call `Capped(Time.deltaTime)`. -/
def lowered : Option ValueOut × Lowering :=
  Lower.lowerExpression cls (Lower.inliner cls 8) [] (call "Pacing" "Capped" [deltaTime]) opened

/-- A call is inlined and asks for the tick before anything else does: their nodes are all that is new. -/
theorem capped_onlyAppends : opened.OnlyAppends lowered.2 ∧
    lowered.2.context.graph.nodes.toList.map (·.op) = [.eventOnStart, .eventOnTick, .variableGet, .mathMin] := by
  have before : opened.context.graph.nodes = #[.new (.ofNat 0) .eventOnStart] := by cbv
  have after : lowered.2.context.graph.nodes.toList.map (·.op) =
      [.eventOnStart, .eventOnTick, .variableGet, .mathMin] := by decide +kernel
  have identified : opened.context.graph.Identified := by
    intro i n found
    rw [before] at found
    cases i with
    | zero => exact Option.some.inj found ▸ rfl
    | succ i => simp at found
  have room : lowered.2.context.graph.nodes.size ≤ 0x100000000 := by
    have size := congrArg List.length after
    simp only [List.length_map, Array.length_toList] at size
    rw [size]
    decide
  exact ⟨Lower.lowerExpression_onlyAppends cls 8 [] _ opened identified room, after⟩

end Pacing

end ScriptGraph
