import ScriptGraph.Pattern.BoundedList
import ScriptGraph.Pattern.Transform
import ScriptGraph.Proofs.Construction.Appending
import ScriptGraph.Proofs.Pattern.Values

/-!
The patterns of values only append value nodes: functions, conversions of space, rotations, and reads of
variables, properties, lists and the tick.
-/

namespace ScriptGraph

open Build

namespace Pattern

variable {start c : Context} {own : List NodeId}

theorem appends_getVariable (id : Nat) : Appends (getVariable id) := by
  intro start own c window
  refine (window.createNode .variableGet rfl).bind fun node _ window => ?_
  refine (window.configure List.mem_cons_self _ _).bind fun _ c window => .getBind ?_
  dsimp only
  split
  · exact (window.expect List.mem_cons_self _).bind fun _ _ window => .pure window.forget
  · exact .pure window.forget

theorem appends_unary {op : Op} (without : op.schema.flowsIn = []) (a : ValueOut) : Appends (unary op a) := by
  intro start own c window
  refine (window.createNode op without).bind fun node _ window => ?_
  exact (window.connect (t := node.valueIn "a") (by simp) a).bind fun _ _ window => .pure window.forget

theorem appends_binary {op : Op} (without : op.schema.flowsIn = []) (a b : ValueOut) :
    Appends (binary op a b) := by
  intro start own c window
  refine (window.createNode op without).bind fun node _ window => ?_
  refine (window.connect (t := node.valueIn "a") (by simp) a).bind fun _ _ window => ?_
  exact (window.connect (t := node.valueIn "b") (by simp) b).bind fun _ _ window => .pure window.forget

theorem appends_binaryLiteral {op : Op} (without : op.schema.flowsIn = []) (a : ValueOut) (b : Literal) :
    Appends (binaryLiteral op a b) := by
  intro start own c window
  refine (window.createNode op without).bind fun node _ window => ?_
  refine (window.connect (t := node.valueIn "a") (by simp) a).bind fun _ _ window => ?_
  exact (window.setLiteral (t := node.valueIn "b") (by simp) b).bind fun _ _ window => .pure window.forget

/-- Feeds a new node from several values. -/
theorem extends_connectAll {node : NodeId} (new : node ∈ own) (sockets : List String) (parts : List ValueOut)
    (window : start.Extends own c) :
    Ensures (connectAll node sockets parts) c fun _ c' => start.Extends own c' := by
  induction sockets generalizing parts c with
  | nil => exact .pure window
  | cons socket sockets ih =>
    cases parts with
    | nil => exact .pure window
    | cons part parts =>
      refine (window.connect (t := node.valueIn socket) (by simp [new]) part).bind fun _ _ window => ?_
      exact ih parts window

/-- A new node fed from several values. -/
theorem appends_combination {α : Type} {op : Op} (without : op.schema.flowsIn = []) (sockets : List String)
    (parts : List ValueOut) (result : NodeId → α) :
    Appends (do let node ← createNode op; connectAll node sockets parts; return result node) := by
  intro start own c window
  refine (window.createNode op without).bind fun node _ window => ?_
  exact (extends_connectAll List.mem_cons_self sockets parts window).bind fun _ _ window => .pure window.forget

theorem appends_combine? (parts : List ValueOut) : Appends (combine? parts) := by
  unfold combine?
  split
  · exact appends_combination rfl _ parts _
  · exact appends_combination rfl _ parts _
  · exact appends_combination rfl _ parts _
  · exact .pure none

theorem appends_extract? (vector : ValueOut) (count : Nat) : Appends (extract? vector count) := by
  unfold extract?
  split
  · exact appends_combination rfl ["a"] [vector] _
  · exact appends_combination rfl ["a"] [vector] _
  · exact appends_combination rfl ["a"] [vector] _
  · exact .pure none

theorem appends_extract3 (vector : ValueOut) : Appends (extract3 vector) :=
  appends_combination rfl ["a"] [vector] _

theorem appends_combine4 (a b c d : ValueOut) : Appends (combine4 a b c d) :=
  appends_combination rfl componentSockets [a, b, c, d] _

theorem appends_fromEulerRadians (euler : ValueOut) : Appends (fromEulerRadians euler) := by
  refine .bind (appends_binaryLiteral rfl euler _) fun halved => ?_
  refine .bind (appends_unary rfl halved) fun sin => .bind (appends_unary rfl halved) fun cos => ?_
  refine .bind (appends_extract3 sin) fun ⟨sx, sy, sz⟩ => .bind (appends_extract3 cos) fun ⟨cx, cy, cz⟩ => ?_
  refine .bind (appends_combine4 ..) fun a0 => .bind (appends_combine4 ..) fun a1 => ?_
  refine .bind (appends_combine4 ..) fun a2 => .bind (appends_combine4 ..) fun b0 => ?_
  refine .bind (appends_combine4 ..) fun b1 => .bind (appends_combine4 ..) fun b2 => ?_
  refine .bind (appends_binary rfl a0 a1) fun a01 => .bind (appends_binary rfl a01 a2) fun aTerm => ?_
  refine .bind (appends_binary rfl b0 b1) fun b01 => .bind (appends_binary rfl b01 b2) fun b012 => ?_
  exact .bind (appends_binaryLiteral rfl b012 _) fun bTerm => appends_binary rfl aTerm bTerm

theorem appends_fromEulerDegrees (euler : ValueOut) : Appends (fromEulerDegrees euler) :=
  .bind (appends_unary rfl euler) appends_fromEulerRadians

theorem appends_invert (rotation : ValueOut) : Appends (invert rotation) :=
  appends_binaryLiteral rfl rotation conjugateFlip

section Properties

/-- A pattern that only appends value nodes, its target among them. -/
def Reads {α : Type} (step : Build α) (target : α → ValueIn) : Prop :=
  ∀ ⦃start : Context⦄ ⦃own : List NodeId⦄ ⦃c : Context⦄, start.Extends own c →
    Ensures step c fun read c' => start.Extends ((target read).sockets.map (·.node) ++ own) c'

theorem Reads.bind {α β : Type} {step : Build α} {next : α → Build β} {target : α → ValueIn}
    {target' : β → ValueIn} (reads : Reads step target) (appends : ∀ a, Appends (next a))
    (same : ∀ a c, target' (next a c).1 = target a) : Reads (step >>= next) target' := by
  intro start own c window
  refine (reads window).bind fun a c window => ?_
  have grown := appends a window
  rw [Ensures] at grown ⊢
  rwa [same]

/-- Feeds the target of what was made. -/
theorem Reads.feed {α β : Type} {step : Build α} {target : α → ValueIn} (reads : Reads step target)
    (v : ValueOut) (result : α → β) : Appends (do let a ← step; connect (target a) v; return result a) := by
  intro start own c window
  refine (reads window).bind fun a _ window => ?_
  exact (window.connectTarget v).bind fun _ _ window => .pure window

theorem reads_flip (factor : Literal) : Reads (flip factor) Prod.fst := by
  intro start own c window
  refine (window.createNode .mathMul rfl).bind fun node _ window => ?_
  exact (window.setLiteral (t := node.valueIn "b") (by simp) factor).bind fun _ _ window => .pure window

theorem appends_convert (factor : Literal) (value : ValueOut) : Appends (convert factor value) := by
  refine .getBind fun _ => ?_
  split
  · exact (reads_flip factor).feed value _
  · exact .pure value

theorem extends_restrictTokens {node : NodeId} (new : node ∈ own) (names : List String)
    (window : start.Extends own c) :
    Ensures (restrictTokens node names) c fun _ c' => start.Extends own c' := by
  induction names generalizing c with
  | nil => exact .pure window
  | cons name names ih =>
    refine (window.restrict (t := node.valueIn name) (by simp [new]) _).bind fun _ _ window => ?_
    exact ih window

theorem reads_pointerGet (template : String) (type : ValueType) :
    Reads (pointerGet template type) PointerGet.target := by
  intro start own c window
  refine (window.createNode .pointerGet rfl).bind fun node c window => ?_
  have configured : Ensures (configurePointer node template type) c fun _ c' => start.Extends (node :: own) c' := by
    refine (window.configure List.mem_cons_self _ _).bind fun _ _ window => ?_
    refine (window.configure List.mem_cons_self _ _).bind fun _ _ window => ?_
    exact extends_restrictTokens List.mem_cons_self _ window
  refine configured.bind fun _ _ window => ?_
  exact (window.expect List.mem_cons_self _).bind fun _ _ window => .pure window

theorem reads_worldMatrix : Reads worldMatrix fun matrix => matrix.1.target := by
  refine (reads_pointerGet _ _).bind (fun matrix => ?_) fun _ _ => rfl
  intro start own c window
  refine (window.createNode .mathMatDecompose rfl).bind fun parts _ window => ?_
  exact (window.connect (t := parts.valueIn "a") (by simp) _).bind fun _ _ window => .pure window.forget

/-- A read that goes on with a conversion of what it has read. -/
theorem Reads.converted {α : Type} {step : Build α} {target : α → ValueIn} (reads : Reads step target)
    (factor : Literal) (value : α → ValueOut) :
    Reads (do let a ← step; return { target := target a, value := ← convert factor (value a) })
      PropertyGet.target :=
  reads.bind (fun a => .bind (appends_convert factor (value a)) fun _ => .pure _) fun _ _ => rfl

theorem reads_localPositionGet : Reads localPositionGet PropertyGet.target :=
  (reads_pointerGet _ _).converted positionFlip PointerGet.value

theorem reads_localRotationGet : Reads localRotationGet PropertyGet.target :=
  (reads_pointerGet _ _).converted rotationFlip PointerGet.value

theorem reads_localScaleGet : Reads localScaleGet PropertyGet.target :=
  (reads_pointerGet _ _).bind (fun _ => .pure _) fun _ _ => rfl

theorem reads_worldPositionGet : Reads worldPositionGet PropertyGet.target :=
  Reads.converted reads_worldMatrix positionFlip fun matrix => matrix.2.valueOut "translation"

theorem reads_worldRotationGet : Reads worldRotationGet PropertyGet.target :=
  Reads.converted reads_worldMatrix rotationFlip fun matrix => matrix.2.valueOut "rotation"

theorem reads_worldScaleGet : Reads worldScaleGet PropertyGet.target :=
  Reads.bind reads_worldMatrix (fun _ => .pure _) fun _ _ => rfl

end Properties

theorem appends_tick (tick : Option TickChain) : Appends (TickChain.getOrNew tick) := by
  cases tick with
  | some chain => exact .pure chain
  | none =>
    intro start own c window
    exact (window.createNode .eventOnTick rfl).bind fun _ _ window => .pure window.forget

section Lists

namespace BoundedList

theorem appends_readAll (slots : List Nat) : Appends (readAll slots) := by
  induction slots with
  | nil => exact .pure []
  | cons slot slots ih => exact .bind (appends_getVariable slot) fun read => .bind ih fun _ => .pure _

theorem appends_countValue (l : BoundedList) : Appends (countValue.run l) := by
  intro start own c window
  refine .listGet ?_
  split
  · exact .listPure window
  · refine .listLift (appends_getVariable _ window) fun read _ window => ?_
    exact .listSet (.listPure window)

theorem appends_getSlotReads (l : BoundedList) : Appends (getSlotReads.run l) := by
  intro start own c window
  refine .listGet ?_
  split
  · refine .listLift (appends_readAll _ window) fun reads _ window => ?_
    exact .listSet (.listPure window)
  · exact .listPure window

theorem extends_connectNumbered {node : NodeId} (new : node ∈ own) (reads : List ValueOut) (first : Nat)
    (window : start.Extends own c) :
    Ensures (connectNumbered node first reads) c fun _ c' => start.Extends own c' := by
  induction reads generalizing first c with
  | nil => exact .pure window
  | cons read reads ih =>
    refine (window.connect (t := node.valueIn (toString first)) (by simp [new]) read).bind fun _ _ window => ?_
    exact ih (first + 1) window

theorem appends_getItem (index : ValueOut) (l : BoundedList) : Appends ((getItem index).run l) := by
  intro start own c window
  refine .listBind (appends_getSlotReads l window) fun ⟨reads, l⟩ _ window => .listGet ?_
  refine .listLift (window.createNode .mathSwitch rfl) fun switch _ window => ?_
  refine .listLift (window.configure List.mem_cons_self _ _) fun _ _ window => ?_
  refine .listLift (window.connect (t := switch.valueIn "selection") (by simp) index) fun _ _ window => ?_
  refine .listLift (window.setLiteral (t := switch.valueIn "default") (by simp) _) fun _ _ window => ?_
  refine .listLift (extends_connectNumbered List.mem_cons_self reads 0 window) fun _ _ window => ?_
  exact .listPure window.forget

/-- The check of an index is made of new nodes, whose inputs for the index are still to be fed. -/
theorem reads_inRange (inclusive : Bool) (l : BoundedList) : Reads ((inRange inclusive).run l) fun r => r.1.1 := by
  intro start own c window
  refine .listBind (appends_countValue l window) fun ⟨count, l⟩ _ window => ?_
  refine .listLift (window.createNode .mathGe rfl) fun lower _ window => ?_
  refine .listLift (window.setLiteral (t := lower.valueIn "b") (by simp) _) fun _ _ window => ?_
  refine .listLift (window.createNode _ (by cases inclusive <;> rfl)) fun upper _ window => ?_
  refine .listLift (window.connect (t := upper.valueIn "b") (by simp) count) fun _ _ window => ?_
  refine .listLift (appends_binary rfl _ _ window) fun both _ window => .listPure (window.weaken ?_)
  simp +contextual [or_imp]

theorem appends_getItemChecked (index : ValueOut) (l : BoundedList) :
    Appends ((getItemChecked index).run l) := by
  intro start own c window
  refine .listBind (appends_getItem index l window) fun ⟨value, l⟩ _ window => ?_
  refine .listBind (reads_inRange false l window) fun ⟨⟨rangeIndex, within⟩, l⟩ _ window => ?_
  refine .listLift (window.connectTarget index) fun _ _ window => ?_
  refine .listLift (window.createNode .mathSelect rfl) fun choice _ window => ?_
  refine .listLift (window.connect (t := choice.valueIn "condition") (by simp) within) fun _ _ window => ?_
  refine .listLift (window.connect (t := choice.valueIn "a") (by simp) value) fun _ _ window => .listGet ?_
  refine .listLift (window.setLiteral (t := choice.valueIn "b") (by simp) _) fun _ _ window => ?_
  exact .listPure window.forget

end BoundedList

end Lists

end Pattern

end ScriptGraph
