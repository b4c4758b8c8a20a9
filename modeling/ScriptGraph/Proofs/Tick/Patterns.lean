import Mathlib
import ScriptGraph.Proofs.Tick.Quiet

/-!
The patterns are quiet, apart from those of the tick itself: each is put together from quiet steps.
-/

namespace ScriptGraph

open Pattern

namespace Build

variable {base : Nat}

section Values

@[simp] theorem quiet_unary {op : Op} (other : op ≠ .eventOnTick) (a : ValueOut) : Quiet base (unary op a) := by
  refine .node other fun _ _ _ => ?_
  with_reducible repeat' refine Quiet.bind ?_ fun _ => ?_
  all_goals simp

@[simp] theorem quiet_binary {op : Op} (other : op ≠ .eventOnTick) (a b : ValueOut) : Quiet base (binary op a b) := by
  refine .node other fun _ _ _ => ?_
  with_reducible repeat' refine Quiet.bind ?_ fun _ => ?_
  all_goals simp

@[simp] theorem quiet_binaryLiteral {op : Op} (other : op ≠ .eventOnTick) (a : ValueOut) (b : Literal) :
    Quiet base (binaryLiteral op a b) := by
  refine .node other fun _ _ _ => ?_
  with_reducible repeat' refine Quiet.bind ?_ fun _ => ?_
  all_goals simp

@[simp] theorem quiet_select (condition ifTrue ifFalse : ValueOut) : Quiet base (select condition ifTrue ifFalse) := by
  refine .node (by decide) fun _ _ _ => ?_
  with_reducible repeat' refine Quiet.bind ?_ fun _ => ?_
  all_goals simp

@[simp] theorem quiet_connectAll (node : NodeId) : ∀ (sockets : List String) (parts : List ValueOut),
    Quiet base (connectAll node sockets parts)
  | [], _ => .pure _
  | _ :: _, [] => .pure _
  | _ :: sockets, _ :: parts => .bind (quiet_connect _ _) fun _ => quiet_connectAll node sockets parts

/-- A node for vectors, if their number of components is known. -/
theorem quiet_node? {α : Type} {op? : Option Op} (other : ∀ op, op? = some op → op ≠ .eventOnTick)
    {next : NodeId → Build (Option α)} (second : ∀ node base, Quiet base (next node)) :
    Quiet base (match op? with
      | none => (return none : Build (Option α))
      | some op => do next (← createNode op)) := by
  cases op? with
  | none => exact .pure none
  | some op => exact .node (other op rfl) fun node base _ => second node base

@[simp] theorem quiet_combine? (parts : List ValueOut) : Quiet base (combine? parts) := by
  refine quiet_node? (fun op found => ?_) fun node base => .bind (quiet_connectAll _ _ _) fun _ => .pure _
  split at found <;> cases found <;> decide

@[simp] theorem quiet_extract? (vector : ValueOut) (count : Nat) : Quiet base (extract? vector count) := by
  refine quiet_node? (fun op found => ?_) fun node base => .bind (quiet_connect _ _) fun _ => .pure _
  split at found <;> cases found <;> decide

@[simp] theorem quiet_getVariable (id : Nat) : Quiet base (getVariable id) := by
  refine .node (by decide) fun node base own => .bind (quiet_configure own _ _) fun _ => .getBind fun c => ?_
  split
  · exact .bind (quiet_expect _ _) fun _ => .pure _
  · exact .pure _

@[simp] theorem quiet_setVariable (id : Nat) : Quiet base (setVariable id) :=
  .node (by decide) fun _ _ own => .bind (quiet_configure own _ _) fun _ => .pure _

@[simp] theorem quiet_setVariableFrom (id : Nat) (value : ValueOut) : Quiet base (setVariableFrom id value) :=
  .bind (quiet_setVariable id) fun _ => .bind (quiet_connect _ _) fun _ => .pure _

@[simp] theorem quiet_setVariableStatic (id : Nat) (value : Literal) : Quiet base (setVariableStatic id value) :=
  .bind (quiet_setVariable id) fun _ => .bind (quiet_setLiteral _ _) fun _ => .pure _

@[simp] theorem quiet_extract3 (vector : ValueOut) : Quiet base (extract3 vector) :=
  .node (by decide) fun _ _ _ => .bind (quiet_connect _ _) fun _ => .pure _

@[simp] theorem quiet_combine4 (a b c d : ValueOut) : Quiet base (combine4 a b c d) :=
  .node (by decide) fun _ _ _ => .bind (quiet_connectAll _ _ _) fun _ => .pure _

@[simp] theorem quiet_fromEulerRadians (euler : ValueOut) : Quiet base (fromEulerRadians euler) := by
  unfold fromEulerRadians
  with_reducible repeat' refine Quiet.bind ?_ fun _ => ?_
  all_goals simp

@[simp] theorem quiet_fromEulerDegrees (euler : ValueOut) : Quiet base (fromEulerDegrees euler) :=
  .bind (quiet_unary (by decide) _) fun _ => quiet_fromEulerRadians _

@[simp] theorem quiet_invert (rotation : ValueOut) : Quiet base (invert rotation) :=
  quiet_binaryLiteral (by decide) _ _

@[simp] theorem quiet_multiply (a b : ValueOut) : Quiet base (multiply a b) := quiet_binary (by decide) _ _

end Values

section Objects

@[simp] theorem quiet_flip (factor : Literal) : Quiet base (Pattern.flip factor) :=
  .node (by decide) fun _ _ _ => .bind (quiet_setLiteral _ _) fun _ => .pure _

@[simp] theorem quiet_convert (factor : Literal) (value : ValueOut) : Quiet base (convert factor value) := by
  refine .getBind fun c => ?_
  split
  · exact .bind (quiet_flip _) fun _ => .bind (quiet_connect _ _) fun _ => .pure _
  · exact .pure _

@[simp] theorem quiet_convertInto (factor : Literal) (sink : ValueIn) : Quiet base (convertInto factor sink) := by
  refine .getBind fun c => ?_
  split
  · exact .bind (quiet_flip _) fun _ => .bind (quiet_connect _ _) fun _ => .pure _
  · exact .pure _

@[simp] theorem quiet_restrictTokens (node : NodeId) : ∀ names : List String, Quiet base (restrictTokens node names)
  | [] => .pure _
  | _ :: names => .bind (quiet_restrict _ _) fun _ => quiet_restrictTokens node names

@[simp] theorem quiet_configurePointer {node : NodeId} (own : base ≤ node.toNat) (template : String)
    (type : ValueType) : Quiet base (configurePointer node template type) :=
  .bind (quiet_configure own _ _) fun _ => .bind (quiet_configure own _ _) fun _ => quiet_restrictTokens _ _

@[simp] theorem quiet_pointerGet (template : String) (type : ValueType) : Quiet base (pointerGet template type) :=
  .node (by decide) fun _ _ own =>
    .bind (quiet_configurePointer own _ _) fun _ => .bind (quiet_expect _ _) fun _ => .pure _

@[simp] theorem quiet_pointerSet (template : String) (type : ValueType) : Quiet base (pointerSet template type) :=
  .node (by decide) fun _ _ own =>
    .bind (quiet_configurePointer own _ _) fun _ => .bind (quiet_restrict _ _) fun _ => .pure _

@[simp] theorem quiet_localPositionGet : Quiet base localPositionGet :=
  .bind (quiet_pointerGet _ _) fun _ => .bind (quiet_convert _ _) fun _ => .pure _

@[simp] theorem quiet_localPositionSet : Quiet base localPositionSet :=
  .bind (quiet_pointerSet _ _) fun _ => .bind (quiet_convertInto _ _) fun _ => .pure _

@[simp] theorem quiet_localRotationGet : Quiet base localRotationGet :=
  .bind (quiet_pointerGet _ _) fun _ => .bind (quiet_convert _ _) fun _ => .pure _

@[simp] theorem quiet_localRotationSet : Quiet base localRotationSet :=
  .bind (quiet_pointerSet _ _) fun _ => .bind (quiet_convertInto _ _) fun _ => .pure _

@[simp] theorem quiet_localScaleGet : Quiet base localScaleGet := .bind (quiet_pointerGet _ _) fun _ => .pure _

@[simp] theorem quiet_localScaleSet : Quiet base localScaleSet := .bind (quiet_pointerSet _ _) fun _ => .pure _

@[simp] theorem quiet_worldMatrix : Quiet base worldMatrix :=
  .bind (quiet_pointerGet _ _) fun _ => .node (by decide) fun _ _ _ => .bind (quiet_connect _ _) fun _ => .pure _

@[simp] theorem quiet_worldPositionGet : Quiet base worldPositionGet :=
  .bind quiet_worldMatrix fun _ => .bind (quiet_convert _ _) fun _ => .pure _

@[simp] theorem quiet_worldRotationGet : Quiet base worldRotationGet :=
  .bind quiet_worldMatrix fun _ => .bind (quiet_convert _ _) fun _ => .pure _

@[simp] theorem quiet_worldScaleGet : Quiet base worldScaleGet := .bind quiet_worldMatrix fun _ => .pure _

@[simp] theorem quiet_worldPositionSet : Quiet base worldPositionSet := by
  unfold worldPositionSet connectThree positionInto
  with_reducible repeat' first
    | refine Quiet.node (by decide) fun _ _ _ => ?_
    | refine Quiet.bind ?_ fun _ => ?_
  all_goals simp

@[simp] theorem quiet_worldRotationSet : Quiet base worldRotationSet := by
  unfold worldRotationSet rotationInto
  with_reducible repeat' first
    | refine Quiet.node (by decide) fun _ _ _ => ?_
    | refine Quiet.bind ?_ fun _ => ?_
  all_goals simp

@[simp] theorem quiet_activeSet : Quiet base activeSet :=
  .bind (quiet_pointerSet _ _) fun _ => .bind (quiet_pointerSet _ _) fun _ =>
    .bind (quiet_connectFlow _ _) fun _ => .pure _

@[simp] theorem quiet_translate (offset : ValueOut) : Quiet base (Pattern.translate offset) := by
  unfold Pattern.translate
  with_reducible repeat' refine Quiet.bind ?_ fun _ => ?_
  all_goals simp

@[simp] theorem quiet_rotate (rotation : ValueOut) : Quiet base (rotate rotation) := by
  unfold rotate
  with_reducible repeat' refine Quiet.bind ?_ fun _ => ?_
  all_goals simp

@[simp] theorem quiet_lookAt (point : ValueOut) : Quiet base (lookAt point) := by
  unfold lookAt
  with_reducible repeat' first
    | refine Quiet.node (by decide) fun _ _ _ => ?_
    | refine Quiet.bind ?_ fun _ => ?_
  all_goals simp

end Objects

section Flows

@[simp] theorem quiet_forLoop (first : Int32) : Quiet base (forLoop first) :=
  .node (by decide) fun _ _ own => .bind (quiet_configure own _ _) fun _ => .pure _

@[simp] theorem quiet_steppedFor : Quiet base steppedFor := by
  refine .bind (quiet_uniqueName (by decide)) fun _ => .bind (quiet_declareVariable _ _ _) fun _ => ?_
  with_reducible repeat' first
    | refine Quiet.node (by decide) fun _ _ _ => ?_
    | refine Quiet.bind ?_ fun _ => ?_
  all_goals simp

@[simp] theorem quiet_steppedWhile : Quiet base steppedWhile :=
  .node (by decide) fun _ _ _ => .node (by decide) fun _ _ _ => .bind (quiet_connectFlow _ _) fun _ => .pure _

@[simp] theorem quiet_delaySeconds : Quiet base delaySeconds := .node (by decide) fun _ _ _ => .pure _

@[simp] theorem quiet_delayMilliseconds (integral : Bool) : Quiet base (delayMilliseconds integral) := by
  refine .bind quiet_delaySeconds fun delay => .node (by decide) fun scale _ _ => ?_
  refine .bind (quiet_setLiteral _ _) fun _ => .bind (quiet_connect _ _) fun _ => ?_
  cases integral with
  | true => exact .node (by decide) fun _ _ _ => .bind (quiet_connect _ _) fun _ => .pure _
  | false => exact .pure _

@[simp] theorem quiet_guard (condition : ValueOut) : Quiet base (Pattern.guard condition) :=
  .node (by decide) fun _ _ _ => .node (by decide) fun _ _ _ =>
    .bind (quiet_connect _ _) fun _ => .bind (quiet_connectFlow _ _) fun _ => .pure _

end Flows

end Build

namespace Pattern.BoundedList

open Build

variable {α β : Type} {base : Nat}

/-- The step on a list is quiet. -/
def ListQuiet (base : Nat) (step : ListBuild α) : Prop := ∀ l, Quiet base (step.run l)

namespace ListQuiet

theorem bind {step : ListBuild α} {next : α → ListBuild β} (first : ListQuiet base step)
    (second : ∀ a, ListQuiet base (next a)) : ListQuiet base (step >>= next) :=
  fun l => .bind (first l) fun r => second r.1 r.2

@[simp] theorem pure (a : α) : ListQuiet base (Pure.pure a) := fun _ => .pure _

@[simp] theorem get : ListQuiet base get := fun _ => .pure _

@[simp] theorem set (l : BoundedList) : ListQuiet base (set l) := fun _ => .pure _

@[simp] theorem lift {step : Build α} (quiet : Quiet base step) :
    ListQuiet base (@liftM (StateT Context Id) (StateT BoundedList Build) _ α step) :=
  fun l => .bind quiet fun a => .pure (a, l)

theorem node {op : Op} (other : op ≠ .eventOnTick) {next : NodeId → ListBuild β}
    (second : ∀ (node : NodeId) (base : Nat), base ≤ node.toNat → ListQuiet base (next node)) :
    ListQuiet base (@liftM (StateT Context Id) (StateT BoundedList Build) _ NodeId (createNode op) >>= next) :=
  fun l => Quiet.node other fun node base own => second node base own l

end ListQuiet

@[simp] theorem quiet_declareSlots (name : String) (type : ValueType) : ∀ numbers : List Nat,
    Quiet base (declareSlots name type numbers)
  | [] => .pure _
  | _ :: rest => .bind (quiet_declareVariable _ _ _) fun _ => .bind (quiet_declareSlots name type rest) fun _ => .pure _

@[simp] theorem quiet_new (type : ValueType) (capacity : Nat) : Quiet base (BoundedList.new type capacity) := by
  refine .bind (quiet_uniqueName (by decide)) fun _ => .bind (quiet_declareSlots _ _ _) fun _ => ?_
  with_reducible repeat' refine Quiet.bind ?_ fun _ => ?_
  all_goals simp

@[simp] theorem quiet_addInitial (l : BoundedList) (value : Literal) : Quiet base (l.addInitial value) := by
  refine .getBind fun c => ?_
  dsimp only
  split
  · exact .pure _
  · exact .bind (quiet_setInitial _ _) fun _ => .bind (quiet_setInitial _ _) fun _ => .pure _

@[simp] theorem quiet_countValue : ListQuiet base countValue := by
  unfold countValue
  with_reducible repeat' first | refine ListQuiet.bind ?_ fun _ => ?_ | split
  all_goals simp

@[simp] theorem quiet_readAll : ∀ slots : List Nat, Quiet base (readAll slots)
  | [] => .pure _
  | slot :: slots => .bind (quiet_getVariable slot) fun _ => .bind (quiet_readAll slots) fun _ => .pure _

@[simp] theorem quiet_getSlotReads : ListQuiet base getSlotReads := by
  unfold getSlotReads
  with_reducible repeat' first | refine ListQuiet.bind ?_ fun _ => ?_ | split
  all_goals simp

@[simp] theorem quiet_connectNumbered (node : NodeId) : ∀ (n : Nat) (reads : List ValueOut),
    Quiet base (connectNumbered node n reads)
  | _, [] => .pure _
  | n, _ :: reads => .bind (quiet_connect _ _) fun _ => quiet_connectNumbered node (n + 1) reads

@[simp] theorem quiet_getItem (index : ValueOut) : ListQuiet base (getItem index) := by
  refine .bind quiet_getSlotReads fun reads => .bind .get fun l => .node (by decide) fun switch base own => ?_
  refine .bind (.lift (quiet_configure own _ _)) fun _ => ?_
  with_reducible repeat' refine ListQuiet.bind ?_ fun _ => ?_
  all_goals simp

@[simp] theorem quiet_inRange (inclusive : Bool) : ListQuiet base (inRange inclusive) := by
  refine .bind quiet_countValue fun count => .node (by decide) fun lower _ _ => .bind (by simp) fun _ => ?_
  refine .node (by cases inclusive <;> decide) fun upper _ _ => ?_
  with_reducible repeat' refine ListQuiet.bind ?_ fun _ => ?_
  all_goals simp

@[simp] theorem quiet_getItemChecked (index : ValueOut) : ListQuiet base (getItemChecked index) := by
  unfold getItemChecked
  with_reducible repeat' first
    | refine ListQuiet.node (by decide) fun _ _ _ => ?_
    | refine ListQuiet.bind ?_ fun _ => ?_
  all_goals simp

@[simp] theorem quiet_connectWrites (switch : NodeId) (pending : ValueOut) : ∀ (n : Nat) (slots : List Nat),
    Quiet base (connectWrites switch pending n slots)
  | _, [] => .pure _
  | n, slot :: slots => .bind (quiet_setVariableFrom slot pending) fun _ =>
    .bind (quiet_connectFlow _ _) fun _ => quiet_connectWrites switch pending (n + 1) slots

@[simp] theorem quiet_getWriteSwitch : ListQuiet base getWriteSwitch := by
  refine .bind .get fun l => ?_
  split
  · exact .pure _
  · refine .node (by decide) fun switch base own => .bind (.lift (quiet_configure own _ _)) fun _ => ?_
    with_reducible repeat' refine ListQuiet.bind ?_ fun _ => ?_
    all_goals simp

@[simp] theorem quiet_setItem : ListQuiet base setItem := by
  unfold setItem
  with_reducible repeat' first
    | refine ListQuiet.node (by decide) fun _ _ _ => ?_
    | refine ListQuiet.bind ?_ fun _ => ?_
  all_goals simp

@[simp] theorem quiet_setItemChecked : ListQuiet base setItemChecked := by
  unfold setItemChecked
  with_reducible repeat' refine ListQuiet.bind ?_ fun _ => ?_
  all_goals simp

@[simp] theorem quiet_addItem : ListQuiet base addItem := by
  unfold addItem
  with_reducible repeat' refine ListQuiet.bind ?_ fun _ => ?_
  all_goals simp

@[simp] theorem quiet_insertItem : ListQuiet base insertItem := by
  unfold insertItem
  with_reducible repeat' first
    | refine ListQuiet.node (by decide) fun _ _ _ => ?_
    | refine ListQuiet.bind ?_ fun _ => ?_
  all_goals simp

@[simp] theorem quiet_removeItem : ListQuiet base removeItem := by
  unfold removeItem
  with_reducible repeat' refine ListQuiet.bind ?_ fun _ => ?_
  all_goals simp

@[simp] theorem quiet_clear : ListQuiet base clear := by
  unfold clear
  with_reducible repeat' refine ListQuiet.bind ?_ fun _ => ?_
  all_goals simp

end Pattern.BoundedList

end ScriptGraph
