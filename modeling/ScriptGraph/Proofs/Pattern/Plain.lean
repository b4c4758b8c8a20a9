import Mathlib
import ScriptGraph.Proofs.Construction.Flows

/-!
The limit of inlining is not read where patterns are built.

A step of construction is plain if it goes the same way under every limit, keeps the settings and the method
that diagnostics belong to, and takes back no diagnostic and no flow. Plain steps follow one another, so the patterns are
plain because the primitives are.
-/

namespace ScriptGraph

open Pattern

/-- The context with another limit of inlining. -/
def Context.withLimit (c : Context) (limit : Nat) : Context :=
  { c with options := { c.options with maxInlineDepth := limit } }

/-- What stays of a context while steps follow one another. -/
structure Context.Continues (c c' : Context) : Prop where
  options : c'.options = c.options
  method : c'.diagnostics.method = c.diagnostics.method
  notes : c.diagnostics.entries.toList <+: c'.diagnostics.entries.toList
  flows : c.graph.KeepsFlows c'.graph

namespace Context.Continues

variable {c c' c'' : Context}

theorem refl (c : Context) : c.Continues c := ⟨rfl, rfl, List.prefix_refl _, .refl _⟩

theorem trans (first : c.Continues c') (second : c'.Continues c'') : c.Continues c'' where
  options := second.options.trans first.options
  method := second.method.trans first.method
  notes := first.notes.trans second.notes
  flows := first.flows.trans second.flows

theorem of_flows (options : c'.options = c.options) (diagnostics : c'.diagnostics = c.diagnostics)
    (flows : c.graph.KeepsFlows c'.graph) : c.Continues c' where
  options := options
  method := by rw [diagnostics]
  notes := by rw [diagnostics]
  flows := flows

theorem of_eq (options : c'.options = c.options) (diagnostics : c'.diagnostics = c.diagnostics)
    (nodes : c'.graph.nodes = c.graph.nodes) : c.Continues c' :=
  of_flows options diagnostics (.of_nodes_eq nodes)

end Context.Continues

namespace Build

variable {α β : Type}

/-- The step goes the same way under every limit of inlining. -/
def Plain (step : Build α) : Prop :=
  ∀ c : Context, c.Continues (step c).2 ∧
    ∀ limit, step (c.withLimit limit) = ((step c).1, (step c).2.withLimit limit)

@[simp] theorem plain_bind {step : Build α} {next : α → Build β} (first : Plain step)
    (second : ∀ a, Plain (next a)) : Plain (step >>= next) := by
  intro c
  obtain ⟨kept, alike⟩ := first c
  obtain ⟨kept', alike'⟩ := second (step c).1 (step c).2
  refine ⟨kept.trans kept', fun limit => ?_⟩
  show next (step (c.withLimit limit)).1 (step (c.withLimit limit)).2 = _
  rw [alike]
  exact alike' limit

@[simp] theorem plain_pure (a : α) : Plain (pure a) := fun c => ⟨.refl c, fun _ => rfl⟩

@[simp] theorem plain_map {step : Build α} (f : α → β) (plain : Plain step) : Plain (f <$> step) :=
  plain_bind plain fun _ => plain_pure _

/-- What is read does not depend on the limit. -/
theorem plain_getBind {next : Context → Build β} (same : ∀ c limit, next (c.withLimit limit) = next c)
    (second : ∀ c, Plain (next c)) : Plain (get >>= next) := by
  intro c
  refine ⟨(second c c).1, fun limit => ?_⟩
  show next (c.withLimit limit) (c.withLimit limit) = _
  rw [same]
  exact (second c c).2 limit

section Primitives

@[simp] theorem plain_createNode (op : Op) : Plain (createNode op) :=
  fun _ => ⟨.of_flows rfl rfl (.push _ _), fun _ => rfl⟩

@[simp] theorem plain_createPlaceholder (value : Option Literal) : Plain (createPlaceholder value) :=
  fun _ => ⟨.of_eq rfl rfl rfl, fun _ => rfl⟩

@[simp] theorem plain_createLiteral (value : Literal) : Plain (createLiteral value) :=
  plain_createPlaceholder _

@[simp] theorem plain_createUnknownLiteral : Plain createUnknownLiteral := plain_createPlaceholder _

theorem plain_modifyGraph {f : Graph → Graph} (flows : ∀ g : Graph, g.KeepsFlows (f g)) : Plain (modifyGraph f) :=
  fun c => ⟨.of_flows rfl rfl (flows c.graph), fun _ => rfl⟩

@[simp] theorem plain_configure (id : NodeId) (name : String) (value : ConfigValue) :
    Plain (configure id name value) :=
  plain_modifyGraph fun g => .modifyOther g id (·.configure name value) (fun _ => rfl) fun _ => rfl

@[simp] theorem plain_connect (target : ValueIn) (source : ValueOut) : Plain (connect target source) :=
  plain_modifyGraph fun g => .changeInput g target _

@[simp] theorem plain_setLiteral (target : ValueIn) (value : Literal) : Plain (setLiteral target value) :=
  plain_modifyGraph fun g => .changeInput g target _

@[simp] theorem plain_restrict (target : ValueIn) (restriction : TypeRestriction) :
    Plain (restrict target restriction) :=
  plain_modifyGraph fun g => .changeInput g target _

@[simp] theorem plain_expect (output : ValueOut) (type : ExpectedType) : Plain (expect output type) :=
  plain_modifyGraph fun g => .expect g output type

@[simp] theorem plain_connectFlow (start : FlowOut) (target : FlowIn) : Plain (connectFlow start target) :=
  plain_modifyGraph fun g => .connectFlow g start target

@[simp] theorem plain_setInitial (id : Nat) (initial : Option Literal) : Plain (setInitial id initial) :=
  plain_modifyGraph fun _ => .of_nodes_eq rfl

@[simp] theorem plain_declareVariable (name : String) (initial : Option Literal) (type : ValueType) :
    Plain (declareVariable name initial type) := by
  intro c
  have known (limit : Nat) : (c.withLimit limit).variableId? name = c.variableId? name := rfl
  cases found : c.variableId? name <;>
    simp only [declareVariable, modifyGet, MonadStateOf.modifyGet, StateT.modifyGet, known, found]
  · exact ⟨.of_eq rfl rfl rfl, fun _ => rfl⟩
  · exact ⟨.refl c, fun _ => rfl⟩

@[simp] theorem plain_declareEvent (name : String) (values : List EventValue) :
    Plain (declareEvent name values) := by
  intro c
  have known (limit : Nat) : (c.withLimit limit).eventId? name = c.eventId? name := rfl
  cases found : c.eventId? name <;>
    simp only [declareEvent, modifyGet, MonadStateOf.modifyGet, StateT.modifyGet, known, found]
  · exact ⟨.of_eq rfl rfl rfl, fun _ => rfl⟩
  · exact ⟨.refl c, fun _ => rfl⟩

@[simp] theorem plain_uniqueName (stem : String) : Plain (uniqueName stem) :=
  fun _ => ⟨.of_eq rfl rfl rfl, fun _ => rfl⟩

@[simp] theorem plain_targetOf? (object : ObjectRef) : Plain (targetOf? object) :=
  plain_getBind (fun _ _ => rfl) fun _ => plain_pure _

@[simp] theorem plain_report (kind : DiagnosticKind) (message : String) : Plain (report kind message) := by
  refine fun c => ⟨⟨rfl, rfl, ?_, .refl _⟩, fun _ => rfl⟩
  show _ <+: (c.diagnostics.entries.push _).toList
  rw [Array.toList_push]
  exact List.prefix_append _ _

@[simp] theorem plain_unsupported (message : String) : Plain (unsupported message) := plain_report _ _

@[simp] theorem plain_unresolved (message : String) : Plain (unresolved message) := plain_report _ _

@[simp] theorem plain_malformed (message : String) : Plain (malformed message) := plain_report _ _

end Primitives

section Patterns

@[simp] theorem plain_unary (op : Op) (a : ValueOut) : Plain (unary op a) := by
  unfold unary
  with_reducible repeat' refine plain_bind ?_ fun _ => ?_
  all_goals simp

@[simp] theorem plain_binary (op : Op) (a b : ValueOut) : Plain (binary op a b) := by
  unfold binary
  with_reducible repeat' first | refine plain_bind ?_ fun _ => ?_ | split
  all_goals simp

@[simp] theorem plain_binaryLiteral (op : Op) (a : ValueOut) (b : Literal) : Plain (binaryLiteral op a b) := by
  unfold binaryLiteral
  with_reducible repeat' first | refine plain_bind ?_ fun _ => ?_ | split
  all_goals simp

@[simp] theorem plain_select (condition ifTrue ifFalse : ValueOut) : Plain (select condition ifTrue ifFalse) := by
  unfold select
  with_reducible repeat' first | refine plain_bind ?_ fun _ => ?_ | split
  all_goals simp

@[simp] theorem plain_connectAll (node : NodeId) : ∀ (sockets : List String) (parts : List ValueOut),
    Plain (connectAll node sockets parts)
  | [], _ => plain_pure _
  | _ :: _, [] => plain_pure _
  | _ :: sockets, _ :: parts => plain_bind (plain_connect _ _) fun _ => plain_connectAll node sockets parts

@[simp] theorem plain_combine? (parts : List ValueOut) : Plain (combine? parts) := by
  unfold combine?
  with_reducible repeat' first | refine plain_bind ?_ fun _ => ?_ | split
  all_goals simp

@[simp] theorem plain_extract? (vector : ValueOut) (count : Nat) : Plain (extract? vector count) := by
  unfold extract?
  with_reducible repeat' first | refine plain_bind ?_ fun _ => ?_ | split
  all_goals simp

@[simp] theorem plain_getVariable (id : Nat) : Plain (getVariable id) := by
  refine plain_bind (plain_createNode _) fun node => plain_bind (plain_configure _ _ _) fun _ => ?_
  refine plain_getBind (fun _ _ => rfl) fun c => ?_
  split
  · exact plain_bind (plain_expect _ _) fun _ => plain_pure _
  · exact plain_pure _

@[simp] theorem plain_setVariable (id : Nat) : Plain (setVariable id) := by
  unfold setVariable
  with_reducible repeat' first | refine plain_bind ?_ fun _ => ?_ | split
  all_goals simp

@[simp] theorem plain_setVariableFrom (id : Nat) (value : ValueOut) : Plain (setVariableFrom id value) := by
  unfold setVariableFrom
  with_reducible repeat' first | refine plain_bind ?_ fun _ => ?_ | split
  all_goals simp

@[simp] theorem plain_setVariableStatic (id : Nat) (value : Literal) : Plain (setVariableStatic id value) := by
  unfold setVariableStatic
  with_reducible repeat' first | refine plain_bind ?_ fun _ => ?_ | split
  all_goals simp

@[simp] theorem plain_forLoop (first : Int32) : Plain (forLoop first) := by
  unfold forLoop
  with_reducible repeat' first | refine plain_bind ?_ fun _ => ?_ | split
  all_goals simp

@[simp] theorem plain_steppedFor : Plain steppedFor := by
  unfold steppedFor
  with_reducible repeat' first | refine plain_bind ?_ fun _ => ?_ | split
  all_goals simp

@[simp] theorem plain_steppedWhile : Plain steppedWhile := by
  unfold steppedWhile
  with_reducible repeat' first | refine plain_bind ?_ fun _ => ?_ | split
  all_goals simp

@[simp] theorem plain_getOrNew (tick : Option TickChain) : Plain (TickChain.getOrNew tick) := by
  cases tick with
  | none => exact plain_bind (plain_createNode _) fun _ => plain_pure _
  | some chain => exact plain_pure chain

@[simp] theorem plain_nextFlow (tick : TickChain) : Plain tick.nextFlow := by
  unfold TickChain.nextFlow TickChain.getSequence
  with_reducible repeat' first | refine plain_bind ?_ fun _ => ?_ | split
  all_goals simp

@[simp] theorem plain_waitUntil (tick : Option TickChain) : Plain (waitUntil tick) := by
  unfold waitUntil
  with_reducible repeat' first | refine plain_bind ?_ fun _ => ?_ | split
  all_goals simp

@[simp] theorem plain_waitWhile (tick : Option TickChain) : Plain (waitWhile tick) := by
  unfold waitWhile
  with_reducible repeat' first | refine plain_bind ?_ fun _ => ?_ | split
  all_goals simp

@[simp] theorem plain_delaySeconds : Plain delaySeconds := by
  unfold delaySeconds
  with_reducible repeat' first | refine plain_bind ?_ fun _ => ?_ | split
  all_goals simp

@[simp] theorem plain_delayMilliseconds (integral : Bool) : Plain (delayMilliseconds integral) := by
  unfold delayMilliseconds
  with_reducible repeat' first | refine plain_bind ?_ fun _ => ?_ | split
  all_goals simp

@[simp] theorem plain_flip (factor : Literal) : Plain (Pattern.flip factor) := by
  unfold Pattern.flip
  with_reducible repeat' first | refine plain_bind ?_ fun _ => ?_ | split
  all_goals simp

@[simp] theorem plain_convert (factor : Literal) (value : ValueOut) : Plain (convert factor value) := by
  refine plain_getBind (fun _ _ => rfl) fun c => ?_
  with_reducible repeat' first | refine plain_bind ?_ fun _ => ?_ | split
  all_goals simp

@[simp] theorem plain_convertInto (factor : Literal) (sink : ValueIn) : Plain (convertInto factor sink) := by
  refine plain_getBind (fun _ _ => rfl) fun c => ?_
  with_reducible repeat' first | refine plain_bind ?_ fun _ => ?_ | split
  all_goals simp

@[simp] theorem plain_convertPosition (value : ValueOut) : Plain (convertPosition value) := plain_convert _ _

@[simp] theorem plain_convertRotation (value : ValueOut) : Plain (convertRotation value) := plain_convert _ _

@[simp] theorem plain_positionInto (sink : ValueIn) : Plain (positionInto sink) := plain_convertInto _ _

@[simp] theorem plain_rotationInto (sink : ValueIn) : Plain (rotationInto sink) := plain_convertInto _ _

@[simp] theorem plain_extract3 (vector : ValueOut) : Plain (extract3 vector) := by
  unfold extract3
  with_reducible repeat' first | refine plain_bind ?_ fun _ => ?_ | split
  all_goals simp

@[simp] theorem plain_combine4 (a b c d : ValueOut) : Plain (combine4 a b c d) := by
  unfold combine4
  with_reducible repeat' first | refine plain_bind ?_ fun _ => ?_ | split
  all_goals simp

@[simp] theorem plain_fromEulerRadians (euler : ValueOut) : Plain (fromEulerRadians euler) := by
  unfold fromEulerRadians
  with_reducible repeat' first | refine plain_bind ?_ fun _ => ?_ | split
  all_goals simp

@[simp] theorem plain_fromEulerDegrees (euler : ValueOut) : Plain (fromEulerDegrees euler) := by
  unfold fromEulerDegrees
  with_reducible repeat' first | refine plain_bind ?_ fun _ => ?_ | split
  all_goals simp

@[simp] theorem plain_invert (rotation : ValueOut) : Plain (invert rotation) := plain_binaryLiteral _ _ _

@[simp] theorem plain_multiply (a b : ValueOut) : Plain (multiply a b) := plain_binary _ _ _

@[simp] theorem plain_restrictTokens (node : NodeId) : ∀ names : List String, Plain (restrictTokens node names)
  | [] => plain_pure _
  | _ :: names => plain_bind (plain_restrict _ _) fun _ => plain_restrictTokens node names

@[simp] theorem plain_configurePointer (node : NodeId) (template : String) (type : ValueType) : Plain (configurePointer node template type) := by
  unfold configurePointer
  with_reducible repeat' first | refine plain_bind ?_ fun _ => ?_ | split
  all_goals simp

@[simp] theorem plain_pointerGet (template : String) (type : ValueType) : Plain (pointerGet template type) := by
  unfold pointerGet
  with_reducible repeat' first | refine plain_bind ?_ fun _ => ?_ | split
  all_goals simp

@[simp] theorem plain_pointerSet (template : String) (type : ValueType) : Plain (pointerSet template type) := by
  unfold pointerSet
  with_reducible repeat' first | refine plain_bind ?_ fun _ => ?_ | split
  all_goals simp

@[simp] theorem plain_localPositionGet : Plain localPositionGet := by
  unfold localPositionGet
  with_reducible repeat' first | refine plain_bind ?_ fun _ => ?_ | split
  all_goals simp

@[simp] theorem plain_localPositionSet : Plain localPositionSet := by
  unfold localPositionSet
  with_reducible repeat' first | refine plain_bind ?_ fun _ => ?_ | split
  all_goals simp

@[simp] theorem plain_localRotationGet : Plain localRotationGet := by
  unfold localRotationGet
  with_reducible repeat' first | refine plain_bind ?_ fun _ => ?_ | split
  all_goals simp

@[simp] theorem plain_localRotationSet : Plain localRotationSet := by
  unfold localRotationSet
  with_reducible repeat' first | refine plain_bind ?_ fun _ => ?_ | split
  all_goals simp

@[simp] theorem plain_localScaleGet : Plain localScaleGet := by
  unfold localScaleGet
  with_reducible repeat' first | refine plain_bind ?_ fun _ => ?_ | split
  all_goals simp

@[simp] theorem plain_localScaleSet : Plain localScaleSet := by
  unfold localScaleSet
  with_reducible repeat' first | refine plain_bind ?_ fun _ => ?_ | split
  all_goals simp

@[simp] theorem plain_worldMatrix : Plain worldMatrix := by
  unfold worldMatrix
  with_reducible repeat' first | refine plain_bind ?_ fun _ => ?_ | split
  all_goals simp

@[simp] theorem plain_worldPositionGet : Plain worldPositionGet := by
  unfold worldPositionGet
  with_reducible repeat' first | refine plain_bind ?_ fun _ => ?_ | split
  all_goals simp

@[simp] theorem plain_worldRotationGet : Plain worldRotationGet := by
  unfold worldRotationGet
  with_reducible repeat' first | refine plain_bind ?_ fun _ => ?_ | split
  all_goals simp

@[simp] theorem plain_worldScaleGet : Plain worldScaleGet := by
  unfold worldScaleGet
  with_reducible repeat' first | refine plain_bind ?_ fun _ => ?_ | split
  all_goals simp

@[simp] theorem plain_connectThree (combined split : NodeId) : Plain (connectThree combined split) :=
  plain_connectAll _ _ _

@[simp] theorem plain_worldPositionSet : Plain worldPositionSet := by
  unfold worldPositionSet
  with_reducible repeat' first | refine plain_bind ?_ fun _ => ?_ | split
  all_goals simp

@[simp] theorem plain_worldRotationSet : Plain worldRotationSet := by
  unfold worldRotationSet
  with_reducible repeat' first | refine plain_bind ?_ fun _ => ?_ | split
  all_goals simp

@[simp] theorem plain_activeSet : Plain activeSet := by
  unfold activeSet
  with_reducible repeat' first | refine plain_bind ?_ fun _ => ?_ | split
  all_goals simp

@[simp] theorem plain_translate (offset : ValueOut) : Plain (Pattern.translate offset) := by
  unfold Pattern.translate
  with_reducible repeat' first | refine plain_bind ?_ fun _ => ?_ | split
  all_goals simp

@[simp] theorem plain_rotate (rotation : ValueOut) : Plain (rotate rotation) := by
  unfold rotate
  with_reducible repeat' first | refine plain_bind ?_ fun _ => ?_ | split
  all_goals simp

@[simp] theorem plain_lookAt (point : ValueOut) : Plain (lookAt point) := by
  unfold lookAt
  with_reducible repeat' first | refine plain_bind ?_ fun _ => ?_ | split
  all_goals simp

@[simp] theorem plain_guard (condition : ValueOut) : Plain (Pattern.guard condition) := by
  unfold Pattern.guard
  with_reducible repeat' refine plain_bind ?_ fun _ => ?_
  all_goals simp

end Patterns

end Build

namespace Pattern.BoundedList

open Build

variable {α β : Type}

/-- The step on a list goes the same way under every limit of inlining. -/
def ListPlain (step : ListBuild α) : Prop := ∀ l, Plain (step.run l)

theorem listPlain_bind {step : ListBuild α} {next : α → ListBuild β} (first : ListPlain step)
    (second : ∀ a, ListPlain (next a)) : ListPlain (step >>= next) :=
  fun l => plain_bind (first l) fun r => second r.1 r.2

@[simp] theorem listPlain_pure (a : α) : ListPlain (pure a) := fun _ => plain_pure _

@[simp] theorem listPlain_get : ListPlain get := fun _ => plain_pure _

@[simp] theorem listPlain_set (l : BoundedList) : ListPlain (set l) := fun _ => plain_pure _

@[simp] theorem listPlain_lift {step : Build α} (plain : Plain step) :
    ListPlain (@liftM (StateT Context Id) (StateT BoundedList Build) _ α step) :=
  fun l => plain_bind plain fun a => plain_pure (a, l)

@[simp] theorem plain_declareSlots (name : String) (type : ValueType) : ∀ numbers : List Nat,
    Plain (declareSlots name type numbers)
  | [] => plain_pure _
  | _ :: rest => plain_bind (plain_declareVariable _ _ _) fun _ => by simp [plain_declareSlots name type rest]

@[simp] theorem plain_new (type : ValueType) (capacity : Nat) : Plain (BoundedList.new type capacity) := by
  unfold BoundedList.new
  refine plain_bind (plain_uniqueName _) fun _ => plain_bind (plain_declareSlots _ _ _) fun _ => ?_
  with_reducible repeat' refine plain_bind ?_ fun _ => ?_
  all_goals simp

@[simp] theorem plain_addInitial (l : BoundedList) (value : Literal) : Plain (l.addInitial value) := by
  refine plain_getBind (fun _ _ => rfl) fun c => ?_
  dsimp only
  split <;> simp

@[simp] theorem plain_countValue : ListPlain countValue := by
  unfold countValue
  with_reducible repeat' first | refine listPlain_bind ?_ fun _ => ?_ | split
  all_goals simp

@[simp] theorem plain_readAll : ∀ slots : List Nat, Plain (readAll slots)
  | [] => plain_pure _
  | slot :: slots => plain_bind (plain_getVariable slot) fun _ => plain_bind (plain_readAll slots) fun _ => plain_pure _

@[simp] theorem plain_getSlotReads : ListPlain getSlotReads := by
  unfold getSlotReads
  with_reducible repeat' first | refine listPlain_bind ?_ fun _ => ?_ | split
  all_goals simp

@[simp] theorem plain_connectNumbered (node : NodeId) : ∀ (n : Nat) (reads : List ValueOut),
    Plain (connectNumbered node n reads)
  | _, [] => plain_pure _
  | n, _ :: reads => plain_bind (plain_connect _ _) fun _ => plain_connectNumbered node (n + 1) reads

@[simp] theorem plain_getItem (index : ValueOut) : ListPlain (getItem index) := by
  unfold getItem
  with_reducible repeat' first | refine listPlain_bind ?_ fun _ => ?_ | split
  all_goals simp

@[simp] theorem plain_inRange (inclusive : Bool) : ListPlain (inRange inclusive) := by
  unfold inRange
  with_reducible repeat' first | refine listPlain_bind ?_ fun _ => ?_ | split
  all_goals simp

@[simp] theorem plain_getItemChecked (index : ValueOut) : ListPlain (getItemChecked index) := by
  unfold getItemChecked
  with_reducible repeat' first | refine listPlain_bind ?_ fun _ => ?_ | split
  all_goals simp

@[simp] theorem plain_connectWrites (switch : NodeId) (pending : ValueOut) : ∀ (n : Nat) (slots : List Nat),
    Plain (connectWrites switch pending n slots)
  | _, [] => plain_pure _
  | n, slot :: slots => plain_bind (plain_setVariableFrom slot pending) fun _ =>
    plain_bind (plain_connectFlow _ _) fun _ => plain_connectWrites switch pending (n + 1) slots

@[simp] theorem plain_getWriteSwitch : ListPlain getWriteSwitch := by
  unfold getWriteSwitch
  with_reducible repeat' first | refine listPlain_bind ?_ fun _ => ?_ | split
  all_goals simp

@[simp] theorem plain_setItem : ListPlain setItem := by
  unfold setItem
  with_reducible repeat' first | refine listPlain_bind ?_ fun _ => ?_ | split
  all_goals simp

@[simp] theorem plain_setItemChecked : ListPlain setItemChecked := by
  unfold setItemChecked
  with_reducible repeat' first | refine listPlain_bind ?_ fun _ => ?_ | split
  all_goals simp

@[simp] theorem plain_addItem : ListPlain addItem := by
  unfold addItem
  with_reducible repeat' first | refine listPlain_bind ?_ fun _ => ?_ | split
  all_goals simp

@[simp] theorem plain_insertItem : ListPlain insertItem := by
  unfold insertItem
  with_reducible repeat' first | refine listPlain_bind ?_ fun _ => ?_ | split
  all_goals simp

@[simp] theorem plain_removeItem : ListPlain removeItem := by
  unfold removeItem
  with_reducible repeat' first | refine listPlain_bind ?_ fun _ => ?_ | split
  all_goals simp

@[simp] theorem plain_clear : ListPlain clear := by
  unfold clear
  with_reducible repeat' first | refine listPlain_bind ?_ fun _ => ?_ | split
  all_goals simp

end Pattern.BoundedList

end ScriptGraph
