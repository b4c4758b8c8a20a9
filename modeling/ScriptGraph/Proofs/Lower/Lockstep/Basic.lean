import Mathlib
import ScriptGraph.Lower.Class
import ScriptGraph.Proofs.Pattern.Plain

/-!
Two runs of lowering that keep pace.

One run stands under one limit of inlining, the other under another one, and they may inline with different
inliners. As long as the inliners agree where they are asked, and no refused call tells the limits apart, the
runs take the same steps: their states differ in the limit and in nothing else. On the way, what a step leaves
as it was is told too: the frames with their methods, the fields, the settings, and the method that diagnostics
belong to; no list is lost, and names are bound to values only where they were before.
-/

namespace ScriptGraph

open Pattern Build

namespace Lowering

/-- The state with another limit of inlining. -/
def withLimit (s : Lowering) (limit : Nat) : Lowering := { s with context := s.context.withLimit limit }

/-- How deep calls may be inlined. -/
def limit (s : Lowering) : Nat := s.context.options.maxInlineDepth

/-- The methods being lowered, the innermost first. -/
def stack (s : Lowering) : List String := s.frames.map (·.method)

def notes (s : Lowering) : List Diagnostic := s.context.diagnostics.entries.toList

theorem withLimit_of_limit_eq {s : Lowering} {limit : Nat} (under : s.limit = limit) : s.withLimit limit = s := by
  rw [← under]
  rfl

end Lowering

/-- The frame is of the same method, and binds no further names to values. -/
structure Frame.Narrows (f f' : Frame) : Prop where
  method : f'.method = f.method
  bindings : ∀ name, f.bindings.find? name = none → f'.bindings.find? name = none

namespace Frame.Narrows

theorem refl (f : Frame) : f.Narrows f := ⟨rfl, fun _ unbound => unbound⟩

theorem trans {f f' f'' : Frame} (first : f.Narrows f') (second : f'.Narrows f'') : f.Narrows f'' :=
  ⟨second.method.trans first.method, fun name unbound => second.bindings name (first.bindings name unbound)⟩

theorem forall₂_refl (frames : List Frame) : List.Forall₂ Narrows frames frames :=
  List.forall₂_same.2 fun f _ => refl f

theorem forall₂_trans {frames frames' frames'' : List Frame} (first : List.Forall₂ Narrows frames frames')
    (second : List.Forall₂ Narrows frames' frames'') : List.Forall₂ Narrows frames frames'' := by
  induction first generalizing frames'' with
  | nil => exact second
  | cons head _ ih =>
    cases second with
    | cons head' tail' => exact .cons (head.trans head') (ih tail')

theorem map_method {frames frames' : List Frame} (narrows : List.Forall₂ Narrows frames frames') :
    frames'.map (·.method) = frames.map (·.method) := by
  induction narrows with
  | nil => rfl
  | cons head _ ih => rw [List.map_cons, List.map_cons, head.method, ih]

end Frame.Narrows

/-- What stays of a state while steps of lowering follow one another. -/
structure Lowering.Continues (s s' : Lowering) : Prop where
  context : s.context.Continues s'.context
  fields : s'.fields = s.fields
  /-- No list is lost. -/
  lists : ∀ name, s.lists.contains name = true → s'.lists.contains name = true
  frames : List.Forall₂ Frame.Narrows s.frames s'.frames

namespace Lowering.Continues

variable {s s' s'' : Lowering}

theorem refl (s : Lowering) : s.Continues s := ⟨.refl _, rfl, fun _ => id, Frame.Narrows.forall₂_refl _⟩

theorem trans (first : s.Continues s') (second : s'.Continues s'') : s.Continues s'' :=
  ⟨first.context.trans second.context, second.fields.trans first.fields,
    fun name kept => second.lists name (first.lists name kept), Frame.Narrows.forall₂_trans first.frames second.frames⟩

theorem setTick (s : Lowering) (tick : Option TickChain) : s.Continues { s with tick } :=
  ⟨.refl _, rfl, fun _ => id, Frame.Narrows.forall₂_refl _⟩

theorem insertList (s : Lowering) (name : String) (list : BoundedList) :
    s.Continues { s with lists := s.lists.insert name list } := by
  refine ⟨.refl _, rfl, fun other kept => ?_, Frame.Narrows.forall₂_refl _⟩
  rw [Dict.contains, Dict.find?_insert]
  split
  · rfl
  · exact kept

theorem limit_eq (continues : s.Continues s') : s'.limit = s.limit := by
  rw [Lowering.limit, continues.context.options, Lowering.limit]

theorem stack_eq (continues : s.Continues s') : s'.stack = s.stack := Frame.Narrows.map_method continues.frames

end Lowering.Continues

/-- How a call is noted that is not inlined. -/
def refusal (callee : String) (limit : Nat) : String :=
  "call to '" ++ callee ++ "' not inlined: recursion or depth limit " ++ toString limit ++ " reached"

/-- Two limits of inlining, and the diagnostics under which they make no difference. -/
structure Limits where
  own : Nat
  other : Nat
  fine : List Diagnostic → Prop
  own_le : own ≤ other
  fine_of_prefix : ∀ {notes notes' : List Diagnostic}, notes <+: notes' → fine notes' → fine notes
  /-- A refused call tells different limits apart. -/
  refused : other = own ∨ ∀ notes method callee, ¬ fine (notes ++ [⟨.unsupported, method, refusal callee own⟩])

/-- One limit for both runs. -/
def Limits.same (limit : Nat) : Limits where
  own := limit
  other := limit
  fine _ := True
  own_le := le_rfl
  fine_of_prefix _ _ := trivial
  refused := .inl rfl

namespace Lower

variable {α β : Type} {v : Limits} {stack : List String}

/-- The first step under the one limit and the second step under the other one go the same way. -/
def Alike (v : Limits) (stack : List String) (x y : Lower α) : Prop :=
  ∀ s : Lowering, s.limit = v.own → s.stack = stack → s.Continues (x s).2 ∧
    (v.fine (x s).2.notes → y (s.withLimit v.other) = ((x s).1, (x s).2.withLimit v.other))

namespace Alike

theorem bind {x y : Lower α} {f g : α → Lower β} (first : Alike v stack x y)
    (second : ∀ a, Alike v stack (f a) (g a)) : Alike v stack (x >>= f) (y >>= g) := by
  intro s under here
  obtain ⟨continues, same⟩ := first s under here
  obtain ⟨continues', same'⟩ := second (x s).1 (x s).2 (continues.limit_eq.trans under)
    (continues.stack_eq.trans here)
  refine ⟨continues.trans continues', fun fine => ?_⟩
  have fine : v.fine (f (x s).1 (x s).2).2.notes := fine
  show g (y (s.withLimit v.other)).1 (y (s.withLimit v.other)).2 = _
  rw [same (v.fine_of_prefix continues'.context.notes fine)]
  exact same' fine

theorem pure (a : α) : Alike v stack (Pure.pure a) (Pure.pure a) :=
  fun s _ _ => ⟨.refl s, fun _ => rfl⟩

/-- What is read may depend on the limit. -/
theorem getBindUnder {f g : Lowering → Lower β}
    (second : ∀ s, s.limit = v.own → Alike v stack (f s) (g (s.withLimit v.other))) :
    Alike v stack (get >>= f) (get >>= g) :=
  fun s under here => second s under s under here

/-- What is read does not depend on the limit. -/
theorem getBind {f g : Lowering → Lower β} (same : ∀ s limit, g (s.withLimit limit) = g s)
    (second : ∀ s, Alike v stack (f s) (g s)) : Alike v stack (get >>= f) (get >>= g) :=
  getBindUnder fun s _ => (same s v.other).symm ▸ second s

theorem modify {change : Lowering → Lowering}
    (same : ∀ s limit, change (s.withLimit limit) = (change s).withLimit limit)
    (continues : ∀ s : Lowering, s.Continues (change s)) : Alike v stack (modify change) (modify change) := by
  refine fun s _ _ => ⟨continues s, fun _ => ?_⟩
  show (PUnit.unit, change (s.withLimit v.other)) = _
  rw [same]
  rfl

theorem modifyFrame {f : Frame → Frame} (narrows : ∀ frame : Frame, frame.Narrows (f frame)) :
    Alike v stack (modifyFrame f) (modifyFrame f) := by
  refine .modify (fun _ _ => rfl) fun s => ⟨.refl _, rfl, fun _ => id, ?_⟩
  cases s.frames with
  | nil => exact .nil
  | cons frame frames => exact .cons (narrows frame) (Frame.Narrows.forall₂_refl _)

/-- A step of construction as a step of lowering. -/
theorem lift {step : Build α} (plain : Plain step) :
    Alike v stack (@liftM (StateT Context Id) (StateT Lowering Id) _ α step)
      (@liftM (StateT Context Id) (StateT Lowering Id) _ α step) := by
  intro s _ _
  obtain ⟨continues, same⟩ := plain s.context
  refine ⟨⟨continues, rfl, fun _ => id, Frame.Narrows.forall₂_refl _⟩, fun _ => ?_⟩
  show ((step (s.context.withLimit v.other)).1, { s with context := (step (s.context.withLimit v.other)).2 }) = _
  rw [same]
  rfl

/-- A note, and nothing more. -/
theorem note (kind : DiagnosticKind) (message : String) (a : α) :
    Alike v stack (do Build.report kind message; return a) (do Build.report kind message; return a) :=
  .bind (.lift (plain_report kind message)) fun _ => .pure a

/-- A frame is put on and taken off again. -/
theorem withFrame {x y : Lower α} {frame : Frame} (alike : Alike v (frame.method :: stack) x y) :
    Alike v stack (withFrame frame x) (withFrame frame y) := by
  intro s under here
  obtain ⟨continues, same⟩ := alike { s with frames := frame :: s.frames } under (congrArg (_ :: ·) here)
  -- The step may change the new frame as it likes: it is taken off.
  have frames : List.Forall₂ Frame.Narrows s.frames (x { s with frames := frame :: s.frames }).2.frames.tail := by
    have frames := continues.frames
    revert frames
    generalize (x { s with frames := frame :: s.frames }).2.frames = after
    intro frames
    cases frames with
    | cons _ rest => exact rest
  refine ⟨⟨continues.context, continues.fields, continues.lists, frames⟩, fun fine => ?_⟩
  exact congrArg (fun r : α × Lowering => (r.1, { r.2 with frames := r.2.frames.tail })) (same fine)

/-- Diagnostics belong to the callee, and to the caller again. -/
theorem inCallee {x y : Lower α} {frame : Frame} (alike : Alike v (frame.method :: stack) x y) :
    Alike v stack (inCallee frame x) (inCallee frame y) := by
  intro s under here
  let inside : Lowering :=
    { s with context := { s.context with diagnostics := { s.context.diagnostics with method := frame.method } } }
  obtain ⟨continues, same⟩ := alike.withFrame inside under here
  refine ⟨⟨⟨continues.context.options, rfl, continues.context.notes, continues.context.flows⟩, continues.fields,
    continues.lists, continues.frames⟩, ?_⟩
  intro fine
  exact congrArg (fun r : α × Lowering => (r.1, { r.2 with context := { r.2.context with
    diagnostics := { r.2.context.diagnostics with method := s.context.diagnostics.method } } })) (same fine)

end Alike

/-- A step that keeps pace with itself keeps what the state continues with. -/
theorem continues_of_alike {x : Lower α} {s : Lowering} (alike : Alike (.same s.limit) s.stack x x) :
    s.Continues (x s).2 :=
  (alike s rfl rfl).1

/-- The step keeps what states continue with. -/
def Steady (x : Lower α) : Prop := ∀ s : Lowering, s.Continues (x s).2

theorem Steady.of_alike {x : Lower α} (alike : ∀ limit stack, Alike (.same limit) stack x x) : Steady x :=
  fun _ => continues_of_alike (alike _ _)

theorem Steady.lift {step : Build α} (plain : Plain step) :
    Steady (@liftM (StateT Context Id) (StateT Lowering Id) _ α step) :=
  .of_alike fun _ _ => .lift plain

section Parts

theorem alike_objectLiteral (object : ObjectRef) :
    Alike v stack (objectLiteral object) (objectLiteral object) := by
  refine .bind (.lift (plain_targetOf? object)) fun target? => ?_
  cases target? with
  | some id => exact .lift (plain_createLiteral _)
  | none => exact .bind (.lift (plain_unresolved _)) fun _ => .lift plain_createUnknownLiteral

theorem alike_tickNode : Alike v stack tickNode tickNode := by
  refine .getBind (fun _ _ => rfl) fun s => .bind (.lift (plain_getOrNew s.tick)) fun chain => ?_
  refine .bind (.modify (fun _ _ => rfl) fun s => .setTick s _) fun _ => .pure _

theorem alike_tickFlow : Alike v stack tickFlow tickFlow := by
  refine .getBind (fun _ _ => rfl) fun s => .bind (.lift (plain_getOrNew s.tick)) fun chain => ?_
  refine .bind (.lift (plain_nextFlow chain)) fun next => ?_
  refine .bind (.modify (fun _ _ => rfl) fun s => .setTick s _) fun _ => .pure _

theorem alike_onList? (name : String) {step : ListBuild α} (plain : BoundedList.ListPlain step) :
    Alike v stack (onList? name step) (onList? name step) := by
  refine .getBind (fun _ _ => rfl) fun s => ?_
  split
  · exact .pure none
  · next l _ =>
    refine .bind (.lift (plain l)) fun result => ?_
    refine .bind (.modify (fun _ _ => rfl) fun s => .insertList s _ _) fun _ => .pure _

theorem alike_frame? : Alike v stack frame? frame? := .getBind (fun _ _ => rfl) fun _ => .pure _

theorem alike_listName? (e : Expression) : Alike v stack (listName? e) (listName? e) :=
  .getBind (fun _ _ => rfl) fun _ => .pure _

theorem alike_variableOf? (name : String) : Alike v stack (variableOf? name) (variableOf? name) :=
  .bind alike_frame? fun _ => .getBind (fun _ _ => rfl) fun _ => .pure _

theorem alike_connectFlows (flows : List FlowOut) (target : FlowIn) :
    Alike v stack (connectFlows flows target) (connectFlows flows target) := by
  induction flows with
  | nil => exact .pure _
  | cons flow flows ih => exact .bind (.lift (plain_connectFlow _ _)) fun _ => ih

theorem alike_join (flows : List FlowOut) : Alike v stack (join flows) (join flows) :=
  .bind (.lift (plain_createNode _)) fun _ => .bind (alike_connectFlows _ _) fun _ => .pure _

theorem alike_storeVariable (id : Nat) (value : ValueOut) (flow : FlowOut) :
    Alike v stack (storeVariable id value flow) (storeVariable id value flow) :=
  .bind (.lift (plain_setVariableFrom id value)) fun _ => .bind (.lift (plain_connectFlow _ _)) fun _ => .pure _

theorem alike_declareLocal (name : String) (type : ValueType) :
    Alike v stack (declareLocal name type) (declareLocal name type) := by
  refine .bind alike_frame? fun frame? => .bind (.lift (plain_declareVariable _ _ _)) fun id => ?_
  refine .bind (.modifyFrame fun frame => ⟨rfl, fun other unbound => ?_⟩) fun _ => .pure _
  rw [Dict.find?_erase, unbound, ite_self]

theorem alike_coerce (value : ValueOut) (own other : Option ValueType) :
    Alike v stack (coerce value own other) (coerce value own other) := by
  unfold coerce
  split
  · next own other =>
    have filled (value : ValueOut) :
        Alike v stack
          (if (own = .int || own = .float) && (other = .float2 || other = .float3 || other = .float4)
            then do return (← liftM (combine? (List.replicate other.componentCount value))).getD value
            else pure value : Lower ValueOut)
          (if (own = .int || own = .float) && (other = .float2 || other = .float3 || other = .float4)
            then do return (← liftM (combine? (List.replicate other.componentCount value))).getD value
            else pure value : Lower ValueOut) := by
      split
      · exact .bind (.lift (plain_combine? _)) fun _ => .pure _
      · exact .pure value
    dsimp only
    split
    · exact .bind (.lift (plain_unary _ value)) filled
    · exact filled value
  · exact .pure value

/-- Smaller expressions keep pace. -/
def Below.Alike (v : Limits) (stack : List String) {bound : Nat} (low low' : Below bound) : Prop :=
  ∀ e small, Lower.Alike v stack (low e small) (low' e small)

variable {bound : Nat} {low low' : Below bound}

theorem alike_lowerAll (alike : Below.Alike v stack low low') : ∀ (es : List Expression)
    (small : ∀ e ∈ es, e.size < bound), Alike v stack (lowerAll low es small) (lowerAll low' es small)
  | [], _ => .pure _
  | e :: es, small => by
    refine .bind (alike e _) fun v? => ?_
    cases v? with
    | none => exact .pure none
    | some v =>
      refine .bind (alike_lowerAll alike es _) fun values? => ?_
      cases values? with
      | none => exact .pure none
      | some values => exact .pure _

theorem alike_valueOrUnknown {x y : Lower (Option ValueOut)} (alike : Alike v stack x y) :
    Alike v stack (valueOrUnknown x) (valueOrUnknown y) := by
  refine .bind alike fun v? => ?_
  cases v? with
  | some v => exact .pure v
  | none => exact .lift plain_createUnknownLiteral

theorem alike_lowerObject (alike : Below.Alike v stack low low') (e : Expression) (small : e.size < bound) :
    Alike v stack (lowerObject low e small) (lowerObject low' e small) :=
  lowerObject_related (R := Alike v stack) (alike_objectLiteral .self)
    (fun _ _ => alike_valueOrUnknown (alike _ _)) e small

theorem alike_lowerComponents (alike : Below.Alike v stack low low') : ∀ (es : List Expression)
    (small : ∀ e ∈ es, e.size < bound), Alike v stack (lowerComponents low es small) (lowerComponents low' es small)
  | [], _ => .pure _
  | e :: es, small => by
    refine .bind (alike e _) fun v? => ?_
    cases v? with
    | none => exact .pure none
    | some v =>
      refine .bind (alike_coerce v _ _) fun part => .bind (alike_lowerComponents alike es _) fun parts? => ?_
      cases parts? with
      | none => exact .pure none
      | some parts => exact .pure _

theorem alike_createZeros : ∀ count : Nat, Alike v stack (createZeros count) (createZeros count)
  | 0 => .pure _
  | count + 1 => .bind (.lift (plain_createLiteral _)) fun _ => .bind (alike_createZeros count) fun _ => .pure _

theorem alike_bindArguments (alike : Below.Alike v stack low low') (parameters : List Parameter)
    (es : List Expression) (small : ∀ e ∈ es, e.size < bound) (bindings : Dict ValueOut) :
    Alike v stack (bindArguments low parameters es small bindings) (bindArguments low' parameters es small bindings) := by
  induction parameters generalizing es bindings with
  | nil => exact .pure bindings
  | cons parameter parameters ih =>
    cases es with
    | nil => exact .pure bindings
    | cons e es =>
      refine .bind (alike e _) fun v? => ?_
      cases v? with
      | none => exact ih es _ _
      | some v => exact ih es _ _

theorem alike_coerceAll (values : List ValueOut) (es : List Expression) :
    Alike v stack (coerceAll values es) (coerceAll values es) := by
  induction values generalizing es with
  | nil => exact .pure []
  | cons value values ih =>
    cases es with
    | nil => exact .pure []
    | cons e es => exact .bind (alike_coerce value _ _) fun _ => .bind (ih es) fun _ => .pure _

theorem alike_connectCoerced (node : NodeId) (result : Option ValueType) (sockets : List String)
    (values : List ValueOut) (es : List Expression) :
    Alike v stack (connectCoerced node result sockets values es) (connectCoerced node result sockets values es) := by
  induction sockets generalizing values es with
  | nil => exact .pure _
  | cons socket sockets ih =>
    cases values with
    | nil => exact .pure _
    | cons value values =>
      cases es with
      | nil => exact .pure _
      | cons e es =>
        exact .bind (alike_coerce value _ _) fun _ => .bind (.lift (plain_connect _ _)) fun _ => ih values es

theorem alike_lowerParts (alike : Below.Alike v stack low low') (node : NodeId) (slot : Nat)
    (parts : List MessagePart) (small : ∀ e, .value e ∈ parts → e.size < bound) :
    Alike v stack (lowerParts low node slot parts small) (lowerParts low' node slot parts small) := by
  induction parts generalizing slot with
  | nil => exact .pure _
  | cons part parts ih =>
    cases part with
    | text content => exact .bind (ih slot _) fun _ => .pure _
    | value e =>
      refine .bind (alike e _) fun v? => ?_
      cases v? with
      | none => exact .bind (ih (slot + 1) _) fun _ => .pure _
      | some v =>
        exact .bind (.lift (plain_connect _ _)) fun _ => .bind (ih (slot + 1) _) fun _ => .pure _

end Parts

end Lower

end ScriptGraph
