import Mathlib
import ScriptGraph.Proofs.Lower.Lockstep.Blocks

/-!
Whole classes keep pace. Entry points are lowered one after the other; diagnostics belong to each in its turn, and
no frame is there before or after.
-/

namespace ScriptGraph

open Pattern Build

namespace Lower

section Classes

/-- How to lower the body of an entry point, given how many levels the options allow. -/
abbrev EntryBody := Nat → Method → FlowOut → Lower Exits

/-- An entry point whose body is lowered in a given way. -/
def lowerEntryPointWith (body : EntryBody) (method : Method) : Lower Exits := do
  setMethod method.name
  let (flow, bindings) ← openEntryPoint method
  let levels := (← get).context.options.maxInlineDepth
  withFrame { method := method.name, bindings } do
    let flow ← copyParameters (Statement.assignedNames method.body) false method.parameters flow
    body levels method flow

/-- The entry points of a list, with bodies lowered in a given way. -/
def lowerEntryPointsWith (c : ScriptClass) (body : EntryBody) : List String → Lower Nat
  | [] => return 0
  | name :: names => do
    match c.method? name with
    | none => lowerEntryPointsWith c body names
    | some method =>
      let _ ← lowerEntryPointWith body method
      return (← lowerEntryPointsWith c body names) + 1

/-- A class, with the bodies of its entry points lowered in a given way. -/
def lowerClassWith (c : ScriptClass) (body : EntryBody) : Lower (Except CompileError Unit) := do
  declareFields c
  let entryPoints := (← get).context.options.entryPoints
  if (← lowerEntryPointsWith c body entryPoints) = 0 then
    return .error (.noEntryPoints c.name entryPoints)
  else return .ok ()

theorem lowerEntryPointsWith_congr {c : ScriptClass} {body body' : EntryBody}
    (same : ∀ method ∈ c.methods, lowerEntryPointWith body' method = lowerEntryPointWith body method) :
    ∀ names : List String, lowerEntryPointsWith c body' names = lowerEntryPointsWith c body names
  | [] => rfl
  | name :: names => by
    rw [lowerEntryPointsWith, lowerEntryPointsWith, lowerEntryPointsWith_congr same names]
    split
    · rfl
    · next found => rw [same _ (List.mem_of_find?_eq_some found)]

/-- Classes are lowered alike if their entry points are. -/
theorem lowerClassWith_congr {c : ScriptClass} {body body' : EntryBody}
    (same : ∀ method ∈ c.methods, lowerEntryPointWith body' method = lowerEntryPointWith body method) :
    lowerClassWith c body' = lowerClassWith c body := by
  simp only [lowerClassWith, lowerEntryPointsWith_congr same]

/-- A body whose calls are inlined in place. -/
def inlinedBody (c : ScriptClass) : EntryBody := fun levels method flow =>
  lowerBlock c (inliner c levels) [] method.body (.one flow)

theorem lowerEntryPointsWith_inlinedBody (c : ScriptClass) : ∀ names : List String,
    lowerEntryPointsWith c (inlinedBody c) names = lowerEntryPoints c names
  | [] => rfl
  | name :: names => by
    rw [lowerEntryPointsWith, lowerEntryPoints, lowerEntryPointsWith_inlinedBody c names]
    cases c.method? name <;> rfl

theorem lowerClassWith_inlinedBody (c : ScriptClass) : lowerClassWith c (inlinedBody c) = lowerClass c := by
  unfold lowerClassWith
  simp only [lowerEntryPointsWith_inlinedBody]
  rfl

end Classes

variable {α β : Type} {v : Limits} {c : ScriptClass} {body body' : EntryBody}

/-- The steps go the same way where no method is being lowered, and leave it so. -/
def Parallel (v : Limits) (x y : Lower α) : Prop :=
  ∀ s : Lowering, s.limit = v.own → s.frames = [] →
    (x s).2.limit = v.own ∧ (x s).2.frames = [] ∧ s.notes <+: (x s).2.notes ∧
      (v.fine (x s).2.notes → y (s.withLimit v.other) = ((x s).1, (x s).2.withLimit v.other))

namespace Parallel

theorem of_alike {x y : Lower α} (alike : Alike v [] x y) : Parallel v x y := by
  intro s under idle
  obtain ⟨continues, same⟩ := alike s under (congrArg (List.map _) idle)
  refine ⟨continues.limit_eq.trans under, ?_, continues.context.notes, same⟩
  exact List.forall₂_nil_left_iff.1 (idle ▸ continues.frames)

theorem bind {x y : Lower α} {f g : α → Lower β} (first : Parallel v x y)
    (second : ∀ a, Parallel v (f a) (g a)) : Parallel v (x >>= f) (y >>= g) := by
  intro s under idle
  obtain ⟨under', idle', notes, same⟩ := first s under idle
  obtain ⟨under'', idle'', notes', same'⟩ := second (x s).1 (x s).2 under' idle'
  refine ⟨under'', idle'', notes.trans notes', fun fine => ?_⟩
  have fine : v.fine (f (x s).1 (x s).2).2.notes := fine
  show g (y (s.withLimit v.other)).1 (y (s.withLimit v.other)).2 = _
  rw [same (v.fine_of_prefix notes' fine)]
  exact same' fine

theorem pure (a : α) : Parallel v (Pure.pure a) (Pure.pure a) := .of_alike (.pure a)

theorem getBindUnder {f g : Lowering → Lower β}
    (second : ∀ s, s.limit = v.own → Parallel v (f s) (g (s.withLimit v.other))) :
    Parallel v (get >>= f) (get >>= g) :=
  fun s under idle => second s under s under idle

theorem getBind {f g : Lowering → Lower β} (same : ∀ s limit, g (s.withLimit limit) = g s)
    (second : ∀ s, Parallel v (f s) (g s)) : Parallel v (get >>= f) (get >>= g) :=
  getBindUnder fun s _ => (same s v.other).symm ▸ second s

theorem lift {step : Build α} (plain : Plain step) :
    Parallel v (@liftM (StateT Context Id) (StateT Lowering Id) _ α step)
      (@liftM (StateT Context Id) (StateT Lowering Id) _ α step) :=
  .of_alike (.lift plain)

/-- A change of the fields, of the lists, or of whom diagnostics belong to. -/
theorem modify {change : Lowering → Lowering}
    (same : ∀ s limit, change (s.withLimit limit) = (change s).withLimit limit)
    (frames : ∀ s : Lowering, (change s).frames = s.frames) (limit : ∀ s : Lowering, (change s).limit = s.limit)
    (notes : ∀ s : Lowering, (change s).notes = s.notes) : Parallel v (modify change) (modify change) := by
  refine fun s under idle => ⟨(limit s).trans under, (frames s).trans idle, (notes s).symm ▸ List.prefix_refl _, ?_⟩
  intro _
  show (PUnit.unit, change (s.withLimit v.other)) = _
  rw [same]
  rfl

theorem setMethod (name : String) :
    Parallel v (@liftM (StateT Context Id) (StateT Lowering Id) _ Unit (Build.setMethod name))
      (@liftM (StateT Context Id) (StateT Lowering Id) _ Unit (Build.setMethod name)) :=
  fun _ under idle => ⟨under, idle, List.prefix_refl _, fun _ => rfl⟩

end Parallel

theorem parallel_fillList (field : String) (list : BoundedList) : ∀ items : List Expression,
    Parallel v (fillList field list items) (fillList field list items)
  | [] => .pure _
  | item :: items => by
    unfold fillList
    split
    · exact .bind (.lift (plain_unsupported _)) fun _ => parallel_fillList field list items
    · refine .bind (.lift (BoundedList.plain_addInitial _ _)) fun result => ?_
      cases result with
      | ok _ => exact parallel_fillList field list items
      | error problem => exact .lift (plain_malformed _)

theorem parallel_declareField (field : Field) : Parallel v (declareField field) (declareField field) := by
  unfold declareField declareList
  split
  · split
    · exact .lift (plain_unsupported _)
    · refine .getBind (fun _ _ => rfl) fun s => .bind (.lift (BoundedList.plain_new _ _)) fun list => ?_
      refine .bind (parallel_fillList _ _ _) fun _ => ?_
      exact .modify (fun _ _ => rfl) (fun _ => rfl) (fun _ => rfl) fun _ => rfl
  · split
    · exact .pure _
    · split
      · exact .lift (plain_unsupported _)
      · refine .bind (.lift (plain_declareVariable _ _ _)) fun id => ?_
        exact .modify (fun _ _ => rfl) (fun _ => rfl) (fun _ => rfl) fun _ => rfl

theorem parallel_declareAll : ∀ fields : List Field, Parallel v (declareAll fields) (declareAll fields)
  | [] => .pure _
  | field :: fields => .bind (parallel_declareField field) fun _ => parallel_declareAll fields

theorem alike_bindParameters {stack : List String} (receive : NodeId) (parameters : List Parameter)
    (bindings : Dict ValueOut) :
    Alike v stack (bindParameters receive parameters bindings) (bindParameters receive parameters bindings) := by
  induction parameters generalizing bindings with
  | nil => exact .pure bindings
  | cons parameter parameters ih =>
    unfold bindParameters
    dsimp only
    split
    · exact .bind (.lift (plain_expect _ _)) fun _ => ih _
    · exact ih _

theorem alike_openEntryPoint {stack : List String} (method : Method) :
    Alike v stack (openEntryPoint method) (openEntryPoint method) := by
  unfold openEntryPoint
  split
  · exact .bind (.lift (plain_createNode _)) fun _ => .pure _
  · exact .bind alike_tickFlow fun _ => .pure _
  · refine .bind (.lift (plain_declareEvent _ _)) fun event => .bind (.lift (plain_createNode _)) fun receive => ?_
    refine .bind (.lift (plain_configure _ _ _)) fun _ => .bind (alike_bindParameters _ _ _) fun _ => .pure _

theorem parallel_lowerEntryPointWith {method : Method}
    (alike : ∀ flow, Alike v [method.name] (body v.own method flow) (body' v.other method flow)) :
    Parallel v (lowerEntryPointWith body method) (lowerEntryPointWith body' method) := by
  refine .bind (.setMethod _) fun _ => .bind (.of_alike (alike_openEntryPoint method)) fun start => ?_
  obtain ⟨flow, bindings⟩ := start
  refine .getBindUnder fun s under => .of_alike (.withFrame ?_)
  have under : s.context.options.maxInlineDepth = v.own := under
  refine .bind (alike_copyParameters _ _ _ _) fun flow => ?_
  rw [under]
  exact alike flow

theorem parallel_lowerEntryPointsWith
    (alike : ∀ method ∈ c.methods, ∀ flow,
      Alike v [method.name] (body v.own method flow) (body' v.other method flow)) :
    ∀ names : List String, Parallel v (lowerEntryPointsWith c body names) (lowerEntryPointsWith c body' names)
  | [] => .pure _
  | name :: names => by
    unfold lowerEntryPointsWith
    split
    · exact parallel_lowerEntryPointsWith alike names
    · next method found =>
      refine .bind (parallel_lowerEntryPointWith (alike method (List.mem_of_find?_eq_some found))) fun _ => ?_
      exact .bind (parallel_lowerEntryPointsWith alike names) fun _ => .pure _

/-- Classes keep pace if the bodies of their methods do. -/
theorem parallel_lowerClassWith
    (alike : ∀ method ∈ c.methods, ∀ flow,
      Alike v [method.name] (body v.own method flow) (body' v.other method flow)) :
    Parallel v (lowerClassWith c body) (lowerClassWith c body') := by
  refine .bind (.bind (.setMethod _) fun _ => parallel_declareAll _) fun _ => ?_
  refine .getBind (fun _ _ => rfl) fun s => .bind (parallel_lowerEntryPointsWith alike _) fun count => ?_
  split
  · exact .pure _
  · exact .pure _

end Lower

end ScriptGraph
