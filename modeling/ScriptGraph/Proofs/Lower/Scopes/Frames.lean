import Mathlib
import ScriptGraph.Lower.Class
import ScriptGraph.Proofs.Lower.Lockstep.Blocks

/-!
What steps of lowering do to the names of a method.

A step concerns the innermost frame only, and in it only some names (`Keeps`). The frame of a callee is put on and
taken off again, and the counter of a loop gives its name back.
-/

namespace ScriptGraph

open Pattern Build

namespace Frame

/-- No name stands for a value and for a variable at once. -/
def Apart (f : Frame) : Prop := ∀ name, f.bindings.find? name = none ∨ f.locals.find? name = none

/-- Names that stand for one thing go on doing so, and all but some of them stand for what they stood for. -/
def Agrees (names : List String) (f f' : Frame) : Prop :=
  f.Apart → f'.Apart ∧ ∀ name, name ∉ names →
    f'.bindings.find? name = f.bindings.find? name ∧ f'.locals.find? name = f.locals.find? name

namespace Agrees

variable {names names' : List String} {f f' f'' : Frame}

theorem refl (names : List String) (f : Frame) : f.Agrees names f := fun apart => ⟨apart, fun _ _ => ⟨rfl, rfl⟩⟩

theorem trans (first : f.Agrees names f') (second : f'.Agrees names f'') : f.Agrees names f'' := by
  intro apart
  obtain ⟨apart', same⟩ := first apart
  obtain ⟨apart'', same'⟩ := second apart'
  exact ⟨apart'', fun name other => ⟨(same' name other).1.trans (same name other).1,
    (same' name other).2.trans (same name other).2⟩⟩

theorem mono (agrees : f.Agrees names f') (sub : names ⊆ names') : f.Agrees names' f' :=
  fun apart => ⟨(agrees apart).1, fun name other => (agrees apart).2 name fun member => other (sub member)⟩

/-- A local that is declared takes its name away from a value. -/
theorem declare {name : String} (member : name ∈ names) (f : Frame) (id : Nat) :
    f.Agrees names { f with bindings := f.bindings.erase name, locals := f.locals.insert name id } := by
  refine fun apart => ⟨fun other => ?_, fun other outside => ?_⟩
  · rw [Dict.find?_erase, Dict.find?_insert]
    split
    · exact .inl rfl
    · exact apart other
  · have different : other ≠ name := fun same => outside (same ▸ member)
    rw [Dict.find?_erase, if_neg different, Dict.find?_insert, if_neg different]
    exact ⟨rfl, rfl⟩

end Agrees

/-- The innermost frames agree, and the others are the same. -/
inductive AllAgree (names : List String) : List Frame → List Frame → Prop
  | nil : AllAgree names [] []
  | cons {f f' : Frame} (rest : List Frame) (agrees : f.Agrees names f') : AllAgree names (f :: rest) (f' :: rest)

namespace AllAgree

variable {names names' : List String} {frames frames' frames'' : List Frame}

theorem refl (names : List String) : (frames : List Frame) → AllAgree names frames frames
  | [] => .nil
  | f :: rest => .cons rest (.refl names f)

theorem trans (first : AllAgree names frames frames') (second : AllAgree names frames' frames'') :
    AllAgree names frames frames'' := by
  cases first with
  | nil => exact second
  | cons rest agrees =>
    cases second with
    | cons rest agrees' => exact .cons rest (agrees.trans agrees')

theorem mono (agree : AllAgree names frames frames') (sub : names ⊆ names') : AllAgree names' frames frames' := by
  cases agree with
  | nil => exact .nil
  | cons rest agrees => exact .cons rest (agrees.mono sub)

theorem modifyHead {change : Frame → Frame} (agrees : ∀ f : Frame, f.Agrees names (change f)) :
    (frames : List Frame) → AllAgree names frames (frames.modifyHead change)
  | [] => .nil
  | f :: rest => .cons rest (agrees f)

end AllAgree

end Frame

namespace Lower.Counter

variable {name other : String} {names : List String} {counter : Counter} {f after : Frame}

theorem enter_of_ne (different : other ≠ name) :
    (Counter.enter name counter f).bindings.find? other = f.bindings.find? other ∧
      (Counter.enter name counter f).locals.find? other = f.locals.find? other := by
  unfold Counter.enter
  split <;> cases counter <;> simp [Counter.bind, Dict.find?_erase, Dict.find?_insert, different]

theorem leave_of_ne {previous : Option Counter} (different : other ≠ name) :
    (Counter.leave name previous f).bindings.find? other = f.bindings.find? other ∧
      (Counter.leave name previous f).locals.find? other = f.locals.find? other := by
  rcases previous with _ | output | id <;>
    simp [Counter.leave, Counter.bind, Dict.find?_erase, Dict.find?_insert, different]

theorem apart_enter (apart : f.Apart) : (Counter.enter name counter f).Apart := by
  intro other
  by_cases same : other = name
  · subst same
    unfold Counter.enter
    split
    · next bound =>
      have unstored : f.locals.find? other = none := (apart other).resolve_left (by simp [bound])
      cases counter <;> simp [Counter.bind, Dict.find?_erase, Dict.find?_insert, unstored]
    · next unbound => cases counter <;> simp [Counter.bind, Dict.find?_erase, Dict.find?_insert, unbound]
  · rw [(enter_of_ne same).1, (enter_of_ne same).2]
    exact apart other

/-- What a name stood for before a loop is what it stands for after it. -/
theorem leave_of? (apart : f.Apart) :
    (Counter.leave name (Counter.of? name f) after).bindings.find? name = f.bindings.find? name ∧
      (Counter.leave name (Counter.of? name f) after).locals.find? name = f.locals.find? name := by
  unfold Counter.of?
  split
  · next output bound =>
    have unstored : f.locals.find? name = none := (apart name).resolve_left (by simp [bound])
    simp [Counter.leave, Counter.bind, Dict.find?_erase, Dict.find?_insert, bound, unstored]
  · next unbound =>
    cases stored : f.locals.find? name <;>
      simp [Counter.leave, Counter.bind, Dict.find?_erase, Dict.find?_insert, unbound]

/-- A loop gives the name of its counter back, whatever its body declares. -/
theorem agrees_leave (inside : (Counter.enter name counter f).Agrees names after) :
    f.Agrees names (Counter.leave name (Counter.of? name f) after) := by
  intro apart
  obtain ⟨apart', same⟩ := inside (apart_enter apart)
  refine ⟨fun other => ?_, fun other outside => ?_⟩
  · by_cases own : other = name
    · subst own
      rw [(leave_of? apart).1, (leave_of? apart).2]
      exact apart other
    · rw [(leave_of_ne own).1, (leave_of_ne own).2]
      exact apart' other
  · by_cases own : other = name
    · subst own
      exact leave_of? apart
    · rw [(leave_of_ne own).1, (leave_of_ne own).2, (same other outside).1, (same other outside).2]
      exact enter_of_ne own

end Lower.Counter

/-- The fields are the same, and all but some names of the method that is being lowered stand for what they
stood for. -/
structure Lowering.Scoped (names : List String) (s s' : Lowering) : Prop where
  fields : s'.fields = s.fields
  frames : Frame.AllAgree names s.frames s'.frames

namespace Lower

variable {α β : Type} {names names' : List String}

/-- The step concerns only some names. -/
def Keeps (names : List String) (x : Lower α) : Prop := ∀ s : Lowering, s.Scoped names (x s).2

namespace Keeps

theorem mono {x : Lower α} (keeps : Keeps names x) (sub : names ⊆ names') : Keeps names' x :=
  fun s => ⟨(keeps s).fields, (keeps s).frames.mono sub⟩

theorem pure (a : α) : Keeps names (Pure.pure a) := fun _ => ⟨rfl, .refl _ _⟩

theorem bind {x : Lower α} {f : α → Lower β} (first : Keeps names x) (second : ∀ a, Keeps names (f a)) :
    Keeps names (x >>= f) := by
  intro s
  have before := first s
  have after := second (x s).1 (x s).2
  exact ⟨after.fields.trans before.fields, before.frames.trans after.frames⟩

theorem getBind {f : Lowering → Lower β} (second : ∀ s, Keeps names (f s)) : Keeps names (get >>= f) :=
  fun s => second s s

theorem setTick (tick : Option TickChain) : Keeps names (modify fun s => { s with tick }) :=
  fun _ => ⟨rfl, .refl _ _⟩

/-- A step of construction as a step of lowering. -/
theorem lift (step : Build α) : Keeps names (@liftM (StateT Context Id) (StateT Lowering Id) _ α step) :=
  fun _ => ⟨rfl, .refl _ _⟩

/-- A note, and nothing more. -/
theorem note (kind : DiagnosticKind) (message : String) (a : α) :
    Keeps names (do Build.report kind message; return a) :=
  .bind (.lift _) fun _ => .pure a

theorem modifyFrame {change : Frame → Frame} (agrees : ∀ f : Frame, f.Agrees names (change f)) :
    Keeps names (Lower.modifyFrame change) := by
  intro s
  refine ⟨rfl, ?_⟩
  rw [frames_modifyFrame]
  exact .modifyHead agrees _

theorem declareLocal {name : String} (member : name ∈ names) (type : ValueType) :
    Keeps names (Lower.declareLocal name type) := by
  refine .getBind fun s => .bind (.lift _) fun id => ?_
  exact .bind (.modifyFrame fun f => .declare member f id) fun _ => .pure _

/-- What a callee does to its own names is of no concern. -/
theorem inCallee {x : Lower α} (keeps : Keeps names' x) (frame : Frame) : Keeps names (Lower.inCallee frame x) := by
  intro s
  have inside := keeps
    { s with
      context := { s.context with diagnostics := { s.context.diagnostics with method := frame.method } }
      frames := frame :: s.frames }
  have frames : (Lower.inCallee frame x s).2.frames = s.frames := by
    have agree := inside.frames
    show List.tail (x _).2.frames = s.frames
    revert agree
    generalize (x _).2.frames = frames
    intro agree
    cases agree with
    | cons rest agrees => rfl
  exact ⟨inside.fields, frames ▸ .refl _ _⟩

/-- A step during which a name stands for a counter, and what follows it. -/
theorem counting {x : Lower α} {f : α → Lower β} (name : String) (counter : Counter) (body : Keeps names x)
    (next : ∀ a, Keeps names (f a)) :
    Keeps names (do
      let shadowed ← bindCounter name counter
      let a ← x
      unbindCounter name shadowed
      f a) := by
  have bracket : Keeps names (do
      let shadowed ← bindCounter name counter
      let a ← x
      unbindCounter name shadowed
      return a) := by
    intro s
    have inside := body (bindCounter name counter s).2
    refine ⟨inside.fields, ?_⟩
    have agree := inside.frames
    rw [frames_bindCounter] at agree
    show Frame.AllAgree names s.frames (Lower.modifyFrame _ (x (bindCounter name counter s).2).2).2.frames
    rw [frames_modifyFrame]
    revert agree
    generalize (x (bindCounter name counter s).2).2.frames = frames
    intro agree
    obtain ⟨context, fields, lists, outer, tick⟩ := s
    cases outer with
    | nil =>
      cases agree with
      | nil => exact .nil
    | cons frame rest =>
      cases agree with
      | cons rest agrees => exact .cons rest (Counter.agrees_leave agrees)
  exact bracket.bind next

end Keeps

end Lower

end ScriptGraph
