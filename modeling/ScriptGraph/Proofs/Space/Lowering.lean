import Mathlib
import ScriptGraph.Proofs.Space.Lists

/-!
The steps of lowering that know the names keep pace.

The names of a method stand for values that play the same part, and for the same variables. Everything else that
lowering remembers is the same in both runs, but for the handles in it.
-/

namespace ScriptGraph

open Pattern Build

section Instances

instance : Paired Exits := .via fun e => (e.open, e.returned)

instance : Paired Invocation := .via fun i => (i.value, i.flow)

/-- Names stand for the same variables, and for values that play the same part. -/
instance : Paired Frame where
  pairs p f f' := ∃ bindings, f' = { f with bindings } ∧ Pair p f.bindings bindings
  mono := by
    rintro p q f _ ⟨bindings, rfl, pair⟩ le
    exact ⟨bindings, rfl, pair.lift⟩
  refl f := ⟨f.bindings, rfl, Paired.refl _⟩

/-- The states of two runs of lowering. -/
structure Lowering.Pairs (p : Pairing) (s s' : Lowering) : Prop where
  context : s.context.Shares s'.context
  fields : s'.fields = s.fields
  lists : Pair p s.lists s'.lists
  frames : Pair p s.frames s'.frames
  tick : Pair p s.tick s'.tick

instance : Paired Lowering where
  pairs := Lowering.Pairs
  mono pairs _ := { pairs with lists := pairs.lists.lift, frames := pairs.frames.lift, tick := pairs.tick.lift }
  refl s := ⟨Paired.refl (α := Context) s.context, rfl, Paired.refl _, Paired.refl _, Paired.refl _⟩

instance : Machine Lowering := { context := (·.context) }

end Instances

section Collections

variable {α : Type} [Paired α] {p : Pairing} {d d' : Dict α}

theorem pairs_getElem? {as as' : List α} (pairs : Pair p as as') (i : Nat) : Pair p as[i]? as'[i]? := by
  induction pairs generalizing i with
  | nil => exact .none
  | cons pair _ ih =>
    cases i with
    | zero => exact .some pair
    | succ i => exact ih i

theorem pairs_getD {a? a'? : Option α} (pair : Pair p a? a'?) {a a' : α} (other : Pair p a a') :
    Pair p (a?.getD a) (a'?.getD a') := by
  cases pair with
  | some pair => exact pair
  | none => exact other

theorem pairs_empty : Pair p (Dict.empty : Dict α) Dict.empty := fun _ => .none

theorem pairs_insert (dict : Pair p d d') (name : String) {a a' : α} (pair : Pair p a a') :
    Pair p (d.insert name a) (d'.insert name a') := by
  intro other
  rw [Dict.find?_insert, Dict.find?_insert]
  split
  · exact .some pair
  · exact dict other

theorem pairs_erase (dict : Pair p d d') (name : String) : Pair p (d.erase name) (d'.erase name) := by
  intro other
  rw [Dict.find?_erase, Dict.find?_erase]
  split
  · exact .none
  · exact dict other

theorem contains_of_pairs (dict : Pair p d d') (name : String) : d'.contains name = d.contains name := by
  have found := dict name
  rw [Dict.contains, Dict.contains]
  revert found
  generalize d.find? name = a?
  generalize d'.find? name = a'?
  intro found
  cases found with
  | some _ => rfl
  | none => rfl

end Collections

namespace Abreast

variable {α β : Type} {p : Pairing} {q : Pairing → α → α → Prop}

/-- A step of construction as a step of lowering. -/
theorem lift {x y : Build α} (abreast : Abreast p q x y) :
    Abreast p q (@liftM (StateT Context Id) (StateT Lowering Id) _ α x)
      (@liftM (StateT Context Id) (StateT Lowering Id) _ α y) where
  grows s := abreast.grows s.context
  twins s s' sim small := by
    cases p with
    | lost => exact sim.elim
    | apart roles =>
      obtain ⟨twins, pairs⟩ := sim
      have pairs : s.Pairs (.apart roles) s' := pairs
      obtain ⟨p', le, sim', related⟩ := abreast.twins s.context s'.context ⟨twins, pairs.context⟩ small
      cases p' with
      | lost => exact sim'.elim
      | apart roles' =>
        obtain ⟨twins', shares'⟩ := sim'
        exact ⟨_, le, ⟨twins', shares', pairs.fields, pairs.lists.lift, pairs.frames.lift, pairs.tick.lift⟩, related⟩

/-- What lowering remembers besides the graph is changed. -/
theorem modify {f g : Lowering → Lowering} (context : ∀ s, (g s).context = s.context)
    (pairs : ∀ s s' : Lowering, s.Pairs p s' → (f s).context = s.context ∧ (f s).Pairs p (g s')) :
    Tracks p (modify f : Lower Unit) (modify g) where
  grows s := by
    show s.context.Before (g s).context
    rw [context]
    exact .refl _
  twins s s' sim _ := by
    cases p with
    | lost => exact sim.elim
    | apart roles =>
      obtain ⟨twins, pair⟩ := sim
      obtain ⟨same, pairs'⟩ := pairs s s' pair
      have twins : Twins roles s.context s'.context := twins
      rw [← same, ← context s'] at twins
      exact ⟨_, .refl _, ⟨twins, pairs'⟩, rfl⟩

end Abreast

namespace Lower

variable {α β : Type} [Paired α] [Paired β] {p : Pairing}

/-- A note, and nothing more. -/
theorem tracks_note (kind : DiagnosticKind) (message : String) {a a' : α} (pair : Pair p a a') :
    Tracks p (do Build.report kind message; return a : Lower α) (do Build.report kind message; return a') :=
  .andThen (.lift (tracks_report kind message)) fun _ _ => .pure pair.lift

theorem tracks_frame? : Tracks p frame? frame? := by
  refine .bind .read fun p₁ s s' _ pairs => .pure ?_
  have frames := Lowering.Pairs.frames pairs
  revert frames
  generalize s.frames = frames
  generalize s'.frames = frames'
  intro pair
  cases pair with
  | nil => exact .none
  | cons first _ => exact .some first

theorem tracks_modifyFrame {f g : Frame → Frame} (pairs : ∀ frame frame', Pair p frame frame' →
    Pair p (f frame) (g frame')) : Tracks p (modifyFrame f) (modifyFrame g) := by
  refine .modify (fun _ => rfl) fun s s' pair => ⟨rfl, { pair with frames := ?_ }⟩
  have frames := pair.frames
  revert frames
  generalize s.frames = frames
  generalize s'.frames = frames'
  intro pair
  cases pair with
  | nil => exact .nil
  | cons first rest => exact .cons (pairs _ _ first) rest

/-- A frame is put on and taken off again. -/
theorem tracks_withFrame {x y : Lower α} {frame frame' : Frame} (pair : Pair p frame frame')
    (tracks : ∀ p', p.Next p' → Tracks p' x y) : Tracks p (withFrame frame x) (withFrame frame' y) := by
  refine .andThen (.modify (fun _ => rfl) fun s s' pairs =>
    ⟨rfl, { pairs with frames := .cons pair pairs.frames }⟩) fun p₁ le => ?_
  refine .bind (tracks p₁ le) fun p₂ _ _ _ result => ?_
  refine .andThen (.modify (fun _ => rfl) fun s s' pairs => ⟨rfl, { pairs with frames := ?_ }⟩) fun p₃ _ =>
    .pure result.lift
  have frames := pairs.frames
  revert frames
  generalize s.frames = frames
  generalize s'.frames = frames'
  intro pair
  cases pair with
  | nil => exact .nil
  | cons _ rest => exact rest

/-- Diagnostics belong to the callee, and to the caller again. -/
theorem tracks_inCallee {x y : Lower α} {frame frame' : Frame} (pair : Pair p frame frame')
    (tracks : ∀ p', p.Next p' → Tracks p' x y) : Tracks p (inCallee frame x) (inCallee frame' y) := by
  have caller : Tracks p currentMethod currentMethod := by
    refine .bind .read fun p₁ s s' _ pairs => .pure ?_
    show s'.context.diagnostics.method = s.context.diagnostics.method
    rw [(Lowering.Pairs.context pairs).diagnostics]
  refine .bind caller ?_
  rintro p₁ method _ _ ⟨⟩
  have same : frame'.method = frame.method := by
    obtain ⟨bindings, rfl, -⟩ := pair
    rfl
  rw [same]
  refine .andThen (.lift (tracks_setMethod _)) fun p₂ _ => ?_
  refine .bind (tracks_withFrame pair.lift fun p' le => tracks p' ⟨inferInstance⟩) fun p₃ _ _ _ result => ?_
  exact .andThen (.lift (tracks_setMethod _)) fun p₄ _ => .pure result.lift

theorem tracks_onList? (name : String) {x y : ListBuild α} (tracks : ∀ p', p.Next p' → BoundedList.Tracks p' x y) :
    Tracks p (onList? name x) (onList? name y) := by
  refine .bind .read fun p₁ s s' le pairs => ?_
  have list := Lowering.Pairs.lists pairs name
  revert list
  generalize s.lists.find? name = list?
  generalize s'.lists.find? name = list'?
  intro list
  cases list with
  | none => exact .pure .none
  | some list =>
    refine .bind (.lift (tracks p₁ le _ _ list)) ?_
    rintro p₂ ⟨result, made⟩ ⟨result', made'⟩ _ ⟨result, made⟩
    exact .andThen (.modify (fun _ => rfl) fun s s' pairs =>
      ⟨rfl, { pairs with lists := pairs_insert pairs.lists name made }⟩) fun p₃ _ => .pure (.some result.lift)

theorem tracks_setTick {chain chain' : TickChain} (pair : Pair p chain chain') :
    Tracks p (modify fun s => { s with tick := some chain } : Lower Unit)
      (modify fun s => { s with tick := some chain' }) :=
  .modify (fun _ => rfl) fun _ _ pairs => ⟨rfl, { pairs with tick := .some pair }⟩

theorem tracks_tickNode : Tracks p tickNode tickNode := by
  refine .bind .read fun p₁ s s' _ pairs => .bind (.lift (tracks_getOrNew (Lowering.Pairs.tick pairs))) ?_
  intro p₂ _ _ _ chain
  exact .andThen (tracks_setTick chain) fun p₃ _ => .pure (Pair.lift chain).1

theorem tracks_tickFlow : Tracks p tickFlow tickFlow := by
  refine .bind .read fun p₁ s s' _ pairs => .bind (.lift (tracks_getOrNew (Lowering.Pairs.tick pairs))) ?_
  intro p₂ _ _ _ chain
  refine .bind (.lift (tracks_nextFlow chain)) ?_
  rintro p₃ ⟨flow, chain⟩ ⟨flow', chain'⟩ _ ⟨flow, chain⟩
  exact .andThen (tracks_setTick chain) fun p₄ _ => .pure flow.lift

theorem tracks_objectLiteral (object : ObjectRef) : Tracks p (objectLiteral object) (objectLiteral object) := by
  refine .bind (.lift (tracks_targetOf? object)) fun p₁ _ _ _ id? => ?_
  cases id? with
  | some same =>
    cases same
    exact .lift (tracks_createLiteral _)
  | none => exact .andThen (.lift (tracks_unresolved _)) fun p₂ _ => .lift tracks_createUnknownLiteral

theorem tracks_connectFlows {flows flows' : List FlowOut} (leaves : Pair p flows flows') {target target' : FlowIn}
    (enters : Pair p target target') : Tracks p (connectFlows flows target) (connectFlows flows' target') := by
  induction flows generalizing p flows' with
  | nil =>
    cases leaves
    exact .pure rfl
  | cons flow flows ih =>
    cases leaves with
    | @cons _ flow' _ flows' first rest =>
      have rest : Pair p flows flows' := rest
      exact .andThen (.lift (tracks_connectFlow first enters)) fun _ _ => ih rest.lift enters.lift

theorem tracks_join {flows flows' : List FlowOut} (leaves : Pair p flows flows') :
    Tracks p (join flows) (join flows') := by
  refine .bind (.lift (tracks_createNode .flowSequence)) fun p₁ _ _ _ sequence => ?_
  exact .andThen (tracks_connectFlows leaves.lift (sequence.flowIn "in")) fun p₂ _ => .pure (sequence.lift.flowOut "0")

theorem tracks_storeVariable (id : Nat) {value value' : ValueOut} (pair : Pair p value value') {flow flow' : FlowOut}
    (leaves : Pair p flow flow') : Tracks p (storeVariable id value flow) (storeVariable id value' flow') := by
  refine .bind (.lift (tracks_setVariableFrom id pair)) fun p₁ _ _ _ write => ?_
  exact .andThen (.lift (tracks_connectFlow leaves.lift write.2.2.1)) fun p₂ _ => .pure (Pair.lift write.2.2.2)

theorem tracks_declareLocal (name : String) (type : ValueType) :
    Tracks p (declareLocal name type) (declareLocal name type) := by
  refine .bind tracks_frame? fun p₁ frame? frame'? _ pair => ?_
  have same : frame'?.map (·.method) = frame?.map (·.method) := by
    cases pair with
    | some pair =>
      obtain ⟨bindings, rfl, -⟩ := pair
      rfl
    | none => rfl
  dsimp only
  rw [same]
  refine .bind (.lift (tracks_declareVariable _ _ _)) ?_
  rintro p₂ id _ _ ⟨⟩
  refine .andThen (tracks_modifyFrame ?_) fun p₃ _ => .pure rfl
  rintro frame _ ⟨bindings, rfl, pair⟩
  exact ⟨bindings.erase name, rfl, pairs_erase pair name⟩

theorem tracks_variableOf? (name : String) : Tracks p (variableOf? name) (variableOf? name) := by
  refine .bind tracks_frame? fun p₁ frame? frame'? _ pair => .bind .read fun p₂ s s' _ pairs => .pure ?_
  have same : frame'?.bind (·.locals.find? name) = frame?.bind (·.locals.find? name) := by
    cases pair with
    | some pair =>
      obtain ⟨bindings, rfl, -⟩ := pair
      rfl
    | none => rfl
  rw [same, Lowering.Pairs.fields pairs]
  generalize (frame?.bind (·.locals.find? name)).or (s.fields.find? name) = id?
  cases id? with
  | some id => exact .some rfl
  | none => exact .none

theorem tracks_listName? (e : Expression) : Tracks p (listName? e) (listName? e) := by
  refine .bind .read fun p₁ s s' _ pairs => .pure ?_
  have same : s'.lists.contains = s.lists.contains :=
    funext fun name => contains_of_pairs (Lowering.Pairs.lists pairs) name
  rw [same]
  generalize Option.filter _ _ = name?
  cases name? with
  | some name => exact .some rfl
  | none => exact .none

theorem tracks_coerce {value value' : ValueOut} (pair : Pair p value value') (own other : Option ValueType) :
    Tracks p (coerce value own other) (coerce value' own other) := by
  unfold coerce
  split
  · next own other =>
    have filled {p₁ : Pairing} {value value' : ValueOut} (pair : Pair p₁ value value') :
        Tracks p₁
          (if (own = .int || own = .float) && (other = .float2 || other = .float3 || other = .float4)
            then do return (← liftM (combine? (List.replicate other.componentCount value))).getD value
            else pure value : Lower ValueOut)
          (if (own = .int || own = .float) && (other = .float2 || other = .float3 || other = .float4)
            then do return (← liftM (combine? (List.replicate other.componentCount value'))).getD value'
            else pure value' : Lower ValueOut) := by
      split
      · have parts : Pair p₁ (List.replicate other.componentCount value)
            (List.replicate other.componentCount value') := by
          induction other.componentCount with
          | zero => exact .nil
          | succ count ih => exact .cons pair ih
        exact .bind (.lift (tracks_combine? parts)) fun p₂ _ _ _ combined => .pure (pairs_getD combined pair.lift)
      · exact .pure pair
    dsimp only
    split
    · exact .bind (.lift (tracks_unary .typeIntToFloat pair)) fun _ _ _ _ value => filled value
    · exact filled pair
  · exact .pure pair

end Lower

end ScriptGraph
