import Mathlib
import ScriptGraph.Proofs.Pattern.Flows

/-!
Names of variables, while a graph is made.

A variable keeps its name, and no number of a stem is given out twice. So variables that are declared under unique
names of one stem are different, however much is made in between.
-/

namespace ScriptGraph

/-- A variable has a name. -/
def Context.Names (c : Context) (id : Nat) (name : String) : Prop :=
  (c.graph.vars[id]?).map (·.name) = some name

namespace Context

variable {c c' : Context} {id : Nat} {name : String}

theorem Names.unique {other : String} (first : c.Names id name) (second : c.Names id other) : name = other :=
  Option.some.inj (first.symm.trans second)

theorem Names.lt (named : c.Names id name) : id < c.graph.vars.size := by
  obtain ⟨v, found, _⟩ := Option.map_eq_some_iff.1 named
  exact (Array.getElem?_eq_some_iff.1 found).1

/-- No variable loses its name. -/
def KeepsNames (c c' : Context) : Prop := ∀ id name, c.Names id name → c'.Names id name

/-- The variables stay as they are. -/
def KeepsRows (c c' : Context) : Prop := ∀ (id : Nat) v, c.graph.vars[id]? = some v → c'.graph.vars[id]? = some v

namespace KeepsRows

variable {c'' : Context}

theorem of_vars (vars : c'.graph.vars = c.graph.vars) : c.KeepsRows c' := fun _ _ found => vars ▸ found

theorem refl (c : Context) : c.KeepsRows c := of_vars rfl

theorem trans (first : c.KeepsRows c') (second : c'.KeepsRows c'') : c.KeepsRows c'' :=
  fun id v found => second id v (first id v found)

theorem names (rows : c.KeepsRows c') : c.KeepsNames c' := by
  intro id name named
  obtain ⟨v, found, same⟩ := Option.map_eq_some_iff.1 named
  rw [Names, rows id v found, Option.map_some, same]

end KeepsRows

theorem rows_declareVariable (c : Context) (name : String) (initial : Option Literal) (type : ValueType) :
    Ensures (Build.declareVariable name initial type) c fun id c' => c'.Names id name ∧ c.KeepsRows c' := by
  rw [Ensures]
  simp only [Build.declareVariable, modifyGet, MonadStateOf.modifyGet, StateT.modifyGet]
  split
  · next id found =>
    obtain ⟨inside, same, _⟩ := Array.findIdx?_eq_some_iff_getElem.1 found
    refine ⟨?_, .refl c⟩
    change Option.map (·.name) c.graph.vars[id]? = some name
    rw [Array.getElem?_eq_getElem inside, Option.map_some]
    exact congrArg some (by simpa using same)
  · refine ⟨by simp [Names, pure], fun id v found => ?_⟩
    have inside := (Array.getElem?_eq_some_iff.1 found).1
    change (c.graph.vars.push _)[id]? = some v
    rw [Array.getElem?_push_lt inside]
    exact found ▸ (Array.getElem?_eq_getElem inside).symm

theorem names_declareVariable (c : Context) (name : String) (initial : Option Literal) (type : ValueType) :
    Ensures (Build.declareVariable name initial type) c fun id c' => c'.Names id name ∧ c.KeepsNames c' :=
  (c.rows_declareVariable name initial type).mono fun _ _ ⟨named, rows⟩ => ⟨named, rows.names⟩

theorem exists_name {ids : List Nat} {names : List String} (named : List.Forall₂ c.Names ids names)
    (member : id ∈ ids) : ∃ name ∈ names, c.Names id name := by
  induction named with
  | nil => cases member
  | cons first _ ih =>
    rcases List.mem_cons.1 member with rfl | later
    · exact ⟨_, List.mem_cons_self, first⟩
    · obtain ⟨name, there, named⟩ := ih later
      exact ⟨name, List.mem_cons_of_mem _ there, named⟩

/-- Variables with different names are different. -/
theorem nodup_of_names {ids : List Nat} {names : List String} (named : List.Forall₂ c.Names ids names)
    (nodup : names.Nodup) : ids.Nodup := by
  induction named with
  | nil => exact .nil
  | cons first others ih =>
    obtain ⟨fresh, nodup⟩ := List.nodup_cons.1 nodup
    refine List.nodup_cons.2 ⟨fun member => ?_, ih nodup⟩
    obtain ⟨name, there, named⟩ := exists_name others member
    exact fresh (first.unique named ▸ there)

end Context

/-- How many names were made from a stem. -/
def Context.number (c : Context) (stem : String) : Nat := (c.counters.find? stem).getD 0

/-- What comes later in a construction: no variable has lost its name, and no number was taken back. -/
structure Context.Later (c c' : Context) : Prop where
  names : c.KeepsNames c'
  numbers : ∀ stem, c.number stem ≤ c'.number stem

namespace Context.Later

variable {c c' c'' : Context}

theorem refl (c : Context) : c.Later c := ⟨fun _ _ named => named, fun _ => Nat.le_refl _⟩

theorem trans (first : c.Later c') (second : c'.Later c'') : c.Later c'' where
  names id name named := second.names id name (first.names id name named)
  numbers stem := Nat.le_trans (first.numbers stem) (second.numbers stem)

theorem of_names (names : c.KeepsNames c') (counters : c'.counters = c.counters) : c.Later c' :=
  ⟨names, fun stem => by rw [number, number, counters]⟩

theorem of_vars (vars : c'.graph.vars = c.graph.vars) (counters : c'.counters = c.counters) : c.Later c' :=
  of_names (fun id name named => by rwa [Names, vars]) counters

end Context.Later

namespace Build

variable {α β : Type}

/-- A step of construction goes on from what there is. -/
def GoesOn (step : Build α) : Prop := ∀ c : Context, c.Later (step c).2 ∧ c.KeepsRows (step c).2

@[simp] theorem goesOn_bind {step : Build α} {next : α → Build β} (first : GoesOn step)
    (second : ∀ a, GoesOn (next a)) : GoesOn (step >>= next) :=
  fun c => ⟨(first c).1.trans (second (step c).1 (step c).2).1, (first c).2.trans (second (step c).1 (step c).2).2⟩

@[simp] theorem goesOn_pure (a : α) : GoesOn (pure a) := fun c => ⟨.refl c, .refl c⟩

@[simp] theorem goesOn_map {step : Build α} (f : α → β) (goes : GoesOn step) : GoesOn (f <$> step) := goes

@[simp] theorem goesOn_getBind {next : Context → Build β} (goes : ∀ c, GoesOn (next c)) : GoesOn (get >>= next) :=
  fun c => goes c c

section Primitives

theorem goesOn_of_vars {step : Build α} (vars : ∀ c, (step c).2.graph.vars = c.graph.vars)
    (counters : ∀ c, (step c).2.counters = c.counters) : GoesOn step :=
  fun c => ⟨.of_vars (vars c) (counters c), .of_vars (vars c)⟩

@[simp] theorem goesOn_createNode (op : Op) : GoesOn (createNode op) := goesOn_of_vars (fun _ => rfl) fun _ => rfl

theorem goesOn_modifyGraph {f : Graph → Graph} (vars : ∀ g, (f g).vars = g.vars) : GoesOn (modifyGraph f) :=
  goesOn_of_vars (fun c => vars c.graph) fun _ => rfl

theorem vars_changeInput (g : Graph) (t : ValueIn) (f : ValueInput → ValueInput) : (g.changeInput t f).vars = g.vars := by
  rw [Graph.changeInput]
  generalize t.sockets = sockets
  induction sockets generalizing g with
  | nil => rfl
  | cons a sockets ih => rw [List.foldl_cons, ih, Graph.vars_modifyNode]

@[simp] theorem goesOn_configure (id : NodeId) (name : String) (value : ConfigValue) : GoesOn (configure id name value) :=
  goesOn_modifyGraph fun g => g.vars_modifyNode _ _

@[simp] theorem goesOn_connect (t : ValueIn) (v : ValueOut) : GoesOn (connect t v) :=
  goesOn_modifyGraph fun g => vars_changeInput g t _

@[simp] theorem goesOn_createLiteral (value : Literal) : GoesOn (createLiteral value) :=
  goesOn_of_vars (fun _ => rfl) fun _ => rfl

@[simp] theorem goesOn_setLiteral (t : ValueIn) (value : Literal) : GoesOn (setLiteral t value) :=
  goesOn_modifyGraph fun g => vars_changeInput g t _

@[simp] theorem goesOn_expect (v : ValueOut) (type : ExpectedType) : GoesOn (expect v type) :=
  goesOn_modifyGraph fun g => by
    rw [Graph.expect]
    split
    · rfl
    · exact g.vars_modifyNode _ _

@[simp] theorem goesOn_connectFlow (f : FlowOut) (t : FlowIn) : GoesOn (connectFlow f t) :=
  goesOn_modifyGraph fun g => by rw [Graph.connectFlow, Graph.vars_modifyNode, Graph.vars_modifyNode]

@[simp] theorem goesOn_declareVariable (name : String) (initial : Option Literal) (type : ValueType) :
    GoesOn (declareVariable name initial type) := by
  have rows (c : Context) := (c.rows_declareVariable name initial type).2
  refine fun c => ⟨.of_names (rows c).names ?_, rows c⟩
  simp only [declareVariable, modifyGet, MonadStateOf.modifyGet, StateT.modifyGet]
  split <;> rfl

theorem number_uniqueName (c : Context) (stem other : String) :
    (uniqueName stem c).2.number other = c.number other + if other = stem then 1 else 0 := by
  have counters : (uniqueName stem c).2.counters = c.counters.insert stem (c.number stem + 1) := rfl
  rw [Context.number, counters, Dict.find?_insert]
  split
  · next same => rw [same, Option.getD_some]
  · rw [Nat.add_zero, Context.number]

@[simp] theorem goesOn_uniqueName (stem : String) : GoesOn (uniqueName stem) := fun c =>
  ⟨⟨fun _ _ named => named, fun other => by rw [number_uniqueName]; exact Nat.le_add_right _ _⟩, .of_vars rfl⟩

end Primitives

end Build

/-- A variable of its own: it was declared under a number of a stem, and later numbers are higher. -/
structure Context.Owns (c : Context) (stem : String) (number id : Nat) : Prop where
  named : c.Names id (stem ++ "_" ++ toString number)
  given : number < c.number stem

namespace Context.Owns

variable {c c' : Context} {stem : String} {number number' id id' : Nat}

theorem later (owns : c.Owns stem number id) (later : c.Later c') : c'.Owns stem number id :=
  ⟨later.names _ _ owns.named, Nat.lt_of_lt_of_le owns.given (later.numbers stem)⟩

/-- Variables with different numbers are different. -/
theorem ne (owns : c.Owns stem number id) (owns' : c.Owns stem number' id') (different : number ≠ number') :
    id ≠ id' := by
  rintro rfl
  exact different (toString_inj ((String.append_right_inj _).1 (owns.named.unique owns'.named)))

end Context.Owns

namespace Build

section Patterns

open Pattern

@[simp] theorem goesOn_getVariable (id : Nat) : GoesOn (getVariable id) := by
  unfold getVariable
  refine goesOn_bind (by simp) fun _ => goesOn_bind (by simp) fun _ => goesOn_getBind fun c => ?_
  split <;> simp

@[simp] theorem goesOn_setVariable (id : Nat) : GoesOn (setVariable id) := by
  simp [setVariable]

@[simp] theorem goesOn_setVariableFrom (id : Nat) (v : ValueOut) : GoesOn (setVariableFrom id v) := by
  simp [setVariableFrom]

@[simp] theorem goesOn_unary (op : Op) (a : ValueOut) : GoesOn (unary op a) := by
  simp [unary]

@[simp] theorem goesOn_binary (op : Op) (a b : ValueOut) : GoesOn (binary op a b) := by
  unfold binary
  exact goesOn_bind (by simp) fun _ => goesOn_bind (by simp) fun _ => goesOn_bind (by simp) fun _ => goesOn_pure _

@[simp] theorem goesOn_binaryLiteral (op : Op) (a : ValueOut) (b : Literal) : GoesOn (binaryLiteral op a b) := by
  unfold binaryLiteral
  exact goesOn_bind (by simp) fun _ => goesOn_bind (by simp) fun _ => goesOn_bind (by simp) fun _ => goesOn_pure _

@[simp] theorem goesOn_forLoop (initial : Int32) : GoesOn (forLoop initial) := by
  simp [forLoop]

@[simp] theorem goesOn_select (condition a b : ValueOut) : GoesOn (select condition a b) := by
  unfold select
  exact goesOn_bind (by simp) fun _ => goesOn_bind (by simp) fun _ => goesOn_bind (by simp) fun _ =>
    goesOn_bind (by simp) fun _ => goesOn_pure _

end Patterns

end Build

/-- A variable under a unique name is its own. -/
theorem Build.owns_declareUnique (c : Context) (stem : String) (initial : Option Literal) (type : ValueType) :
    Ensures (do declareVariable (← uniqueName stem) initial type) c fun id c' =>
      c'.Owns stem (c.number stem) id ∧ c.Later c' := by
  have declared := (uniqueName stem c).2.names_declareVariable (uniqueName stem c).1 initial type
  have later := (goesOn_declareVariable (uniqueName stem c).1 initial type (uniqueName stem c).2).1
  refine ⟨⟨declared.1, Nat.lt_of_lt_of_le ?_ (later.numbers stem)⟩, (goesOn_uniqueName stem c).1.trans later⟩
  rw [number_uniqueName, if_pos rfl]
  exact Nat.lt_succ_self _

/-- A step that goes on, before others. -/
theorem Context.Later.bind {α β : Type} {c c' : Context} {step : Build α} {next : α → Build β}
    {post : β → Context → Prop} (later : c.Later c') (goes : Build.GoesOn step)
    (others : ∀ a c'', c.Later c'' → Ensures (next a) c'' post) : Ensures (step >>= next) c' post :=
  others _ _ (later.trans (goes c').1)

/-- The counter of a loop is its own. -/
theorem Pattern.owns_steppedFor (c : Context) :
    Ensures steppedFor c fun loop c' => c'.Owns "ForLoopIndex" (c.number "ForLoopIndex") loop.counter ∧ c.Later c' := by
  have declared := Build.owns_declareUnique c "ForLoopIndex" (some (.int 0)) .int
  have named : Ensures (Build.uniqueName "ForLoopIndex") c fun name c₁ =>
      (name, c₁) = Build.uniqueName "ForLoopIndex" c := rfl
  refine named.bind fun name c₁ same => ?_
  have declared : Ensures (Build.declareVariable name (some (.int 0)) .int) c₁ fun id c' =>
      c'.Owns "ForLoopIndex" (c.number "ForLoopIndex") id ∧ c.Later c' := by
    obtain ⟨rfl, rfl⟩ := Prod.mk.inj same
    exact declared
  refine declared.bind fun counter c₂ ⟨owns, start⟩ => ?_
  have later := Context.Later.refl c₂
  iterate 15 refine later.bind (by simp) fun _ _ later => ?_
  exact .pure ⟨owns.later later, start.trans later⟩

end ScriptGraph
