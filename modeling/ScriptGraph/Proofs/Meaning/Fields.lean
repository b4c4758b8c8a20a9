import Mathlib
import ScriptGraph.Lower.Class
import ScriptGraph.Proofs.Construction.Sessions
import ScriptGraph.Proofs.Meaning.Values

/-!
Where a plain class starts: its fields with their first values, in memory and in the graph.
-/

namespace ScriptGraph

open Pattern Build

theorem HostType.scalar_of_valueType? {type : HostType} {t : ValueType} (typed : type.valueType? = some t) :
    type.elementType? = none ∧ type.isObject = false := by
  unfold valueType? at typed
  unfold elementType? isObject
  split at typed
  all_goals first
    | cases typed; done
    | next same => rw [same]; constructor <;> rfl

@[simp] theorem ValueType.valueType_default (t : ValueType) : t.default.valueType = t := by
  cases t <;> rfl

namespace Field

/-- The value that a field starts with: that of its initializer, or the default of its type. -/
def start? (f : Field) : Option Literal :=
  match f.initializer with
  | some e => e.evaluate? fun _ => none
  | none => f.fieldType.valueType?.map ValueType.default

/-- A field of a type that has no initializer or a literal of the type for one. -/
structure IsPlain (f : Field) (t : ValueType) : Prop where
  typed : f.fieldType.valueType? = some t
  literal : ∀ e ∈ f.initializer, ∃ constant value type,
    e = { kind := .literal, literal := some constant, resultType := type } ∧ constant.value? = some value ∧
      value.valueType = t

/-- What a plain field starts with is what is found for the variable. -/
theorem IsPlain.starts {f : Field} {t : ValueType} (plain : f.IsPlain t) :
    ∃ value, f.start? = some value ∧ value.valueType = t ∧
      (f.initializer.bind (·.constant? (some t))).getD t.default = value := by
  unfold start?
  cases initial : f.initializer with
  | none => exact ⟨t.default, by simp [plain.typed], t.valueType_default, rfl⟩
  | some e =>
    obtain ⟨constant, value, type, rfl, known, is⟩ := plain.literal e initial
    refine ⟨value, known, is, ?_⟩
    have converted : constant.toLiteral? (some t) = some value := by
      rw [Constant.toLiteral?, Constant.toLiteral_of_value? known is]
      rfl
    rw [Option.bind_some, Expression.constant?]
    simp only [Option.some_or, Option.bind_some, converted, Option.getD_some]

end Field

namespace ScriptClass

variable {cls : ScriptClass} {f : Field}

/-- The fields in memory, with what they start with. -/
def memory (cls : ScriptClass) : Memory := fun name => (cls.field? name).bind (·.start?)

/-- The fields in scope. -/
def fieldRoles (cls : ScriptClass) : Roles :=
  fun name => (cls.field? name).bind fun f => f.fieldType.valueType?.map .field

theorem field?_of_mem (distinct : (cls.fields.map (·.name)).Nodup) (member : f ∈ cls.fields) :
    cls.field? f.name = some f := by
  cases found : cls.field? f.name with
  | none => simpa using List.find?_eq_none.1 found f member
  | some g =>
    have same : g.name = f.name := by simpa using List.find?_some found
    rw [List.inj_on_of_nodup_map distinct (List.mem_of_find?_eq_some found) member same]

theorem mem_of_fieldRoles {name : String} {role : NameRole} (known : cls.fieldRoles name = some role) :
    ∃ f ∈ cls.fields, f.name = name ∧ ∃ t, f.fieldType.valueType? = some t ∧ role = .field t := by
  obtain ⟨f, found, typed⟩ := Option.bind_eq_some_iff.1 known
  obtain ⟨t, is, rfl⟩ := Option.map_eq_some_iff.1 typed
  exact ⟨f, List.mem_of_find?_eq_some found, by simpa using List.find?_some found, t, is, rfl⟩

/-- Fields have variables of their own. -/
theorem separate_fieldRoles (cls : ScriptClass) (method : String) : cls.fieldRoles.Separate method := by
  intro x y role role' place known known' stored stored'
  obtain ⟨_, _, _, t, _, rfl⟩ := mem_of_fieldRoles known
  obtain ⟨_, _, _, t', _, rfl⟩ := mem_of_fieldRoles known'
  exact Option.some.inj (stored.trans stored'.symm)

end ScriptClass

/-- The variables are those of the fields that were declared, and nothing else was made. -/
structure Lowering.Declares (s : Lowering) (declared : List Field) : Prop where
  listed : ∀ v ∈ s.context.graph.vars, ∃ f ∈ declared, f.name = v.name
  stored : ∀ f ∈ declared, ∃ (id : Nat) (v : Variable), s.fields.find? f.name = some id ∧
    s.context.graph.vars[id]? = some v ∧ v.name = f.name ∧ f.fieldType.valueType? = some v.valueType ∧
      v.initial = f.start?
  unmade : s.context.graph.nodes = #[]
  outside : s.frames = []

namespace Lower

variable {declared : List Field} {f : Field} {t : ValueType} {s : Lowering}

theorem ensures_declareField_plain (declares : s.Declares declared) (plain : f.IsPlain t)
    (new : ∀ g ∈ declared, g.name ≠ f.name) :
    Ensures (declareField f) s fun _ s' => s'.Declares (declared ++ [f]) ∧ s'.context.options = s.context.options := by
  obtain ⟨scalar, value⟩ := HostType.scalar_of_valueType? plain.typed
  obtain ⟨initial, starts, _, found⟩ := plain.starts
  have unknown : s.context.variableId? f.name = none := by
    refine Array.findIdx?_eq_none_iff.2 fun v member => ?_
    obtain ⟨g, there, same⟩ := declares.listed v member
    simpa [same] using new g there
  have declaration := declareVariable_of_new (some initial) t unknown
  unfold declareField
  rw [scalar]
  dsimp only
  rw [value, plain.typed]
  dsimp only
  rw [found]
  have declared : Ensures (declareVariable f.name (some initial) t) s.context fun id c => (id, c) = _ := declaration
  refine .liftBind declared ?_
  rintro id c same
  obtain ⟨rfl, rfl⟩ := Prod.mk.inj same
  refine .modifyBind (.pure ⟨⟨fun v member => ?_, fun g member => ?_, declares.unmade, declares.outside⟩, rfl⟩)
  · rcases Array.mem_push.1 member with old | rfl
    · obtain ⟨g, there, same⟩ := declares.listed v old
      exact ⟨g, List.mem_append_left _ there, same⟩
    · exact ⟨f, by simp, rfl⟩
  · rcases List.mem_append.1 member with old | own
    · obtain ⟨id, v, known, there, same⟩ := declares.stored g old
      have inside := (Array.getElem?_eq_some_iff.1 there).1
      refine ⟨id, v, ?_, ?_, same⟩
      · rw [Dict.find?_insert, if_neg (new g old), known]
      · exact (Array.getElem?_push_lt inside).trans ((Array.getElem?_eq_getElem inside).symm.trans there)
    · obtain rfl := List.mem_singleton.1 own
      exact ⟨_, _, by rw [Dict.find?_insert, if_pos rfl], Array.getElem?_push_size, rfl, plain.typed, starts.symm⟩

theorem ensures_declareAll_plain (fields : List Field) {declared : List Field} {s : Lowering}
    (declares : s.Declares declared) (plain : ∀ f ∈ fields, ∃ t, f.IsPlain t)
    (distinct : ((declared ++ fields).map (·.name)).Nodup) :
    Ensures (declareAll fields) s fun _ s' =>
      s'.Declares (declared ++ fields) ∧ s'.context.options = s.context.options := by
  induction fields generalizing declared s with
  | nil => exact .pure ⟨by rwa [List.append_nil], rfl⟩
  | cons f fields ih =>
    obtain ⟨t, first⟩ := plain f List.mem_cons_self
    have new (g : Field) (member : g ∈ declared) : g.name ≠ f.name := by
      rw [List.map_append, List.map_cons, List.nodup_append] at distinct
      exact distinct.2.2 _ (List.mem_map_of_mem member) _ List.mem_cons_self
    refine (ensures_declareField_plain declares first new).bind fun _ s₁ ⟨declares, options⟩ => ?_
    have distinct : (((declared ++ [f]) ++ fields).map (·.name)).Nodup := by rwa [List.append_assoc]
    refine (ih declares (fun g member => plain g (List.mem_cons_of_mem _ member)) distinct).mono ?_
    intro _ s₂ ⟨declares, options'⟩
    exact ⟨by rwa [List.append_assoc] at declares, options'.trans options⟩

end Lower

namespace Lowering.Declares

variable {cls : ScriptClass} {s : Lowering} {name : String} {t : ValueType}

/-- Where the fields are read. -/
def layout (s : Lowering) : Layout := fun name => .variable ((s.fields.find? name).getD 0)

/-- The fields in scope of a method that starts have their places. -/
theorem houses (declares : s.Declares cls.fields) (method : String) (c : Context) (rows : s.context.KeepsRows c) :
    ({ s with context := c, frames := [{ method }] } : Lowering).Houses method cls.fieldRoles (layout s) where
  opened := ⟨_, [], rfl, rfl⟩
  separate := cls.separate_fieldRoles method
  reads name role known := by
    obtain ⟨f, member, rfl, _⟩ := ScriptClass.mem_of_fieldRoles known
    obtain ⟨id, _, found, _⟩ := declares.stored f member
    have written : Lowering.written? { s with context := c, frames := [{ method }] } f.name = some id := found
    rw [Lowering.reading?_of_written? rfl written, layout, found, Option.getD_some]
  stored name role place known stored := by
    obtain ⟨f, member, rfl, t, _, rfl⟩ := ScriptClass.mem_of_fieldRoles known
    obtain ⟨id, v, found, there, named, _⟩ := declares.stored f member
    obtain rfl := Option.some.inj stored
    refine ⟨id, by rw [layout, found, Option.getD_some], ?_⟩
    rw [Context.Names, rows id v there, Option.map_some, named]
  counted name known := by
    obtain ⟨_, _, _, _, _, same⟩ := ScriptClass.mem_of_fieldRoles known
    cases same

end Lowering.Declares

/-- A state in which a graph starts: the variables have their initial values. -/
def Graph.Starts (g : Graph) (σ : Store) : Prop :=
  ∀ (id : Nat) v value, g.vars[id]? = some v → v.initial = some value → σ.vars (.ofNat id) = value

/-- A graph may start, in a state that has the initial values. -/
theorem Graph.exists_starts {g : Graph} (roomy : g.vars.size ≤ 0x100000000) : ∃ σ, g.Starts σ := by
  let initial (i : Int32) : Literal := ((g.vars[i.toBitVec.toNat]?).bind (·.initial)).getD (.int 0)
  refine ⟨{ vars := initial, counters := fun _ => 0, world := fun _ _ => none }, fun id v value found starts => ?_⟩
  have below : id < 0x100000000 := Nat.lt_of_lt_of_le (Array.getElem?_eq_some_iff.1 found).1 roomy
  have number : (Int32.ofNat id).toBitVec.toNat = id := by
    rw [Int32.toBitVec_ofNat', BitVec.toNat_ofNat, Nat.mod_eq_of_lt below]
  show initial (.ofNat id) = value
  dsimp only [initial]
  rw [number, found, Option.bind_some, starts, Option.getD_some]

/-- When a graph starts, its variables agree with the fields in memory. -/
theorem Lowering.Declares.holds {cls : ScriptClass} {s : Lowering} (declares : s.Declares cls.fields)
    (distinct : (cls.fields.map (·.name)).Nodup) (plain : ∀ f ∈ cls.fields, ∃ t, f.IsPlain t) {g : Graph}
    (rows : ∀ (id : Nat) v, s.context.graph.vars[id]? = some v → g.vars[id]? = some v) {σ : Store}
    (starts : g.Starts σ) : (layout s).Holds cls.fieldRoles cls.memory σ := by
  intro name role known
  obtain ⟨f, member, rfl, t, typed, rfl⟩ := ScriptClass.mem_of_fieldRoles known
  obtain ⟨t', isPlain⟩ := plain f member
  obtain rfl := Option.some.inj (isPlain.typed.symm.trans typed)
  obtain ⟨value, start, is, _⟩ := isPlain.starts
  obtain ⟨id, v, found, there, _, _, initial⟩ := declares.stored f member
  refine ⟨value, ?_, is, ?_⟩
  · rw [ScriptClass.memory, ScriptClass.field?_of_mem distinct member, Option.bind_some, start]
  · rw [layout, found, Option.getD_some]
    exact starts id v value (rows id v there) (initial.trans start)

end ScriptGraph
