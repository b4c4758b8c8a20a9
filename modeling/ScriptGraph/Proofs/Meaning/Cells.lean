import Mathlib
import ScriptGraph.Proofs.Construction.Names
import ScriptGraph.Proofs.Lower.Scopes.Statements
import ScriptGraph.Proofs.Meaning.PlainCode
import ScriptGraph.Proofs.Runtime.Assignments

/-!
Where the values of names are while a graph runs.

A name is read as a variable, or as the output of a loop node that counts. No two names in scope share a variable, so
that a write is seen by the name it is for and by no other. What is housed stays housed: lowering leaves the variables
as they are, and a name that goes out of scope leaves the others where they are.
-/

namespace ScriptGraph

open Pattern Build

/-- What every name is read as. -/
abbrev Layout := String → Meaning

/-- The value of a name is found where the name is read. -/
def Meaning.Holds (σ : Store) : Meaning → Literal → Prop
  | .variable id, held => σ.vars (.ofNat id) = held
  | .value output, held => held = .int (σ.counters output.address.node)

namespace Layout

/-- One more name is read. -/
def having (layout : Layout) (name : String) (meaning : Meaning) : Layout := Function.update layout name meaning

@[simp] theorem having_self {layout : Layout} {name : String} {meaning : Meaning} :
    layout.having name meaning name = meaning :=
  Function.update_self ..

theorem having_of_ne {layout : Layout} {name other : String} {meaning : Meaning} (different : other ≠ name) :
    layout.having name meaning other = layout other :=
  Function.update_of_ne different ..

/-- Every name in scope has a value of its type, and this is found where the name is read. -/
def Holds (layout : Layout) (roles : Roles) (m : Memory) (σ : Store) : Prop :=
  ∀ name role, roles name = some role →
    ∃ value, m name = some value ∧ value.valueType = role.type ∧ (layout name).Holds σ value

theorem Holds.fits {layout : Layout} {roles : Roles} {m : Memory} {σ : Store} (holds : layout.Holds roles m σ) :
    m.Fits roles := by
  intro name role known
  obtain ⟨value, held, typed, _⟩ := holds name role known
  exact ⟨value, held, typed⟩

end Layout

namespace Context

/-- The numbers of variables are not used up. -/
def Roomy (c : Context) : Prop := c.graph.vars.size ≤ 0x100000000

theorem KeepsRows.size_le {c c' : Context} (keeps : c.KeepsRows c') : c.graph.vars.size ≤ c'.graph.vars.size := by
  by_contra fewer
  have inside : c.graph.vars.size - 1 < c.graph.vars.size := by omega
  have still := keeps _ _ (Array.getElem?_eq_getElem inside)
  have below := (Array.getElem?_eq_some_iff.1 still).1
  omega

theorem KeepsRows.roomy {c c' : Context} (keeps : c.KeepsRows c') (roomy : c'.Roomy) : c.Roomy :=
  Nat.le_trans keeps.size_le roomy

/-- Variables with different names have different numbers at runtime. -/
theorem Roomy.ofNat_ne {c : Context} (roomy : c.Roomy) {id id' : Nat} {name name' : String} (named : c.Names id name)
    (named' : c.Names id' name') (different : name ≠ name') : Int32.ofNat id ≠ Int32.ofNat id' := by
  intro same
  have below : id < 0x100000000 := Nat.lt_of_lt_of_le named.lt roomy
  have below' : id' < 0x100000000 := Nat.lt_of_lt_of_le named'.lt roomy
  have bits := congrArg (fun i : Int32 => i.toBitVec.toNat) same
  simp only [Int32.toBitVec_ofNat', BitVec.toNat_ofNat] at bits
  rw [Nat.mod_eq_of_lt below, Nat.mod_eq_of_lt below'] at bits
  subst bits
  exact different (named.unique named')

end Context

/-- A step of construction that leaves the variables as they are. -/
theorem Ensures.keeping {α : Type} {c : Context} {step : Build α} {post : α → Context → Prop}
    (ensures : Ensures step c post) (goes : Build.GoesOn step) :
    Ensures step c fun a c' => post a c' ∧ c.KeepsRows c' :=
  ⟨ensures, (goes c).2⟩

/-- The names in scope have their places while a method is lowered. -/
structure Lowering.Houses (s : Lowering) (method : String) (roles : Roles) (layout : Layout) : Prop where
  opened : ∃ frame rest, s.frames = frame :: rest ∧ frame.method = method
  separate : roles.Separate method
  reads : ∀ name role, roles name = some role → s.reading? name = some (layout name)
  stored : ∀ name role place, roles name = some role → role.storage? method name = some place →
    ∃ id, layout name = .variable id ∧ s.context.Names id place
  counted : ∀ name, roles name = some .counter → ∃ output, layout name = .value output

namespace NameRole

/-- What is not a counter is stored. -/
theorem storage?_of_ne {role : NameRole} (writable : role ≠ .counter) (method name : String) :
    ∃ place, role.storage? method name = some place := by
  cases role with
  | counter => exact absurd rfl writable
  | _ => exact ⟨_, rfl⟩

end NameRole

namespace Lowering

variable {s s' : Lowering} {method name : String} {roles : Roles} {layout : Layout} {role : NameRole}

/-- A name that is read as a variable is not bound, and writes the variable. -/
theorem written?_of_reading? {id : Nat} (reads : s.reading? name = some (.variable id)) :
    s.bound? name = none ∧ s.written? name = some id := by
  unfold reading? at reads
  split at reads
  · cases reads
  · next unbound =>
    obtain ⟨found, written, same⟩ := Option.map_eq_some_iff.1 reads
    cases same
    exact ⟨unbound, written⟩

theorem reading?_of_written? {id : Nat} (unbound : s.bound? name = none) (written : s.written? name = some id) :
    s.reading? name = some (.variable id) := by
  rw [reading?, unbound, written]
  rfl

theorem reading?_of_bound? {output : ValueOut} (bound : s.bound? name = some output) :
    s.reading? name = some (.value output) := by
  rw [reading?, bound]

/-- What a name is read as depends on the innermost frame and the fields. -/
theorem reading?_congr (frames : s'.frames = s.frames) (fields : s'.fields = s.fields) :
    s'.reading? name = s.reading? name := by
  rw [reading?, reading?, bound?, bound?, written?, written?, frames, fields]

namespace Houses

/-- A name that may be written has a variable. -/
theorem cell (houses : s.Houses method roles layout) (known : roles name = some role)
    (writable : role ≠ .counter) :
    ∃ id place, layout name = .variable id ∧ role.storage? method name = some place ∧ s.context.Names id place := by
  obtain ⟨place, stored⟩ := NameRole.storage?_of_ne writable method name
  obtain ⟨id, meaning, named⟩ := houses.stored name role place known stored
  exact ⟨id, place, meaning, stored, named⟩

/-- What is read as a value is a counter. -/
theorem counter (houses : s.Houses method roles layout) {output : ValueOut} (known : roles name = some role)
    (meaning : layout name = .value output) : role = .counter := by
  by_contra writable
  obtain ⟨id, _, stored, _⟩ := houses.cell known writable
  cases meaning.symm.trans stored

/-- What is read as before, from variables that stay as they are. -/
theorem transport (houses : s.Houses method roles layout)
    (opened : ∃ frame rest, s'.frames = frame :: rest ∧ frame.method = method)
    (reads : ∀ name role, roles name = some role → s'.reading? name = s.reading? name)
    (rows : s.context.KeepsRows s'.context) : s'.Houses method roles layout where
  opened := opened
  separate := houses.separate
  reads name role known := (reads name role known).trans (houses.reads name role known)
  stored name role place known stored := by
    obtain ⟨id, meaning, named⟩ := houses.stored name role place known stored
    exact ⟨id, meaning, rows.names id place named⟩
  counted := houses.counted

/-- Steps that leave the names of the method and the variables alone. -/
theorem grow (houses : s.Houses method roles layout) (frames : s'.frames = s.frames) (fields : s'.fields = s.fields)
    (rows : s.context.KeepsRows s'.context) : s'.Houses method roles layout :=
  houses.transport (frames ▸ houses.opened) (fun _ _ _ => reading?_congr frames fields) rows

/-- A step of construction. -/
theorem advance (houses : s.Houses method roles layout) {c : Context} (rows : s.context.KeepsRows c) :
    ({ s with context := c } : Lowering).Houses method roles layout :=
  houses.grow rfl rfl rows

/-- A name comes into scope, and the others are read as before. -/
theorem widen {meaning : Meaning} (houses : s.Houses method roles layout)
    (separate : (roles.having name role).Separate method)
    (opened : ∃ frame rest, s'.frames = frame :: rest ∧ frame.method = method)
    (rows : s.context.KeepsRows s'.context) (reads : s'.reading? name = some meaning)
    (others : ∀ other, other ≠ name → s'.reading? other = s.reading? other)
    (stored : ∀ place, role.storage? method name = some place →
      ∃ id, meaning = .variable id ∧ s'.context.Names id place)
    (counted : role = .counter → ∃ output, meaning = .value output) :
    s'.Houses method (roles.having name role) (layout.having name meaning) where
  opened := opened
  separate := separate
  reads other role' known := by
    by_cases own : other = name
    · rw [own, reads, Layout.having_self]
    · rw [Roles.having_of_ne own] at known
      rw [others other own, Layout.having_of_ne own, houses.reads other role' known]
  stored other role' place known placed := by
    by_cases own : other = name
    · subst own
      obtain rfl := Option.some.inj (Roles.having_self.symm.trans known)
      rw [Layout.having_self]
      exact stored place placed
    · rw [Roles.having_of_ne own] at known
      obtain ⟨id, read, named⟩ := houses.stored other role' place known placed
      exact ⟨id, (Layout.having_of_ne own).trans read, rows.names id place named⟩
  counted other known := by
    by_cases own : other = name
    · subst own
      rw [Layout.having_self]
      exact counted (Option.some.inj (Roles.having_self.symm.trans known))
    · rw [Roles.having_of_ne own] at known
      rw [Layout.having_of_ne own]
      exact houses.counted other known

/-- A name goes out of scope. -/
theorem narrow {meaning : Meaning} (houses : s.Houses method (roles.having name role) (layout.having name meaning))
    (fresh : roles name = none) : s.Houses method roles layout := by
  have older {other : String} {role' : NameRole} (known : roles other = some role') : other ≠ name :=
    Roles.ne_of_fresh fresh known
  have wider {other : String} {role' : NameRole} (known : roles other = some role') :
      roles.having name role other = some role' := by rwa [Roles.having_of_ne (older known)]
  have same {other : String} {role' : NameRole} (known : roles other = some role') :
      layout.having name meaning other = layout other := Layout.having_of_ne (older known)
  exact
    { opened := houses.opened
      separate := fun x y role role' place known known' =>
        houses.separate x y role role' place (wider known) (wider known')
      reads := fun other role' known => same known ▸ houses.reads other role' (wider known)
      stored := fun other role' place known => same known ▸ houses.stored other role' place (wider known)
      counted := fun other known => same known ▸ houses.counted other (wider known) }

/-- No other name in scope is read as the variable of a name. -/
theorem ne (houses : s.Houses method roles layout) (roomy : s.context.Roomy) {other : String} {role' : NameRole}
    (known : roles name = some role) (known' : roles other = some role') (different : other ≠ name) {id id' : Nat}
    (meaning : layout name = .variable id) (meaning' : layout other = .variable id') :
    Int32.ofNat id' ≠ Int32.ofNat id := by
  have writable {x : String} {r : NameRole} {i : Nat} (known : roles x = some r) (meaning : layout x = .variable i) :
      r ≠ .counter := by
    rintro rfl
    obtain ⟨output, counted⟩ := houses.counted x known
    cases counted.symm.trans meaning
  obtain ⟨found, place, found_eq, stored, named⟩ := houses.cell known (writable known meaning)
  obtain ⟨found', place', found_eq', stored', named'⟩ := houses.cell known' (writable known' meaning')
  cases found_eq.symm.trans meaning
  cases found_eq'.symm.trans meaning'
  refine roomy.ofNat_ne named' named ?_
  rintro rfl
  exact different (houses.separate other name role' role place' known' known stored' stored)

end Houses

end Lowering

namespace Layout.Holds

variable {layout : Layout} {roles : Roles} {m : Memory} {σ : Store} {s : Lowering} {method name : String}
  {role : NameRole} {value : Literal}

/-- A write is seen by its name and by no other. -/
theorem write {id : Nat} (houses : s.Houses method roles layout) (roomy : s.context.Roomy)
    (known : roles name = some role) (meaning : layout name = .variable id) (typed : value.valueType = role.type)
    (others : ∀ other role', roles other = some role' → other ≠ name →
      ∃ value, m other = some value ∧ value.valueType = role'.type ∧ (layout other).Holds σ value) :
    layout.Holds roles (m.put name value) (σ.write (.ofNat id) value) := by
  intro other role' known'
  by_cases own : other = name
  · subst own
    obtain rfl : role = role' := Option.some.inj (known.symm.trans known')
    refine ⟨value, m.put_self other value, typed, ?_⟩
    rw [meaning]
    exact σ.vars_write_self _ _
  · obtain ⟨held, there, typed', holds⟩ := others other role' known' own
    refine ⟨held, (m.put_of_ne name value own).trans there, typed', ?_⟩
    cases meaning' : layout other with
    | value output =>
      rw [meaning'] at holds
      exact holds
    | «variable» id' =>
      rw [meaning'] at holds
      have different := houses.ne roomy known known' own meaning meaning'
      exact (σ.vars_write_of_ne _ _ _ different).trans holds

/-- A new local. -/
theorem declare {id : Nat} {type : ValueType} (holds : layout.Holds roles m σ)
    (houses : s.Houses method (roles.having name (.local type)) (layout.having name (.variable id)))
    (roomy : s.context.Roomy) (typed : value.valueType = type) :
    (layout.having name (.variable id)).Holds (roles.having name (.local type)) (m.put name value)
      (σ.write (.ofNat id) value) := by
  refine write houses roomy Roles.having_self Layout.having_self typed fun other role' known different => ?_
  rw [Roles.having_of_ne different] at known
  rw [Layout.having_of_ne different]
  exact holds other role' known

/-- The counter of a loop node is set. -/
theorem count {output : ValueOut} (holds : layout.Holds roles m σ)
    (others : ∀ other role output', roles other = some role → layout other = .value output' →
      output'.address.node ≠ output.address.node) (i : Int32) :
    (layout.having name (.value output)).Holds (roles.having name .counter) (m.put name (.int i))
      (σ.count output.address.node i) := by
  intro other role' known
  by_cases own : other = name
  · subst own
    rw [Roles.having_self] at known
    cases known
    refine ⟨_, m.put_self other _, rfl, ?_⟩
    rw [Layout.having_self]
    exact congrArg Literal.int (σ.counters_count_self _ i).symm
  · rw [Roles.having_of_ne own] at known
    obtain ⟨held, there, typed, holds⟩ := holds other role' known
    refine ⟨held, (m.put_of_ne name _ own).trans there, typed, ?_⟩
    rw [Layout.having_of_ne own]
    cases meaning : layout other with
    | «variable» id =>
      rw [meaning] at holds
      exact holds
    | value output' =>
      rw [meaning] at holds
      have different := others other role' output' known meaning
      have same : (σ.count output.address.node i).counters output'.address.node =
          σ.counters output'.address.node := Function.update_of_ne different ..
      exact holds.trans (congrArg Literal.int same.symm)

/-- A name goes out of scope. -/
theorem narrow {meaning : Meaning} (holds : (layout.having name meaning).Holds (roles.having name role) m σ)
    (fresh : roles name = none) : layout.Holds roles m σ := by
  intro other role' known
  have different := Roles.ne_of_fresh fresh known
  obtain ⟨value, held, typed, holds⟩ := holds other role' (by rwa [Roles.having_of_ne different])
  rw [Layout.having_of_ne different] at holds
  exact ⟨value, held, typed, holds⟩

end Layout.Holds

end ScriptGraph
