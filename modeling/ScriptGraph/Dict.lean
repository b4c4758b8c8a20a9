/-!
Dictionaries keyed by names, kept in the order of their keys.

The entries are strictly ascending, so two dictionaries with the same lookups are equal and every
listing comes in one order. `find?_update` says what a write does to every lookup.
-/

namespace ScriptGraph

/-- Entries in strictly ascending order of their keys. -/
def Ascending {α : Type} (entries : List (String × α)) : Prop :=
  entries.Pairwise fun a b => a.1 < b.1

/-- A finite map from names, listed in ascending order. -/
structure Dict (α : Type) where
  entries : List (String × α)
  ascending : Ascending entries
deriving DecidableEq

namespace Dict

variable {α β : Type}

/-- The first entry for a key. -/
def lookup (key : String) : List (String × α) → Option α
  | [] => none
  | (name, value) :: rest => if name = key then some value else lookup key rest

/-- Changes the entry of a key, or makes one at its place in the order. -/
def updateEntries (key : String) (f : Option α → α) : List (String × α) → List (String × α)
  | [] => [(key, f none)]
  | (name, value) :: rest =>
    if key < name then (key, f none) :: (name, value) :: rest
    else if key = name then (key, f (some value)) :: rest
    else (name, value) :: updateEntries key f rest

theorem mem_updateEntries {key : String} {f : Option α → α} {entries : List (String × α)}
    {e : String × α} (member : e ∈ updateEntries key f entries) :
    e.1 = key ∨ e ∈ entries := by
  induction entries with
  | nil => simp_all [updateEntries]
  | cons head rest ih =>
    obtain ⟨name, value⟩ := head
    rw [updateEntries] at member
    split at member
    · rcases List.mem_cons.1 member with rfl | old
      · exact .inl rfl
      · exact .inr old
    · split at member
      · rcases List.mem_cons.1 member with rfl | old
        · exact .inl rfl
        · exact .inr (List.mem_cons_of_mem _ old)
      · rcases List.mem_cons.1 member with rfl | old
        · exact .inr List.mem_cons_self
        · exact (ih old).imp_right (List.mem_cons_of_mem _)

theorem ascending_updateEntries {key : String} {f : Option α → α} {entries : List (String × α)}
    (ascending : Ascending entries) : Ascending (updateEntries key f entries) := by
  induction entries with
  | nil => simp [updateEntries, Ascending]
  | cons head rest ih =>
    obtain ⟨name, value⟩ := head
    obtain ⟨above, tail⟩ := List.pairwise_cons.1 ascending
    rw [updateEntries]
    split
    · next below =>
      refine List.pairwise_cons.2 ⟨fun e member => ?_, ascending⟩
      rcases List.mem_cons.1 member with rfl | later
      · exact below
      · exact String.lt_trans below (above e later)
    · split
      · next same => exact List.pairwise_cons.2 ⟨fun e member => same ▸ above e member, tail⟩
      · next notBelow different =>
        refine List.pairwise_cons.2 ⟨fun e member => ?_, ih tail⟩
        rcases mem_updateEntries member with new | old
        · exact new ▸ Std.lt_of_le_of_ne (String.not_lt.1 notBelow) (Ne.symm different)
        · exact above e old

theorem lookup_eq_none_of_below {key : String} {entries : List (String × α)}
    (below : ∀ e ∈ entries, key < e.1) : lookup key entries = none := by
  induction entries with
  | nil => rfl
  | cons e rest ih =>
    have first := below e List.mem_cons_self
    have different : e.1 ≠ key := fun same => String.lt_irrefl key (by rwa [same] at first)
    rw [lookup, if_neg different]
    exact ih fun later member => below later (List.mem_cons_of_mem _ member)

theorem lookup_updateEntries (key other : String) (f : Option α → α)
    {entries : List (String × α)} (ascending : Ascending entries) :
    lookup other (updateEntries key f entries) =
      if other = key then some (f (lookup key entries)) else lookup other entries := by
  induction entries with
  | nil => by_cases same : key = other <;> simp [updateEntries, lookup, same, Ne.symm]
  | cons head rest ih =>
    obtain ⟨name, value⟩ := head
    obtain ⟨above, tail⟩ := List.pairwise_cons.1 ascending
    rw [updateEntries]
    split
    · next below =>
      have absent : lookup key ((name, value) :: rest) = none :=
        lookup_eq_none_of_below fun e member => by
          rcases List.mem_cons.1 member with rfl | later
          · exact below
          · exact String.lt_trans below (above e later)
      by_cases same : other = key
      · subst same; rw [absent, lookup, if_pos rfl, if_pos rfl]
      · rw [lookup, if_neg (Ne.symm same), if_neg same]
    · split
      · next same =>
        subst same
        by_cases h : other = key
        · subst h; simp [lookup]
        · rw [lookup, if_neg (Ne.symm h), if_neg h, lookup, if_neg (Ne.symm h)]
      · next different =>
        by_cases same : name = other
        · have apart : other ≠ key := fun h => different (h ▸ same.symm)
          simp [lookup, same, apart]
        · simp only [lookup, if_neg same, if_neg (Ne.symm different), ih tail]

/-- The dictionary without entries. -/
def empty : Dict α := ⟨[], .nil⟩

instance : EmptyCollection (Dict α) := ⟨empty⟩

instance : Inhabited (Dict α) := ⟨empty⟩

/-- The value stored for a key. -/
def find? (d : Dict α) (key : String) : Option α := lookup key d.entries

/-- Whether a key has a value. -/
def contains (d : Dict α) (key : String) : Bool := (d.find? key).isSome

/-- Changes the value of a key by `f`, which sees the old one if there is one. -/
def update (d : Dict α) (key : String) (f : Option α → α) : Dict α :=
  ⟨updateEntries key f d.entries, ascending_updateEntries d.ascending⟩

/-- Stores a value for a key. -/
def insert (d : Dict α) (key : String) (value : α) : Dict α := d.update key fun _ => value

/-- Forgets the value of a key. -/
def erase (d : Dict α) (key : String) : Dict α :=
  ⟨d.entries.filter (·.1 ≠ key), d.ascending.filter _⟩

/-- The keys in ascending order. -/
def keys (d : Dict α) : List String := d.entries.map (·.1)

/-- Changes every value. -/
def map (f : α → β) (d : Dict α) : Dict β :=
  ⟨d.entries.map fun e => (e.1, f e.2), by
    simpa only [Ascending, List.pairwise_map] using d.ascending⟩

/-- Stores the entries of a list, a later one replacing an earlier one. -/
def ofList (entries : List (String × α)) : Dict α :=
  entries.foldl (fun d e => d.insert e.1 e.2) empty

@[simp] theorem find?_empty (key : String) : (empty : Dict α).find? key = none := rfl

theorem find?_update (d : Dict α) (key other : String) (f : Option α → α) :
    (d.update key f).find? other =
      if other = key then some (f (d.find? key)) else d.find? other :=
  lookup_updateEntries key other f d.ascending

theorem find?_insert (d : Dict α) (key other : String) (value : α) :
    (d.insert key value).find? other = if other = key then some value else d.find? other :=
  find?_update d key other _

theorem find?_erase (d : Dict α) (key other : String) :
    (d.erase key).find? other = if other = key then none else d.find? other := by
  obtain ⟨entries, ascending⟩ := d
  simp only [find?, erase]
  clear ascending
  induction entries with
  | nil => simp [lookup]
  | cons head rest ih =>
    obtain ⟨name, value⟩ := head
    by_cases gone : name = key
    · subst gone
      by_cases same : other = name
      · simp_all
      · simp_all [lookup, Ne.symm same]
    · by_cases same : name = other
      · subst same; simp [lookup, gone]
      · simp_all [lookup]

theorem find?_map (f : α → β) (d : Dict α) (key : String) :
    (d.map f).find? key = (d.find? key).map f := by
  obtain ⟨entries, ascending⟩ := d
  simp only [find?, map]
  clear ascending
  induction entries with
  | nil => rfl
  | cons head rest ih =>
    by_cases same : head.1 = key <;> simp_all [lookup]

end Dict

/-- A finite set of names, listed in ascending order. -/
abbrev NameSet := Dict Unit

namespace NameSet

/-- The set with one more name. -/
def add (s : NameSet) (name : String) : NameSet := s.insert name ()

/-- The set of the names of a list. -/
def ofNames (names : List String) : NameSet := names.foldl add Dict.empty

end NameSet

end ScriptGraph
