import ScriptGraph.Proofs.Runtime.Execution

/-!
Lists in the variables of a running graph.

A list is the contents of its first slots, as many as its count says. Its operations write one slot at a time,
by way of two variables for the work; shifting all elements from a place on is doing that for one after the
other, from the end downwards to make room and upwards to close a gap.
-/

namespace ScriptGraph

open Pattern

/-- States that differ in the given variables at most. -/
structure Store.SameOff (own : List Int32) (σ σ' : Store) : Prop where
  vars : ∀ id, id ∉ own → σ'.vars id = σ.vars id
  counters : σ'.counters = σ.counters
  world : σ'.world = σ.world

namespace Store.SameOff

variable {own : List Int32} {σ μ τ : Store}

theorem refl (own : List Int32) (σ : Store) : SameOff own σ σ := ⟨fun _ _ => rfl, rfl, rfl⟩

theorem trans (first : SameOff own σ μ) (second : SameOff own μ τ) : SameOff own σ τ where
  vars id outside := (second.vars id outside).trans (first.vars id outside)
  counters := second.counters.trans first.counters
  world := second.world.trans first.world

theorem mono {own' : List Int32} (same : SameOff own σ μ) (fewer : own ⊆ own') : SameOff own' σ μ :=
  { same with vars := fun id outside => same.vars id fun member => outside (fewer member) }

theorem write (same : SameOff own σ μ) {id : Int32} (member : id ∈ own) (x : Literal) :
    SameOff own σ (μ.write id x) where
  vars other outside := by
    have different : other ≠ id := fun equal => outside (equal ▸ member)
    rw [Store.vars_write_of_ne _ _ _ _ different, same.vars other outside]
  counters := same.counters
  world := same.world

end Store.SameOff

/-- The variables of a list, as a runtime knows them. -/
structure Cells where
  slots : List Int32
  count : Int32
  capacity : Int32
  /-- The variable of the index to write. -/
  index : Int32
  /-- The variable of the value to write. -/
  value : Int32
  cursor : Int32

/-- The variables of a list. -/
def Pattern.BoundedList.cells (l : BoundedList) : Cells where
  slots := l.slots.map .ofNat
  count := .ofNat l.count
  capacity := .ofNat l.capacityId
  index := .ofNat l.currentIndex
  value := .ofNat l.valueToSet
  cursor := .ofNat l.cursor

namespace Cells

/-- The variables that a write of an element changes. -/
def work (k : Cells) : List Int32 := k.index :: k.value :: k.slots

/-- All variables of a list. -/
def all (k : Cells) : List Int32 := k.count :: k.capacity :: k.cursor :: k.work

/-- The variables that change while room is made at a place. -/
def above (k : Cells) (i : Nat) : List Int32 := k.cursor :: k.index :: k.value :: k.slots.drop (i + 1)

theorem moving_subset (k : Cells) : k.cursor :: k.work ⊆ k.all := by simp [all]

theorem work_subset (k : Cells) : k.work ⊆ k.all := fun _ member => by simp [all, member]

theorem above_subset (k : Cells) (i : Nat) : k.above i ⊆ k.cursor :: k.work := by
  have slots := List.drop_subset (i + 1) k.slots
  rw [above, work]
  exact List.cons_subset_cons _ (List.cons_subset_cons _ (List.cons_subset_cons _ slots))

theorem above_subset_all (k : Cells) (i : Nat) : k.above i ⊆ k.all :=
  fun _ member => moving_subset k (above_subset k i member)

/-- The variable of the slot with a given number. -/
def slot (k : Cells) (j : Nat) : Int32 := k.slots.getD j 0

theorem getElem?_slots {k : Cells} {j : Nat} (inside : j < k.slots.length) : k.slots[j]? = some (k.slot j) := by
  rw [slot, List.getD_eq_getElem?_getD, List.getElem?_eq_getElem inside, Option.getD_some]

/-- The variables of a list are different, and its slots can be numbered. -/
structure Sound (k : Cells) : Prop where
  short : k.slots.length < 2147483648
  apart : k.all.Nodup

/-- The state after a value was written into a slot by way of the variables for the work. -/
def put (k : Cells) (σ : Store) (j : Nat) (x : Literal) : Store :=
  ((σ.write k.index (.int (.ofNat j))).write k.value x).write (k.slot j) x

section Slots

variable {k : Cells} {σ : Store} {j m : Nat} {x : Literal}

theorem slot_mem (inside : j < k.slots.length) : k.slot j ∈ k.slots := List.mem_of_getElem? (getElem?_slots inside)

theorem Sound.slot_inj (sound : k.Sound) (first : j < k.slots.length) (second : m < k.slots.length)
    (same : k.slot j = k.slot m) : j = m := by
  have nodup : k.slots.Nodup := sound.apart.sublist (List.sublist_append_right [_, _, _, _, _] k.slots)
  have found : k.slots[j]? = k.slots[m]? := by rw [getElem?_slots first, getElem?_slots second, same]
  exact (List.getElem?_inj first nodup).1 found

/-- The variables for the work are no slots, and not the same. -/
theorem Sound.index_ne (sound : k.Sound) : k.index ∉ k.value :: k.slots :=
  (List.nodup_cons.1 (sound.apart.sublist (List.sublist_append_right [_, _, _] k.work))).1

theorem Sound.notMem_work (sound : k.Sound) {id : Int32} (kept : id ∈ [k.count, k.capacity, k.cursor]) :
    id ∉ k.work :=
  fun member => (List.nodup_append.1 (sound.apart : ([_, _, _] ++ k.work).Nodup)).2.2 id kept id member rfl

theorem Sound.notMem_cursor (sound : k.Sound) {id : Int32} (kept : id ∈ [k.count, k.capacity]) :
    id ∉ k.cursor :: k.work :=
  fun member => (List.nodup_append.1 (sound.apart : ([_, _] ++ k.cursor :: k.work).Nodup)).2.2 id kept id member rfl

theorem Sound.ne_slot (sound : k.Sound) {id : Int32}
    (own : id ∈ [k.count, k.capacity, k.cursor, k.index, k.value]) (inside : j < k.slots.length) : id ≠ k.slot j :=
  (List.nodup_append.1 (sound.apart : ([_, _, _, _, _] ++ k.slots).Nodup)).2.2 id own _ (slot_mem inside)

theorem sameOff_put (inside : j < k.slots.length) : Store.SameOff k.work σ (k.put σ j x) :=
  (((Store.SameOff.refl _ σ).write (by simp [work]) _).write (by simp [work]) _).write
    (by simp [work, slot_mem inside]) _

theorem Sound.vars_put_slot (sound : k.Sound) (inside : j < k.slots.length) (there : m < k.slots.length) :
    (k.put σ j x).vars (k.slot m) = if m = j then x else σ.vars (k.slot m) := by
  by_cases same : m = j
  · rw [if_pos same, same, put, Store.vars_write_self]
  · have other : k.slot m ≠ k.slot j := fun equal => same (sound.slot_inj there inside equal)
    rw [if_neg same, put, Store.vars_write_of_ne _ _ _ _ other,
      Store.vars_write_of_ne _ _ _ _ (sound.ne_slot (by simp) there).symm,
      Store.vars_write_of_ne _ _ _ _ (sound.ne_slot (by simp) there).symm]

end Slots

section Shifts

variable (k : Cells)

/-- The state after the cursor took the element below it one slot up and went there. -/
def raise (σ : Store) (j : Nat) : Store :=
  (k.put σ (j + 1) (σ.vars (k.slot j))).write k.cursor (.int (.ofNat j))

/-- The state after the cursor came down to a place, over a number of elements. -/
def raiseFrom (i : Nat) : Nat → Store → Store
  | 0, σ => σ
  | d + 1, σ => raiseFrom i d (k.raise σ (i + d))

/-- The state after room was made at a place: the cursor came down to it from behind the last of so many elements. -/
def makeRoom (length i : Nat) (σ : Store) : Store :=
  k.raiseFrom i (length - i) (σ.write k.cursor (.int (.ofNat length)))

/-- The state after a loop took the element above its counter one slot down. -/
def lower (node : NodeId) (σ : Store) (j : Nat) : Store :=
  k.put (σ.count node (.ofNat j)) j (σ.vars (k.slot (j + 1)))

/-- The state after a loop went up from a place, over a number of elements. -/
def lowerFrom (node : NodeId) : Nat → Nat → Store → Store
  | _, 0, σ => σ
  | j, d + 1, σ => lowerFrom node (j + 1) d (k.lower node σ j)

variable {k} {σ : Store} {i j d m : Nat} {node : NodeId}

theorem Sound.vars_raise_slot (sound : k.Sound) (inside : j + 1 < k.slots.length) (there : m < k.slots.length) :
    (k.raise σ j).vars (k.slot m) = if m = j + 1 then σ.vars (k.slot j) else σ.vars (k.slot m) := by
  rw [raise, Store.vars_write_of_ne _ _ _ _ (sound.ne_slot (by simp) there).symm,
    sound.vars_put_slot inside there]

theorem sameOff_raise (inside : j + 1 < k.slots.length) (low : i ≤ j) : Store.SameOff (k.above i) σ (k.raise σ j) := by
  have slot : k.slot (j + 1) ∈ k.slots.drop (i + 1) := by
    refine List.mem_of_getElem? (i := j - i) ?_
    rw [List.getElem?_drop, show i + 1 + (j - i) = j + 1 by omega, getElem?_slots inside]
  exact ((((Store.SameOff.refl _ σ).write (by simp [above]) _).write (by simp [above]) _).write
    (by simp [above, slot]) _).write (by simp [above]) _

/-- Coming down to a place takes every element from there on one slot up. -/
theorem Sound.vars_raiseFrom_slot (sound : k.Sound) (inside : i + d < k.slots.length)
    (there : m < k.slots.length) : (k.raiseFrom i d σ).vars (k.slot m) =
      if i < m ∧ m ≤ i + d then σ.vars (k.slot (m - 1)) else σ.vars (k.slot m) := by
  induction d generalizing σ with
  | zero =>
    rw [if_neg (by omega)]
    rfl
  | succ d ih =>
    rw [raiseFrom, ih (by omega), sound.vars_raise_slot (by omega) (by omega), sound.vars_raise_slot (by omega) there]
    by_cases last : m = i + d + 1
    · rw [if_neg (by omega), if_pos last, if_pos (by omega), last, Nat.add_sub_cancel]
    · by_cases moved : i < m ∧ m ≤ i + d
      · rw [if_pos moved, if_neg (by omega), if_pos (by omega)]
      · rw [if_neg moved, if_neg last, if_neg (by omega)]

theorem sameOff_raiseFrom (inside : i + d < k.slots.length) : Store.SameOff (k.above i) σ (k.raiseFrom i d σ) := by
  induction d generalizing σ with
  | zero => exact .refl _ σ
  | succ d ih => exact (sameOff_raise (by omega) (by omega)).trans (ih (by omega))

/-- While room is made, slots up to the place stay what they are, and the others take what was below them. -/
theorem Sound.vars_makeRoom_slot (sound : k.Sound) {length : Nat} (place : i ≤ length)
    (room : length < k.slots.length) (there : m < k.slots.length) : (k.makeRoom length i σ).vars (k.slot m) =
      if i < m ∧ m ≤ length then σ.vars (k.slot (m - 1)) else σ.vars (k.slot m) := by
  have kept (m : Nat) (there : m < k.slots.length) :
      (σ.write k.cursor (.int (.ofNat length))).vars (k.slot m) = σ.vars (k.slot m) :=
    Store.vars_write_of_ne _ _ _ _ (sound.ne_slot (by simp) there).symm
  rw [makeRoom, sound.vars_raiseFrom_slot (by omega) there, Nat.add_sub_cancel' place, kept m there,
    kept (m - 1) (by omega)]

theorem sameOff_makeRoom {length : Nat} (place : i ≤ length) (room : length < k.slots.length) :
    Store.SameOff (k.above i) σ (k.makeRoom length i σ) :=
  ((Store.SameOff.refl _ σ).write (by simp [above]) _).trans (sameOff_raiseFrom (by omega))

theorem Sound.vars_lower_slot (sound : k.Sound) (inside : j + 1 < k.slots.length) (there : m < k.slots.length) :
    (k.lower node σ j).vars (k.slot m) = if m = j then σ.vars (k.slot (j + 1)) else σ.vars (k.slot m) :=
  sound.vars_put_slot (by omega) there

/-- Going up from a place takes every element above it one slot down. -/
theorem Sound.vars_lowerFrom_slot (sound : k.Sound) (inside : j + d < k.slots.length)
    (there : m < k.slots.length) : (k.lowerFrom node j d σ).vars (k.slot m) =
      if j ≤ m ∧ m < j + d then σ.vars (k.slot (m + 1)) else σ.vars (k.slot m) := by
  induction d generalizing σ j with
  | zero =>
    rw [if_neg (by omega)]
    rfl
  | succ d ih =>
    rw [lowerFrom, ih (by omega)]
    by_cases moved : j + 1 ≤ m ∧ m < j + 1 + d
    · rw [if_pos moved, sound.vars_lower_slot (by omega) (by omega), if_neg (by omega), if_pos (by omega)]
    · rw [if_neg moved, sound.vars_lower_slot (by omega) there]
      by_cases first : m = j
      · rw [if_pos first, if_pos (by omega), first]
      · rw [if_neg first, if_neg (by omega)]

theorem vars_lowerFrom (inside : j + d < k.slots.length) {id : Int32} (outside : id ∉ k.work) :
    (k.lowerFrom node j d σ).vars id = σ.vars id := by
  induction d generalizing σ j with
  | zero => rfl
  | succ d ih => exact (ih (by omega)).trans ((sameOff_put (by omega)).vars id outside)

end Shifts

section Contents

/-- The number of elements. -/
def size (k : Cells) (σ : Store) : Nat :=
  match σ.vars k.count with
  | .int n => n.toInt.toNat
  | _ => 0

/-- The elements of a list: what its first slots hold, as many as its count says. -/
def items (k : Cells) (σ : Store) : List Literal := (List.range (k.size σ)).map fun j => σ.vars (k.slot j)

/-- The variables of a list are in order: the count is in its range, and the capacity is what it is. -/
structure Ready (k : Cells) (σ : Store) : Prop where
  count : ∃ n, σ.vars k.count = .int n ∧ 0 ≤ n.toInt ∧ n.toInt ≤ k.slots.length
  capacity : σ.vars k.capacity = .int (.ofNat k.slots.length)

/-- The variables of a list are in order, and these are its elements. -/
structure Holds (k : Cells) (σ : Store) (items : List Literal) : Prop where
  count : σ.vars k.count = .int (.ofNat items.length)
  capacity : σ.vars k.capacity = .int (.ofNat k.slots.length)
  fits : items.length ≤ k.slots.length
  slots : ∀ j < items.length, items[j]? = some (σ.vars (k.slot j))

variable {k : Cells} {σ : Store} {items : List Literal} {x : Literal} {i : Nat}

theorem Ready.holds (ready : k.Ready σ) : k.Holds σ (k.items σ) := by
  obtain ⟨n, count, least, most⟩ := ready.count
  have size : k.size σ = n.toInt.toNat := by rw [Cells.size, count]
  have length : (k.items σ).length = n.toInt.toNat := by rw [Cells.items, List.length_map, List.length_range, size]
  refine ⟨?_, ready.capacity, by omega, fun j inside => ?_⟩
  · rw [count, length]
    exact congrArg Literal.int (Int32.ofNat_toNatClampNeg n (Int32.le_iff_toInt_le.2 least)).symm
  · rw [Cells.items, List.getElem?_map, List.getElem?_range (by omega), Option.map_some]

theorem Holds.ready (holds : k.Holds σ items) (sound : k.Sound) : k.Ready σ ∧ k.items σ = items := by
  have short : items.length < 2147483648 := Nat.lt_of_le_of_lt holds.fits sound.short
  have number : (Int32.ofNat items.length).toInt = items.length := Int32.toInt_ofNat_of_lt short
  have size : k.size σ = items.length := by
    rw [Cells.size, holds.count]
    exact (congrArg Int.toNat number).trans (Int.toNat_natCast _)
  refine ⟨⟨⟨_, holds.count, by omega, by have := holds.fits; omega⟩, holds.capacity⟩, List.ext_getElem? fun j => ?_⟩
  rw [Cells.items, size, List.getElem?_map]
  by_cases inside : j < items.length
  · rw [List.getElem?_range inside, Option.map_some, holds.slots j inside]
  · rw [List.getElem?_eq_none (by simpa using inside), List.getElem?_eq_none (by simpa using inside), Option.map_none]

/-- A list is there when its slots are filled and then its count is written. -/
theorem Sound.holds_write (sound : k.Sound) {items' : List Literal} {n : Nat} (length : items'.length = n)
    (capacity : σ.vars k.capacity = .int (.ofNat k.slots.length)) (fits : items'.length ≤ k.slots.length)
    (slots : ∀ j < items'.length, items'[j]? = some (σ.vars (k.slot j))) :
    k.Holds (σ.write k.count (.int (.ofNat n))) items' where
  count := by rw [Store.vars_write_self, length]
  capacity := by
    have different : k.capacity ≠ k.count := fun same =>
      (List.nodup_cons.1 sound.apart).1 (same ▸ List.mem_cons_self)
    rw [Store.vars_write_of_ne _ _ _ _ different, capacity]
  fits := fits
  slots j inside := by
    rw [Store.vars_write_of_ne _ _ _ _ (sound.ne_slot (by simp) (by omega)).symm, slots j inside]

section Changes

variable (sound : k.Sound) (holds : k.Holds σ items)

include sound holds

theorem Sound.holds_set (inside : i < items.length) : k.Holds (k.put σ i x) (items.set i x) := by
  have room : i < k.slots.length := Nat.lt_of_lt_of_le inside holds.fits
  have kept {id : Int32} (member : id ∈ [k.count, k.capacity, k.cursor]) :=
    (sameOff_put room (σ := σ) (x := x)).vars id (sound.notMem_work member)
  refine ⟨?_, (kept (by simp)).trans holds.capacity, by rw [List.length_set]; exact holds.fits, fun j there => ?_⟩
  · rw [kept (by simp), holds.count, List.length_set]
  · rw [List.length_set] at there
    have fits := holds.fits
    rw [List.getElem?_set, sound.vars_put_slot room (by omega)]
    by_cases same : i = j
    · rw [if_pos same, if_pos inside, if_pos same.symm]
    · rw [if_neg same, if_neg (Ne.symm same), holds.slots j there]

theorem Sound.holds_append (room : items.length < k.slots.length) :
    k.Holds ((k.put σ items.length x).write k.count (.int (.ofNat (items.length + 1)))) (items ++ [x]) := by
  have length : (items ++ [x]).length = items.length + 1 := List.length_append
  have capacity := (sameOff_put room (σ := σ) (x := x)).vars k.capacity (sound.notMem_work (by simp))
  refine sound.holds_write length (capacity.trans holds.capacity) (by omega) fun j inside => ?_
  rw [sound.vars_put_slot room (by omega)]
  by_cases last : j = items.length
  · rw [if_pos last, last, List.getElem?_concat_length]
  · rw [if_neg last, List.getElem?_append_left (by omega), holds.slots j (by omega)]

/-- Room is made at a place, and then the place is filled. -/
theorem Sound.holds_insertIdx (place : i ≤ items.length) (room : items.length < k.slots.length) :
    k.Holds ((k.put (k.makeRoom items.length i σ) i x).write k.count (.int (.ofNat (items.length + 1))))
      (items.insertIdx i x) := by
  have length : (items.insertIdx i x).length = items.length + 1 := by rw [List.length_insertIdx, if_pos place]
  have capacity : (k.put (k.makeRoom items.length i σ) i x).vars k.capacity = σ.vars k.capacity := by
    rw [(sameOff_put (by omega)).vars _ (sound.notMem_work (by simp)),
      (sameOff_makeRoom place room).vars _ fun member => sound.notMem_cursor (by simp) (above_subset k i member)]
  refine sound.holds_write length (capacity.trans holds.capacity) (by omega) fun j inside => ?_
  rw [sound.vars_put_slot (by omega) (by omega), sound.vars_makeRoom_slot place room (by omega),
    List.getElem?_insertIdx]
  rcases Nat.lt_trichotomy j i with below | here | above
  · rw [if_pos below, if_neg (by omega), if_neg (by omega), holds.slots j (by omega)]
  · rw [if_neg (by omega), if_pos here, if_pos (by omega), if_pos here]
  · rw [if_neg (by omega), if_neg (by omega), if_neg (by omega), if_pos (by omega), holds.slots (j - 1) (by omega)]

/-- The gap at a place is closed by going up from it. -/
theorem Sound.holds_eraseIdx (inside : i < items.length) (node : NodeId) (last : Int32) :
    k.Holds (((k.lowerFrom node i (items.length - 1 - i) σ).count node last).write k.count
      (.int (.ofNat (items.length - 1)))) (items.eraseIdx i) := by
  have fits := holds.fits
  have length : (items.eraseIdx i).length = items.length - 1 := by rw [List.length_eraseIdx, if_pos inside]
  have capacity : ((k.lowerFrom node i (items.length - 1 - i) σ).count node last).vars k.capacity =
      σ.vars k.capacity := vars_lowerFrom (by omega) (sound.notMem_work (by simp))
  refine sound.holds_write length (capacity.trans holds.capacity) (by omega) fun j there => ?_
  rw [Store.vars_count, sound.vars_lowerFrom_slot (by omega) (by omega), List.getElem?_eraseIdx]
  by_cases below : j < i
  · rw [if_pos below, if_neg (by omega), holds.slots j (by omega)]
  · rw [if_neg below, if_pos (by omega), holds.slots (j + 1) (by omega)]

theorem Sound.holds_nil : k.Holds (σ.write k.count (.int 0)) [] :=
  sound.holds_write (n := 0) rfl holds.capacity (Nat.zero_le _) (by simp)

end Changes

end Contents

end Cells

end ScriptGraph
