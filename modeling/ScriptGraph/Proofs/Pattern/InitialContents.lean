import Mathlib
import ScriptGraph.Proofs.Construction.Ensures
import ScriptGraph.Proofs.Construction.Sessions

/-!
What a list starts with.

While a class is compiled, the initial values of the variables of a list are themselves a list. As long
as they tell a sequence, every call is answered as that sequence answers it, and changes the initial
values of the list and nothing else.
-/

namespace ScriptGraph

open Pattern Build

/-- A call on what a list starts with. -/
inductive ListCall where
  | add (value : Literal)
  | set (index : Nat) (value : Literal)
  | get (index : Nat)
  | count
  | clear

inductive ListAnswer where
  | done
  | item (value : Literal)
  | number (count : Nat)
  | failed (problem : ListError)

def ListAnswer.ofResult : Except ListError Unit → ListAnswer
  | .ok () => .done
  | .error problem => .failed problem

def ListCall.run (l : BoundedList) : ListCall → Build ListAnswer
  | .add value => return .ofResult (← l.addInitial value)
  | .set index value => return .ofResult (← l.setInitialAt index value)
  | .get index => do
    match l.initialAt (← MonadState.get) index with
    | .ok value => return .item value
    | .error problem => return .failed problem
  | .count => return .number (l.initialCount (← MonadState.get))
  | .clear => do
    l.clearInitial
    return .done

/-- Literals in a row, up to a number of them. -/
structure BoundedSequence where
  capacity : Nat
  items : List Literal := []

namespace BoundedSequence

/-- The answer to a call. Errors name the list that is called. -/
def answer (name : String) (q : BoundedSequence) : ListCall → ListAnswer
  | .add _ => if q.items.length = q.capacity then .failed (.full name q.capacity) else .done
  | .set index _ =>
    if index < q.items.length then .done else .failed (.indexOutOfRange name index q.items.length)
  | .get index =>
    match q.items[index]? with
    | some value => .item value
    | none => .failed (.indexOutOfRange name index q.items.length)
  | .count => .number q.items.length
  | .clear => .done

/-- The sequence after a call. -/
def after (q : BoundedSequence) : ListCall → BoundedSequence
  | .add value => if q.items.length = q.capacity then q else { q with items := q.items ++ [value] }
  | .set index value => { q with items := q.items.set index value }
  | .get _ | .count => q
  | .clear => { q with items := [] }

end BoundedSequence

section Initials

variable {c c' c'' : Context} {own : List Nat}

def Context.initial? (c : Context) (id : Nat) : Option Literal := c.graph.vars[id]?.bind (·.initial)

/-- The second context is the first with other initial values of some variables. -/
structure Context.Refills (own : List Nat) (c c' : Context) : Prop where
  rest : c' = { c with graph := { c.graph with vars := c'.graph.vars } }
  signature : ∀ id : Nat, c'.graph.vars[id]?.map Variable.signature = c.graph.vars[id]?.map Variable.signature
  others : ∀ id : Nat, id ∉ own → c'.graph.vars[id]? = c.graph.vars[id]?

namespace Context.Refills

theorem refl (own : List Nat) (c : Context) : c.Refills own c := ⟨rfl, fun _ => rfl, fun _ _ => rfl⟩

theorem trans (first : c.Refills own c') (second : c'.Refills own c'') : c.Refills own c'' where
  rest := by
    have same := second.rest
    rw [first.rest] at same
    exact same
  signature id := (second.signature id).trans (first.signature id)
  others id foreign := (second.others id foreign).trans (first.others id foreign)

theorem size_eq (refills : c.Refills own c') : c'.graph.vars.size = c.graph.vars.size := by
  have same (i : Nat) : c'.graph.vars.size ≤ i ↔ c.graph.vars.size ≤ i := by
    rw [← Array.getElem?_eq_none_iff, ← Array.getElem?_eq_none_iff, ← Option.map_eq_none_iff (f := Variable.signature),
      refills.signature, Option.map_eq_none_iff]
  have := same c.graph.vars.size
  have := same c'.graph.vars.size
  omega

theorem counters_eq (refills : c.Refills own c') : c'.counters = c.counters := by
  rw [refills.rest]

theorem initial?_eq (refills : c.Refills own c') {id : Nat} (foreign : id ∉ own) :
    c'.initial? id = c.initial? id := by
  rw [Context.initial?, Context.initial?, refills.others id foreign]

end Context.Refills

/-- A variable gets a new initial value. -/
theorem refills_setInitial {id : Nat} (member : id ∈ own) (inside : id < c.graph.vars.size)
    (value : Option Literal) : Ensures (setInitial id value) c fun _ c' =>
      c.Refills own c' ∧ ∀ other, c'.initial? other = if id = other then value else c.initial? other := by
  have modified (other : Nat) : (setInitial id value c).2.graph.vars[other]? =
      if id = other then c.graph.vars[other]?.map ({ · with initial := value }) else c.graph.vars[other]? :=
    Array.getElem?_modify
  refine ⟨⟨rfl, fun other => ?_, fun other foreign => ?_⟩, fun other => ?_⟩
  · rw [modified]
    split
    · rw [Option.map_map]
      rfl
    · rfl
  · have different : id ≠ other := fun same => foreign (same ▸ member)
    rw [modified, if_neg different]
  · rw [Context.initial?, modified]
    split
    · next same =>
      rw [← same, Array.getElem?_eq_getElem inside]
      rfl
    · rfl

end Initials

namespace Pattern.BoundedList

/-- The variables of a list that tell what it starts with. -/
def contents (l : BoundedList) : List Nat := l.count :: l.slots

/-- All variables of a list. -/
def vars (l : BoundedList) : List Nat :=
  [l.capacityId, l.currentIndex, l.cursor, l.valueToSet] ++ l.contents

/-- The initial values of the variables of a list tell a sequence. -/
structure Tells (l : BoundedList) (c : Context) (q : BoundedSequence) : Prop where
  capacity : l.slots.length = q.capacity
  short : q.capacity < 2147483648
  length_le : q.items.length ≤ q.capacity
  nodup : l.contents.Nodup
  inside : ∀ id ∈ l.vars, id < c.graph.vars.size
  count : c.initial? l.count = some (.int (.ofNat q.items.length))
  item : ∀ (i : Nat) (value : Literal), q.items[i]? = some value → ∃ slot, l.slots[i]? = some slot ∧ c.initial? slot = some value

theorem count_mem (l : BoundedList) : l.count ∈ l.contents := List.mem_cons_self

theorem mem_vars {l : BoundedList} {id : Nat} (member : id ∈ l.contents) : id ∈ l.vars :=
  List.mem_append_right _ member

namespace Tells

variable {l : BoundedList} {c c' : Context} {q : BoundedSequence}

theorem initialCount (tells : l.Tells c q) : l.initialCount c = q.items.length := by
  have count : c.graph.vars[l.count]?.bind (·.initial) = _ := tells.count
  have short := tells.short
  have room := tells.length_le
  have number : (Int32.ofNat q.items.length).toInt = q.items.length :=
    Int32.toInt_ofNat_of_lt (by omega)
  rw [BoundedList.initialCount, count]
  show (Int32.ofNat q.items.length).toInt.toNat = _
  rw [number, Int.toNat_natCast]

theorem slot_mem {i slot : Nat} (spot : l.slots[i]? = some slot) : slot ∈ l.contents :=
  List.mem_cons_of_mem _ (List.mem_of_getElem? spot)

theorem slot_inj (tells : l.Tells c q) {i j slot : Nat} (first : l.slots[i]? = some slot)
    (second : l.slots[j]? = some slot) : i = j := by
  have nodup := (List.nodup_cons.1 tells.nodup).2
  obtain ⟨below, _⟩ := List.getElem?_eq_some_iff.1 first
  exact (List.getElem?_inj below nodup).1 (first.trans second.symm)

theorem slot_ne_count (tells : l.Tells c q) {i slot : Nat} (spot : l.slots[i]? = some slot) : slot ≠ l.count := by
  intro same
  exact (List.nodup_cons.1 tells.nodup).1 (same ▸ List.mem_of_getElem? spot)

/-- New initial values of variables tell another sequence. -/
theorem refill {own : List Nat} {items : List Literal} (tells : l.Tells c q) (refills : c.Refills own c')
    (length_le : items.length ≤ q.capacity) (count : c'.initial? l.count = some (.int (.ofNat items.length)))
    (item : ∀ (i : Nat) (value : Literal), items[i]? = some value →
      ∃ slot, l.slots[i]? = some slot ∧ c'.initial? slot = some value) :
    l.Tells c' { q with items } where
  capacity := tells.capacity
  short := tells.short
  length_le := length_le
  nodup := tells.nodup
  inside id member := by
    rw [refills.size_eq]
    exact tells.inside id member
  count := count
  item := item

/-- Initial values of other variables do not matter. -/
theorem of_refills {own : List Nat} (tells : l.Tells c q) (refills : c.Refills own c')
    (apart : ∀ id ∈ l.contents, id ∉ own) : l.Tells c' q := by
  refine tells.refill refills tells.length_le ?_ fun i value place => ?_
  · rw [refills.initial?_eq (apart _ l.count_mem)]
    exact tells.count
  · obtain ⟨slot, spot, holds⟩ := tells.item i value place
    refine ⟨slot, spot, ?_⟩
    rw [refills.initial?_eq (apart _ (slot_mem spot))]
    exact holds

/-- Room for another element is a slot behind the last one. -/
theorem next_slot (tells : l.Tells c q) : l.slots[q.items.length]? = none ↔ q.items.length = q.capacity := by
  have capacity := tells.capacity
  have room := tells.length_le
  rw [List.getElem?_eq_none_iff]
  omega

theorem initialSlot (tells : l.Tells c q) {i slot : Nat} (spot : l.slots[i]? = some slot)
    (inside : i < q.items.length) : l.initialSlot c i = .ok slot := by
  have outside : ¬ l.initialCount c ≤ i := by
    rw [tells.initialCount]
    omega
  simp only [BoundedList.initialSlot, if_neg outside, spot]

theorem initialSlot_outside (tells : l.Tells c q) {i : Nat} (outside : q.items.length ≤ i) :
    l.initialSlot c i = .error (.indexOutOfRange l.name i q.items.length) := by
  have outside : l.initialCount c ≤ i := tells.initialCount ▸ outside
  rw [BoundedList.initialSlot, if_pos outside, tells.initialCount]

theorem exists_slot (tells : l.Tells c q) {i : Nat} (inside : i < q.items.length) :
    ∃ slot, l.slots[i]? = some slot ∧ c.initial? slot = q.items[i]? := by
  obtain ⟨slot, place, holds⟩ := tells.item i _ (List.getElem?_eq_getElem inside)
  exact ⟨slot, place, holds.trans (List.getElem?_eq_getElem inside).symm⟩

end Tells

/-- A call is answered as a sequence answers it. -/
structure Serves (l : BoundedList) (c : Context) (q : BoundedSequence) (call : ListCall) (answer : ListAnswer)
    (c' : Context) : Prop where
  answer_eq : answer = q.answer l.name call
  tells : l.Tells c' (q.after call)
  refills : c.Refills l.contents c'
  unchanged : ∀ problem, answer = .failed problem → c' = c

namespace Tells

variable {l : BoundedList} {c c' : Context} {q : BoundedSequence}

theorem addInitial (tells : l.Tells c q) (value : Literal) :
    Ensures (ListCall.run l (.add value)) c (l.Serves c q (.add value)) := by
  refine .bind (.getBind ?_) fun _ _ served => .pure served
  dsimp only
  rw [tells.initialCount]
  cases slot? : l.slots[q.items.length]? with
  | none =>
    have full := tells.next_slot.1 slot?
    refine .pure ⟨?_, ?_, .refl _ _, fun _ _ => rfl⟩
    · simp only [ListAnswer.ofResult, BoundedSequence.answer, if_pos full, BoundedList.capacity, tells.capacity]
    · simpa only [BoundedSequence.after, if_pos full] using tells
  | some slot =>
    have room : q.items.length ≠ q.capacity := fun full => by
      rw [tells.next_slot.2 full] at slot?
      cases slot?
    have different := tells.slot_ne_count slot?
    have inside := tells.inside slot (mem_vars (slot_mem slot?))
    refine (refills_setInitial (slot_mem slot?) inside (some value)).bind fun _ c₁ written => ?_
    obtain ⟨first, initial₁⟩ := written
    have inside : l.count < c₁.graph.vars.size := by
      rw [first.size_eq]
      exact tells.inside _ (mem_vars l.count_mem)
    refine (refills_setInitial l.count_mem inside _).bind fun _ c₂ counted => .pure ?_
    obtain ⟨second, initial₂⟩ := counted
    have refills := first.trans second
    refine ⟨by simp only [ListAnswer.ofResult, BoundedSequence.answer, if_neg room], ?_, refills, nofun⟩
    rw [BoundedSequence.after, if_neg room]
    refine tells.refill refills ?_ ?_ fun i v place => ?_
    · have := tells.length_le
      rw [List.length_append, List.length_singleton]
      omega
    · rw [initial₂, if_pos rfl, List.length_append, List.length_singleton]
    · rw [List.getElem?_append] at place
      split at place
      · -- An element from before: the new one has another slot.
        next before =>
        obtain ⟨other, spot, holds⟩ := tells.item i v place
        have apart : slot ≠ other := fun same => by
          have := tells.slot_inj (same ▸ slot?) spot
          omega
        refine ⟨other, spot, ?_⟩
        rw [initial₂, if_neg (tells.slot_ne_count spot).symm, initial₁, if_neg apart]
        exact holds
      · next behind =>
        have last : i = q.items.length := by
          have := (List.getElem?_eq_some_iff.1 place).1
          rw [List.length_singleton] at this
          omega
        subst last
        rw [Nat.sub_self] at place
        refine ⟨slot, slot?, ?_⟩
        rw [initial₂, if_neg different.symm, initial₁, if_pos rfl]
        exact place

theorem setInitialAt (tells : l.Tells c q) (index : Nat) (value : Literal) :
    Ensures (ListCall.run l (.set index value)) c (l.Serves c q (.set index value)) := by
  refine .bind (.getBind ?_) fun _ _ served => .pure served
  by_cases inside : index < q.items.length
  · obtain ⟨slot, spot, _⟩ := tells.exists_slot inside
    rw [tells.initialSlot spot inside]
    have declared := tells.inside slot (mem_vars (slot_mem spot))
    refine (refills_setInitial (slot_mem spot) declared (some value)).bind fun _ c' written => .pure ?_
    obtain ⟨refills, initial⟩ := written
    refine ⟨by simp only [ListAnswer.ofResult, BoundedSequence.answer, if_pos inside], ?_, refills, nofun⟩
    refine tells.refill refills ?_ ?_ fun i v place => ?_
    · rw [List.length_set]
      exact tells.length_le
    · rw [List.length_set, initial, if_neg (tells.slot_ne_count spot)]
      exact tells.count
    · rw [List.getElem?_set] at place
      split at place
      · next same =>
        subst same
        exact ⟨slot, spot, by rw [initial, if_pos rfl, place]⟩
      · next different =>
        obtain ⟨other, there, holds⟩ := tells.item i v place
        have apart : slot ≠ other := fun same => different (tells.slot_inj spot (same ▸ there))
        exact ⟨other, there, by rw [initial, if_neg apart, holds]⟩
  · rw [tells.initialSlot_outside (Nat.le_of_not_lt inside)]
    refine .pure ⟨?_, ?_, .refl _ _, fun _ _ => rfl⟩
    · simp only [ListAnswer.ofResult, BoundedSequence.answer, if_neg inside]
    · simpa only [BoundedSequence.after, List.set_eq_of_length_le (Nat.le_of_not_lt inside)] using tells

theorem initialAt (tells : l.Tells c q) (index : Nat) :
    Ensures (ListCall.run l (.get index)) c (l.Serves c q (.get index)) := by
  refine .getBind ?_
  rw [BoundedList.initialAt]
  by_cases inside : index < q.items.length
  · obtain ⟨slot, spot, holds⟩ := tells.exists_slot inside
    rw [tells.initialSlot spot inside]
    have holds : c.graph.vars[slot]?.bind (·.initial) = q.items[index]? := holds
    rw [List.getElem?_eq_getElem inside] at holds
    refine .pure ⟨?_, tells, .refl _ _, nofun⟩
    simp only [BoundedSequence.answer, holds, List.getElem?_eq_getElem inside, Option.getD_some]
  · rw [tells.initialSlot_outside (Nat.le_of_not_lt inside)]
    refine .pure ⟨?_, tells, .refl _ _, fun _ _ => rfl⟩
    simp only [BoundedSequence.answer, List.getElem?_eq_none (Nat.le_of_not_lt inside)]

theorem refills_resetSlots {own : List Nat} (initial : Literal) (slots : List Nat) (owned : slots ⊆ own)
    (inside : ∀ slot ∈ slots, slot < c.graph.vars.size) :
    Ensures (resetSlots initial slots) c fun _ c' => c.Refills own c' := by
  induction slots generalizing c with
  | nil => exact .pure (.refl _ _)
  | cons slot slots ih =>
    obtain ⟨first, others⟩ := List.cons_subset.1 owned
    refine (refills_setInitial first (inside slot List.mem_cons_self) _).bind fun _ c₁ written => ?_
    have refills := written.1
    refine (ih others fun other member => ?_).mono fun _ _ rest => refills.trans rest
    rw [refills.size_eq]
    exact inside other (List.mem_cons_of_mem _ member)

theorem clearInitial (tells : l.Tells c q) :
    Ensures (ListCall.run l .clear) c (l.Serves c q .clear) := by
  have slots : Ensures (resetSlots l.valueType.default l.slots) c fun _ c' => c.Refills l.contents c' :=
    refills_resetSlots _ _ (List.subset_cons_self _ _) fun slot member =>
      tells.inside slot (mem_vars (List.mem_cons_of_mem _ member))
  refine .bind (slots.bind fun _ c₁ first => ?_) fun _ _ served => .pure served
  have inside : l.count < c₁.graph.vars.size := by
    rw [first.size_eq]
    exact tells.inside _ (mem_vars l.count_mem)
  refine (refills_setInitial l.count_mem inside _).mono fun _ c' counted => ?_
  have refills := first.trans counted.1
  refine ⟨rfl, tells.refill refills (Nat.zero_le _) ?_ nofun, refills, nofun⟩
  rw [counted.2, if_pos rfl]
  rfl

/-- Every call is answered as the sequence answers it. -/
theorem serves (tells : l.Tells c q) (call : ListCall) : Ensures (call.run l) c (l.Serves c q call) := by
  cases call with
  | add value => exact tells.addInitial value
  | set index value => exact tells.setInitialAt index value
  | get index => exact tells.initialAt index
  | count =>
    refine .getBind (.pure ⟨?_, tells, .refl _ _, nofun⟩)
    rw [tells.initialCount]
    rfl
  | clear => exact tells.clearInitial

end Tells

end Pattern.BoundedList

end ScriptGraph
