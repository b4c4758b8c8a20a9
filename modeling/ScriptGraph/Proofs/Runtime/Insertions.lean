import ScriptGraph.Lower.Call
import ScriptGraph.Proofs.Runtime.ListHistory

/-!
Insertions whose operands read the list.

The index of an insertion is asked by its check, in every pass of its loop and by its last write, the value by
its last write only. By then the elements from the place on stand one slot higher: the value is what it comes to
on these, and not what it came to when the insertion was entered.
-/

namespace ScriptGraph

open Pattern

namespace Cells

/-- The elements of a list when room has been made at a place: behind the place, each stands one slot higher. -/
def raised (i : Nat) (items : List Literal) : List Literal := items.take (i + 1) ++ (items.drop i).dropLast

variable {k : Cells} {σ : Store} {items : List Literal} {i j m : Nat}

theorem length_raised (place : i ≤ items.length) : (raised i items).length = items.length := by
  rw [raised, List.length_append, List.length_take, List.length_dropLast, List.length_drop]
  omega

theorem getElem?_raised (place : i ≤ items.length) (inside : j < items.length) :
    (raised i items)[j]? = items[if i < j then j - 1 else j]? := by
  rw [raised, List.getElem?_append, List.length_take]
  by_cases behind : i < j
  · rw [if_neg (by omega), if_pos behind, List.getElem?_dropLast, List.length_drop, if_pos (by omega),
      List.getElem?_drop, show i + (j - min (i + 1) items.length) = j - 1 by omega]
  · rw [if_pos (by omega), if_neg behind, List.getElem?_take_of_lt (by omega)]

variable (sound : k.Sound)

include sound

theorem Sound.holds_makeRoom (holds : k.Holds σ items) (place : i ≤ items.length)
    (room : items.length < k.slots.length) : k.Holds (k.makeRoom items.length i σ) (raised i items) := by
  have length := length_raised place
  have kept {id : Int32} (own : id ∈ [k.count, k.capacity]) :=
    (sameOff_makeRoom (σ := σ) place room).vars id fun member => sound.notMem_cursor own (above_subset k i member)
  refine ⟨?_, (kept (by simp)).trans holds.capacity, length ▸ holds.fits, fun j inside => ?_⟩
  · rw [kept (by simp), holds.count, length]
  · rw [length] at inside
    rw [getElem?_raised place inside, sound.vars_makeRoom_slot place room (by omega)]
    by_cases behind : i < j
    · rw [if_pos behind, if_pos ⟨behind, by omega⟩, holds.slots (j - 1) (by omega)]
    · rw [if_neg behind, if_neg (by omega), holds.slots j inside]

theorem Sound.holds_write_index (holds : k.Holds σ items) (x : Literal) : k.Holds (σ.write k.index x) items := by
  have other {id : Int32} (own : id ∈ [k.count, k.capacity, k.cursor]) : id ≠ k.index :=
    fun same => sound.notMem_work own (same ▸ List.mem_cons_self)
  have fits := holds.fits
  refine ⟨?_, ?_, fits, fun j inside => ?_⟩
  · rw [Store.vars_write_of_ne _ _ _ _ (other (by simp)), holds.count]
  · rw [Store.vars_write_of_ne _ _ _ _ (other (by simp)), holds.capacity]
  · rw [Store.vars_write_of_ne _ _ _ _ (sound.ne_slot (by simp) (by omega)).symm, holds.slots j inside]

/-- Slots up to a place are not written while room is made there. -/
theorem Sound.slot_notMem_above (low : m ≤ i) (there : m < k.slots.length) : k.slot m ∉ k.above i := by
  have own {id : Int32} (work : id ∈ [k.count, k.capacity, k.cursor, k.index, k.value]) : k.slot m ≠ id :=
    (sound.ne_slot work there).symm
  simp only [above, List.mem_cons, not_or]
  refine ⟨own (by simp), own (by simp), own (by simp), fun member => ?_⟩
  obtain ⟨n, found⟩ := List.mem_iff_getElem?.1 member
  rw [List.getElem?_drop] at found
  obtain ⟨inside, _⟩ := List.getElem?_eq_some_iff.1 found
  have same : k.slot (i + 1 + n) = k.slot m := Option.some.inj ((getElem?_slots inside).symm.trans found)
  have := sound.slot_inj inside there same
  omega

/-- While room is made at a place, there is a list that has the same elements up to the place. -/
theorem Sound.holds_above {σ' : Store} (holds : k.Holds σ items) (same : Store.SameOff (k.above i) σ σ') :
    ∃ items', k.Holds σ' items' ∧ items'.length = items.length ∧ ∀ m ≤ i, items'[m]? = items[m]? := by
  have kept {id : Int32} (own : id ∈ [k.count, k.capacity]) :=
    same.vars id fun member => sound.notMem_cursor own (above_subset k i member)
  have fits := holds.fits
  refine ⟨(List.range items.length).map fun j => σ'.vars (k.slot j), ⟨?_, ?_, by simpa, fun j inside => ?_⟩, by simp,
    fun m low => ?_⟩
  · rw [kept (by simp), holds.count, List.length_map, List.length_range]
  · rw [kept (by simp), holds.capacity]
  · rw [List.length_map, List.length_range] at inside
    rw [List.getElem?_map, List.getElem?_range inside, Option.map_some]
  · rw [List.getElem?_map]
    by_cases inside : m < items.length
    · rw [List.getElem?_range inside, Option.map_some, same.vars _ (sound.slot_notMem_above low (by omega)),
        holds.slots m inside]
    · rw [List.getElem?_eq_none (by simpa using inside), List.getElem?_eq_none (by simpa using inside), Option.map_none]

end Cells

namespace Program

variable {p : Program} {k : Cells} {σ : Store} {items : List Literal} {i m : Nat} {x : Literal}
  {index value number v : ValueOut}

/-- An output has a value, also while room is made at a place. -/
def GivesThroughout (p : Program) (k : Cells) (i : Nat) (σ : Store) (v : ValueOut) (x : Literal) : Prop :=
  ∀ σ', Store.SameOff (k.above i) σ σ' → p.Gives σ' (.output v.address) x

/-- An output has a value when room has been made at a place. -/
def GivesRaised (p : Program) (k : Cells) (i : Nat) (σ : Store) (items : List Literal) (v : ValueOut) (x : Literal) :
    Prop :=
  ∀ σ', Store.SameOff (k.above i) σ σ' → k.Holds σ' (Cells.raised i items) → p.Gives σ' (.output v.address) x

/-- Run in any state with room for another element, the flow inserts at the place that its index keeps the value that
its value has when room has been made there. -/
def InsertsRaised (p : Program) (k : Cells) (index value : ValueOut) (entry : FlowIn) (exit : FlowOut) : Prop :=
  ∀ σ items i x, k.Holds σ items → i ≤ items.length → items.length < k.slots.length →
    p.GivesThroughout k i σ index (.int (.ofNat i)) → p.GivesRaised k i σ items value x →
      ∃ σ', p.Passes entry exit σ σ' ∧ k.Holds σ' (items.insertIdx i x) ∧
        ∀ id, id ∉ k.all → σ'.vars id = σ.vars id

/-- Run in any state with room for another element, the flow inserts at one number the element with another, or the
element before that if it stands behind the place. -/
def InsertsElement (p : Program) (k : Cells) (i m : Nat) (entry : FlowIn) (exit : FlowOut) : Prop :=
  ∀ σ items x, k.Holds σ items → i ≤ items.length → items.length < k.slots.length → m < items.length →
    items[if i < m then m - 1 else m]? = some x → ∃ σ', p.Passes entry exit σ σ' ∧ k.Holds σ' (items.insertIdx i x) ∧
      ∀ id, id ∉ k.all → σ'.vars id = σ.vars id

theorem Inserts.raised {t u : ValueIn} {entry : FlowIn} {exit : FlowOut}
    (inserts : p.Inserts k ⟨some t, some u, entry, exit⟩) (sound : k.Sound)
    (indexed : p.Feeds t (.output index.address)) (valued : p.Feeds u (.output value.address)) :
    p.InsertsRaised k index value entry exit := by
  intro σ items i x holds place room throughout late
  -- The index is asked as long as room is made, the value by a write that stores the index first.
  refine inserts σ items i x holds place room ⟨fun _ has σ' same => ?_, fun _ has => ?_⟩
  · obtain rfl := Option.some.inj has
    exact indexed.accepts (throughout σ' same)
  · obtain rfl := Option.some.inj has
    have moved := Cells.sameOff_makeRoom (σ := σ) place room
    exact valued.accepts (late _ (moved.write (by simp [Cells.above]) _)
      (sound.holds_write_index (sound.holds_makeRoom holds place room) _))

/-- An element is read from the raised ones. -/
theorem LooksUp.givesRaised (looks : p.LooksUp k number v)
    (numbered : p.GivesThroughout k i σ number (.int (.ofNat m))) (place : i ≤ items.length) (inside : m < items.length)
    (there : items[if i < m then m - 1 else m]? = some x) : p.GivesRaised k i σ items v x :=
  fun σ' same holds =>
    looks σ' _ m x holds (numbered σ' same) ((Cells.getElem?_raised place inside).trans there)

/-- An operand that reads no element behind a place, and what it comes to: it may read the count, elements up to the
place and whatever is no part of the list. -/
inductive Unmoved (p : Program) (k : Cells) (i : Nat) (σ : Store) (items : List Literal) : ValueOut → Literal → Prop
  | apart {v : ValueOut} {x : Literal} (gives : p.Gives σ (.output v.address) x)
      (spares : p.Spares (.output v.address) (k.above i)) : Unmoved p k i σ items v x
  | count {v : ValueOut} (reads : p.Reads v k.count) : Unmoved p k i σ items v (.int (.ofNat items.length))
  | element {number v : ValueOut} {m : Nat} {x : Literal} (looks : p.LooksUp k number v)
      (numbered : Unmoved p k i σ items number (.int (.ofNat m))) (low : m ≤ i) (there : items[m]? = some x) :
      Unmoved p k i σ items v x
  | computed {op : Op} {a b v : ValueOut} {x y z : Literal} (combines : p.Combines op a b v)
      (first : Unmoved p k i σ items a x) (second : Unmoved p k i σ items b y)
      (result : op.compute? [x, y] = some z) : Unmoved p k i σ items v z

theorem Unmoved.throughout (unmoved : p.Unmoved k i σ items v x) (sound : k.Sound) (holds : k.Holds σ items) :
    p.GivesThroughout k i σ v x := by
  intro σ' same
  obtain ⟨items', holds', length, agree⟩ := sound.holds_above holds same
  induction unmoved with
  | apart gives spares => exact gives.steady spares same
  | count reads =>
    rw [← length, ← holds'.count]
    exact reads σ'
  | element looks _ low there numbered => exact looks σ' items' _ _ holds' numbered ((agree _ low).trans there)
  | computed combines _ _ result first second => exact combines σ' _ _ _ first second result

/-- Operands that read no element behind the place are what they were when the insertion was entered. -/
theorem InsertsRaised.of_unmoved {entry : FlowIn} {exit : FlowOut} (inserts : p.InsertsRaised k index value entry exit)
    (sound : k.Sound) (holds : k.Holds σ items) (place : i ≤ items.length) (room : items.length < k.slots.length)
    (indexed : p.Unmoved k i σ items index (.int (.ofNat i))) (valued : p.Unmoved k i σ items value x) :
    ∃ σ', p.Passes entry exit σ σ' ∧ k.Holds σ' (items.insertIdx i x) ∧ ∀ id, id ∉ k.all → σ'.vars id = σ.vars id :=
  inserts σ items i x holds place room (indexed.throughout sound holds) fun σ' same _ =>
    valued.throughout sound holds σ' same

/-- What inserts the second element at the front puts the first one there. -/
theorem InsertsElement.second_at_front {entry : FlowIn} {exit : FlowOut} {y : Literal}
    (inserts : p.InsertsElement k 0 1 entry exit) (holds : k.Holds σ (x :: y :: items))
    (room : items.length + 2 < k.slots.length) :
    ∃ σ', p.Passes entry exit σ σ' ∧ k.Holds σ' (x :: x :: y :: items) := by
  obtain ⟨σ', passes, after, _⟩ := inserts σ _ x holds (Nat.zero_le _) (by simpa using room) (by simp) (by simp)
  exact ⟨σ', passes, after⟩

end Program

namespace Pattern.BoundedList

open Build

/-- An insertion of a value at an index. -/
def insertAt (index value : ValueOut) : ListBuild (FlowIn × FlowOut) := do
  let insert ← insertItem
  connect insert.index index
  connect insert.value value
  return (insert.flowIn, insert.flowOut)

/-- The insertion at one number of the element with another. -/
def insertElement (i m : Nat) : ListBuild (FlowIn × FlowOut) := do
  let index ← createLiteral (.int (.ofNat i))
  let number ← createLiteral (.int (.ofNat m))
  let element ← getItemChecked number
  insertAt index element

end Pattern.BoundedList

/-- A call of an insertion becomes the insertion of its operands. -/
theorem Lower.listStep?_listInsert (index value : ValueOut) :
    listStep? .listInsert [index, value] = some (BoundedList.insertAt index value) := rfl

namespace Plan

variable {start c : Context} {idles : List SocketAddress} {holding : Program → Prop} {k : Cells} {l : BoundedList}

theorem insertAt (plan : Plan start [] idles holding c) (own : l.cells = k) (sound : k.Sound)
    (serves : ∀ q, holding q → q.Serves k l) (index value : ValueOut) :
    Ensures ((BoundedList.insertAt index value).run l) c fun r c' => r.2.cells = k ∧
      Plan start [] (r.1.2.address :: idles)
        (fun q => q.InsertsRaised k index value r.1.1 r.1.2 ∧ q.Serves k r.2 ∧ holding q) c' := by
  unfold BoundedList.insertAt
  refine .listBind (plan.insertItem own sound serves) fun ⟨insert, l'⟩ _ ⟨own, plan⟩ => ?_
  refine .listLift (plan.connect index (.refl _)) fun _ _ plan => ?_
  refine .listLift (plan.connect value (.refl _)) fun _ _ plan => .listPure ⟨own, ?_⟩
  exact plan.mono fun q ⟨valued, indexed, ⟨inserts, _⟩, serves, old⟩ =>
    ⟨inserts.raised sound indexed valued, serves, old⟩

theorem insertElement (plan : Plan start [] idles holding c) (own : l.cells = k) (sound : k.Sound)
    (serves : ∀ q, holding q → q.Serves k l) (i m : Nat) :
    Ensures ((BoundedList.insertElement i m).run l) c fun r c' => r.2.cells = k ∧
      Plan start [] (r.1.2.address :: idles) (fun q => q.InsertsElement k i m r.1.1 r.1.2 ∧ q.Serves k r.2 ∧ holding q)
        c' := by
  unfold BoundedList.insertElement
  refine .listLift (plan.createLiteral _) fun index _ plan => ?_
  refine .listLift (plan.createLiteral _) fun number _ plan => ?_
  refine .listBind (plan.getItemChecked own sound (fun q ⟨_, _, old⟩ => serves q old) number)
    fun ⟨element, l'⟩ _ ⟨own, plan⟩ => ?_
  obtain ⟨own, plan⟩ := plan.insertAt own sound (fun q ⟨_, serves, _⟩ => serves) index element
  refine ⟨own, Plan.mono plan fun q ⟨inserts, serves, looks, _, numbers, indexes, old⟩ =>
    ⟨fun σ items x holds place room inside there => ?_, serves, old⟩⟩
  exact inserts σ items i x holds place room (fun σ' _ => indexes σ')
    (looks.givesRaised (fun σ' _ => numbers σ') place inside there)

end Plan

/-- In whatever order lists were made, operated on and asked before: a call of an insertion inserts what its value
comes to on the raised elements, in every program that the graph grows into. -/
theorem Site.Reached.insertsRaised {s : Site} (reached : s.Reached) {before after : List BoundedList} {l : BoundedList}
    (own : s.lists = before ++ l :: after) (index value : ValueOut) {step : ListBuild Lower.Step}
    (called : Lower.listStep? .listInsert [index, value] = some step) :
    Ensures (step.run l) s.context fun r c' => c'.Small → ∀ q, c'.program.Within q (r.1.2.address :: s.idles) →
      q.InsertsRaised l.cells index value r.1.1 r.1.2 := by
  rw [Lower.listStep?_listInsert, Option.some.injEq] at called
  subst called
  obtain ⟨start, kept⟩ := reached.kept
  obtain ⟨_, plan⟩ := kept.plan.insertAt rfl (kept.sound l (by simp [own])) (fun q old => old.lists l (by simp [own]))
    index value
  exact fun small q within => ((plan.sound small).2.holds q within).1

/-- An element that stands behind the place of its insertion has moved when it is read, so the element before it is
inserted. -/
theorem Site.Reached.insertsElement {s : Site} (reached : s.Reached) {before after : List BoundedList}
    {l : BoundedList} (own : s.lists = before ++ l :: after) (i m : Nat) :
    Ensures ((BoundedList.insertElement i m).run l) s.context fun r c' => c'.Small →
      ∀ q, c'.program.Within q (r.1.2.address :: s.idles) → q.InsertsElement l.cells i m r.1.1 r.1.2 := by
  obtain ⟨start, kept⟩ := reached.kept
  obtain ⟨_, plan⟩ := kept.plan.insertElement rfl (kept.sound l (by simp [own]))
    (fun q old => old.lists l (by simp [own])) i m
  exact fun small q within => ((plan.sound small).2.holds q within).1

end ScriptGraph
