import Mathlib
import ScriptGraph.Proofs.Pattern.Flows
import ScriptGraph.Proofs.Pattern.InitialContents

/-!
Lists that are made and called in turn.

The variables of a list are named after it, and no two lists have one name. So where no variable has such
a name yet, the lists share no variables, and each of them answers as a bounded sequence of its own.
-/

namespace ScriptGraph

open Pattern Build

/-- Makes a list, or calls the list of a number. -/
inductive ListRequest where
  | create (type : ValueType) (capacity : Nat)
  | call (list : Nat) (call : ListCall)

/-- Whether the count of a list that is made can be told by its variable. -/
def ListRequest.Short : ListRequest → Prop
  | .create _ capacity => capacity < 2147483648
  | .call .. => True

/-- A graph under construction with lists, in the order in which they were made. -/
structure Workshop where
  context : Context
  lists : List BoundedList := []

def Workshop.perform (s : Workshop) : ListRequest → Workshop
  | .create type capacity =>
    { context := (BoundedList.new type capacity s.context).2
      lists := s.lists ++ [(BoundedList.new type capacity s.context).1] }
  | .call list call =>
    match s.lists[list]? with
    | none => s
    | some l => { s with context := (call.run l s.context).2 }

/-- Sequences that know nothing of one another. -/
def BoundedSequence.perform (qs : List BoundedSequence) : ListRequest → List BoundedSequence
  | .create _ capacity => qs ++ [{ capacity }]
  | .call list call => qs.modify list (·.after call)

section Names

variable {c : Context} {records : List Variable} {stem name : String}

/-- Variables behind those of a context. -/
def Context.declaring (c : Context) (records : List Variable) : Context :=
  { c with graph := { c.graph with vars := c.graph.vars ++ records.toArray } }

/-- No variable of a context is named after a stem. -/
def Context.Lacks (c : Context) (stem : String) : Prop :=
  ∀ v ∈ c.graph.vars, ∀ rest, v.name ≠ stem ++ "_" ++ rest

theorem Context.Refills.lacks {c' : Context} {own : List Nat} (refills : c.Refills own c') (lacks : c.Lacks stem) :
    c'.Lacks stem := by
  intro v member rest
  obtain ⟨i, inside, rfl⟩ := Array.mem_iff_getElem.1 member
  have signature := refills.signature i
  rw [Array.getElem?_eq_getElem inside, Option.map_some, eq_comm, Option.map_eq_some_iff] at signature
  obtain ⟨v, found, same⟩ := signature
  have name : v.name = c'.graph.vars[i].name := congrArg Prod.fst same
  rw [← name]
  exact lacks v (Array.mem_of_getElem? found) rest

/-- The number of names that lists were given. -/
def Context.listCount (c : Context) : Nat := (c.counters.find? "VARLIST").getD 0

/-- Another list gets its name. -/
def Context.countList (c : Context) : Context :=
  { c with counters := c.counters.insert "VARLIST" (c.listCount + 1) }

theorem Context.listCount_countList (c : Context) : c.countList.listCount = c.listCount + 1 := by
  simp only [listCount, countList, Dict.find?_insert, if_pos, Option.getD_some]

/-- A name that is new in a context and among the variables behind it gets a variable of its own. -/
theorem declares_declareVariable (lacks : c.Lacks stem) {rest : String} (new : ∀ v ∈ records, v.name ≠ stem ++ "_" ++ rest)
    (initial : Option Literal) (type : ValueType) :
    Ensures (declareVariable (stem ++ "_" ++ rest) initial type) (c.declaring records) fun id c' =>
      id = c.graph.vars.size + records.length ∧
        c' = c.declaring (records ++ [⟨stem ++ "_" ++ rest, type, initial⟩]) := by
  have unknown : (c.declaring records).variableId? (stem ++ "_" ++ rest) = none := by
    refine Array.findIdx?_eq_none_iff.2 fun v member => ?_
    rcases Array.mem_append.1 member with old | recent
    · simpa using lacks v old rest
    · simpa using new v (List.mem_toArray.1 recent)
  rw [Ensures, declareVariable_of_new _ _ unknown]
  constructor
  · simp [Context.declaring]
  · simp [Context.declaring]

end Names

namespace Pattern.BoundedList

variable {c : Context} {stem : String}

/-- The variable of an element. -/
def slotRecord (stem : String) (type : ValueType) (n : Nat) : Variable :=
  ⟨stem ++ "_" ++ toString n, type, some type.default⟩

theorem declares_declareSlots (lacks : c.Lacks stem) (type : ValueType) (numbers : List Nat) (nodup : numbers.Nodup)
    (records : List Variable) (new : ∀ v ∈ records, ∀ n ∈ numbers, v.name ≠ stem ++ "_" ++ toString n) :
    Ensures (declareSlots stem type numbers) (c.declaring records) fun slots c' =>
      slots = List.range' (c.graph.vars.size + records.length) numbers.length ∧
        c' = c.declaring (records ++ numbers.map (slotRecord stem type)) := by
  induction numbers generalizing records with
  | nil => exact .pure ⟨rfl, by simp⟩
  | cons n numbers ih =>
    obtain ⟨once, nodup⟩ := List.nodup_cons.1 nodup
    refine (declares_declareVariable lacks (fun v member => new v member n List.mem_cons_self) _ _).bind ?_
    rintro _ _ ⟨rfl, rfl⟩
    refine (ih nodup _ fun v member m later => ?_).bind ?_
    · rcases List.mem_append.1 member with old | recent
      · exact new v old m (List.mem_cons_of_mem _ later)
      · intro same
        rw [List.mem_singleton.1 recent] at same
        have := toString_inj ((String.append_right_inj _).1 same)
        exact once (this ▸ later)
    · rintro _ _ ⟨rfl, rfl⟩
      refine .pure ⟨?_, ?_⟩
      · rw [List.length_append, List.length_singleton, List.length_cons, List.range'_succ]
        rfl
      · simp [slotRecord]

/-- The variables of a list that are no elements. -/
def workRecords (stem : String) (type : ValueType) (capacity : Nat) : List Variable :=
  [⟨stem ++ "_" ++ "Count", .int, some (.int 0)⟩, ⟨stem ++ "_" ++ "Capacity", .int, some (.int (.ofNat capacity))⟩,
    ⟨stem ++ "_" ++ "CurrentIndex", .int, some (.int 0)⟩, ⟨stem ++ "_" ++ "Cursor", .int, some (.int 0)⟩,
    ⟨stem ++ "_" ++ "ValueToSet", type, some type.default⟩]

/-- The variables of a list, in the order of their declaration. -/
def records (stem : String) (type : ValueType) (capacity : Nat) : List Variable :=
  (List.range capacity).map (slotRecord stem type) ++ workRecords stem type capacity

/-- The name of the list of a number. -/
def listName (n : Nat) : String := "VARLIST" ++ "_" ++ toString n

/-- A list whose variables follow the first `first` ones. -/
def placed (name : String) (type : ValueType) (first capacity : Nat) : BoundedList where
  name := name
  valueType := type
  slots := List.range' first capacity
  count := first + capacity
  capacityId := first + capacity + 1
  currentIndex := first + capacity + 2
  cursor := first + capacity + 3
  valueToSet := first + capacity + 4

/-- A word is the name of no element, so it gets a variable of its own behind them. -/
theorem declares_word (lacks : c.Lacks stem) {type : ValueType} {numbers : List Nat} {earlier : List Variable}
    {word : String} (noNumeral : Validation.isNumeral word = false)
    (new : ∀ v ∈ earlier, v.name ≠ stem ++ "_" ++ word) (initial : Option Literal) (own : ValueType) :
    Ensures (declareVariable (stem ++ "_" ++ word) initial own)
      (c.declaring (numbers.map (slotRecord stem type) ++ earlier)) fun id c' =>
        id = c.graph.vars.size + numbers.length + earlier.length ∧
        c' = c.declaring (numbers.map (slotRecord stem type) ++ (earlier ++ [⟨stem ++ "_" ++ word, own, initial⟩])) := by
  have unnamed : ∀ v ∈ numbers.map (slotRecord stem type) ++ earlier, v.name ≠ stem ++ "_" ++ word := by
    intro v member
    rcases List.mem_append.1 member with slot | other
    · intro same
      obtain ⟨n, _, rfl⟩ := List.mem_map.1 slot
      have digits := Validation.isNumeral_toString n
      rw [(String.append_right_inj _).1 same, noNumeral] at digits
      cases digits
    · exact new v other
  refine (declares_declareVariable lacks unnamed initial own).mono ?_
  rintro _ _ ⟨rfl, rfl⟩
  rw [List.length_append, List.length_map, List.append_assoc, Nat.add_assoc]
  exact ⟨rfl, rfl⟩

/-- Where no variable is named after the next list, the variables of that list are new ones in a row. -/
theorem new_of_lacks (lacks : c.Lacks (listName c.listCount)) (type : ValueType) (capacity : Nat) :
    Ensures (new type capacity) c fun l c' =>
      l = placed (listName c.listCount) type c.graph.vars.size capacity ∧
      c' = c.countList.declaring (records (listName c.listCount) type capacity) := by
  have lacks : c.countList.Lacks (listName c.listCount) := lacks
  have named : Ensures (uniqueName "VARLIST") c fun name c' =>
      name = listName c.listCount ∧ c' = c.countList.declaring [] := by
    refine ⟨rfl, ?_⟩
    rw [Context.declaring, Array.append_empty]
    rfl
  refine named.bind ?_
  rintro _ _ ⟨rfl, rfl⟩
  refine (declares_declareSlots lacks type (List.range capacity) List.nodup_range [] (by simp)).bind ?_
  rintro _ _ ⟨rfl, rfl⟩
  rw [List.nil_append, ← List.append_nil (List.map ..)]
  refine (declares_word lacks (by decide) (by simp) _ _).bind ?_
  rintro _ _ ⟨rfl, rfl⟩
  refine (declares_word lacks (by decide) (by simp) _ _).bind ?_
  rintro _ _ ⟨rfl, rfl⟩
  refine (declares_word lacks (by decide) (by simp) _ _).bind ?_
  rintro _ _ ⟨rfl, rfl⟩
  refine (declares_word lacks (by decide) (by simp) _ _).bind ?_
  rintro _ _ ⟨rfl, rfl⟩
  have spelled : listName c.listCount ++ "_ValueToSet" = listName c.listCount ++ "_" ++ "ValueToSet" := by
    rw [String.append_assoc]
    rfl
  rw [spelled]
  refine (declares_word lacks (by decide) (by simp) _ _).bind ?_
  rintro _ _ ⟨rfl, rfl⟩
  refine .pure ⟨?_, rfl⟩
  simp [placed, Context.countList]

theorem mem_vars_placed {name : String} {type : ValueType} {first capacity id : Nat} :
    id ∈ (placed name type first capacity).vars ↔ first ≤ id ∧ id < first + capacity + 5 := by
  simp only [vars, contents, placed, List.cons_append, List.nil_append, List.mem_cons, List.mem_range'_1]
  omega

theorem length_records (type : ValueType) (capacity : Nat) : (records stem type capacity).length = capacity + 5 := by
  simp [records, workRecords]

/-- Every variable of a list is named after the list. -/
theorem name_of_mem_records {type : ValueType} {capacity : Nat} {v : Variable}
    (member : v ∈ records stem type capacity) : ∃ rest, v.name = stem ++ "_" ++ rest := by
  rcases List.mem_append.1 member with slot | work
  · obtain ⟨n, _, rfl⟩ := List.mem_map.1 slot
    exact ⟨toString n, rfl⟩
  · simp only [workRecords, List.mem_cons, List.not_mem_nil, or_false] at work
    rcases work with rfl | rfl | rfl | rfl | rfl <;> exact ⟨_, rfl⟩

theorem Tells.declaring {l : BoundedList} {q : BoundedSequence} (tells : l.Tells c q) (records : List Variable) :
    l.Tells (c.declaring records) q := by
  have same (id : Nat) (member : id ∈ l.contents) : (c.declaring records).initial? id = c.initial? id := by
    have inside := tells.inside id (mem_vars member)
    simp only [Context.initial?, Context.declaring, Array.getElem?_append, if_pos inside]
  refine ⟨tells.capacity, tells.short, tells.length_le, tells.nodup, fun id member => ?_, ?_, fun i value place => ?_⟩
  · have := tells.inside id member
    simp only [Context.declaring, Array.size_append]
    omega
  · rw [same _ l.count_mem]
    exact tells.count
  · obtain ⟨slot, spot, holds⟩ := tells.item i value place
    exact ⟨slot, spot, (same slot (Tells.slot_mem spot)).trans holds⟩

/-- A new list starts empty. -/
theorem tells_placed {capacity : Nat} (short : capacity < 2147483648) (type : ValueType) :
    (placed stem type c.graph.vars.size capacity).Tells (c.declaring (records stem type capacity)) { capacity } where
  capacity := List.length_range'
  short := short
  length_le := Nat.zero_le _
  nodup := by
    refine List.nodup_cons.2 ⟨fun member => ?_, List.nodup_range'⟩
    have := (List.mem_range'_1.1 member).2
    simp only [placed] at this
    omega
  inside id member := by
    have := (mem_vars_placed.1 member).2
    simp only [Context.declaring, Array.size_append, List.size_toArray, length_records]
    omega
  count := by
    have behind : ¬ c.graph.vars.size + capacity < c.graph.vars.size := by omega
    have offset : c.graph.vars.size + capacity - c.graph.vars.size = capacity := by omega
    simp only [Context.initial?, Context.declaring, placed, Array.getElem?_append, if_neg behind, offset]
    simp [records, workRecords]
  item _ _ place := by simp at place

/-- A name tells the number of the list it is made for. -/
theorem listName_inj {m n : Nat} {rest rest' : String}
    (same : listName m ++ "_" ++ rest = listName n ++ "_" ++ rest') : m = n := by
  have digits (k : Nat) : ∀ x ∈ (toString k).toList, (x != '_') = true := by
    intro x member
    have numeral := Validation.isNumeral_toString k
    simp only [Validation.isNumeral, Bool.and_eq_true, List.all_eq_true] at numeral
    have digit := numeral.2 x member
    refine bne_iff_ne.2 fun mark => ?_
    rw [mark] at digit
    exact absurd digit (by decide)
  have spelled (k : Nat) (rest : String) : (listName k ++ "_" ++ rest).toList =
      "VARLIST_".toList ++ ((toString k).toList ++ '_' :: rest.toList) := by
    simp [listName, String.toList_append]
  have before (k : Nat) (rest : List Char) :
      ((toString k).toList ++ '_' :: rest).takeWhile (· != '_') = (toString k).toList := by
    rw [List.takeWhile_append_of_pos (digits k)]
    simp
  have numbers := congrArg String.toList same
  rw [spelled, spelled, List.append_cancel_left_eq] at numbers
  refine toString_inj (String.toList_inj.1 ?_)
  rw [← before m rest.toList, numbers, before]

end Pattern.BoundedList

namespace Workshop

/-- The lists tell sequences, and no two lists share a variable with each other or with the start. -/
structure Keeps (start : Context) (s : Workshop) (qs : List BoundedSequence) : Prop where
  length_eq : s.lists.length = qs.length
  old : ∀ id < start.graph.vars.size, s.context.graph.vars[id]? = start.graph.vars[id]?
  tells : ∀ (i : Nat) (l : BoundedList), s.lists[i]? = some l → ∃ q, qs[i]? = some q ∧ l.Tells s.context q
  apart : ∀ (i j : Nat) (l l' : BoundedList), s.lists[i]? = some l → s.lists[j]? = some l' → i ≠ j →
    ∀ id ∈ l.vars, id ∉ l'.vars
  above : ∀ l ∈ s.lists, ∀ id ∈ l.vars, start.graph.vars.size ≤ id
  size_le : start.graph.vars.size ≤ s.context.graph.vars.size
  lacks : ∀ n, s.context.listCount ≤ n → s.context.Lacks (BoundedList.listName n)

variable {start : Context} {s : Workshop} {qs : List BoundedSequence}

theorem keeps_start (unnamed : ∀ v ∈ start.graph.vars, ∀ rest, v.name ≠ "VARLIST_" ++ rest) :
    Keeps start { context := start } [] where
  length_eq := rfl
  old _ _ := rfl
  tells _ _ place := by simp at place
  apart _ _ _ _ place := by simp at place
  above _ member := by simp at member
  size_le := Nat.le_refl _
  lacks n _ v member rest same := by
    refine unnamed v member (toString n ++ "_" ++ rest) (same.trans ?_)
    have spelled : "VARLIST_" = "VARLIST" ++ "_" := rfl
    rw [spelled, BoundedList.listName]
    simp only [String.append_assoc]

theorem getElem?_concat_cases {α : Type} {xs : List α} {x y : α} {i : Nat} (found : (xs ++ [x])[i]? = some y) :
    xs[i]? = some y ∨ i = xs.length ∧ y = x := by
  rcases Nat.lt_trichotomy i xs.length with before | same | behind
  · rw [List.getElem?_append_left before] at found
    exact .inl found
  · subst same
    rw [List.getElem?_concat_length] at found
    exact .inr ⟨rfl, (Option.some.inj found).symm⟩
  · rw [List.getElem?_eq_none (by simpa using behind)] at found
    cases found

theorem Keeps.inside (keeps : Keeps start s qs) {i id : Nat} {l : BoundedList} (spot : s.lists[i]? = some l)
    (member : id ∈ l.vars) : id < s.context.graph.vars.size := by
  obtain ⟨q, _, tells⟩ := keeps.tells i l spot
  exact tells.inside id member

theorem Keeps.create (keeps : Keeps start s qs) (type : ValueType) {capacity : Nat} (short : capacity < 2147483648) :
    Keeps start (s.perform (.create type capacity)) (BoundedSequence.perform qs (.create type capacity)) := by
  obtain ⟨listed, after⟩ := BoundedList.new_of_lacks (keeps.lacks _ (Nat.le_refl _)) type capacity
  have size_le := keeps.size_le
  rw [perform, listed, after]
  refine ⟨?_, fun id inside => ?_, fun i l spot => ?_, fun i j l l' first second different id member => ?_,
    fun l member id own => ?_, ?_, fun n later v member rest same => ?_⟩
  · simp [BoundedSequence.perform, keeps.length_eq]
  · simp only [Context.declaring]
    rw [Array.getElem?_append_left (by simp only [Context.countList]; omega)]
    exact keeps.old id inside
  · rcases getElem?_concat_cases spot with old | ⟨rfl, rfl⟩
    · obtain ⟨q, spot', tells⟩ := keeps.tells i l old
      have tells : l.Tells s.context.countList q := ⟨tells.capacity, tells.short, tells.length_le, tells.nodup,
        tells.inside, tells.count, tells.item⟩
      have inside := (List.getElem?_eq_some_iff.1 spot').1
      refine ⟨q, ?_, tells.declaring _⟩
      rw [BoundedSequence.perform, List.getElem?_append_left inside]
      exact spot'
    · refine ⟨{ capacity }, ?_, BoundedList.tells_placed (c := s.context.countList) short type⟩
      rw [BoundedSequence.perform, keeps.length_eq, List.getElem?_concat_length]
  · -- The variables of the new list are behind all others.
    rcases getElem?_concat_cases first with old | ⟨rfl, rfl⟩ <;>
      rcases getElem?_concat_cases second with old' | ⟨rfl, rfl⟩
    · exact keeps.apart i j l l' old old' different id member
    · have := keeps.inside old member
      rw [BoundedList.mem_vars_placed]
      omega
    · intro member'
      have := keeps.inside old' member'
      have := (BoundedList.mem_vars_placed.1 member).1
      omega
    · exact absurd rfl different
  · rcases List.mem_append.1 member with old | new
    · exact keeps.above l old id own
    · rw [List.mem_singleton.1 new] at own
      exact size_le.trans (BoundedList.mem_vars_placed.1 own).1
  · simp only [Context.declaring, Array.size_append, Context.countList]
    omega
  · have later : s.context.countList.listCount ≤ n := later
    rw [Context.listCount_countList] at later
    rcases Array.mem_append.1 member with old | new
    · exact keeps.lacks n (by omega) v old rest same
    · obtain ⟨rest', named⟩ := BoundedList.name_of_mem_records (List.mem_toArray.1 new)
      have := BoundedList.listName_inj (named.symm.trans same)
      omega

theorem Keeps.call (keeps : Keeps start s qs) (list : Nat) (call : ListCall) :
    Keeps start (s.perform (.call list call)) (BoundedSequence.perform qs (.call list call)) := by
  rw [perform, BoundedSequence.perform]
  cases found : s.lists[list]? with
  | none =>
    have outside : qs.length ≤ list := keeps.length_eq ▸ List.getElem?_eq_none_iff.1 found
    have same : qs.modify list (·.after call) = qs := List.modify_eq_self outside
    rw [same]
    exact keeps
  | some l =>
    obtain ⟨q, spot, tells⟩ := keeps.tells list l found
    have served := tells.serves call
    have refills := served.refills
    refine ⟨?_, fun id inside => ?_, fun i l' other => ?_, keeps.apart, keeps.above, ?_, fun n later => ?_⟩
    · rw [List.length_modify]
      exact keeps.length_eq
    · have foreign : id ∉ l.contents := fun member => by
        have := keeps.above l (List.mem_of_getElem? found) id (BoundedList.mem_vars member)
        omega
      exact (refills.others id foreign).trans (keeps.old id inside)
    · obtain ⟨q', spot', tells'⟩ := keeps.tells i l' other
      by_cases same : list = i
      · subst same
        obtain rfl : l = l' := Option.some.inj (found.symm.trans other)
        obtain rfl : q = q' := Option.some.inj (spot.symm.trans spot')
        refine ⟨q.after call, ?_, served.tells⟩
        simp [spot]
      · refine ⟨q', ?_, tells'.of_refills refills fun id member own => ?_⟩
        · simpa [List.getElem?_modify, same] using spot'
        · exact keeps.apart i list l' l other found (Ne.symm same) id (BoundedList.mem_vars member)
            (BoundedList.mem_vars own)
    · rw [refills.size_eq]
      exact keeps.size_le
    · refine refills.lacks (keeps.lacks n ?_)
      rw [Context.listCount, ← refills.counters_eq]
      exact later

theorem Keeps.run (keeps : Keeps start s qs) {requests : List ListRequest} (short : ∀ r ∈ requests, r.Short) :
    Keeps start (requests.foldl perform s) (requests.foldl BoundedSequence.perform qs) := by
  induction requests generalizing s qs with
  | nil => exact keeps
  | cons request requests ih =>
    refine ih ?_ fun r member => short r (List.mem_cons_of_mem _ member)
    have first := short request List.mem_cons_self
    cases request with
    | create type capacity => exact keeps.create type first
    | call list call => exact keeps.call list call

/-- A call on the list of a number is answered as a sequence answers it. A failing call changes nothing,
and none makes a node or changes a variable of another list or of no list. -/
structure Answers (s : Workshop) (i : Nat) (l : BoundedList) (q : BoundedSequence) (call : ListCall) : Prop where
  answer : (call.run l s.context).1 = q.answer l.name call
  failed : ∀ problem, (call.run l s.context).1 = .failed problem → (call.run l s.context).2 = s.context
  rest : (call.run l s.context).2 =
    { s.context with graph := { s.context.graph with vars := (call.run l s.context).2.graph.vars } }
  others : ∀ (j : Nat) (l' : BoundedList), j ≠ i → s.lists[j]? = some l' → ∀ id ∈ l'.vars,
    (call.run l s.context).2.graph.vars[id]? = s.context.graph.vars[id]?
  outside : ∀ id : Nat, (∀ l' ∈ s.lists, id ∉ l'.vars) →
    (call.run l s.context).2.graph.vars[id]? = s.context.graph.vars[id]?

theorem Keeps.answers (keeps : Keeps start s qs) {i : Nat} {l : BoundedList} {q : BoundedSequence}
    (found : s.lists[i]? = some l) (tells : l.Tells s.context q) (call : ListCall) : s.Answers i l q call := by
  have served := tells.serves call
  refine ⟨served.answer_eq, served.unchanged, served.refills.rest, fun j l' different other id member => ?_,
    fun id foreign => ?_⟩
  · refine served.refills.others id fun own => ?_
    exact keeps.apart j i l' l other found different id member (BoundedList.mem_vars own)
  · exact served.refills.others id fun own => foreign l (List.mem_of_getElem? found) (BoundedList.mem_vars own)

end Workshop

/-- Lists that are made and called in any order answer as bounded sequences of their own, and no variable from
before is touched. -/
theorem initial_lists_are_bounded_sequences {start : Context}
    (unnamed : ∀ v ∈ start.graph.vars, ∀ rest, v.name ≠ "VARLIST_" ++ rest) {requests : List ListRequest}
    (short : ∀ r ∈ requests, r.Short) :
    let s := requests.foldl Workshop.perform { context := start }
    let qs := requests.foldl BoundedSequence.perform []
    s.lists.length = qs.length ∧
    (∀ id < start.graph.vars.size, s.context.graph.vars[id]? = start.graph.vars[id]?) ∧
    ∀ (i : Nat) (l : BoundedList), s.lists[i]? = some l →
      ∃ q, qs[i]? = some q ∧ l.capacity = q.capacity ∧ ∀ call, s.Answers i l q call := by
  intro s qs
  have keeps : Workshop.Keeps start s qs := (Workshop.keeps_start unnamed).run short
  refine ⟨keeps.length_eq, keeps.old, fun i l found => ?_⟩
  obtain ⟨q, place, tells⟩ := keeps.tells i l found
  exact ⟨q, place, tells.capacity, keeps.answers found tells⟩

namespace Shelves

/-- A context with one variable. -/
def start : Context := { graph := { vars := #[⟨"total", .int, some (.int 7)⟩] } }

/-- Two lists; the first is filled, an element of the second is replaced. -/
def requests : List ListRequest :=
  [.create .int 1, .call 0 (.add (.int 5)), .create .bool 2, .call 1 (.add (.bool true)), .call 0 (.add (.int 6)),
    .call 1 (.add (.bool false)), .call 1 (.set 0 (.bool false))]

theorem filled_and_replaced :
    let s := requests.foldl Workshop.perform { context := start }
    ∃ first second, s.lists = [first, second] ∧
      (ListCall.run first (.add (.int 9)) s.context).1 = .failed (.full first.name 1) ∧
      (ListCall.run first (.add (.int 9)) s.context).2 = s.context ∧
      (ListCall.run second (.get 0) s.context).1 = .item (.bool false) ∧
      (ListCall.run second (.get 2) s.context).1 = .failed (.indexOutOfRange second.name 2 2) ∧
      s.context.graph.vars[0]? = some ⟨"total", .int, some (.int 7)⟩ := by
  intro s
  have unnamed : ∀ v ∈ start.graph.vars, ∀ rest, v.name ≠ "VARLIST_" ++ rest := by
    intro v member rest same
    obtain rfl : v = ⟨"total", .int, some (.int 7)⟩ := by simpa [start] using member
    have letters := congrArg (·.toList.head?) same
    simp at letters
  have short : ∀ r ∈ requests, r.Short := by
    simp [requests, ListRequest.Short]
  obtain ⟨length, old, answers⟩ := initial_lists_are_bounded_sequences unnamed short
  obtain ⟨first, second, lists⟩ := List.length_eq_two.1 (length : s.lists.length = 2)
  obtain ⟨q, spot, _, calls⟩ := answers 0 first (congrArg (·[0]?) lists)
  obtain rfl : q = ⟨1, [.int 5]⟩ := Option.some.inj (spot.symm.trans rfl)
  obtain ⟨q', spot', _, calls'⟩ := answers 1 second (congrArg (·[1]?) lists)
  obtain rfl : q' = ⟨2, [.bool false, .bool false]⟩ := Option.some.inj (spot'.symm.trans rfl)
  have full := (calls (.add (.int 9))).answer
  exact ⟨first, second, lists, full, (calls (.add (.int 9))).failed _ full, (calls' (.get 0)).answer,
    (calls' (.get 2)).answer, old 0 (by decide)⟩

end Shelves

end ScriptGraph
