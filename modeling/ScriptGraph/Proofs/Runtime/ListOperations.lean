import ScriptGraph.Proofs.Runtime.ListNodes

/-!
What the operations on a list do when they run.

Every operation is a pattern of nodes between two flows. Run in a state, it leaves the list that the same
operation on lists gives, if its index and its value do not come from the variables of the list.
-/

namespace ScriptGraph

open Pattern

namespace Program

variable {p : Program} {σ σ' : Store} {own : List Int32}

/-- A node lies behind a feed: some value is asked of it to know the value of the feed. -/
inductive Behind (p : Program) : Feed → NodeId → Prop
  | here (a : SocketAddress) : Behind p (.output a) a.node
  | further {a : SocketAddress} {socket : String} {feed : Feed} {id : NodeId}
      (fed : p.feed? ⟨a.node, socket⟩ = some feed) (behind : Behind p feed id) : Behind p (.output a) id

/-- No read of the given variables lies behind a feed. -/
def Spares (p : Program) (feed : Feed) (own : List Int32) : Prop :=
  ∀ id name, p.Behind feed id → p.op? id = some .variableGet →
    p.parameter? id "variable" = some (.int name) → name ∉ own

theorem Spares.behind {a : SocketAddress} {socket : String} {feed : Feed} (spares : p.Spares (.output a) own)
    (fed : p.feed? ⟨a.node, socket⟩ = some feed) : p.Spares feed own :=
  fun id name behind => spares id name (.further fed behind)

/-- A value that does not come from some variables stays as it is when these change. -/
theorem Gives.steady {feed : Feed} {value : Literal} (gives : p.Gives σ feed value)
    (spares : p.Spares feed own) (same : Store.SameOff own σ σ') : p.Gives σ' feed value := by
  induction gives with
  | constant value => exact .constant value
  | placeholder isPlaceholder known => exact .placeholder isPlaceholder known
  | «variable» real op parameter =>
    rw [← same.vars _ (spares _ _ (.here _) op parameter)]
    exact .variable real op parameter
  | counter real op =>
    rw [← same.counters]
    exact .counter real op
  | switch real op parameter fed _ chooses _ selects gives =>
    exact .switch real op parameter fed (selects (spares.behind fed)) chooses (gives (spares.behind chooses))
  | compute real op plain fed _ result gives =>
    refine .compute real op plain fed (fun name member => gives name member (spares.behind (fed name member))) ?_
    rw [Store.compute?, same.world]
    exact result

end Program

/-- The operations that change a list. -/
inductive ListOperation where
  | add
  | insert
  | remove
  | set
  | clear
deriving DecidableEq

/-- The terminals of an operation. -/
structure ListPatch where
  index? : Option ValueIn := none
  value? : Option ValueIn := none
  flowIn : FlowIn
  flowOut : FlowOut

/-- The sockets of an operation that are left to be fed. -/
def ListPatch.sockets (patch : ListPatch) : List SocketAddress :=
  (patch.index?.toList ++ patch.value?.toList).flatMap (·.sockets)

namespace ListOperation

/-- The nodes of an operation. -/
def build : ListOperation → ListBuild ListPatch
  | add => do
    let t ← BoundedList.addItem
    return { value? := some t.value, flowIn := t.flowIn, flowOut := t.flowOut }
  | insert => do
    let t ← BoundedList.insertItem
    return { index? := some t.index, value? := some t.value, flowIn := t.flowIn, flowOut := t.flowOut }
  | remove => do
    let t ← BoundedList.removeItem
    return { index? := some t.index, flowIn := t.flowIn, flowOut := t.flowOut }
  | set => do
    let t ← BoundedList.setItemChecked
    return { index? := some t.index, value? := some t.value, flowIn := t.flowIn, flowOut := t.flowOut }
  | clear => do
    let (flowIn, flowOut) ← BoundedList.clear
    return { flowIn, flowOut }

/-- What an operation makes of the elements of a list with the given capacity. -/
def apply (capacity : Nat) (items : List Literal) (i : Int32) (x : Literal) : ListOperation → List Literal
  | add => if items.length < capacity then items ++ [x] else items
  | insert =>
    if 0 ≤ i.toInt ∧ i.toInt ≤ items.length ∧ items.length < capacity then items.insertIdx i.toInt.toNat x
    else items
  | remove => if 0 ≤ i.toInt ∧ i.toInt < items.length then items.eraseIdx i.toInt.toNat else items
  | set => if 0 ≤ i.toInt ∧ i.toInt < items.length then items.set i.toInt.toNat x else items
  | clear => []

end ListOperation

namespace Program

/-- An input has a value that does not come from the given variables. -/
def TakesOff (p : Program) (own : List Int32) (σ : Store) (a : SocketAddress) (value : Literal) : Prop :=
  ∃ feed, p.feed? a = some feed ∧ p.Gives σ feed value ∧ p.Spares feed own

/-- The inputs of an operation have an index and a value that do not come from the variables of the list. -/
structure Supplied (p : Program) (k : Cells) (patch : ListPatch) (σ : Store) (i : Int32) (x : Literal) : Prop where
  index : ∀ t, patch.index? = some t → ∀ a ∈ t.sockets, p.TakesOff k.all σ a (.int i)
  value : ∀ t, patch.value? = some t → ∀ a ∈ t.sockets, p.TakesOff k.all σ a x

/-- Run in any state in which the list is in order, the pattern does to its elements what the operation does,
changes no other variable, and control leaves it by its exit. -/
def Implements (p : Program) (k : Cells) (operation : ListOperation) (patch : ListPatch) : Prop :=
  ∀ σ i x, k.Ready σ → p.Supplied k patch σ i x → ∃ σ', p.Passes patch.flowIn patch.flowOut σ σ' ∧
    k.Ready σ' ∧ k.items σ' = operation.apply k.slots.length (k.items σ) i x ∧
    ∀ id, id ∉ k.all → σ'.vars id = σ.vars id

/-- A loop takes every element from a place on one slot up, from the cursor downwards. -/
def Raises (p : Program) (k : Cells) (shift : SteppedWhile) (bound : ValueIn) : Prop :=
  ∀ (i d : Nat) (σ : Store), i + d < k.slots.length → σ.vars k.cursor = .int (.ofNat (i + d)) →
    (∀ σ', Store.SameOff (k.above i) σ σ' → p.Accepts σ' bound (.int (.ofNat i))) →
      p.Passes shift.flowIn shift.completed σ (k.raiseFrom i d σ)

/-- The inputs of an insertion have a place while room is made there, and a value when room has been made. -/
structure Offers (p : Program) (k : Cells) (patch : ListPatch) (σ : Store) (length i : Nat) (x : Literal) : Prop where
  index : ∀ t, patch.index? = some t → ∀ σ', Store.SameOff (k.above i) σ σ' → p.Accepts σ' t (.int (.ofNat i))
  value : ∀ t, patch.value? = some t → p.Accepts ((k.makeRoom length i σ).write k.index (.int (.ofNat i))) t x

/-- Run in any state with room for another element, the pattern inserts at its place the value that it is offered when
room has been made, changes no other variable, and control leaves it by its exit. -/
def Inserts (p : Program) (k : Cells) (patch : ListPatch) : Prop :=
  ∀ σ items i x, k.Holds σ items → i ≤ items.length → items.length < k.slots.length →
    p.Offers k patch σ items.length i x → ∃ σ', p.Passes patch.flowIn patch.flowOut σ σ' ∧
      k.Holds σ' (items.insertIdx i x) ∧ ∀ id, id ∉ k.all → σ'.vars id = σ.vars id

/-- A loop takes every element above a place one slot down, up to the last one. -/
def Lowers (p : Program) (k : Cells) (loop : ForLoop) : Prop :=
  ∀ (j d : Nat) (σ τ : Store), j + d < k.slots.length → σ.vars k.count = .int (.ofNat (j + d + 1)) →
    p.Accepts σ loop.start (.int (.ofNat j)) →
      (p.Runs (.follow (some loop.flowIn.address)) σ τ ↔ p.Runs (.follow (p.next? loop.completed.address))
        ((k.lowerFrom loop.node j d σ).count loop.node (.ofNat (j + d))) τ)

section Numbers

variable {a b : Nat} {i : Int32}

theorem ofNat_lt_iff (first : a < 2147483648) (second : b < 2147483648) : Int32.ofNat a < Int32.ofNat b ↔ a < b := by
  rw [Int32.lt_iff_toInt_lt, Int32.toInt_ofNat_of_lt first, Int32.toInt_ofNat_of_lt second, Int.ofNat_lt]

theorem ofNat_add_one (a : Nat) : Int32.ofNat a + 1 = Int32.ofNat (a + 1) := (Int32.ofNat_add a 1).symm

theorem ofNat_sub_one (a : Nat) : Int32.ofNat (a + 1) - 1 = Int32.ofNat a := by
  rw [← ofNat_add_one, Int32.add_sub_cancel]

theorem eq_ofNat (least : 0 ≤ i.toInt) : i = .ofNat i.toInt.toNat :=
  (Int32.ofNat_toNatClampNeg i (Int32.le_iff_toInt_le.2 least)).symm

end Numbers

variable {p : Program} {k : Cells} {patch : ListPatch} {σ : Store} {i : Int32} {x : Literal}

theorem Supplied.accepts_index (supplied : p.Supplied k patch σ i x) {t : ValueIn} (has : patch.index? = some t)
    {σ' : Store} (same : Store.SameOff k.all σ σ') : p.Accepts σ' t (.int i) := by
  intro a member
  obtain ⟨feed, fed, gives, spares⟩ := supplied.index t has a member
  exact ⟨feed, fed, gives.steady spares same⟩

theorem Supplied.accepts_value (supplied : p.Supplied k patch σ i x) {t : ValueIn} (has : patch.value? = some t)
    {σ' : Store} (same : Store.SameOff k.all σ σ') : p.Accepts σ' t x := by
  intro a member
  obtain ⟨feed, fed, gives, spares⟩ := supplied.value t has a member
  exact ⟨feed, fed, gives.steady spares same⟩

/-- It is enough to look at the elements that the variables hold. -/
theorem implements_of_holds {operation : ListOperation} (sound : k.Sound)
    (works : ∀ σ items i x, k.Holds σ items → p.Supplied k patch σ i x →
      ∃ σ', p.Passes patch.flowIn patch.flowOut σ σ' ∧ k.Holds σ' (operation.apply k.slots.length items i x) ∧
        ∀ id, id ∉ k.all → σ'.vars id = σ.vars id) : p.Implements k operation patch := by
  intro σ i x ready supplied
  obtain ⟨σ', passes, holds, others⟩ := works σ _ i x ready.holds supplied
  obtain ⟨ready', items⟩ := holds.ready sound
  exact ⟨σ', passes, ready', items, others⟩

theorem Adjusts.add_one {a v : ValueOut} {n : Nat} (adds : p.Adjusts .mathAdd a (.int 1) v)
    (gives : p.Gives σ (.output a.address) (.int (.ofNat n))) :
    p.Gives σ (.output v.address) (.int (.ofNat (n + 1))) :=
  ofNat_add_one n ▸ adds σ _ _ gives rfl

theorem Adjusts.sub_one {a v : ValueOut} {n : Nat} (subtracts : p.Adjusts .mathSub a (.int 1) v)
    (gives : p.Gives σ (.output a.address) (.int (.ofNat (n + 1)))) :
    p.Gives σ (.output v.address) (.int (.ofNat n)) :=
  ofNat_sub_one n ▸ subtracts σ _ _ gives rfl

theorem accepts_link {inputs : List ValueIn} :
    p.Accepts σ (.link inputs) x ↔ ∀ t ∈ inputs, p.Accepts σ t x := by
  simp only [Accepts, ValueIn.mem_link]
  exact ⟨fun all t member a socket => all a ⟨t, member, socket⟩, fun all a ⟨t, member, socket⟩ => all t member a socket⟩

/-- A check of the range compares the index with the number of elements. -/
theorem Checks.gives {inclusive : Bool} {index : ValueIn} {within : ValueOut} {items : List Literal}
    (checks : p.Checks k inclusive index within) (sound : k.Sound) (holds : k.Holds σ items)
    (accepts : p.Accepts σ index (.int i)) :
    p.Gives σ (.output within.address) (.bool (0 ≤ i.toInt ∧ i.toInt < items.length + inclusive.toNat)) := by
  have number : (Int32.ofNat items.length).toInt = items.length :=
    Int32.toInt_ofNat_of_lt (Nat.lt_of_le_of_lt holds.fits sound.short)
  have same : (decide (i ≥ 0) && if inclusive then decide (i ≤ .ofNat items.length)
      else decide (i < .ofNat items.length)) =
      decide (0 ≤ i.toInt ∧ i.toInt < items.length + inclusive.toNat) := by
    rw [Bool.eq_iff_iff]
    cases inclusive with
    | false => simp [Int32.le_iff_toInt_le, Int32.lt_iff_toInt_lt, number]
    | true =>
      simp only [ge_iff_le, Int32.le_iff_toInt_le, Int32.reduceToInt, if_true, number, Bool.and_eq_true,
        decide_eq_true_eq, Bool.toNat_true]
      omega
  exact same ▸ checks σ i _ accepts holds.count

/-- The comparison of the count with the capacity tells whether there is room. -/
theorem Combines.gives_room {count capacity hasRoom : ValueOut} {items : List Literal}
    (combines : p.Combines .mathLt count capacity hasRoom) (sound : k.Sound) (holds : k.Holds σ items)
    (counts : p.Reads count k.count) (ends : p.Reads capacity k.capacity) :
    p.Gives σ (.output hasRoom.address) (.bool (items.length < k.slots.length)) := by
  have same : decide (Int32.ofNat items.length < Int32.ofNat k.slots.length) =
      decide (items.length < k.slots.length) :=
    decide_eq_decide.2 (ofNat_lt_iff (Nat.lt_of_le_of_lt holds.fits sound.short) sound.short)
  exact same ▸ combines σ _ _ _ (holds.count ▸ counts σ) (holds.capacity ▸ ends σ) rfl

theorem implements_clear {flowIn : FlowIn} {flowOut : FlowOut} (sound : k.Sound)
    (passes : ∀ σ, p.Passes flowIn flowOut σ (σ.write k.count (.int 0))) :
    p.Implements k .clear { flowIn, flowOut } :=
  implements_of_holds sound fun σ _ _ _ holds _ => ⟨_, passes σ, sound.holds_nil holds,
    ((Store.SameOff.refl _ σ).write (by simp [Cells.all]) _).vars⟩

/-- Behind a check, a list is changed if the condition holds and stays as it is if not. -/
theorem Guards.leaves {condition : ValueOut} {check : Guard} {holds : Prop} [Decidable holds]
    {items changed : List Literal} (guards : p.Guards condition check)
    (checked : p.Gives σ (.output condition.address) (.bool holds)) (before : k.Holds σ items)
    (pass : holds → ∃ σ', p.Ends (p.next? check.pass.address) σ σ' ∧ k.Holds σ' changed ∧
      ∀ id, id ∉ k.all → σ'.vars id = σ.vars id) :
    ∃ σ', p.Passes check.flowIn check.flowOut σ σ' ∧ k.Holds σ' (if holds then changed else items) ∧
      ∀ id, id ∉ k.all → σ'.vars id = σ.vars id := by
  by_cases condition : holds
  · obtain ⟨σ', ends, after, others⟩ := pass condition
    rw [if_pos condition]
    exact ⟨σ', guards.passes σ σ' (by simpa [condition] using checked) ends, after, others⟩
  · rw [if_neg condition]
    exact ⟨σ, guards.skips σ (by simpa [condition] using checked), before, fun _ _ => rfl⟩

theorem implements_set {index : ValueIn} {within : ValueOut} {check : Guard} {write : ListSet} (sound : k.Sound)
    (checks : p.Checks k false index within) (guards : p.Guards within check) (puts : p.Puts k write)
    (leads : p.next? check.pass.address = some write.flowIn.address)
    (closed : p.next? write.flowOut.address = none) :
    p.Implements k .set ⟨some (.link [index, write.index]), some write.value, check.flowIn, check.flowOut⟩ := by
  refine implements_of_holds sound fun σ items i x holds supplied => ?_
  have accepts := supplied.accepts_index rfl (.refl _ σ)
  rw [accepts_link] at accepts
  have checked := checks.gives sound holds (accepts index (by simp))
  refine guards.leaves (by simpa using checked) holds fun inside => ?_
  have room : i.toInt.toNat < k.slots.length := by
    have := holds.fits
    omega
  have put : p.Passes write.flowIn write.flowOut σ (k.put σ i.toInt.toNat x) := by
    refine puts σ i.toInt.toNat x room (eq_ofNat inside.1 ▸ accepts write.index (by simp)) ?_
    exact supplied.accepts_value rfl ((Store.SameOff.refl _ σ).write (by simp [Cells.all, Cells.work]) _)
  refine ⟨_, leads ▸ put.ends (closed ▸ ends_none), sound.holds_set holds (by omega), ?_⟩
  exact ((Cells.sameOff_put room).mono (Cells.work_subset k)).vars

/-- The count goes up by one. -/
theorem passes_grow {count grown : ValueOut} {grow : VariableSet} {n : Nat} (counts : p.Reads count k.count)
    (adds : p.Adjusts .mathAdd count (.int 1) grown)
    (grows : p.Feeds grow.value (.output grown.address) ∧ p.Writes grow k.count)
    (counted : σ.vars k.count = .int (.ofNat n)) :
    p.Passes grow.flowIn grow.flowOut σ (σ.write k.count (.int (.ofNat (n + 1)))) := by
  exact grows.2.passes (grows.1.accepts (adds.add_one (counted ▸ counts σ)))

theorem implements_add {count capacity hasRoom grown : ValueOut} {check : Guard} {write : ListSet}
    {grow : VariableSet} (sound : k.Sound) (counts : p.Reads count k.count) (ends : p.Reads capacity k.capacity)
    (compares : p.Combines .mathLt count capacity hasRoom) (guards : p.Guards hasRoom check) (puts : p.Puts k write)
    (indexed : p.Feeds write.index (.output count.address))
    (leads : p.next? check.pass.address = some write.flowIn.address)
    (adds : p.Adjusts .mathAdd count (.int 1) grown)
    (grows : p.Feeds grow.value (.output grown.address) ∧ p.Writes grow k.count)
    (leadsOn : p.next? write.flowOut.address = some grow.flowIn.address)
    (closed : p.next? grow.flowOut.address = none) :
    p.Implements k .add { value? := some write.value, flowIn := check.flowIn, flowOut := check.flowOut } := by
  refine implements_of_holds sound fun σ items i x holds supplied => ?_
  refine guards.leaves (compares.gives_room sound holds counts ends) holds fun room => ?_
  have put : p.Passes write.flowIn write.flowOut σ (k.put σ items.length x) := by
    refine puts σ items.length x room (indexed.accepts (holds.count ▸ counts σ)) ?_
    exact supplied.accepts_value rfl ((Store.SameOff.refl _ σ).write (by simp [Cells.all, Cells.work]) _)
  have counted : (k.put σ items.length x).vars k.count = .int (.ofNat items.length) :=
    ((Cells.sameOff_put room).vars _ (sound.notMem_work (by simp))).trans holds.count
  have grow := passes_grow counts adds grows counted
  refine ⟨_, leads ▸ (put.trans leadsOn grow).ends (closed ▸ ends_none), sound.holds_append holds room, ?_⟩
  exact (((Cells.sameOff_put room).mono (Cells.work_subset k)).write (by simp [Cells.all]) _).vars

theorem raises_of_repeats {shift : SteppedWhile} {cursor below moved : ValueOut} {bound : ValueIn} {write : ListSet}
    {step : VariableSet} (sound : k.Sound) (repeats : p.Repeats shift) (reads : p.Reads cursor k.cursor)
    (tests : ∀ σ j i, σ.vars k.cursor = .int j → p.Accepts σ bound (.int i) →
      p.Accepts σ shift.condition (.bool (j > i)))
    (subtracts : p.Adjusts .mathSub cursor (.int 1) below) (looks : p.Looks k below moved) (puts : p.Puts k write)
    (indexed : p.Feeds write.index (.output cursor.address)) (valued : p.Feeds write.value (.output moved.address))
    (leads : p.next? shift.body.address = some write.flowIn.address)
    (closed : p.next? write.flowOut.address = none)
    (steps : p.Feeds step.value (.output below.address) ∧ p.Writes step k.cursor)
    (leadsStep : p.next? shift.step.address = some step.flowIn.address)
    (closedStep : p.next? step.flowOut.address = none) : p.Raises k shift bound := by
  intro i d σ inside placed accepts
  have short := sound.short
  have tested {σ : Store} {j : Nat} (placed : σ.vars k.cursor = .int (.ofNat j)) (inside : j < k.slots.length)
      (accepts : p.Accepts σ bound (.int (.ofNat i))) (low : i ≤ j) :
      p.Accepts σ shift.condition (.bool (i < j)) := by
    have same : decide (Int32.ofNat j > Int32.ofNat i) = decide (i < j) :=
      decide_eq_decide.2 (ofNat_lt_iff (by omega) (by omega))
    exact same ▸ tests σ _ _ placed accepts
  induction d generalizing σ with
  | zero =>
    refine repeats.stops σ ?_
    simpa using tested placed inside (accepts σ (.refl _ σ)) (by omega)
  | succ d ih =>
    have gives {μ : Store} (placed : μ.vars k.cursor = .int (.ofNat (i + d + 1))) :
        p.Gives μ (.output below.address) (.int (.ofNat (i + d))) :=
      subtracts.sub_one (placed ▸ reads μ)
    have notIndex : k.cursor ≠ k.index := fun same =>
      sound.notMem_work (by simp) (same ▸ List.mem_cons_self : k.cursor ∈ k.work)
    have pending : p.Accepts (σ.write k.index (.int (.ofNat (i + d + 1)))) write.value (σ.vars (k.slot (i + d))) := by
      have look := looks (σ.write k.index (.int (.ofNat (i + d + 1)))) (i + d) (by omega)
        (gives (by rw [Store.vars_write_of_ne _ _ _ _ notIndex]; exact placed))
      rw [Store.vars_write_of_ne _ _ _ _ (sound.ne_slot (by simp) (by omega)).symm] at look
      exact valued.accepts look
    have put := puts σ (i + d + 1) _ inside (indexed.accepts (placed ▸ reads σ)) pending
    have kept : (k.put σ (i + d + 1) (σ.vars (k.slot (i + d)))).vars k.cursor = .int (.ofNat (i + d + 1)) :=
      ((Cells.sameOff_put inside).vars _ (sound.notMem_work (by simp))).trans placed
    have step := steps.2.passes (steps.1.accepts (gives kept))
    have again := repeats.again σ _ (k.raise σ (i + d))
      (by simpa using tested placed inside (accepts σ (.refl _ σ)) (by omega))
      (leads ▸ put.ends (closed ▸ ends_none)) (leadsStep ▸ step.ends (closedStep ▸ ends_none))
    have rest : p.Passes shift.flowIn shift.completed (k.raise σ (i + d)) (k.raiseFrom i d (k.raise σ (i + d))) :=
      ih _ (by omega) (Store.vars_write_self ..) fun σ' same =>
        accepts σ' ((Cells.sameOff_raise inside (Nat.le_add_right i d)).trans same)
    exact fun τ => (again τ).trans (rest τ)

section Insertion

variable {index bound : ValueIn} {within count capacity hasRoom allowed grown : ValueOut} {check : Guard}
  {begins grow : VariableSet} {shift : SteppedWhile} {place : ListSet} (sound : k.Sound)
  (checks : p.Checks k true index within) (counts : p.Reads count k.count) (ends : p.Reads capacity k.capacity)
  (compares : p.Combines .mathLt count capacity hasRoom) (combines : p.Combines .mathAnd within hasRoom allowed)
  (guards : p.Guards allowed check)

include sound checks counts ends compares combines

/-- The check of an insertion holds if the place is in range and there is room. -/
theorem gives_allowed {items : List Literal} (holds : k.Holds σ items) (accepts : p.Accepts σ index (.int i)) :
    p.Gives σ (.output allowed.address)
      (.bool (0 ≤ i.toInt ∧ i.toInt ≤ items.length ∧ items.length < k.slots.length)) := by
  have both := combines σ _ _ _ (checks.gives sound holds accepts) (compares.gives_room sound holds counts ends) rfl
  have same : (decide (0 ≤ i.toInt ∧ i.toInt < items.length + true.toNat) &&
      decide (items.length < k.slots.length)) =
      decide (0 ≤ i.toInt ∧ i.toInt ≤ items.length ∧ items.length < k.slots.length) := by
    rw [← Bool.decide_and, decide_eq_decide, Bool.toNat_true]
    omega
  exact same ▸ both

variable (begin : p.Feeds begins.value (.output count.address) ∧ p.Writes begins k.cursor)
  (leads : p.next? check.pass.address = some begins.flowIn.address)
  (leadsShift : p.next? begins.flowOut.address = some shift.flowIn.address) (raises : p.Raises k shift bound)
  (puts : p.Puts k place) (leadsPlace : p.next? shift.completed.address = some place.flowIn.address)
  (adds : p.Adjusts .mathAdd count (.int 1) grown)
  (grows : p.Feeds grow.value (.output grown.address) ∧ p.Writes grow k.count)
  (leadsGrow : p.next? place.flowOut.address = some grow.flowIn.address)
  (closed : p.next? grow.flowOut.address = none)

include guards begin leads leadsShift raises puts leadsPlace adds grows leadsGrow closed

theorem inserts_of_raises : p.Inserts k
    ⟨some (.link [index, bound, place.index]), some place.value, check.flowIn, check.flowOut⟩ := by
  intro σ items i x holds inRange room offers
  have accepts {σ' : Store} (same : Store.SameOff (k.above i) σ σ') := accepts_link.1 (offers.index _ rfl σ' same)
  have number : (Int32.ofNat i).toInt = i := Int32.toInt_ofNat_of_lt (by have := sound.short; omega)
  have checked : p.Gives σ (.output allowed.address) (.bool true) := by
    have gives := gives_allowed sound checks counts ends compares combines holds (accepts (.refl _ σ) index (by simp))
    rwa [decide_eq_true (by omega)] at gives
  have begin := begin.2.passes (begin.1.accepts (holds.count ▸ counts σ))
  have started : Store.SameOff (k.above i) σ (σ.write k.cursor (.int (.ofNat items.length))) :=
    (Store.SameOff.refl _ σ).write (by simp [Cells.above]) _
  have shift := raises i (items.length - i) _ (by omega) (by rw [Store.vars_write_self, Nat.add_sub_cancel' inRange])
    fun σ' same => accepts (started.trans same) bound (by simp)
  have moved : Store.SameOff (k.above i) σ (k.makeRoom items.length i σ) := Cells.sameOff_makeRoom inRange room
  have put := puts _ i x (by omega) (accepts moved place.index (by simp)) (offers.value _ rfl)
  have counted : (k.put (k.makeRoom items.length i σ) i x).vars k.count = .int (.ofNat items.length) := by
    rw [(Cells.sameOff_put (by omega)).vars _ (sound.notMem_work (by simp)), moved.vars _ fun member =>
      sound.notMem_cursor (by simp) (Cells.above_subset k i member), holds.count]
  have grow := passes_grow counts adds grows counted
  have all := moved.mono (Cells.above_subset_all k i)
  have work := (Cells.sameOff_put (σ := k.makeRoom items.length i σ) (x := x) (by omega : i < k.slots.length)).mono
    (Cells.work_subset k)
  refine ⟨_, guards.passes σ _ checked ?_, sound.holds_insertIdx holds inRange room,
    ((all.trans work).write (by simp [Cells.all]) _).vars⟩
  exact leads ▸ (((begin.trans leadsShift shift).trans leadsPlace put).trans leadsGrow grow).ends (closed ▸ ends_none)

theorem implements_insert : p.Implements k .insert
    ⟨some (.link [index, bound, place.index]), some place.value, check.flowIn, check.flowOut⟩ := by
  have inserts := inserts_of_raises sound checks counts ends compares combines guards begin leads leadsShift raises
    puts leadsPlace adds grows leadsGrow closed
  refine implements_of_holds sound fun σ items i x holds supplied => ?_
  have accepts := accepts_link.1 (supplied.accepts_index rfl (.refl _ σ)) index (by simp)
  have checked := gives_allowed sound checks counts ends compares combines holds accepts
  rw [ListOperation.apply]
  split
  · next allowed =>
    obtain ⟨least, most, room⟩ := allowed
    have inRange : i.toInt.toNat ≤ items.length := by omega
    have moved := Cells.sameOff_makeRoom (σ := σ) inRange room
    refine inserts σ items i.toInt.toNat x holds inRange room ⟨fun t has σ' same => ?_, fun t has => ?_⟩
    · rw [← eq_ofNat least]
      exact supplied.accepts_index has (same.mono (Cells.above_subset_all k _))
    · have moved := moved.mono (Cells.above_subset_all k _)
      exact supplied.accepts_value has (moved.write (by simp [Cells.all, Cells.work]) _)
  · next refused => exact ⟨σ, guards.skips σ (by simpa [refused] using checked), holds, fun _ _ => rfl⟩

end Insertion

theorem lowers_of_counts {loop : ForLoop} {count last next moved : ValueOut} {write : ListSet} (sound : k.Sound)
    (loops : p.Counts loop) (counts : p.Reads count k.count) (subtracts : p.Adjusts .mathSub count (.int 1) last)
    (stops : p.Feeds loop.stop (.output last.address)) (adds : p.Adjusts .mathAdd loop.index (.int 1) next)
    (looks : p.Looks k next moved) (puts : p.Puts k write)
    (indexed : p.Feeds write.index (.output loop.index.address))
    (valued : p.Feeds write.value (.output moved.address))
    (leads : p.next? loop.loopBody.address = some write.flowIn.address)
    (closed : p.next? write.flowOut.address = none) : p.Lowers k loop := by
  intro j d σ τ inside counted starts
  rw [loops.starts σ _ starts τ]
  clear starts
  have short := sound.short
  have stop {σ : Store} {n : Nat} (counted : σ.vars k.count = .int (.ofNat (n + 1))) :
      p.Accepts σ loop.stop (.int (.ofNat n)) := stops.accepts (subtracts.sub_one (counted ▸ counts σ))
  induction d generalizing σ j with
  | zero => exact loops.stops σ _ _ (stop counted) (by simp) τ
  | succ d ih =>
    have below : Int32.ofNat j < Int32.ofNat (j + (d + 1)) := (ofNat_lt_iff (by omega) (by omega)).2 (by omega)
    have at' {μ : Store} (placed : μ.counters loop.node = .ofNat j) :
        p.Gives μ (.output loop.index.address) (.int (.ofNat j)) := placed ▸ loops.index μ
    have pending : p.Accepts ((σ.count loop.node (.ofNat j)).write k.index (.int (.ofNat j))) write.value
        (σ.vars (k.slot (j + 1))) := by
      have look := looks ((σ.count loop.node (.ofNat j)).write k.index (.int (.ofNat j))) (j + 1) (by omega)
        (adds.add_one (at' (by simp)))
      rw [Store.vars_write_of_ne _ _ _ _ (sound.ne_slot (by simp) (by omega)).symm] at look
      exact valued.accepts look
    have put := puts (σ.count loop.node (.ofNat j)) j _ (by omega) (indexed.accepts (at' (by simp))) pending
    have again := loops.again σ _ _ (k.lower loop.node σ j) (stop counted) below
      (leads ▸ put.ends (closed ▸ ends_none)) τ
    have kept : (k.lower loop.node σ j).vars k.count = σ.vars k.count :=
      (Cells.sameOff_put (by omega)).vars _ (sound.notMem_work (by simp))
    have place : j + (d + 1) = j + 1 + d := by omega
    have rest := ih (j := j + 1) (σ := k.lower loop.node σ j) (by omega) (by rw [kept, counted, place])
    rw [again, ofNat_add_one, place]
    exact rest

theorem implements_remove {index : ValueIn} {within count last : ValueOut} {check : Guard} {loop : ForLoop}
    {shrink : VariableSet} (sound : k.Sound) (checks : p.Checks k false index within)
    (guards : p.Guards within check) (counts : p.Reads count k.count)
    (leads : p.next? check.pass.address = some loop.flowIn.address)
    (subtracts : p.Adjusts .mathSub count (.int 1) last) (lowers : p.Lowers k loop)
    (shrinks : p.Feeds shrink.value (.output last.address) ∧ p.Writes shrink k.count)
    (leadsShrink : p.next? loop.completed.address = some shrink.flowIn.address)
    (closed : p.next? shrink.flowOut.address = none) :
    p.Implements k .remove
      { index? := some (.link [index, loop.start]), flowIn := check.flowIn, flowOut := check.flowOut } := by
  refine implements_of_holds sound fun σ items i x holds supplied => ?_
  have accepts := accepts_link.1 (supplied.accepts_index rfl (.refl _ σ))
  have checked := checks.gives sound holds (accepts index (by simp))
  refine guards.leaves (by simpa using checked) holds fun ⟨least, most⟩ => ?_
  have fits := holds.fits
  have starts := accepts loop.start (by simp)
  -- From here on the place is a number of a slot.
  have inside : i.toInt.toNat < items.length := by omega
  have place := eq_ofNat least
  generalize i.toInt.toNat = j at inside place ⊢
  rw [place] at starts
  obtain ⟨d, length⟩ : ∃ d, items.length = j + d + 1 := ⟨items.length - 1 - j, by omega⟩
  have lower (τ : Store) := lowers j d σ τ (by omega) (by rw [holds.count, length]) starts
  have counted : ((k.lowerFrom loop.node j d σ).count loop.node (.ofNat (j + d))).vars k.count =
      .int (.ofNat (j + d + 1)) := by
    rw [Store.vars_count, Cells.vars_lowerFrom (by omega) (sound.notMem_work (by simp)), holds.count, length]
  have shrink := shrinks.2.passes (shrinks.1.accepts (subtracts.sub_one (counted ▸ counts _)))
  have erased := sound.holds_eraseIdx holds inside loop.node (.ofNat (j + d))
  rw [length, show j + d + 1 - 1 - j = d by omega, Nat.add_sub_cancel] at erased
  refine ⟨_, fun τ => ?_, erased, fun id outside => ?_⟩
  · rw [leads, lower τ, leadsShrink]
    exact shrink.ends (closed ▸ ends_none) τ
  · have other : id ≠ k.count := fun same => outside (same ▸ List.mem_cons_self)
    rw [Store.vars_write_of_ne _ _ _ _ other, Store.vars_count,
      Cells.vars_lowerFrom (by omega) fun member => outside (Cells.work_subset k member)]

end Program

end ScriptGraph
