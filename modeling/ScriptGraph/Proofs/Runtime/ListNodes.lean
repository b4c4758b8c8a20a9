import ScriptGraph.Proofs.Pattern.Lists
import ScriptGraph.Proofs.Runtime.Builders
import ScriptGraph.Proofs.Runtime.ListStates

/-!
What the nodes of a list do when they run.

The operations on a list share reads of its variables and one switch that writes its slots. A list keeps
what these do, and every operation is put together from it.
-/

namespace ScriptGraph

open Pattern

/-- The number of a slot is the label of its case. -/
theorem Pattern.BoundedList.chosenSocket_cases {l : BoundedList} (short : l.slots.length < 2147483648) {j : Nat}
    (inside : j < l.slots.length) :
    chosenSocket ((List.range (Int32.ofNat l.slots.length).toInt.toNat).map Int32.ofNat) (.ofNat j) = toString j := by
  rw [Int32.toInt_ofNat_of_lt short, Int.toNat_natCast, chosenSocket,
    if_pos (List.mem_map.2 ⟨j, List.mem_range.2 inside, rfl⟩), Int32.toInt_ofNat_of_lt (by omega)]
  rfl

namespace Program

/-- A check passes if its condition holds, and goes on in any case. -/
structure Guards (p : Program) (condition : ValueOut) (check : Guard) : Prop where
  passes : ∀ σ σ', p.Gives σ (.output condition.address) (.bool true) →
    p.Ends (p.next? check.pass.address) σ σ' → p.Passes check.flowIn check.flowOut σ σ'
  skips : ∀ σ, p.Gives σ (.output condition.address) (.bool false) → p.Passes check.flowIn check.flowOut σ σ

/-- A loop runs its body and then its step as long as its condition holds. -/
structure Repeats (p : Program) (loop : SteppedWhile) : Prop where
  again : ∀ σ μ σ', p.Accepts σ loop.condition (.bool true) → p.Ends (p.next? loop.body.address) σ μ →
    p.Ends (p.next? loop.step.address) μ σ' → ∀ τ, p.Runs (.follow (some loop.flowIn.address)) σ τ ↔
      p.Runs (.follow (some loop.flowIn.address)) σ' τ
  stops : ∀ σ, p.Accepts σ loop.condition (.bool false) → p.Passes loop.flowIn loop.completed σ σ

/-- A loop counts from its start up to its end. -/
structure Counts (p : Program) (loop : ForLoop) : Prop where
  index : ∀ σ, p.Gives σ (.output loop.index.address) (.int (σ.counters loop.node))
  starts : ∀ σ i, p.Accepts σ loop.start (.int i) → ∀ τ,
    p.Runs (.follow (some loop.flowIn.address)) σ τ ↔ p.Runs (.counting loop.node i) σ τ
  again : ∀ σ i stop σ', p.Accepts σ loop.stop (.int stop) → i < stop →
    p.Ends (p.next? loop.loopBody.address) (σ.count loop.node i) σ' → ∀ τ,
      p.Runs (.counting loop.node i) σ τ ↔ p.Runs (.counting loop.node (i + 1)) σ' τ
  stops : ∀ σ i stop, p.Accepts σ loop.stop (.int stop) → ¬ i < stop → ∀ τ,
    p.Runs (.counting loop.node i) σ τ ↔
      p.Runs (.follow (p.next? loop.completed.address)) (σ.count loop.node i) τ

/-- A node counts from its start up to its end. -/
structure Loops (p : Program) (loop : ForLoop) : Prop where
  stands : p.Stands loop.node .flowFor ["loopBody", "completed"]
  start : loop.start = loop.node.valueIn "startIndex"
  stop : loop.stop = loop.node.valueIn "endIndex"
  index : loop.index = loop.node.valueOut "index"
  flowIn : loop.flowIn = loop.node.flowIn "in"
  loopBody : loop.loopBody = loop.node.flowOut "loopBody"
  completed : loop.completed = loop.node.flowOut "completed"

theorem Loops.counts {p : Program} {loop : ForLoop} (loops : p.Loops loop) : p.Counts loop := by
  obtain ⟨stands, start, stop, index, flowIn, loopBody, completed⟩ := loops
  refine ⟨fun σ => ?_, fun σ i starts τ => ?_, fun σ i last σ' stops below body τ => ?_, fun σ i last stops reached τ => ?_⟩
  · rw [index]
    exact .counter stands.real stands.op
  · rw [start] at starts
    rw [flowIn]
    exact runs_loop stands (accepts_valueIn.1 starts)
  · rw [stop] at stops
    rw [loopBody] at body
    refine (runs_counting_pass (accepts_valueIn.1 stops) below).trans ?_
    have body (μ : Store) : p.Runs (.follow (p.next? ⟨loop.node, "loopBody"⟩)) (σ.count loop.node i) μ ↔ μ = σ' := body μ
    simp only [body, exists_eq_left]
  · rw [stop] at stops
    rw [completed]
    exact runs_counting_completed (accepts_valueIn.1 stops) reached

/-- The shared switch of a list writes the pending value into the slot of the pending index. -/
def Stores (p : Program) (k : Cells) (switch : NodeId) : Prop :=
  ∀ σ j, j < k.slots.length → σ.vars k.index = .int (.ofNat j) →
    p.Ends (some ⟨switch, "in"⟩) σ (σ.write (k.slot j) (σ.vars k.value))

/-- An output has the value of the slot with a given index. -/
def Looks (p : Program) (k : Cells) (index v : ValueOut) : Prop :=
  ∀ σ j, j < k.slots.length → p.Gives σ (.output index.address) (.int (.ofNat j)) →
    p.Gives σ (.output v.address) (σ.vars (k.slot j))

/-- An output has the element with a given index, if there is one. -/
def LooksUp (p : Program) (k : Cells) (index v : ValueOut) : Prop :=
  ∀ σ items j x, k.Holds σ items → p.Gives σ (.output index.address) (.int (.ofNat j)) → items[j]? = some x →
    p.Gives σ (.output v.address) x

/-- A write puts a value into the slot with a given index. The value is read after the index. -/
def Puts (p : Program) (k : Cells) (write : ListSet) : Prop :=
  ∀ σ j x, j < k.slots.length → p.Accepts σ write.index (.int (.ofNat j)) →
    p.Accepts (σ.write k.index (.int (.ofNat j))) write.value x →
      p.Passes write.flowIn write.flowOut σ (k.put σ j x)

/-- An output tells whether an index is in the range of a list. -/
def Checks (p : Program) (k : Cells) (inclusive : Bool) (index : ValueIn) (within : ValueOut) : Prop :=
  ∀ σ i n, p.Accepts σ index (.int i) → σ.vars k.count = .int n →
    p.Gives σ (.output within.address) (.bool (decide (i ≥ 0) && if inclusive then decide (i ≤ n) else decide (i < n)))

/-- The shared nodes of a list do what they are there for. -/
structure Serves (p : Program) (k : Cells) (l : BoundedList) : Prop where
  count : ∀ v, l.countRead = some v → p.Reads v k.count
  slots : l.slotReads = [] ∨ List.Forall₂ p.Reads l.slotReads k.slots
  write : ∀ switch, l.writeSwitch = some switch → p.Stores k switch

end Program

namespace Plan

variable {start c : Context} {blanks idles : List SocketAddress} {holding : Program → Prop}

section Flows

theorem guard (plan : Plan start blanks idles holding c) (condition : ValueOut) :
    Ensures (Pattern.guard condition) c fun check c' =>
      Plan start blanks (check.pass.address :: check.flowOut.address :: idles)
        (fun q => q.Guards condition check ∧ holding q) c' := by
  refine (plan.createNode [] ["0", "1"] (by decide)).bind fun sequence _ ⟨plan, _⟩ => ?_
  refine (plan.createNode ["condition"] ["true"] (by decide)).bind fun branch _ ⟨plan, _⟩ => ?_
  refine (plan.connect (t := branch.valueIn "condition") condition (.refl _)).bind fun _ _ plan => ?_
  refine (plan.connectFlow (f := sequence.flowOut "0") (branch.flowIn "in")
    (perm_front [_] _ _)).bind fun _ _ plan => .pure ?_
  refine plan.mono fun q ⟨leads, fed, branches, sequences, old⟩ => ⟨⟨fun σ σ' holds ends => ?_, fun σ fails => ?_⟩, old⟩
  · refine Program.passes_sequence sequences ?_
    rw [show q.next? ⟨sequence, "0"⟩ = some ⟨branch, "in"⟩ from leads]
    exact fun τ => (Program.runs_branch branches (Program.Feeds.takes fed holds)).trans (ends τ)
  · refine Program.passes_sequence sequences ?_
    rw [show q.next? ⟨sequence, "0"⟩ = some ⟨branch, "in"⟩ from leads]
    have closed : q.next? ⟨branch, "false"⟩ = none := branches.closed "false" (by decide)
    intro τ
    rw [Program.runs_branch branches (Program.Feeds.takes fed fails), if_neg Bool.false_ne_true, closed]
    exact Program.ends_none τ

theorem steppedWhile (plan : Plan start blanks idles holding c) :
    Ensures Pattern.steppedWhile c fun loop c' =>
      Plan start (loop.condition.sockets ++ blanks)
        (loop.body.address :: loop.step.address :: loop.completed.address :: idles)
        (fun q => q.Repeats loop ∧ holding q) c' := by
  refine (plan.createNode ["condition"] ["loopBody", "completed"] (by decide)).bind fun node _ ⟨plan, _⟩ => ?_
  refine (plan.createNode [] ["0", "1"] (by decide)).bind fun sequence _ ⟨plan, _⟩ => ?_
  refine (plan.connectFlow (f := node.flowOut "loopBody") (sequence.flowIn "in")
    (perm_front [_, _] _ _)).bind fun _ _ plan => .pure ?_
  refine plan.mono fun q ⟨leads, sequences, stands, old⟩ => ⟨⟨fun σ μ σ' holds body step τ => ?_, fun σ fails τ => ?_⟩, old⟩
  · have pass : q.Ends (some ⟨sequence, "in"⟩) σ σ' := (Program.passes_sequence sequences body).ends step
    refine (Program.runs_while_again stands (Program.accepts_valueIn.1 holds)).trans ?_
    rw [show q.next? ⟨node, "loopBody"⟩ = some ⟨sequence, "in"⟩ from leads]
    simp only [pass _, exists_eq_left]
    rfl
  · exact Program.runs_while_ended stands (Program.accepts_valueIn.1 fails)

/-- The node of a counting loop. -/
theorem forLoopNode (plan : Plan start blanks idles holding c) (initial : Int32) :
    Ensures (Pattern.forLoop initial) c fun loop c' =>
      Plan start (loop.start.sockets ++ (loop.stop.sockets ++ blanks))
        (loop.loopBody.address :: loop.completed.address :: idles)
        (fun q => q.Loops loop ∧ holding q) c' := by
  refine (plan.createNode ["startIndex", "endIndex"] ["loopBody", "completed"] (by decide)).bind
    fun node _ ⟨plan, bare⟩ => ?_
  refine (plan.configure bare "initialIndex" (.int initial)).bind fun _ _ plan => .pure ?_
  exact plan.mono fun q ⟨_, stands, old⟩ => ⟨⟨stands, rfl, rfl, rfl, rfl, rfl, rfl⟩, old⟩

theorem forLoop (plan : Plan start blanks idles holding c) (initial : Int32) :
    Ensures (Pattern.forLoop initial) c fun loop c' =>
      Plan start (loop.start.sockets ++ (loop.stop.sockets ++ blanks))
        (loop.loopBody.address :: loop.completed.address :: idles)
        (fun q => q.Counts loop ∧ holding q) c' :=
  (plan.forLoopNode initial).mono fun _ _ plan => plan.mono fun _ ⟨loops, old⟩ => ⟨loops.counts, old⟩

end Flows

section Reads

variable {k : Cells} {l : BoundedList}

theorem readAll (slots : List Nat) {holding : Program → Prop} {c : Context}
    (plan : Plan start blanks idles holding c) :
    Ensures (BoundedList.readAll slots) c fun reads c' =>
      Plan start blanks idles (fun q => List.Forall₂ q.Reads reads (slots.map .ofNat) ∧ holding q) c' := by
  induction slots generalizing holding c with
  | nil => exact .pure (plan.mono fun q old => ⟨.nil, old⟩)
  | cons slot slots ih =>
    refine (plan.getVariable slot).bind fun read _ plan => ?_
    refine (ih plan).bind fun reads _ plan => .pure ?_
    exact plan.mono fun q ⟨others, first, old⟩ => ⟨.cons first others, old⟩

theorem countValue (plan : Plan start blanks idles holding c) (own : l.cells = k)
    (serves : ∀ q, holding q → q.Serves k l) :
    Ensures (BoundedList.countValue.run l) c fun r c' => r.2.cells = k ∧
      Plan start blanks idles (fun q => q.Reads r.1 k.count ∧ q.Serves k r.2 ∧ holding q) c' := by
  subst own
  unfold BoundedList.countValue
  refine .listGet ?_
  rcases found : l.countRead with _ | read
  · refine .listLift (plan.getVariable l.count) fun read _ plan => .listSet (.listPure ⟨rfl, ?_⟩)
    refine plan.mono fun q ⟨reads, old⟩ => ⟨reads, ⟨fun v same => ?_, (serves q old).slots, (serves q old).write⟩, old⟩
    exact Option.some.inj same ▸ reads
  · refine .listPure ⟨rfl, plan.mono fun q old => ⟨(serves q old).count read found, serves q old, old⟩⟩

theorem getSlotReads (plan : Plan start blanks idles holding c) (own : l.cells = k)
    (serves : ∀ q, holding q → q.Serves k l) :
    Ensures (BoundedList.getSlotReads.run l) c fun r c' => r.2.cells = k ∧
      Plan start blanks idles
        (fun q => List.Forall₂ q.Reads r.1 k.slots ∧ q.Serves k r.2 ∧ holding q) c' := by
  subst own
  unfold BoundedList.getSlotReads
  refine .listGet ?_
  split
  · refine .listLift (plan.readAll l.slots) fun reads _ plan => .listSet (.listPure ⟨rfl, ?_⟩)
    exact plan.mono fun q ⟨reads, old⟩ =>
      ⟨reads, ⟨(serves q old).count, .inr reads, (serves q old).write⟩, old⟩
  · next made =>
    refine .listPure ⟨rfl, plan.mono fun q old => ⟨?_, serves q old, old⟩⟩
    exact (serves q old).slots.resolve_left fun none => made (by simp [none])

/-- The sockets of a node with the numbers from the first one on. -/
def numbered (node : NodeId) (first count : Nat) : List SocketAddress :=
  ((List.range' first count).map toString).map (⟨node, ·⟩)

theorem connectNumbered (node : NodeId) (reads : List ValueOut) (first : Nat) {holding : Program → Prop}
    {c : Context} (plan : Plan start (numbered node first reads.length ++ blanks) idles holding c) :
    Ensures (BoundedList.connectNumbered node first reads) c fun _ c' => Plan start blanks idles
      (fun q => (∀ j v, reads[j]? = some v → q.feed? ⟨node, toString (first + j)⟩ = some (.output v.address)) ∧
        holding q) c' := by
  induction reads generalizing first holding c with
  | nil => exact .pure (plan.mono fun q old => ⟨by simp, old⟩)
  | cons read reads ih =>
    refine (plan.connect (t := node.valueIn (toString first)) read (.refl _)).bind fun _ _ plan => ?_
    refine (ih (first + 1) plan).mono fun _ _ plan => plan.mono fun q ⟨others, here, old⟩ =>
      ⟨fun j v there => ?_, old⟩
    cases j with
    | zero =>
      cases there
      exact here _ (by simp)
    | succ j =>
      have place : first + (j + 1) = first + 1 + j := by omega
      exact place ▸ others j v there

theorem getItem (plan : Plan start blanks idles holding c) (own : l.cells = k) (sound : k.Sound)
    (serves : ∀ q, holding q → q.Serves k l) (index : ValueOut) :
    Ensures ((BoundedList.getItem index).run l) c fun r c' => r.2.cells = k ∧
      Plan start blanks idles (fun q => q.Looks k index r.1 ∧ q.Serves k r.2 ∧ holding q) c' := by
  unfold BoundedList.getItem
  refine .listBind (plan.getSlotReads own serves) fun ⟨reads, l'⟩ _ ⟨own', plan⟩ => .listGet ?_
  have nodup : ("selection" :: "default" :: (List.range' 0 reads.length).map toString).Nodup := by
    have named (name : String) (other : Validation.isNumeral name = false) :
        name ∉ (List.range' 0 reads.length).map toString := by
      intro member
      obtain ⟨n, _, rfl⟩ := List.mem_map.1 member
      rw [Validation.isNumeral_toString] at other
      cases other
    refine List.nodup_cons.2 ⟨?_, List.nodup_cons.2 ⟨named "default" (by decide), Known.nodup_numbers 0 _⟩⟩
    simpa using named "selection" (by decide)
  refine .listLift (plan.createNode _ [] ⟨nodup, List.nodup_nil⟩) fun switch _ ⟨plan, bare⟩ => ?_
  refine .listLift (plan.configure bare "cases" l'.cases) fun _ _ plan => ?_
  refine .listLift (plan.connect (t := switch.valueIn "selection") index (.refl _)) fun _ _ plan => ?_
  refine .listLift (plan.setLiteral (t := switch.valueIn "default") _ (.refl _)) fun _ _ plan => ?_
  refine .listLift (plan.connectNumbered switch reads 0) fun _ _ plan => .listPure ⟨own', ?_⟩
  refine plan.mono fun q ⟨fed, _, selects, cases, stands, slotReads, serves, old⟩ =>
    ⟨fun σ j inside gives => ?_, serves, old⟩
  subst own'
  obtain ⟨length, each⟩ := List.forall₂_iff_get.1 slotReads
  obtain ⟨_, same⟩ := List.getElem?_eq_some_iff.1 (Cells.getElem?_slots inside)
  have inside' : j < reads.length := length ▸ inside
  have numbers : l'.slots.length = l'.cells.slots.length := (List.length_map ..).symm
  have socket := BoundedList.chosenSocket_cases (numbers ▸ sound.short) (numbers ▸ inside : j < l'.slots.length)
  have chosen := fed j _ (List.getElem?_eq_getElem inside')
  rw [Nat.zero_add, ← socket] at chosen
  exact .switch stands.real stands.op cases (selects ⟨switch, "selection"⟩ (by simp)) gives chosen (same ▸ each j inside' inside σ)

end Reads

section Writes

variable {k : Cells} {l : BoundedList}

theorem connectWrites (switch : NodeId) (pending : ValueOut) (slots : List Nat) (first : Nat)
    {holding : Program → Prop} {c : Context}
    (plan : Plan start blanks (numbered switch first slots.length ++ idles) holding c) :
    Ensures (BoundedList.connectWrites switch pending first slots) c fun _ c' => Plan start blanks idles
      (fun q => (∀ j slot σ x, (slots.map Int32.ofNat)[j]? = some slot → q.Gives σ (.output pending.address) x →
        q.Ends (q.next? ⟨switch, toString (first + j)⟩) σ (σ.write slot x)) ∧ holding q) c' := by
  induction slots generalizing first holding c with
  | nil => exact .pure (plan.mono fun q old => ⟨by simp, old⟩)
  | cons slot slots ih =>
    refine (plan.setVariableFrom slot pending).bind fun write _ plan => ?_
    refine (plan.connectFlow (f := switch.flowOut (toString first)) write.flowIn
      (perm_front [_] _ _)).bind fun _ _ plan => ?_
    refine (ih (first + 1) (plan.close (.refl _))).mono fun _ _ plan =>
      plan.mono fun q ⟨others, closed, leads, ⟨feeds, writes⟩, old⟩ => ⟨fun j slot' σ x there gives => ?_, old⟩
    cases j with
    | zero =>
      cases there
      have leads : q.next? ⟨switch, toString (first + 0)⟩ = some write.flowIn.address := leads
      rw [leads]
      refine (writes.passes (feeds.accepts gives)).ends ?_
      rw [closed]
      exact Program.ends_none
    | succ j =>
      have place : first + (j + 1) = first + 1 + j := by omega
      exact place ▸ others j slot' σ x there gives

theorem getWriteSwitch (plan : Plan start blanks idles holding c) (own : l.cells = k) (sound : k.Sound)
    (serves : ∀ q, holding q → q.Serves k l) :
    Ensures (BoundedList.getWriteSwitch.run l) c fun r c' => r.2.cells = k ∧
      Plan start blanks idles (fun q => q.Stores k r.1 ∧ q.Serves k r.2 ∧ holding q) c' := by
  subst own
  unfold BoundedList.getWriteSwitch
  refine .listGet ?_
  rcases found : l.writeSwitch with _ | switch
  · refine .listLift (plan.createNode ["selection"] _ ⟨by decide, Known.nodup_numbers 0 l.slots.length⟩)
      fun switch _ ⟨plan, bare⟩ => ?_
    refine .listLift (plan.configure bare "cases" l.cases) fun _ _ plan => ?_
    refine .listLift (plan.getVariable l.currentIndex) fun index _ plan => ?_
    refine .listLift (plan.connect (t := switch.valueIn "selection") index (.refl _)) fun _ _ plan => ?_
    refine .listLift (plan.getVariable l.valueToSet) fun pending _ plan => ?_
    refine .listLift (plan.connectWrites switch pending l.slots 0) fun _ _ plan => .listSet (.listPure ⟨rfl, ?_⟩)
    refine plan.mono fun q ⟨writes, reads, feeds, readsIndex, cases, stands, old⟩ => ?_
    have stores : q.Stores l.cells switch := by
      intro σ j there pending τ
      have inside : j < l.slots.length := by simpa [BoundedList.cells] using there
      have short : l.slots.length < 2147483648 := by simpa [BoundedList.cells] using sound.short
      have selects : q.Takes σ ⟨switch, "selection"⟩ (.int (.ofNat j)) :=
        Program.Feeds.takes feeds (pending ▸ readsIndex σ)
      rw [Program.runs_switch stands cases selects, BoundedList.chosenSocket_cases short inside]
      have ends := writes j _ σ _ (Cells.getElem?_slots there) (reads σ) τ
      rwa [Nat.zero_add] at ends
    refine ⟨stores, ⟨(serves q old).count, (serves q old).slots, fun s same => ?_⟩, old⟩
    exact Option.some.inj same ▸ stores
  · exact .listPure ⟨rfl, plan.mono fun q old => ⟨(serves q old).write switch found, serves q old, old⟩⟩

theorem setItem (plan : Plan start blanks idles holding c) (own : l.cells = k) (sound : k.Sound)
    (serves : ∀ q, holding q → q.Serves k l) :
    Ensures (BoundedList.setItem.run l) c fun r c' => r.2.cells = k ∧
      Plan start (r.1.index.sockets ++ (r.1.value.sockets ++ blanks)) (r.1.flowOut.address :: idles)
        (fun q => q.Puts k r.1 ∧ q.Serves k r.2 ∧ holding q) c' := by
  unfold BoundedList.setItem
  refine .listBind (plan.getWriteSwitch own sound serves) fun ⟨switch, l'⟩ _ ⟨own', plan⟩ => .listGet ?_
  subst own'
  refine .listLift (plan.createNode [] ["0", "1"] (by decide)) fun sequence _ ⟨plan, _⟩ => ?_
  refine .listLift (plan.setVariable l'.currentIndex) fun storeIndex _ plan => ?_
  refine .listLift (plan.setVariable l'.valueToSet) fun storeValue _ plan => ?_
  refine .listLift (plan.connectFlow (f := sequence.flowOut "0") storeIndex.flowIn
    (perm_front [_, _] _ _)) fun _ _ plan => ?_
  refine .listLift (plan.connectFlow storeValue.flowIn (perm_front [_] _ _)) fun _ _ plan => ?_
  refine .listLift (plan.connectFlow (switch.flowIn "in") (.refl _)) fun _ _ plan => .listPure ⟨rfl, ?_⟩
  refine (plan.reorder (?_ : List.Perm _ _) (.refl _)).mono fun q ⟨toSwitch, toValue, toIndex, values, indices, sequences,
    stores, serves, old⟩ => ⟨fun σ j x inside index value => ?_, serves, old⟩
  · exact List.perm_append_comm_assoc ..
  · have different : l'.cells.index ≠ l'.cells.value := fun same => sound.index_ne (same ▸ List.mem_cons_self)
    refine Program.passes_sequence sequences ?_
    have toIndex : q.next? ⟨sequence, "0"⟩ = some storeIndex.flowIn.address := toIndex
    rw [toIndex]
    refine ((indices.passes index).trans toValue (values.passes value)).ends ?_
    rw [toSwitch]
    have pending : ((σ.write l'.cells.index (.int (.ofNat j))).write l'.cells.value x).vars l'.cells.index =
        .int (.ofNat j) := by
      rw [Store.vars_write_of_ne _ _ _ _ different, Store.vars_write_self]
    have ends := stores _ j inside pending
    rwa [Store.vars_write_self] at ends

theorem indexInRange (plan : Plan start blanks idles holding c) (own : l.cells = k)
    (serves : ∀ q, holding q → q.Serves k l) (inclusive : Bool) :
    Ensures ((BoundedList.inRange inclusive).run l) c fun r c' => r.2.cells = k ∧
      Plan start (r.1.1.sockets ++ blanks) idles
        (fun q => q.Checks k inclusive r.1.1 r.1.2 ∧ q.Serves k r.2 ∧ holding q) c' := by
  unfold BoundedList.inRange
  refine .listBind (plan.countValue own serves) fun ⟨count, l'⟩ _ ⟨own', plan⟩ => ?_
  refine .listLift (plan.createNode ["a", "b"] [] (by decide)) fun lower _ ⟨plan, _⟩ => ?_
  refine .listLift (plan.setLiteral (t := lower.valueIn "b") _ (perm_front [_] _ _)) fun _ _ plan => ?_
  refine .listLift (plan.createNode ["a", "b"] [] (by decide)) fun upper _ ⟨plan, _⟩ => ?_
  refine .listLift (plan.connect (t := upper.valueIn "b") count (perm_front [_] _ _)) fun _ _ plan => ?_
  refine .listLift (plan.binary (lower.valueOut "value") (upper.valueOut "value") rfl) fun both _ plan =>
    .listPure ⟨own', ?_⟩
  have plan := plan.link [[lower.valueIn "a", upper.valueIn "a"]] blanks (.swap ..)
  refine (plan.reorder (by simp) (.refl _)).mono fun q ⟨combines, counts, uppers, zero, lowers, reads, serves, old⟩ =>
    ⟨fun σ i n index counted => ?_, serves, old⟩
  have count : q.Gives σ (.output count.address) (.int n) := counted ▸ reads σ
  have above : q.Gives σ (.output ⟨lower, "value"⟩) (.bool (decide (i ≥ 0))) :=
    .binary lowers.real lowers.op rfl (index _ (by simp)) (Program.Feeds.takes zero (.constant _)) rfl
  have below : q.Gives σ (.output ⟨upper, "value"⟩)
      (.bool (if inclusive then decide (i ≤ n) else decide (i < n))) := by
    cases inclusive with
    | false => exact .binary uppers.real uppers.op rfl (index _ (by simp)) (Program.Feeds.takes counts count) rfl
    | true => exact .binary uppers.real uppers.op rfl (index _ (by simp)) (Program.Feeds.takes counts count) rfl
  exact combines σ _ _ _ above below rfl

end Writes

end Plan

end ScriptGraph
