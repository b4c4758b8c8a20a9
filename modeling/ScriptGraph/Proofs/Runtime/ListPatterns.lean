import ScriptGraph.Proofs.Runtime.ListOperations

/-!
The patterns of the operations on a list.

Each of them is taken through the steps of its construction; what the nodes do, put together, is the
operation. The two operations that shift elements are split into their loop and what stands around it.
-/

namespace ScriptGraph

open Pattern

namespace Pattern.BoundedList

open Build

/-- The loop of an insertion, with the input for the place to come down to. -/
def raising (cursorId : Nat) (entry : FlowOut) : ListBuild (SteppedWhile × ValueIn) := do
  let shift ← steppedWhile
  connectFlow entry shift.flowIn
  let cursor ← getVariable cursorId
  let above ← createNode .mathGt
  connect (above.valueIn "a") cursor
  connect shift.condition (above.valueOut "value")
  let below ← binaryLiteral .mathSub cursor (.int 1)
  let moved ← getItem below
  let write ← setItem
  connect write.index cursor
  connect write.value moved
  connectFlow shift.body write.flowIn
  let step ← setVariableFrom cursorId below
  connectFlow shift.step step.flowIn
  return (shift, above.valueIn "b")

/-- An insertion is a check, a loop and a write. -/
theorem insertItem_eq : insertItem = (do
    let (index, within) ← inRange true
    let count ← countValue
    let l ← get
    let capacity ← getVariable l.capacityId
    let hasRoom ← binary .mathLt count capacity
    let allowed ← binary .mathAnd within hasRoom
    let check ← guard allowed
    let begins ← setVariableFrom l.cursor count
    connectFlow check.pass begins.flowIn
    let (shift, bound) ← raising l.cursor begins.flowOut
    let place ← setItem
    connectFlow shift.completed place.flowIn
    let grown ← binaryLiteral .mathAdd count (.int 1)
    let grow ← setVariableFrom l.count grown
    connectFlow place.flowOut grow.flowIn
    return { index := .link [index, bound, place.index], value := place.value,
             flowIn := check.flowIn, flowOut := check.flowOut }) := by
  simp only [insertItem, raising, bind_assoc, pure_bind]

/-- The loop of a removal, with the number of the last element. -/
def lowering (count : ValueOut) (entry : FlowOut) : ListBuild (ForLoop × ValueOut) := do
  let shift ← forLoop 0
  connectFlow entry shift.flowIn
  let last ← binaryLiteral .mathSub count (.int 1)
  connect shift.stop last
  let next ← binaryLiteral .mathAdd shift.index (.int 1)
  let moved ← getItem next
  let write ← setItem
  connect write.index shift.index
  connect write.value moved
  connectFlow shift.loopBody write.flowIn
  return (shift, last)

/-- A removal is a check and a loop. -/
theorem removeItem_eq : removeItem = (do
    let (index, within) ← inRange false
    let check ← guard within
    let count ← countValue
    let (shift, last) ← lowering count check.pass
    let l ← get
    let shrink ← setVariableFrom l.count last
    connectFlow shift.completed shrink.flowIn
    return { index := .link [index, shift.start], flowIn := check.flowIn, flowOut := check.flowOut }) := by
  simp only [removeItem, lowering, bind_assoc, pure_bind]

end Pattern.BoundedList

namespace Plan

variable {start c : Context} {blanks idles : List SocketAddress} {holding : Program → Prop} {k : Cells}
  {l : BoundedList}

theorem clear (plan : Plan start blanks idles holding c) (own : l.cells = k) (sound : k.Sound)
    (serves : ∀ q, holding q → q.Serves k l) :
    Ensures (BoundedList.clear.run l) c fun r c' => r.2.cells = k ∧ Plan start blanks (r.1.2.address :: idles)
      (fun q => q.Implements k .clear { flowIn := r.1.1, flowOut := r.1.2 } ∧ q.Serves k r.2 ∧ holding q) c' := by
  subst own
  unfold BoundedList.clear
  refine .listGet (.listLift (plan.setVariableStatic l.count (.int 0)) fun reset _ plan => .listPure ⟨rfl, ?_⟩)
  exact plan.mono fun q ⟨passes, old⟩ => ⟨Program.implements_clear sound passes, serves q old, old⟩

theorem setItemChecked (plan : Plan start blanks idles holding c) (own : l.cells = k) (sound : k.Sound)
    (serves : ∀ q, holding q → q.Serves k l) :
    Ensures (BoundedList.setItemChecked.run l) c fun r c' => r.2.cells = k ∧
      Plan start (r.1.index.sockets ++ (r.1.value.sockets ++ blanks)) (r.1.flowOut.address :: idles)
        (fun q => q.Implements k .set ⟨some r.1.index, some r.1.value, r.1.flowIn, r.1.flowOut⟩ ∧
          q.Serves k r.2 ∧ holding q) c' := by
  unfold BoundedList.setItemChecked
  refine .listBind (plan.indexInRange own serves false) fun ⟨⟨rangeIndex, within⟩, l'⟩ _ ⟨own, plan⟩ => ?_
  refine .listLift (plan.guard within) fun check _ plan => ?_
  refine .listBind (plan.setItem own sound fun q ⟨_, _, serves, _⟩ => serves) fun ⟨write, l'⟩ _ ⟨own, plan⟩ => ?_
  refine .listLift (plan.connectFlow write.flowIn (perm_front [_] _ _)) fun _ _ plan => .listPure ⟨own, ?_⟩
  have plan := (plan.close (.refl _)).link [[rangeIndex, write.index]] (write.value.sockets ++ blanks) (by
    rw [List.perm_iff_count]
    intro a
    simp only [List.flatMap_cons, List.flatMap_nil, List.count_append, List.count_nil]
    omega)
  refine (plan.reorder (by simp) (.refl _)).mono fun q ⟨closed, leads, puts, serves, guards, checks, _, old⟩ => ?_
  exact ⟨Program.implements_set sound checks guards puts leads closed, serves, old⟩

theorem addItem (plan : Plan start blanks idles holding c) (own : l.cells = k) (sound : k.Sound)
    (serves : ∀ q, holding q → q.Serves k l) :
    Ensures (BoundedList.addItem.run l) c fun r c' => r.2.cells = k ∧
      Plan start (r.1.value.sockets ++ blanks) (r.1.flowOut.address :: idles)
        (fun q => q.Implements k .add { value? := some r.1.value, flowIn := r.1.flowIn, flowOut := r.1.flowOut } ∧
          q.Serves k r.2 ∧ holding q) c' := by
  unfold BoundedList.addItem
  refine .listBind (plan.countValue own serves) fun ⟨count, l'⟩ _ ⟨own, plan⟩ => .listGet ?_
  refine .listLift (plan.getVariable l'.capacityId) fun capacity _ plan => ?_
  refine .listLift (plan.binary count capacity rfl) fun hasRoom _ plan => ?_
  refine .listLift (plan.guard hasRoom) fun check _ plan => ?_
  refine .listBind (plan.setItem own sound fun q ⟨_, _, _, _, serves, _⟩ => serves)
    fun ⟨write, l''⟩ _ ⟨own', plan⟩ => ?_
  refine .listLift (plan.connect count (.refl _)) fun _ _ plan => ?_
  refine .listLift (plan.connectFlow write.flowIn (perm_front [_] _ _)) fun _ _ plan => ?_
  refine .listLift (plan.binaryLiteral count (.int 1) rfl) fun grown _ plan => ?_
  refine .listLift (plan.setVariableFrom l'.count grown) fun grow _ plan => ?_
  refine .listLift (plan.connectFlow grow.flowIn (perm_front [_] _ _)) fun _ _ plan => .listPure ⟨own', ?_⟩
  subst own
  refine (plan.close (.refl _)).mono fun q ⟨closed, leadsOn, grows, adds, leads, indexed, puts, serves, guards,
    compares, ends, counts, _, old⟩ => ?_
  exact ⟨Program.implements_add sound counts ends compares guards puts indexed leads adds grows leadsOn closed,
    serves, old⟩

/-- The loop of an insertion. -/
theorem raising (plan : Plan start blanks idles holding c) (own : l.cells = k) (sound : k.Sound)
    (serves : ∀ q, holding q → q.Serves k l) {cursorId : Nat} (walks : .ofNat cursorId = k.cursor) {entry : FlowOut}
    {rest : List SocketAddress}
    (perm : (entry.address :: rest).Perm idles) :
    Ensures ((BoundedList.raising cursorId entry).run l) c fun r c' => r.2.cells = k ∧
      Plan start (r.1.2.sockets ++ blanks) (r.1.1.completed.address :: rest)
        (fun q => (q.next? entry.address = some r.1.1.flowIn.address ∧ q.Raises k r.1.1 r.1.2) ∧
          q.Serves k r.2 ∧ holding q) c' := by
  unfold BoundedList.raising
  refine .listLift plan.steppedWhile fun shift _ plan => ?_
  have perm : (entry.address :: shift.body.address :: shift.step.address :: shift.completed.address :: rest).Perm
      (shift.body.address :: shift.step.address :: shift.completed.address :: idles) :=
    (perm_front [_, _, _] _ _).trans (((perm.cons _).cons _).cons _)
  refine .listLift (plan.connectFlow shift.flowIn perm) fun _ _ plan => ?_
  refine .listLift (plan.getVariable cursorId) fun cursor _ plan => ?_
  refine .listLift (plan.createNode ["a", "b"] [] (by decide)) fun above _ ⟨plan, _⟩ => ?_
  refine .listLift (plan.connect (t := above.valueIn "a") cursor (.refl _)) fun _ _ plan => ?_
  refine .listLift (plan.connect (above.valueOut "value") List.perm_middle) fun _ _ plan => ?_
  refine .listLift (plan.binaryLiteral cursor (.int 1) rfl) fun below _ plan => ?_
  refine .listBind (plan.getItem own sound (fun q ⟨_, _, _, _, _, _, _, old⟩ => serves q old) below)
    fun ⟨moved, l'⟩ _ ⟨own', plan⟩ => ?_
  refine .listBind (plan.setItem own' sound fun q ⟨_, serves, _⟩ => serves) fun ⟨write, l'⟩ _ ⟨own', plan⟩ => ?_
  refine .listLift (plan.connect cursor (.refl _)) fun _ _ plan => ?_
  refine .listLift (plan.connect moved (.refl _)) fun _ _ plan => ?_
  refine .listLift (plan.connectFlow write.flowIn (perm_front [_] _ _)) fun _ _ plan => ?_
  refine .listLift ((plan.close (.refl _)).setVariableFrom cursorId below) fun step _ plan => ?_
  refine .listLift (plan.connectFlow step.flowIn (perm_front [_] _ _)) fun _ _ plan => .listPure ⟨own', ?_⟩
  rw [walks] at plan
  refine (plan.close (.refl _)).mono fun q ⟨closedStep, leadsStep, steps, closed, leads, valued, indexed, puts,
    serves, looks, _, subtracts, tests, reading, compares, reads, leadsShift, repeats, old⟩ =>
      ⟨⟨leadsShift, ?_⟩, serves, old⟩
  refine Program.raises_of_repeats sound repeats reads (fun σ j i placed bound => ?_) subtracts looks puts indexed
    valued leads closed steps leadsStep closedStep
  have cursor : q.Gives σ (.output cursor.address) (.int j) := placed ▸ reads σ
  have gives : q.Gives σ (.output ⟨above, "value"⟩) (.bool (j > i)) :=
    .binary compares.real compares.op rfl (Program.Feeds.takes reading cursor) (Program.accepts_valueIn.1 bound) rfl
  exact Program.Feeds.accepts tests gives

theorem insertItem (plan : Plan start blanks idles holding c) (own : l.cells = k) (sound : k.Sound)
    (serves : ∀ q, holding q → q.Serves k l) :
    Ensures (BoundedList.insertItem.run l) c fun r c' => r.2.cells = k ∧
      Plan start (r.1.index.sockets ++ (r.1.value.sockets ++ blanks)) (r.1.flowOut.address :: idles)
        (fun q => (q.Inserts k ⟨some r.1.index, some r.1.value, r.1.flowIn, r.1.flowOut⟩ ∧
          q.Implements k .insert ⟨some r.1.index, some r.1.value, r.1.flowIn, r.1.flowOut⟩) ∧
            q.Serves k r.2 ∧ holding q) c' := by
  rw [BoundedList.insertItem_eq]
  refine .listBind (plan.indexInRange own serves true) fun ⟨⟨index, within⟩, l'⟩ _ ⟨own, plan⟩ => ?_
  refine .listBind (plan.countValue own fun q ⟨_, serves, _⟩ => serves) fun ⟨count, l'⟩ _ ⟨own, plan⟩ => .listGet ?_
  refine .listLift (plan.getVariable l'.capacityId) fun capacity _ plan => ?_
  refine .listLift (plan.binary count capacity rfl) fun hasRoom _ plan => ?_
  refine .listLift (plan.binary within hasRoom rfl) fun allowed _ plan => ?_
  refine .listLift (plan.guard allowed) fun check _ plan => ?_
  refine .listLift (plan.setVariableFrom l'.cursor count) fun begins _ plan => ?_
  refine .listLift (plan.connectFlow begins.flowIn (perm_front [_] _ _)) fun _ _ plan => ?_
  refine .listBind (plan.raising own sound (fun q ⟨_, _, _, _, _, _, _, serves, _⟩ => serves)
    (congrArg Cells.cursor own) (.refl _)) fun ⟨⟨shift, bound⟩, l''⟩ _ ⟨own', plan⟩ => ?_
  refine .listBind (plan.setItem own' sound fun q ⟨_, serves, _⟩ => serves) fun ⟨place, l''⟩ _ ⟨own', plan⟩ => ?_
  refine .listLift (plan.connectFlow place.flowIn (perm_front [_] _ _)) fun _ _ plan => ?_
  refine .listLift (plan.binaryLiteral count (.int 1) rfl) fun grown _ plan => ?_
  refine .listLift (plan.setVariableFrom l'.count grown) fun grow _ plan => ?_
  refine .listLift (plan.connectFlow grow.flowIn (perm_front [_] _ _)) fun _ _ plan => .listPure ⟨own', ?_⟩
  subst own
  have plan := (plan.close (.refl _)).link [[index, bound, place.index]] (place.value.sockets ++ blanks) (by
    rw [List.perm_iff_count]
    intro a
    simp only [List.flatMap_cons, List.flatMap_nil, List.count_append, List.count_nil]
    omega)
  refine (plan.reorder (by simp) (.refl _)).mono fun q ⟨closed, leadsGrow, grows, adds, leadsPlace, puts, serves,
    ⟨leadsShift, raises⟩, _, leads, begin, guards, combines, compares, ends, counts, _, checks, _, old⟩ =>
      ⟨⟨?_, ?_⟩, serves, old⟩
  · exact Program.inserts_of_raises sound checks counts ends compares combines guards begin leads leadsShift raises puts
      leadsPlace adds grows leadsGrow closed
  · exact Program.implements_insert sound checks counts ends compares combines guards begin leads leadsShift raises puts
      leadsPlace adds grows leadsGrow closed

/-- The loop of a removal. -/
theorem lowering (plan : Plan start blanks idles holding c) (own : l.cells = k) (sound : k.Sound)
    (serves : ∀ q, holding q → q.Serves k l) {count : ValueOut} (counts : ∀ q, holding q → q.Reads count k.count)
    {entry : FlowOut} {rest : List SocketAddress} (perm : (entry.address :: rest).Perm idles) :
    Ensures ((BoundedList.lowering count entry).run l) c fun r c' => r.2.cells = k ∧
      Plan start (r.1.1.start.sockets ++ blanks) (r.1.1.completed.address :: rest)
        (fun q => (q.next? entry.address = some r.1.1.flowIn.address ∧ q.Lowers k r.1.1 ∧
          q.Adjusts .mathSub count (.int 1) r.1.2) ∧ q.Serves k r.2 ∧ holding q) c' := by
  unfold BoundedList.lowering
  refine .listLift (plan.forLoop 0) fun loop _ plan => ?_
  have perm : (entry.address :: loop.loopBody.address :: loop.completed.address :: rest).Perm
      (loop.loopBody.address :: loop.completed.address :: idles) :=
    (perm_front [_, _] _ _).trans ((perm.cons _).cons _)
  refine .listLift (plan.connectFlow loop.flowIn perm) fun _ _ plan => ?_
  refine .listLift (plan.binaryLiteral count (.int 1) rfl) fun last _ plan => ?_
  refine .listLift (plan.connect (t := loop.stop) last (List.perm_append_comm_assoc ..)) fun _ _ plan => ?_
  refine .listLift (plan.binaryLiteral loop.index (.int 1) rfl) fun next _ plan => ?_
  refine .listBind (plan.getItem own sound (fun q ⟨_, _, _, _, _, old⟩ => serves q old) next)
    fun ⟨moved, l'⟩ _ ⟨own, plan⟩ => ?_
  refine .listBind (plan.setItem own sound fun q ⟨_, serves, _⟩ => serves) fun ⟨write, l'⟩ _ ⟨own, plan⟩ => ?_
  refine .listLift (plan.connect loop.index (.refl _)) fun _ _ plan => ?_
  refine .listLift (plan.connect moved (.refl _)) fun _ _ plan => ?_
  refine .listLift (plan.connectFlow write.flowIn (perm_front [_] _ _)) fun _ _ plan => .listPure ⟨own, ?_⟩
  refine (plan.close (.refl _)).mono fun q ⟨closed, leads, valued, indexed, puts, serves, looks, _, adds, stops,
    subtracts, leadsLoop, loops, old⟩ => ⟨⟨leadsLoop, ?_, subtracts⟩, serves, old⟩
  exact Program.lowers_of_counts sound loops (counts q old) subtracts stops adds looks puts indexed valued leads closed

theorem removeItem (plan : Plan start blanks idles holding c) (own : l.cells = k) (sound : k.Sound)
    (serves : ∀ q, holding q → q.Serves k l) :
    Ensures (BoundedList.removeItem.run l) c fun r c' => r.2.cells = k ∧
      Plan start (r.1.index.sockets ++ blanks) (r.1.flowOut.address :: idles)
        (fun q => q.Implements k .remove
          { index? := some r.1.index, flowIn := r.1.flowIn, flowOut := r.1.flowOut } ∧
            q.Serves k r.2 ∧ holding q) c' := by
  rw [BoundedList.removeItem_eq]
  refine .listBind (plan.indexInRange own serves false) fun ⟨⟨index, within⟩, l'⟩ _ ⟨own, plan⟩ => ?_
  refine .listLift (plan.guard within) fun check _ plan => ?_
  refine .listBind (plan.countValue own fun q ⟨_, _, serves, _⟩ => serves) fun ⟨count, l'⟩ _ ⟨own, plan⟩ => ?_
  refine .listBind (plan.lowering own sound (fun q ⟨_, serves, _⟩ => serves) (fun q ⟨counts, _⟩ => counts) (.refl _))
    fun ⟨⟨loop, last⟩, l'⟩ _ ⟨own, plan⟩ => .listGet ?_
  refine .listLift (plan.setVariableFrom l'.count last) fun shrink _ plan => ?_
  refine .listLift (plan.connectFlow shrink.flowIn (perm_front [_] _ _)) fun _ _ plan => .listPure ⟨own, ?_⟩
  subst own
  have plan := (plan.close (.refl _)).link [[index, loop.start]] blanks (by
    rw [List.perm_iff_count]
    intro a
    simp only [List.flatMap_cons, List.flatMap_nil, List.count_append, List.count_nil]
    omega)
  refine (plan.reorder (by simp) (.refl _)).mono fun q ⟨closed, leadsShrink, shrinks, ⟨leads, lowers, subtracts⟩,
    serves, counts, _, guards, checks, _, old⟩ => ⟨?_, serves, old⟩
  exact Program.implements_remove sound checks guards counts leads subtracts lowers shrinks leadsShrink closed

/-- Whatever an operation is, its pattern implements it, and the list goes on to serve. -/
theorem operation (plan : Plan start blanks idles holding c) (own : l.cells = k) (sound : k.Sound)
    (serves : ∀ q, holding q → q.Serves k l) (operation : ListOperation) :
    Ensures (operation.build.run l) c fun r c' => r.2.cells = k ∧
      Plan start (r.1.sockets ++ blanks) (r.1.flowOut.address :: idles)
        (fun q => q.Implements k operation r.1 ∧ q.Serves k r.2 ∧ holding q) c' := by
  cases operation with
  | add =>
    refine .listBind (plan.addItem own sound serves) fun ⟨t, l'⟩ _ ⟨own, plan⟩ => .listPure ⟨own, ?_⟩
    exact plan.reorder (by simp [ListPatch.sockets]) (.refl _)
  | insert =>
    refine .listBind (plan.insertItem own sound serves) fun ⟨t, l'⟩ _ ⟨own, plan⟩ => .listPure ⟨own, ?_⟩
    refine (plan.reorder (by simp [ListPatch.sockets]) (.refl _)).mono fun q ⟨⟨_, implements⟩, old⟩ => ?_
    exact ⟨implements, old⟩
  | remove =>
    refine .listBind (plan.removeItem own sound serves) fun ⟨t, l'⟩ _ ⟨own, plan⟩ => .listPure ⟨own, ?_⟩
    exact plan.reorder (by simp [ListPatch.sockets]) (.refl _)
  | set =>
    refine .listBind (plan.setItemChecked own sound serves) fun ⟨t, l'⟩ _ ⟨own, plan⟩ => .listPure ⟨own, ?_⟩
    exact plan.reorder (by simp [ListPatch.sockets]) (.refl _)
  | clear =>
    exact .listBind (plan.clear own sound serves) fun ⟨t, l'⟩ _ ⟨own, plan⟩ => .listPure ⟨own, plan⟩

end Plan

end ScriptGraph
