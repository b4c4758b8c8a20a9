import Mathlib
import ScriptGraph.Proofs.Space.Patterns

/-!
The patterns of loops, waits and lists keep pace.
-/

namespace ScriptGraph.Pattern

open Build

variable {p : Pairing}

section Flows

theorem tracks_forLoop (initial : Int32) : Tracks p (forLoop initial) (forLoop initial) :=
  .bind (tracks_createNode .flowFor) fun _ _ _ _ node =>
    .andThen (tracks_configure node "initialIndex" _) fun _ _ =>
    .pure ⟨node.lift, node.lift.valueIn "startIndex", node.lift.valueIn "endIndex", node.lift.valueOut "index",
      node.lift.flowIn "in", node.lift.flowOut "loopBody", node.lift.flowOut "completed"⟩

theorem tracks_steppedFor : Tracks p steppedFor steppedFor := by
  refine .bind (tracks_uniqueName _) ?_
  rintro p₁ name _ _ ⟨⟩
  refine .bind (tracks_declareVariable name _ _) ?_
  rintro p₂ counter _ _ ⟨⟩
  refine .bind (tracks_setVariable counter) fun p₃ _ _ _ first => ?_
  refine .bind (tracks_createNode .flowBranch) fun p₄ _ _ _ branch => ?_
  refine .andThen (tracks_connectFlow first.2.2.2.lift (branch.flowIn "in")) fun p₅ _ => ?_
  refine .bind (tracks_getVariable counter) fun p₆ _ _ _ index => ?_
  refine .bind (tracks_createNode .mathLe) fun p₇ _ _ _ direction => ?_
  refine .bind (tracks_createNode .mathLt) fun p₈ _ _ _ below => ?_
  refine .bind (tracks_createNode .mathGt) fun p₉ _ _ _ above => ?_
  refine .andThen (tracks_connect (below.lift.valueIn "a") index.lift) fun p₁₀ _ => ?_
  refine .andThen (tracks_connect (above.lift.valueIn "a") index.lift) fun p₁₁ _ => ?_
  refine .bind (tracks_select (direction.lift.valueOut "value") (below.lift.valueOut "value")
    (above.lift.valueOut "value")) fun p₁₂ _ _ _ condition => ?_
  refine .andThen (tracks_connect (branch.lift.valueIn "condition") condition) fun p₁₃ _ => ?_
  refine .bind (tracks_createNode .mathAdd) fun p₁₄ _ _ _ step => ?_
  refine .andThen (tracks_connect (step.valueIn "a") index.lift) fun p₁₅ _ => ?_
  refine .bind (tracks_setVariableFrom counter (step.lift.valueOut "value")) fun p₁₆ _ _ _ advance => ?_
  refine .andThen (tracks_connectFlow advance.2.2.2 (branch.lift.flowIn "in")) fun p₁₇ _ => .returns fun sound => ?_
  exact ⟨pairs_link sound (.cons first.2.1.lift (.cons (direction.lift.valueIn "a") .nil)),
    pairs_link sound (.cons (direction.lift.valueIn "b") (.cons (below.lift.valueIn "b")
      (.cons (above.lift.valueIn "b") .nil))),
    step.lift.valueIn "b", first.2.2.1.lift, advance.2.2.1.lift, index.lift, rfl, branch.lift.flowOut "true",
    branch.lift.flowOut "false"⟩

theorem tracks_steppedWhile : Tracks p steppedWhile steppedWhile := by
  refine .bind (tracks_createNode .flowWhile) fun p₁ _ _ _ node => ?_
  refine .bind (tracks_createNode .flowSequence) fun p₂ _ _ _ sequence => ?_
  refine .andThen (tracks_connectFlow (node.lift.flowOut "loopBody") (sequence.flowIn "in")) fun p₃ _ => .pure ?_
  exact ⟨node.lift.valueIn "condition", node.lift.flowIn "in", sequence.lift.flowOut "0", sequence.lift.flowOut "1",
    node.lift.flowOut "completed"⟩

variable {tick tick' : Option TickChain} {chain chain' : TickChain}

theorem tracks_getOrNew (pair : Pair p tick tick') : Tracks p (TickChain.getOrNew tick) (TickChain.getOrNew tick') := by
  cases pair with
  | some chain => exact .pure chain
  | none => exact .bind (tracks_createNode .eventOnTick) fun _ _ _ _ event => .pure ⟨event, .none, rfl⟩

theorem tracks_getSequence (pair : Pair p chain chain') : Tracks p chain.getSequence chain'.getSequence := by
  obtain ⟨event, sequence, next⟩ := chain
  obtain ⟨event', sequence', next'⟩ := chain'
  obtain ⟨starts, behind, -⟩ := pair
  cases behind with
  | some node => exact .pure node
  | none =>
    refine .bind (tracks_createNode .flowSequence) fun p₁ _ _ _ made => ?_
    exact .andThen (tracks_connectFlow (Pair.flowOut starts "out").lift (made.flowIn "in")) fun _ _ => .pure made.lift

theorem tracks_nextFlow (pair : Pair p chain chain') : Tracks p chain.nextFlow chain'.nextFlow := by
  refine .bind (tracks_getSequence pair) fun p₁ _ _ _ sequence => .pure ?_
  obtain ⟨starts, -, same⟩ := pair
  have number : chain'.nextOutput = chain.nextOutput := same
  rw [number]
  exact ⟨sequence.flowOut (toString chain.nextOutput), Pair.lift starts, .some sequence, rfl⟩

theorem tracks_waitUntil (pair : Pair p tick tick') : Tracks p (waitUntil tick) (waitUntil tick') := by
  refine .bind (tracks_uniqueName _) ?_
  rintro p₁ name _ _ ⟨⟩
  refine .bind (tracks_declareVariable name _ _) ?_
  rintro p₂ pending _ _ ⟨⟩
  refine .bind (tracks_setVariableStatic pending _) fun p₃ _ _ _ arm => ?_
  refine .bind (tracks_createNode .flowBranch) fun p₄ _ _ _ check => ?_
  refine .andThen (tracks_connectFlow arm.2.2.2.lift (check.flowIn "in")) fun p₅ _ => ?_
  refine .bind (tracks_setVariableStatic pending _) fun p₆ _ _ _ disarm => ?_
  refine .andThen (tracks_connectFlow (check.lift.flowOut "true") disarm.2.2.1) fun p₇ _ => ?_
  refine .bind (tracks_getOrNew pair.lift) fun p₈ _ _ _ chain => .bind (tracks_nextFlow chain) ?_
  rintro p₉ ⟨ticking, tick⟩ ⟨ticking', tick'⟩ _ ⟨ticking, tick⟩
  refine .bind (tracks_createNode .flowBranch) fun p₁₀ _ _ _ gate => ?_
  refine .bind (tracks_getVariable pending) fun p₁₁ _ _ _ isPending => ?_
  refine .andThen (tracks_connect (gate.lift.valueIn "condition") isPending) fun p₁₂ _ => ?_
  refine .andThen (tracks_connectFlow ticking.lift (gate.lift.flowIn "in")) fun p₁₃ _ => ?_
  refine .andThen (tracks_connectFlow (gate.lift.flowOut "true") (check.lift.flowIn "in")) fun p₁₄ _ => .pure ?_
  exact ⟨⟨check.lift.valueIn "condition", arm.2.2.1.lift, disarm.2.2.2.lift⟩, tick.lift⟩

theorem tracks_waitWhile (pair : Pair p tick tick') : Tracks p (waitWhile tick) (waitWhile tick') := by
  refine .bind (tracks_waitUntil pair) ?_
  rintro p₁ ⟨wait, tick⟩ ⟨wait', tick'⟩ _ ⟨wait, tick⟩
  refine .bind (tracks_createNode .mathNot) fun p₂ _ _ _ negation => ?_
  refine .andThen (tracks_connect wait.1.lift (negation.valueOut "value")) fun p₃ _ => .pure ?_
  exact ⟨⟨negation.lift.valueIn "a", wait.2.1.lift, wait.2.2.lift⟩, tick.lift⟩

theorem tracks_delaySeconds : Tracks p delaySeconds delaySeconds :=
  .bind (tracks_createNode .flowSetDelay) fun _ _ _ _ node =>
    .pure ⟨node, node.valueIn "duration", node.flowIn "in", node.flowOut "out", node.flowOut "done"⟩

theorem tracks_delayMilliseconds (integral : Bool) :
    Tracks p (delayMilliseconds integral) (delayMilliseconds integral) := by
  refine .bind tracks_delaySeconds fun p₁ _ _ _ delay => .bind (tracks_createNode .mathDiv) fun p₂ _ _ _ scale => ?_
  refine .andThen (tracks_setLiteral (scale.valueIn "b") _) fun p₃ _ => ?_
  refine .andThen (tracks_connect delay.2.1.lift (scale.lift.valueOut "value")) fun p₄ _ => ?_
  cases integral with
  | true =>
    refine .bind (tracks_createNode .typeIntToFloat) fun p₅ _ _ _ convert => ?_
    refine .andThen (tracks_connect (scale.lift.valueIn "a") (convert.valueOut "value")) fun p₆ _ => .pure ?_
    exact ⟨delay.1.lift, convert.lift.valueIn "a", Pair.lift delay.2.2⟩
  | false => exact .pure ⟨delay.1.lift, scale.lift.valueIn "a", Pair.lift delay.2.2⟩

theorem tracks_guard {condition condition' : ValueOut} (pair : Pair p condition condition') :
    Tracks p (guard condition) (guard condition') := by
  refine .bind (tracks_createNode .flowSequence) fun p₁ _ _ _ sequence => ?_
  refine .bind (tracks_createNode .flowBranch) fun p₂ _ _ _ branch => ?_
  refine .andThen (tracks_connect (branch.valueIn "condition") pair.lift) fun p₃ _ => ?_
  refine .andThen (tracks_connectFlow (sequence.lift.flowOut "0") (branch.lift.flowIn "in")) fun p₄ _ => .pure ?_
  exact ⟨sequence.lift.flowIn "in", branch.lift.flowOut "true", sequence.lift.flowOut "1"⟩

end Flows

namespace BoundedList

variable {α β : Type} [Paired α] [Paired β]

/-- The steps keep pace on lists that play the same part. -/
def Tracks (p : Pairing) (x y : ListBuild α) : Prop :=
  ∀ l l' : BoundedList, Pair p l l' → ScriptGraph.Tracks p (x.run l) (y.run l')

namespace Tracks

variable {x y : ListBuild α} {f g : α → ListBuild β}

theorem bind (first : Tracks p x y) (second : ∀ p' a b, p.Next p' → Pair p' a b → Tracks p' (f a) (g b)) :
    Tracks p (x >>= f) (y >>= g) := by
  intro l l' list
  show ScriptGraph.Tracks p (x.run l >>= fun r => (f r.1).run r.2) (y.run l' >>= fun r => (g r.1).run r.2)
  exact Abreast.bind (first l l' list) fun p' r r' le pair => second p' r.1 r'.1 le pair.1 r.2 r'.2 pair.2

theorem andThen {x y : ListBuild Unit} {f g : Unit → ListBuild β} (first : Tracks p x y)
    (second : ∀ p', p.Next p' → Tracks p' (f ()) (g ())) : Tracks p (x >>= f) (y >>= g) :=
  first.bind fun p' _ _ le _ => second p' le

theorem returns {a b : α} (pair : p.Sound → Pair p a b) : Tracks p (Pure.pure a) (Pure.pure b) :=
  fun _ _ list => .returns fun sound => ⟨pair sound, list⟩

theorem pure {a b : α} (pair : Pair p a b) : Tracks p (Pure.pure a) (Pure.pure b) := returns fun _ => pair

/-- A step that has to do with no list. -/
theorem lift {x y : Build α} (tracks : ScriptGraph.Tracks p x y) :
    Tracks p (@liftM (StateT Context Id) (StateT BoundedList Build) _ α x)
      (@liftM (StateT Context Id) (StateT BoundedList Build) _ α y) := by
  intro l l' list
  show ScriptGraph.Tracks p (x >>= fun a => Pure.pure (a, l)) (y >>= fun a => Pure.pure (a, l'))
  exact Abreast.bind tracks fun _ _ _ _ pair => .pure ⟨pair, list.lift⟩

theorem read {f g : BoundedList → ListBuild β} (second : ∀ l l', Pair p l l' → Tracks p (f l) (g l')) :
    Tracks p (get >>= f) (get >>= g) :=
  fun l l' list => second l l' list l l' list

theorem write {l l' : BoundedList} (list : Pair p l l') : Tracks p (set l) (set l') :=
  fun _ _ _ => .pure ⟨rfl, list⟩

end Tracks

section Steps

theorem tracks_declareSlots (p : Pairing) (name : String) (type : ValueType) (numbers : List Nat) :
    ScriptGraph.Tracks p (declareSlots name type numbers) (declareSlots name type numbers) := by
  induction numbers generalizing p with
  | nil => exact .pure .nil
  | cons n rest ih =>
    exact .bind (tracks_declareVariable _ _ _) fun _ _ _ _ slot => .bind (ih _) fun _ _ _ _ slots =>
      .pure (.cons slot slots)

theorem tracks_new (type : ValueType) (capacity : Nat) :
    ScriptGraph.Tracks p (BoundedList.new type capacity) (BoundedList.new type capacity) := by
  refine .bind (tracks_uniqueName _) ?_
  rintro p₁ name _ _ ⟨⟩
  refine .bind (tracks_declareSlots p₁ name type _) fun p₂ slots slots' _ same => ?_
  obtain rfl : slots = slots' := List.forall₂_eq_eq_eq ▸ List.Forall₂.imp (fun _ _ => Eq.symm) same
  refine .bind (tracks_declareVariable _ _ _) ?_
  rintro p₃ count _ _ ⟨⟩
  refine .bind (tracks_declareVariable _ _ _) ?_
  rintro p₄ capacityId _ _ ⟨⟩
  refine .bind (tracks_declareVariable _ _ _) ?_
  rintro p₅ currentIndex _ _ ⟨⟩
  refine .bind (tracks_declareVariable _ _ _) ?_
  rintro p₆ cursor _ _ ⟨⟩
  refine .bind (tracks_declareVariable _ _ _) ?_
  rintro p₇ valueToSet _ _ ⟨⟩
  exact .pure ⟨none, [], none, rfl, .none, .nil, .none⟩

theorem tracks_addInitial (l : BoundedList) (value : Literal) :
    ScriptGraph.Tracks p (l.addInitial value) (l.addInitial value) := by
  refine .bind .read fun p₁ c c' _ shares => ?_
  have same : l.initialCount c' = l.initialCount c := by
    unfold initialCount
    rw [Context.Shares.vars shares]
  dsimp only
  rw [same]
  cases l.slots[l.initialCount c]? with
  | none => exact .pure rfl
  | some slot =>
    exact .andThen (tracks_setInitial slot _) fun _ _ => .andThen (tracks_setInitial l.count _) fun _ _ => .pure rfl

theorem tracks_countValue : Tracks p countValue countValue := by
  refine .read ?_
  rintro l _ ⟨switch', reads', count', rfl, switch, reads, count⟩
  dsimp only
  revert count
  generalize l.countRead = read
  intro count
  cases count with
  | some read => exact .pure read
  | none =>
    refine .bind (.lift (tracks_getVariable l.count)) fun p₁ _ read' _ read => ?_
    exact .andThen (.write ⟨switch', reads', some read', rfl, switch.lift, reads.lift, .some read⟩) fun _ _ =>
      .pure read.lift

theorem tracks_readAll (p : Pairing) (slots : List Nat) : ScriptGraph.Tracks p (readAll slots) (readAll slots) := by
  induction slots generalizing p with
  | nil => exact .pure .nil
  | cons slot slots ih =>
    exact .bind (tracks_getVariable slot) fun _ _ _ _ read => .bind (ih _) fun _ _ _ _ reads =>
      .pure (.cons read.lift reads)

theorem tracks_getSlotReads : Tracks p getSlotReads getSlotReads := by
  refine .read ?_
  rintro l _ ⟨switch', reads', count', rfl, switch, reads, count⟩
  dsimp only
  have empty : reads'.isEmpty = l.slotReads.isEmpty := by
    revert reads
    generalize l.slotReads = read
    intro reads
    cases reads <;> rfl
  rw [empty]
  split
  · refine .bind (.lift (tracks_readAll p l.slots)) fun p₁ _ made' _ made => ?_
    exact .andThen (.write ⟨switch', made', count', rfl, switch.lift, made, count.lift⟩) fun _ _ => .pure made.lift
  · exact .pure reads

theorem tracks_connectNumbered {id id' : NodeId} (node : Pair p id id') (n : Nat) {reads reads' : List ValueOut}
    (pairs : Pair p reads reads') :
    ScriptGraph.Tracks p (connectNumbered id n reads) (connectNumbered id' n reads') := by
  induction reads generalizing p n reads' with
  | nil =>
    cases pairs
    exact .pure rfl
  | cons read reads ih =>
    cases pairs with
    | @cons _ read' _ reads' first rest =>
      have rest : Pair p reads reads' := rest
      exact .andThen (tracks_connect (node.valueIn _) first) fun _ _ => ih node.lift _ rest.lift

theorem tracks_getItem {index index' : ValueOut} (pair : Pair p index index') :
    Tracks p (getItem index) (getItem index') := by
  refine .bind tracks_getSlotReads fun p₁ _ _ _ reads => .read ?_
  rintro l _ ⟨switch', reads', count', rfl, -, -, -⟩
  refine .bind (.lift (tracks_createNode .mathSwitch)) fun p₂ _ _ _ switch => ?_
  refine .andThen (.lift (tracks_configure switch "cases" l.cases)) fun p₃ _ => ?_
  refine .andThen (.lift (tracks_connect (switch.lift.valueIn "selection") pair.lift)) fun p₄ _ => ?_
  refine .andThen (.lift (tracks_setLiteral (switch.lift.valueIn "default") _)) fun p₅ _ => ?_
  refine .andThen (.lift (tracks_connectNumbered switch.lift 0 reads.lift)) fun p₆ _ => ?_
  exact .pure (switch.lift.valueOut "value")

theorem tracks_inRange (inclusive : Bool) : Tracks p (inRange inclusive) (inRange inclusive) := by
  refine .bind tracks_countValue fun p₁ _ _ _ count => ?_
  refine .bind (.lift (tracks_createNode .mathGe)) fun p₂ _ _ _ lower => ?_
  refine .andThen (.lift (tracks_setLiteral (lower.valueIn "b") _)) fun p₃ _ => ?_
  refine .bind (.lift (tracks_createNode _)) fun p₄ _ _ _ upper => ?_
  refine .andThen (.lift (tracks_connect (upper.valueIn "b") count.lift)) fun p₅ _ => ?_
  refine .bind (.lift (tracks_binary .mathAnd (lower.lift.valueOut "value") (upper.lift.valueOut "value"))) ?_
  intro p₆ _ _ _ both
  exact .returns fun sound =>
    ⟨pairs_link sound (.cons (lower.lift.valueIn "a") (.cons (upper.lift.valueIn "a") .nil)), both⟩

theorem tracks_getItemChecked {index index' : ValueOut} (pair : Pair p index index') :
    Tracks p (getItemChecked index) (getItemChecked index') := by
  refine .bind (tracks_getItem pair) fun p₁ _ _ _ value => .bind (tracks_inRange false) ?_
  rintro p₂ ⟨range, within⟩ ⟨range', within'⟩ _ ⟨range, within⟩
  refine .andThen (.lift (tracks_connect range pair.lift)) fun p₃ _ => ?_
  refine .bind (.lift (tracks_createNode .mathSelect)) fun p₄ _ _ _ choice => ?_
  refine .andThen (.lift (tracks_connect (choice.valueIn "condition") within.lift)) fun p₅ _ => ?_
  refine .andThen (.lift (tracks_connect (choice.lift.valueIn "a") value.lift)) fun p₆ _ => .read ?_
  rintro l _ ⟨switch', reads', count', rfl, -, -, -⟩
  exact .andThen (.lift (tracks_setLiteral (choice.lift.valueIn "b") _)) fun p₇ _ =>
    .pure (choice.lift.valueOut "value")

theorem tracks_connectWrites {id id' : NodeId} (switch : Pair p id id') {pending pending' : ValueOut}
    (value : Pair p pending pending') (n : Nat) (slots : List Nat) :
    ScriptGraph.Tracks p (connectWrites id pending n slots) (connectWrites id' pending' n slots) := by
  induction slots generalizing p n with
  | nil => exact .pure rfl
  | cons slot slots ih =>
    refine .bind (tracks_setVariableFrom slot value) fun p₁ _ _ _ write => ?_
    exact .andThen (tracks_connectFlow (switch.lift.flowOut _) write.2.2.1) fun p₂ _ => ih switch.lift value.lift _

theorem tracks_getWriteSwitch : Tracks p getWriteSwitch getWriteSwitch := by
  refine .read ?_
  rintro l _ ⟨switch', reads', count', rfl, switch, reads, count⟩
  dsimp only
  revert switch
  generalize l.writeSwitch = made
  intro switch
  cases switch with
  | some switch => exact .pure switch
  | none =>
    refine .bind (.lift (tracks_createNode .flowSwitch)) fun p₁ _ made' _ made => ?_
    refine .andThen (.lift (tracks_configure made "cases" l.cases)) fun p₂ _ => ?_
    refine .bind (.lift (tracks_getVariable l.currentIndex)) fun p₃ _ _ _ index => ?_
    refine .andThen (.lift (tracks_connect (made.lift.valueIn "selection") index)) fun p₄ _ => ?_
    refine .bind (.lift (tracks_getVariable l.valueToSet)) fun p₅ _ _ _ pending => ?_
    refine .andThen (.lift (tracks_connectWrites made.lift pending 0 l.slots)) fun p₆ _ => ?_
    exact .andThen (.write ⟨some made', reads', count', rfl, .some made.lift, reads.lift, count.lift⟩) fun p₇ _ =>
      .pure made.lift

theorem tracks_setItem : Tracks p setItem setItem := by
  refine .bind tracks_getWriteSwitch fun p₁ _ _ _ switch => .read ?_
  rintro l _ ⟨switch', reads', count', rfl, -, -, -⟩
  refine .bind (.lift (tracks_createNode .flowSequence)) fun p₂ _ _ _ sequence => ?_
  refine .bind (.lift (tracks_setVariable l.currentIndex)) fun p₃ _ _ _ storeIndex => ?_
  refine .bind (.lift (tracks_setVariable l.valueToSet)) fun p₄ _ _ _ storeValue => ?_
  refine .andThen (.lift (tracks_connectFlow (sequence.lift.flowOut "0") storeIndex.2.2.1.lift)) fun p₅ _ => ?_
  refine .andThen (.lift (tracks_connectFlow storeIndex.2.2.2.lift storeValue.2.2.1.lift)) fun p₆ _ => ?_
  refine .andThen (.lift (tracks_connectFlow storeValue.2.2.2.lift (switch.lift.flowIn "in"))) fun p₇ _ => .pure ?_
  exact ⟨storeIndex.2.1.lift, storeValue.2.1.lift, sequence.lift.flowIn "in", sequence.lift.flowOut "1"⟩

theorem tracks_setItemChecked : Tracks p setItemChecked setItemChecked := by
  refine .bind (tracks_inRange false) ?_
  rintro p₁ ⟨range, within⟩ ⟨range', within'⟩ _ ⟨range, within⟩
  refine .bind (.lift (tracks_guard within)) fun p₂ _ _ _ check => ?_
  refine .bind tracks_setItem fun p₃ _ _ _ write => ?_
  refine .andThen (.lift (tracks_connectFlow check.2.1.lift write.2.2.1)) fun p₄ _ => .returns fun sound => ?_
  exact ⟨pairs_link sound (.cons range.lift (.cons write.1.lift .nil)), write.2.1.lift, check.1.lift, check.2.2.lift⟩

theorem tracks_addItem : Tracks p addItem addItem := by
  refine .bind tracks_countValue fun p₁ _ _ _ count => .read ?_
  rintro l _ ⟨switch', reads', count', rfl, -, -, -⟩
  refine .bind (.lift (tracks_getVariable l.capacityId)) fun p₂ _ _ _ capacity => ?_
  refine .bind (.lift (tracks_binary .mathLt count.lift capacity)) fun p₃ _ _ _ hasRoom => ?_
  refine .bind (.lift (tracks_guard hasRoom)) fun p₄ _ _ _ check => ?_
  refine .bind tracks_setItem fun p₅ _ _ _ write => ?_
  refine .andThen (.lift (tracks_connect write.1 count.lift)) fun p₆ _ => ?_
  refine .andThen (.lift (tracks_connectFlow check.2.1.lift write.2.2.1.lift)) fun p₇ _ => ?_
  refine .bind (.lift (tracks_binaryLiteral .mathAdd count.lift _)) fun p₈ _ _ _ grown => ?_
  refine .bind (.lift (tracks_setVariableFrom l.count grown)) fun p₉ _ _ _ grow => ?_
  refine .andThen (.lift (tracks_connectFlow write.2.2.2.lift grow.2.2.1)) fun p₁₀ _ => .pure ?_
  exact ⟨write.2.1.lift, check.1.lift, check.2.2.lift⟩

theorem tracks_insertItem : Tracks p insertItem insertItem := by
  refine .bind (tracks_inRange true) ?_
  rintro p₁ ⟨range, within⟩ ⟨range', within'⟩ _ ⟨range, within⟩
  refine .bind tracks_countValue fun p₂ _ _ _ count => .read ?_
  rintro l _ ⟨switch', reads', count', rfl, -, -, -⟩
  refine .bind (.lift (tracks_getVariable l.capacityId)) fun p₃ _ _ _ capacity => ?_
  refine .bind (.lift (tracks_binary .mathLt count.lift capacity)) fun p₄ _ _ _ hasRoom => ?_
  refine .bind (.lift (tracks_binary .mathAnd within.lift hasRoom)) fun p₅ _ _ _ allowed => ?_
  refine .bind (.lift (tracks_guard allowed)) fun p₆ _ _ _ check => ?_
  refine .bind (.lift (tracks_setVariableFrom l.cursor count.lift)) fun p₇ _ _ _ start => ?_
  refine .andThen (.lift (tracks_connectFlow check.2.1.lift start.2.2.1)) fun p₈ _ => ?_
  refine .bind (.lift tracks_steppedWhile) fun p₉ _ _ _ shift => ?_
  refine .andThen (.lift (tracks_connectFlow start.2.2.2.lift shift.2.1)) fun p₁₀ _ => ?_
  refine .bind (.lift (tracks_getVariable l.cursor)) fun p₁₁ _ _ _ cursor => ?_
  refine .bind (.lift (tracks_createNode .mathGt)) fun p₁₂ _ _ _ above => ?_
  refine .andThen (.lift (tracks_connect (above.valueIn "a") cursor.lift)) fun p₁₃ _ => ?_
  refine .andThen (.lift (tracks_connect shift.1.lift (above.lift.valueOut "value"))) fun p₁₄ _ => ?_
  refine .bind (.lift (tracks_binaryLiteral .mathSub cursor.lift _)) fun p₁₅ _ _ _ belowCursor => ?_
  refine .bind (tracks_getItem belowCursor) fun p₁₆ _ _ _ moved => .bind tracks_setItem fun p₁₇ _ _ _ write => ?_
  refine .andThen (.lift (tracks_connect write.1 cursor.lift)) fun p₁₈ _ => ?_
  refine .andThen (.lift (tracks_connect write.2.1.lift moved.lift)) fun p₁₉ _ => ?_
  refine .andThen (.lift (tracks_connectFlow shift.2.2.1.lift write.2.2.1.lift)) fun p₂₀ _ => ?_
  refine .bind (.lift (tracks_setVariableFrom l.cursor belowCursor.lift)) fun p₂₁ _ _ _ step => ?_
  refine .andThen (.lift (tracks_connectFlow shift.2.2.2.1.lift step.2.2.1)) fun p₂₂ _ => ?_
  refine .bind tracks_setItem fun p₂₃ _ _ _ place => ?_
  refine .andThen (.lift (tracks_connectFlow shift.2.2.2.2.lift place.2.2.1)) fun p₂₄ _ => ?_
  refine .bind (.lift (tracks_binaryLiteral .mathAdd count.lift _)) fun p₂₅ _ _ _ grown => ?_
  refine .bind (.lift (tracks_setVariableFrom l.count grown)) fun p₂₆ _ _ _ grow => ?_
  refine .andThen (.lift (tracks_connectFlow place.2.2.2.lift grow.2.2.1)) fun p₂₇ _ => .returns fun sound => ?_
  exact ⟨pairs_link sound (.cons range.lift (.cons (above.lift.valueIn "b") (.cons place.1.lift .nil))),
    place.2.1.lift, check.1.lift, check.2.2.lift⟩

theorem tracks_removeItem : Tracks p removeItem removeItem := by
  refine .bind (tracks_inRange false) ?_
  rintro p₁ ⟨range, within⟩ ⟨range', within'⟩ _ ⟨range, within⟩
  refine .bind (.lift (tracks_guard within)) fun p₂ _ _ _ check => ?_
  refine .bind tracks_countValue fun p₃ _ _ _ count => ?_
  refine .bind (.lift (tracks_forLoop 0)) fun p₄ _ _ _ shift => ?_
  refine .andThen (.lift (tracks_connectFlow check.2.1.lift shift.2.2.2.2.1)) fun p₅ _ => ?_
  refine .bind (.lift (tracks_binaryLiteral .mathSub count.lift _)) fun p₆ _ _ _ last => ?_
  refine .andThen (.lift (tracks_connect shift.2.2.1.lift last)) fun p₇ _ => ?_
  refine .bind (.lift (tracks_binaryLiteral .mathAdd shift.2.2.2.1.lift _)) fun p₈ _ _ _ next => ?_
  refine .bind (tracks_getItem next) fun p₉ _ _ _ moved => .bind tracks_setItem fun p₁₀ _ _ _ write => ?_
  refine .andThen (.lift (tracks_connect write.1 shift.2.2.2.1.lift)) fun p₁₁ _ => ?_
  refine .andThen (.lift (tracks_connect write.2.1.lift moved.lift)) fun p₁₂ _ => ?_
  refine .andThen (.lift (tracks_connectFlow shift.2.2.2.2.2.1.lift write.2.2.1.lift)) fun p₁₃ _ => .read ?_
  rintro l _ ⟨switch', reads', count', rfl, -, -, -⟩
  refine .bind (.lift (tracks_setVariableFrom l.count last.lift)) fun p₁₄ _ _ _ shrink => ?_
  refine .andThen (.lift (tracks_connectFlow shift.2.2.2.2.2.2.lift shrink.2.2.1)) fun p₁₅ _ => .returns fun sound => ?_
  exact ⟨pairs_link sound (.cons range.lift (.cons shift.2.1.lift .nil)), check.1.lift, check.2.2.lift⟩

theorem tracks_clear : Tracks p clear clear := by
  refine .read ?_
  rintro l _ ⟨switch', reads', count', rfl, -, -, -⟩
  exact .bind (.lift (tracks_setVariableStatic l.count _)) fun p₁ _ _ _ reset => .pure ⟨reset.2.2.1, reset.2.2.2⟩

end Steps

end BoundedList

end ScriptGraph.Pattern
