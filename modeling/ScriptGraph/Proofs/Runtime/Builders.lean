import ScriptGraph.Proofs.Pattern.Values
import ScriptGraph.Proofs.Runtime.Execution

/-!
What the patterns of values and flows do when they run.
-/

namespace ScriptGraph

open Pattern

/-- An element comes to the front. -/
theorem perm_front {α : Type} (before : List α) (a : α) (rest : List α) :
    (a :: (before ++ rest)).Perm (before ++ a :: rest) :=
  List.perm_middle.symm

namespace ValueIn

/-- Inputs that have no socket in common are linked by putting their sockets together. -/
theorem sockets_link {inputs : List ValueIn} (nodup : (inputs.flatMap (·.sockets)).Nodup) :
    (link inputs).sockets = inputs.flatMap (·.sockets) := by
  have general (known rest : List SocketAddress) (nodup : (known ++ rest).Nodup) :
      addNew known rest = known ++ rest := by
    induction rest generalizing known with
    | nil => simp [addNew]
    | cons a rest ih =>
      have fresh : known.contains a = false := by
        have apart := (List.nodup_append.1 nodup).2.2
        simpa using fun member => apart a member a List.mem_cons_self rfl
      rw [addNew, fresh, if_neg Bool.false_ne_true, ih (known ++ [a]) (by simpa using nodup)]
      simp
  exact general [] _ nodup

end ValueIn

/-- Whether a counter is on the near side of an end, seen from a start. -/
def Pattern.SteppedFor.goesOn (start stop i : Int32) : Bool :=
  if start ≤ stop then decide (i < stop) else decide (i > stop)

namespace Program

/-- An output has the value of a variable. -/
def Reads (p : Program) (v : ValueOut) (id : Int32) : Prop := ∀ σ, p.Gives σ (.output v.address) (σ.vars id)

/-- A node writes a variable. -/
structure Writes (p : Program) (set : VariableSet) (id : Int32) : Prop where
  stands : p.Stands set.node .variableSet ["out"]
  parameter : p.parameter? set.node "variable" = some (.int id)
  value : set.value = set.node.valueIn "value"
  flowIn : set.flowIn = set.node.flowIn "in"
  flowOut : set.flowOut = set.node.flowOut "out"

/-- An output has what an operation computes from another. -/
def Converts (p : Program) (op : Op) (a v : ValueOut) : Prop :=
  ∀ σ x z, p.Gives σ (.output a.address) x → op.compute? [x] = some z → p.Gives σ (.output v.address) z

/-- An output is that of an operation on another. -/
structure AppliesUnary (p : Program) (op : Op) (a v : ValueOut) : Prop where
  real : v.address.node.isPlaceholder = false
  op : p.op? v.address.node = some op
  first : p.feed? ⟨v.address.node, "a"⟩ = some (.output a.address)

/-- An output is that of an operation on two others. -/
structure Applies (p : Program) (op : Op) (a b v : ValueOut) : Prop where
  real : v.address.node.isPlaceholder = false
  op : p.op? v.address.node = some op
  first : p.feed? ⟨v.address.node, "a"⟩ = some (.output a.address)
  second : p.feed? ⟨v.address.node, "b"⟩ = some (.output b.address)

/-- An output is that of an operation on another and a constant. -/
structure AppliesTo (p : Program) (op : Op) (a : ValueOut) (y : Literal) (v : ValueOut) : Prop where
  real : v.address.node.isPlaceholder = false
  op : p.op? v.address.node = some op
  first : p.feed? ⟨v.address.node, "a"⟩ = some (.output a.address)
  second : p.feed? ⟨v.address.node, "b"⟩ = some (.constant y)

/-- An output has what an operation computes from two others. -/
def Combines (p : Program) (op : Op) (a b v : ValueOut) : Prop :=
  ∀ σ x y z, p.Gives σ (.output a.address) x → p.Gives σ (.output b.address) y →
    op.compute? [x, y] = some z → p.Gives σ (.output v.address) z

/-- An output has what an operation computes from another and a constant. -/
def Adjusts (p : Program) (op : Op) (a : ValueOut) (y : Literal) (v : ValueOut) : Prop :=
  ∀ σ x z, p.Gives σ (.output a.address) x → op.compute? [x, y] = some z → p.Gives σ (.output v.address) z

/-- An output has one of two values, by a condition. -/
def Chooses (p : Program) (condition a b v : ValueOut) : Prop :=
  ∀ σ c x y, p.Gives σ (.output condition.address) (.bool c) → p.Gives σ (.output a.address) x →
    p.Gives σ (.output b.address) y → p.Gives σ (.output v.address) (if c then x else y)

/-- A write puts the value on its input into its variable. -/
theorem Writes.passes {p : Program} {set : VariableSet} {id : Int32} (writes : p.Writes set id) {σ : Store}
    {value : Literal} (accepts : p.Accepts σ set.value value) :
    p.Passes set.flowIn set.flowOut σ (σ.write id value) := by
  intro τ
  rw [writes.value] at accepts
  rw [writes.flowIn, writes.flowOut]
  exact runs_set writes.stands.op writes.parameter (accepts_valueIn.1 accepts)

/-- The test of a loop with a variable for its counter: a write of the counter leads to a branch, which
goes on while the counter is on the near side of the end, seen from the start. -/
structure Tests (p : Program) (loop : SteppedFor) (set branch : NodeId) : Prop where
  entry : loop.flowIn = set.flowIn "in"
  sets : p.op? set = some .variableSet
  counter : p.parameter? set "variable" = some (.int (.ofNat loop.counter))
  initial : ⟨set, "value"⟩ ∈ loop.start.sockets
  leads : p.next? ⟨set, "out"⟩ = some ⟨branch, "in"⟩
  branches : p.op? branch = some .flowBranch
  condition : ∀ σ i first last, σ.vars (.ofNat loop.counter) = .int i → p.Accepts σ loop.start (.int first) →
    p.Accepts σ loop.stop (.int last) →
      p.Takes σ ⟨branch, "condition"⟩ (.bool (SteppedFor.goesOn first last i))

/-- A loop with a variable for its counter: its test, and a write that advances the counter and leads back to it. -/
structure Laps (p : Program) (loop : SteppedFor) (set branch advance : NodeId) : Prop
    extends p.Tests loop set branch where
  different : advance ≠ set
  next : loop.nextStep = advance.flowIn "in"
  advances : p.op? advance = some .variableSet
  advanced : p.parameter? advance "variable" = some (.int (.ofNat loop.counter))
  again : p.next? ⟨advance, "out"⟩ = some ⟨branch, "in"⟩
  step : ∀ σ i d, σ.vars (.ofNat loop.counter) = .int i → p.Accepts σ loop.step (.int d) →
    p.Takes σ ⟨advance, "value"⟩ (.int (i + d))
  index : p.Reads loop.index (.ofNat loop.counter)
  loopBody : loop.loopBody = branch.flowOut "true"
  completed : loop.completed = branch.flowOut "false"

/-- What inputs take does not depend on where flows lead. -/
theorem takes_next {p : Program} {σ : Store} {next? : SocketAddress → Option SocketAddress} {a : SocketAddress}
    {value : Literal} : Takes { p with next? } σ a value ↔ p.Takes σ a value := by
  simp only [Takes, gives_next]

theorem Feeds.takes {p : Program} {σ : Store} {id : NodeId} {name : String} {feed : Feed} {value : Literal}
    (feeds : p.Feeds (id.valueIn name) feed) (gives : p.Gives σ feed value) : p.Takes σ ⟨id, name⟩ value :=
  accepts_valueIn.1 (feeds.accepts gives)

end Program

namespace Plan

variable {start c : Context} {blanks idles : List SocketAddress}
  {holding : Program → Prop}

/-- Blank inputs may be linked, in groups. -/
theorem link (plan : Plan start blanks idles holding c) (groups : List (List ValueIn)) (rest : List SocketAddress)
    (perm : (groups.flatMap (·.flatMap (·.sockets)) ++ rest).Perm blanks) :
    Plan start (groups.flatMap (fun inputs => (ValueIn.link inputs).sockets) ++ rest) idles holding c := by
  refine ⟨plan.before, fun small => ?_⟩
  obtain ⟨identified, planned⟩ := (plan.reorder perm (.refl _)).sound small
  have nodup := (List.nodup_append.1 planned.blanksNodup).1
  have same : groups.flatMap (fun inputs => (ValueIn.link inputs).sockets) =
      groups.flatMap (·.flatMap (·.sockets)) := by
    refine List.flatMap_congr fun inputs member => ValueIn.sockets_link ?_
    exact (List.nodup_flatMap.1 nodup).1 inputs member
  rw [same]
  exact ⟨identified, planned⟩

/-- What the open places and the nodes tell. -/
theorem learn (plan : Plan start blanks idles holding c) {fact : Prop}
    (tells : ∀ p : Program, p.Planned blanks idles holding → fact) :
    Plan start blanks idles (fun q => fact ∧ holding q) c :=
  { plan with sound := fun small => ⟨(plan.sound small).1,
      { (plan.sound small).2 with holds := fun q within =>
          ⟨tells _ (plan.sound small).2, (plan.sound small).2.holds q within⟩ }⟩ }

/-- An input that is still blank is not one that is fed. -/
theorem apart (plan : Plan start blanks idles holding c) {a b : SocketAddress}
    (blank : ∀ q, holding q → a ∈ blanks) (fed : ∀ q, holding q → q.feed? b ≠ none) :
    Plan start blanks idles (fun q => b ≠ a ∧ holding q) c := by
  refine plan.learn fun p planned => ?_
  rintro rfl
  exact fed _ planned.now (planned.blank _ (blank _ planned.now)).2

theorem getVariable (plan : Plan start blanks idles holding c) (id : Nat) :
    Ensures (Pattern.getVariable id) c fun v c' =>
      Plan start blanks idles (fun q => q.Reads v (.ofNat id) ∧ holding q) c' := by
  refine (plan.createNode [] [] (by decide)).bind fun node _ ⟨plan, bare⟩ => ?_
  refine (plan.configure bare "variable" (.int (.ofNat id))).bind fun _ _ plan => .getBind ?_
  have plan : Plan start blanks idles
      (fun q => q.Reads (node.valueOut "value") (.ofNat id) ∧ holding q) _ :=
    plan.mono fun q ⟨parameter, stands, old⟩ => ⟨fun σ => .variable stands.real stands.op parameter, old⟩
  split
  · exact (plan.expect _ _).bind fun _ _ plan => .pure plan
  · exact .pure plan

theorem setVariable (plan : Plan start blanks idles holding c) (id : Nat) :
    Ensures (Pattern.setVariable id) c fun set c' =>
      Plan start (set.value.sockets ++ blanks) (set.flowOut.address :: idles)
        (fun q => q.Writes set (.ofNat id) ∧ holding q) c' := by
  refine (plan.createNode ["value"] ["out"] (by decide)).bind fun node _ ⟨plan, bare⟩ => ?_
  refine (plan.configure bare "variable" (.int (.ofNat id))).bind fun _ _ plan => .pure ?_
  exact plan.mono fun q ⟨parameter, stands, old⟩ => ⟨⟨stands, parameter, rfl, rfl, rfl⟩, old⟩

theorem setVariableFrom (plan : Plan start blanks idles holding c) (id : Nat) (v : ValueOut) :
    Ensures (Pattern.setVariableFrom id v) c fun set c' =>
      Plan start blanks (set.flowOut.address :: idles)
        (fun q => (q.Feeds set.value (.output v.address) ∧ q.Writes set (.ofNat id)) ∧ holding q) c' := by
  refine (plan.setVariable id).bind fun set _ plan => ?_
  refine (plan.connect v (.refl _)).bind fun _ _ plan => .pure ?_
  exact plan.mono fun q ⟨feeds, writes, old⟩ => ⟨⟨feeds, writes⟩, old⟩

/-- The node of a write of a constant. -/
theorem setVariableStaticNode (plan : Plan start blanks idles holding c) (id : Nat) (value : Literal) :
    Ensures (Pattern.setVariableStatic id value) c fun set c' =>
      Plan start blanks (set.flowOut.address :: idles)
        (fun q => (q.Feeds set.value (.constant value) ∧ q.Writes set (.ofNat id)) ∧ holding q) c' := by
  refine (plan.setVariable id).bind fun set _ plan => ?_
  refine (plan.setLiteral value (.refl _)).bind fun _ _ plan => .pure ?_
  exact plan.mono fun q ⟨feeds, writes, old⟩ => ⟨⟨feeds, writes⟩, old⟩

theorem setVariableStatic (plan : Plan start blanks idles holding c) (id : Nat) (value : Literal) :
    Ensures (Pattern.setVariableStatic id value) c fun set c' =>
      Plan start blanks (set.flowOut.address :: idles)
        (fun q => (∀ σ, q.Passes set.flowIn set.flowOut σ (σ.write (.ofNat id) value)) ∧ holding q) c' :=
  (plan.setVariableStaticNode id value).mono fun _ _ plan => plan.mono fun _ ⟨⟨feeds, writes⟩, old⟩ =>
    ⟨fun _ => writes.passes (feeds.accepts (.constant value)), old⟩

/-- The node of an operation on one value. -/
theorem unaryNode (plan : Plan start blanks idles holding c) (op : Op) (a : ValueOut) :
    Ensures (Pattern.unary op a) c fun v c' =>
      Plan start blanks idles (fun q => q.AppliesUnary op a v ∧ holding q) c' := by
  refine (plan.createNode ["a"] [] (by decide)).bind fun node _ ⟨plan, _⟩ => ?_
  refine (plan.connect (t := node.valueIn "a") a (.refl _)).bind fun _ _ plan => .pure ?_
  exact plan.mono fun q ⟨first, stands, old⟩ =>
    ⟨⟨stands.real, stands.op, first ⟨node, "a"⟩ (by simp)⟩, old⟩

theorem unary (plan : Plan start blanks idles holding c) {op : Op} (a : ValueOut)
    (inputs : op.schema.valuesIn = ["a"]) :
    Ensures (Pattern.unary op a) c fun v c' =>
      Plan start blanks idles (fun q => q.Converts op a v ∧ holding q) c' := by
  refine (plan.unaryNode op a).mono fun v _ plan => plan.mono fun q ⟨applies, old⟩ => ⟨?_, old⟩
  exact fun σ x z gives result => .unary applies.real applies.op inputs ⟨_, applies.first, gives⟩ result

/-- The node of an operation on two values. -/
theorem binaryNode (plan : Plan start blanks idles holding c) (op : Op) (a b : ValueOut) :
    Ensures (Pattern.binary op a b) c fun v c' =>
      Plan start blanks idles (fun q => q.Applies op a b v ∧ holding q) c' := by
  refine (plan.createNode ["a", "b"] [] (by decide)).bind fun node _ ⟨plan, _⟩ => ?_
  refine (plan.connect (t := node.valueIn "a") a (.refl _)).bind fun _ _ plan => ?_
  refine (plan.connect (t := node.valueIn "b") b (.refl _)).bind fun _ _ plan => .pure ?_
  exact plan.mono fun q ⟨second, first, stands, old⟩ =>
    ⟨⟨stands.real, stands.op, first ⟨node, "a"⟩ (by simp), second ⟨node, "b"⟩ (by simp)⟩, old⟩

theorem binary (plan : Plan start blanks idles holding c) {op : Op} (a b : ValueOut)
    (inputs : op.schema.valuesIn = ["a", "b"]) :
    Ensures (Pattern.binary op a b) c fun v c' =>
      Plan start blanks idles (fun q => q.Combines op a b v ∧ holding q) c' := by
  refine (plan.binaryNode op a b).mono fun v _ plan => plan.mono fun q ⟨applies, old⟩ => ⟨?_, old⟩
  exact fun σ x y z givesA givesB result =>
    .binary applies.real applies.op inputs ⟨_, applies.first, givesA⟩ ⟨_, applies.second, givesB⟩ result

/-- The node of an operation on a value and a constant. -/
theorem binaryLiteralNode (plan : Plan start blanks idles holding c) (op : Op) (a : ValueOut) (y : Literal) :
    Ensures (Pattern.binaryLiteral op a y) c fun v c' =>
      Plan start blanks idles (fun q => q.AppliesTo op a y v ∧ holding q) c' := by
  refine (plan.createNode ["a", "b"] [] (by decide)).bind fun node _ ⟨plan, _⟩ => ?_
  refine (plan.connect (t := node.valueIn "a") a (.refl _)).bind fun _ _ plan => ?_
  refine (plan.setLiteral (t := node.valueIn "b") y (.refl _)).bind fun _ _ plan => .pure ?_
  exact plan.mono fun q ⟨second, first, stands, old⟩ =>
    ⟨⟨stands.real, stands.op, first ⟨node, "a"⟩ (by simp), second ⟨node, "b"⟩ (by simp)⟩, old⟩

theorem binaryLiteral (plan : Plan start blanks idles holding c) {op : Op} (a : ValueOut) (y : Literal)
    (inputs : op.schema.valuesIn = ["a", "b"]) :
    Ensures (Pattern.binaryLiteral op a y) c fun v c' =>
      Plan start blanks idles (fun q => q.Adjusts op a y v ∧ holding q) c' := by
  refine (plan.binaryLiteralNode op a y).mono fun v _ plan => plan.mono fun q ⟨applies, old⟩ => ⟨?_, old⟩
  exact fun σ x z gives result =>
    .binary applies.real applies.op inputs ⟨_, applies.first, gives⟩ ⟨_, applies.second, .constant y⟩ result

theorem select (plan : Plan start blanks idles holding c) (condition a b : ValueOut) :
    Ensures (Pattern.select condition a b) c fun v c' =>
      Plan start blanks idles (fun q => q.Chooses condition a b v ∧ holding q) c' := by
  refine (plan.createNode ["condition", "a", "b"] [] (by decide)).bind fun node _ ⟨plan, _⟩ => ?_
  refine (plan.connect (t := node.valueIn "condition") condition (.refl _)).bind fun _ _ plan => ?_
  refine (plan.connect (t := node.valueIn "a") a (.refl _)).bind fun _ _ plan => ?_
  refine (plan.connect (t := node.valueIn "b") b (.refl _)).bind fun _ _ plan => .pure ?_
  refine plan.mono fun q ⟨second, first, decides, stands, old⟩ => ⟨fun σ c x y chosen givesA givesB => ?_, old⟩
  exact .select stands.real stands.op (Program.Feeds.takes decides chosen) (Program.Feeds.takes first givesA)
    (Program.Feeds.takes second givesB)

/-- The nodes of a loop with a variable for its counter. -/
theorem steppedFor (plan : Plan start blanks idles holding c) :
    Ensures Pattern.steppedFor c fun loop c' => ∃ set branch advance : NodeId,
      Plan start (loop.start.sockets ++ (loop.stop.sockets ++ (loop.step.sockets ++ blanks)))
        (loop.loopBody.address :: loop.completed.address :: idles)
        (fun q => q.Laps loop set branch advance ∧ holding q) c' := by
  refine (plan.uniqueName _).bind fun name _ plan => ?_
  refine (plan.declareVariable ..).bind fun counter _ plan => ?_
  refine (plan.setVariable counter).bind fun first _ plan => ?_
  refine (plan.createNode ["condition"] ["true", "false"] (by decide)).bind fun branch _ ⟨plan, _⟩ => ?_
  refine (plan.connectFlow _ (perm_front [_, _] _ _)).bind fun _ _ plan => ?_
  refine (plan.getVariable counter).bind fun index _ plan => ?_
  refine (plan.createNode ["a", "b"] [] (by decide)).bind fun direction _ ⟨plan, _⟩ => ?_
  refine (plan.createNode ["a", "b"] [] (by decide)).bind fun below _ ⟨plan, _⟩ => ?_
  refine (plan.createNode ["a", "b"] [] (by decide)).bind fun above _ ⟨plan, _⟩ => ?_
  refine (plan.connect (t := below.valueIn "a") index (perm_front [_, _] _ _)).bind fun _ _ plan => ?_
  refine (plan.connect (t := above.valueIn "a") index (.refl _)).bind fun _ _ plan => ?_
  refine (plan.select _ _ _).bind fun condition _ plan => ?_
  refine (plan.connect (t := branch.valueIn "condition") condition
    (perm_front [_, _, _, _] _ _)).bind fun _ _ plan => ?_
  refine (plan.createNode ["a", "b"] [] (by decide)).bind fun step _ ⟨plan, _⟩ => ?_
  refine (plan.connect (t := step.valueIn "a") index (.refl _)).bind fun _ _ plan => ?_
  refine (plan.setVariableFrom counter _).bind fun advance _ plan => ?_
  refine (plan.connectFlow _ (.refl _)).bind fun _ _ plan => .pure ⟨first.node, branch, advance.node, ?_⟩
  have plan : Plan start (⟨step, "b"⟩ :: ⟨above, "b"⟩ :: ⟨below, "b"⟩ :: ⟨direction, "a"⟩ ::
      ⟨direction, "b"⟩ :: (first.value.sockets ++ blanks)) (⟨branch, "true"⟩ :: ⟨branch, "false"⟩ :: idles) _ _ := plan
  have plan := plan.apart (a := ⟨first.node, "value"⟩) (b := ⟨advance.node, "value"⟩) ?_ ?_
  have plan := plan.link [[first.value, direction.valueIn "a"],
    [direction.valueIn "b", below.valueIn "b", above.valueIn "b"]] (⟨step, "b"⟩ :: blanks) ?_
  · refine (plan.reorder (by simp) (.refl _)).mono fun q ⟨different, again, ⟨advanceFed, advanceWrites⟩, stepFed, stepStands,
      fed, chooses, aboveFed, belowFed, aboveStands, belowStands, directionStands, reads, leads, branchStands, writes,
      old⟩ => ⟨?_, old⟩
    rw [writes.flowOut] at leads
    rw [advanceWrites.flowOut] at again
    rw [advanceWrites.value] at advanceFed
    refine ⟨⟨writes.flowIn, writes.stands.op, writes.parameter, by simp [writes.value], leads, branchStands.op,
      fun σ i near far counts starts stops => ?_⟩, fun same => different (by rw [same]), advanceWrites.flowIn,
      advanceWrites.stands.op, advanceWrites.parameter, again, fun σ i d counts steps => ?_, reads, rfl, rfl⟩
    · have index : q.Gives σ (.output index.address) (.int i) := counts ▸ reads σ
      have ascends : q.Gives σ (.output ⟨direction, "value"⟩) (.bool (near ≤ far)) :=
        .binary directionStands.real directionStands.op rfl (starts _ (by simp)) (stops _ (by simp)) rfl
      have less : q.Gives σ (.output ⟨below, "value"⟩) (.bool (i < far)) :=
        .binary belowStands.real belowStands.op rfl (Program.Feeds.takes belowFed index) (stops _ (by simp)) rfl
      have greater : q.Gives σ (.output ⟨above, "value"⟩) (.bool (i > far)) :=
        .binary aboveStands.real aboveStands.op rfl (Program.Feeds.takes aboveFed index) (stops _ (by simp)) rfl
      have chosen := chooses σ _ _ _ ascends less greater
      have same : (if decide (near ≤ far) = true then Literal.bool (decide (i < far)) else .bool (decide (i > far))) =
          .bool (SteppedFor.goesOn near far i) := by
        by_cases up : near ≤ far <;> simp [SteppedFor.goesOn, up]
      exact same ▸ Program.Feeds.takes fed chosen
    · have index : q.Gives σ (.output index.address) (.int i) := counts ▸ reads σ
      have sum : q.Gives σ (.output ⟨step, "value"⟩) (.int (i + d)) :=
        .binary stepStands.real stepStands.op rfl (Program.Feeds.takes stepFed index)
          (Program.accepts_valueIn.1 steps) rfl
      exact Program.Feeds.takes advanceFed sum
  · rw [List.perm_iff_count]
    intro a
    simp only [List.flatMap_cons, List.flatMap_nil, NodeId.sockets_valueIn, List.count_append, List.count_cons,
      List.count_nil]
    omega
  · rintro q ⟨_, _, _, _, _, _, _, _, _, _, _, _, _, _, writes, _⟩
    simp [writes.value]
  · rintro q ⟨_, ⟨advanceFed, advanceWrites⟩, _⟩
    rw [advanceWrites.value] at advanceFed
    simp [advanceFed ⟨advance.node, "value"⟩ (by simp)]

end Plan

end ScriptGraph
