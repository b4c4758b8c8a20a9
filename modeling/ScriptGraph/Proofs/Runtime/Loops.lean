import Mathlib
import ScriptGraph.Proofs.Runtime.Builders
import ScriptGraph.Proofs.Runtime.Growth

/-!
What loops test.

A loop with a variable for its counter has one test for all comparisons: from its start on, the counter has
not yet reached the excluded end. That is the comparison of the source where the start is on the near side
of the bound.
-/

namespace ScriptGraph

open Pattern

namespace Comparison

/-- Whether the comparison holds between a counter and a bound. -/
def holds : Comparison → Int32 → Int32 → Bool
  | lt, i, bound => i < bound
  | le, i, bound => i ≤ bound
  | gt, i, bound => i > bound
  | ge, i, bound => i ≥ bound

/-- The excluded end for a bound. -/
def beyond : Comparison → Int32 → Int32
  | lt, bound | gt, bound => bound
  | le, bound => bound + 1
  | ge, bound => bound - 1

/-- The excluded end is a number next to the bound, not one from the other end of the range. -/
def Fits : Comparison → Int32 → Prop
  | lt, _ | gt, _ => True
  | le, bound => bound ≠ Int32.maxValue
  | ge, bound => bound ≠ Int32.minValue

/-- A loop that starts here comes to the bound from the side that the comparison is about. -/
def Near : Comparison → Int32 → Int32 → Prop
  | lt, start, bound => start ≤ bound
  | le, start, bound => start ≤ bound + 1
  | gt, start, bound => start > bound
  | ge, start, bound => start ≥ bound

/-- From the near side, not having reached the excluded end is the comparison with the bound. -/
theorem goesOn_beyond {comparison : Comparison} {start bound : Int32} (fits : comparison.Fits bound)
    (near : comparison.Near start bound) (i : Int32) :
    SteppedFor.goesOn start (comparison.beyond bound) i = comparison.holds i bound := by
  have low (n : Int32) : -2147483648 ≤ n.toInt := n.le_toInt
  have high (n : Int32) : n.toInt < 2147483648 := n.toInt_lt
  cases comparison with
  | lt => exact if_pos near
  | le =>
    have inside : bound.toInt ≠ 2147483647 := fun last => fits (Int32.toInt_inj.1 last)
    have next : (bound + 1).toInt = bound.toInt + 1 := by
      rw [Int32.toInt_add]
      exact Int.bmod_eq_of_le (by simp; have := low bound; omega) (by simp; have := high bound; omega)
    refine (if_pos near).trans (decide_eq_decide.2 ?_)
    rw [Int32.lt_iff_toInt_lt, Int32.le_iff_toInt_le, beyond, next]
    omega
  | gt => exact if_neg (Int32.not_le.2 near)
  | ge =>
    have inside : bound.toInt ≠ -2147483648 := fun first => fits (Int32.toInt_inj.1 first)
    have previous : (bound - 1).toInt = bound.toInt - 1 := by
      rw [Int32.toInt_sub]
      exact Int.bmod_eq_of_le (by simp; have := low bound; omega) (by simp; have := high bound; omega)
    have near : bound ≤ start := near
    have beyondStart : ¬ start ≤ bound - 1 := by
      rw [Int32.le_iff_toInt_le] at near ⊢
      omega
    refine (if_neg beyondStart).trans (decide_eq_decide.2 ?_)
    rw [gt_iff_lt, Int32.lt_iff_toInt_lt, ge_iff_le, Int32.le_iff_toInt_le, beyond, previous]
    omega

end Comparison

namespace Known

variable {w : Scope} {facts : List Fact} {exits : List FlowOut} {c : Context}

theorem identified (known : Known w facts exits c) (small : c.Small) : c.graph.Identified :=
  (known.sound (Context.small_inRange small)).wiredNow.identified

/-- A flow that leads nowhere yet, as a runtime sees it. -/
theorem idle (known : Known w facts exits c) {f : FlowOut} (member : f ∈ exits) (small : c.Small) :
    c.program.op? f.address.node ≠ none ∧ c.program.next? f.address = none := by
  obtain ⟨n, found, _, free⟩ := (known.sound (Context.small_inRange small)).free f member
  have shows := Context.shows_of_node? ((known.identified small).node? f.address.node ▸ found)
  refine ⟨by simp [shows.op], ?_⟩
  rw [show f.address = ⟨f.address.node, f.address.socket⟩ from rfl, shows.next, Node.flowTarget?_eq_head?, free]
  rfl

end Known

/-- A flow waits to be led on in a state of lowering. -/
def Lowering.Awaits (s : Lowering) (flow : FlowOut) : Prop := ∃ w facts exits, s.Knows w facts (flow :: exits)

namespace Program

/-- A flow leads to the test of a loop: a write of the start into a counter, and then a branch. -/
structure Heads (p : Program) (flow : FlowOut) (start : ValueOut) (counter : Int32) (set branch : NodeId) :
    Prop where
  entry : p.next? flow.address = some ⟨set, "in"⟩
  sets : p.op? set = some .variableSet
  counter : p.parameter? set "variable" = some (.int counter)
  initial : p.feed? ⟨set, "value"⟩ = some (.output start.address)
  leads : p.next? ⟨set, "out"⟩ = some ⟨branch, "in"⟩
  branches : p.op? branch = some .flowBranch

/-- The condition of a branch is that a counter has not reached the excluded end, seen from the start. -/
def Decides (p : Program) (comparison : Comparison) (start bound : ValueOut) (counter : Int32)
    (branch : NodeId) : Prop :=
  ∀ σ i first last, σ.vars counter = .int i → p.Gives σ (.output start.address) (.int first) →
    p.Gives σ (.output bound.address) (.int last) →
      p.Takes σ ⟨branch, "condition"⟩ (.bool (SteppedFor.goesOn first (comparison.beyond last) i))

end Program

namespace Lower

variable {cls : ScriptClass} {inliner : Inliner} {active : List String}

section Plans

variable {start c : Context} {blanks idles : List SocketAddress}
  {holding : Program → Prop}

theorem plan_loopEnd {s : Lowering} (plan : Plan start blanks idles holding s.context)
    (comparison : Comparison) (bound : ValueOut) :
    Ensures (loopEnd comparison bound) s fun stop s' =>
      Plan start blanks idles (fun q => (∀ σ b, q.Gives σ (.output bound.address) (.int b) →
        q.Gives σ (.output stop.address) (.int (comparison.beyond b))) ∧ holding q) s'.context := by
  unfold loopEnd
  split
  · exact .pure (plan.mono fun q old => ⟨fun _ _ gives => gives, old⟩)
  · exact .pure (plan.mono fun q old => ⟨fun _ _ gives => gives, old⟩)
  · exact .lift ((plan.binaryLiteral bound _ rfl).mono fun _ _ plan => plan.mono fun q ⟨adjusts, old⟩ =>
      ⟨fun σ b gives => adjusts σ _ _ gives rfl, old⟩)
  · exact .lift ((plan.binaryLiteral bound _ rfl).mono fun _ _ plan => plan.mono fun q ⟨adjusts, old⟩ =>
      ⟨fun σ b gives => adjusts σ _ _ gives rfl, old⟩)

theorem plan_loopBetween (plan : Plan start blanks idles holding c) (first last : ValueOut) :
    Ensures (loopBetween first last) c fun loop c' => ∃ set branch : NodeId,
      Plan start (loop.step.sockets ++ blanks) (loop.loopBody.address :: loop.completed.address :: idles)
        (fun q => (q.Tests loop set branch ∧ q.Feeds loop.start (.output first.address) ∧
          q.Feeds loop.stop (.output last.address)) ∧ holding q) c' := by
  refine plan.steppedFor.bind fun loop _ ⟨set, branch, _, plan⟩ => ?_
  refine (plan.connect first (.refl _)).bind fun _ _ plan => ?_
  refine (plan.connect last (.refl _)).bind fun _ _ plan => .pure ⟨set, branch, ?_⟩
  exact plan.mono fun q ⟨stops, starts, laps, old⟩ => ⟨⟨laps.toTests, starts, stops⟩, old⟩

end Plans

/-- Feeding the step of a loop leaves all other inputs as they are. -/
theorem extends_lowerLoopStep (reliable : Reliable inliner) (step : LoopStep) {w : Scope}
    {facts inner : List Fact} {exits exits' : List FlowOut} {s : Lowering} {context : Context}
    {node : NodeId} (knows : s.Knows w facts exits)
    (inside : Known ((w.enter s.context).ticking s.tick) inner exits' context)
    (within : ∀ f ∈ enter (s.facts ++ facts), f ∈ inner)
    (blank : context.Small → context.program.op? node ≠ none ∧ context.program.feed? ⟨node, "b"⟩ = none) :
    Ensures (lowerLoopStep cls inliner active (node.valueIn "b") step) { s with context } fun _ s' =>
      context.Before s'.context ∧ (s'.context.Small → context.program.Extends s'.context.program) := by
  have plan (c : Context) (identified : c.Small → c.graph.Identified)
      (still : c.Small → c.program.op? node ≠ none ∧ c.program.feed? ⟨node, "b"⟩ = none) :
      Plan c [⟨node, "b"⟩] [] (fun q => c.program.Within q []) c :=
    .begin identified (fun small a member => List.mem_singleton.1 member ▸ still small) (by simp) (by simp)
      .nil
  unfold lowerLoopStep
  split
  · refine .lift (((plan context inside.identified blank).setLiteral _ (.refl _)).mono fun _ _ plan => ?_)
    exact ⟨plan.before, fun small => (plan.sound small).2.now.2.larger⟩
  · next amount negate =>
    refine (values_lowerExpression reliable amount (knows.fence inside within)).bind fun value? s' k => ?_
    have before : context.Before s'.context := ⟨k.known.nodes_le, k.known.placeholders_le⟩
    have grown (small : s'.context.Small) := k.known.extends small
    cases value? with
    | none => exact .pure ⟨before, fun small => (grown small).1⟩
    | some value =>
      have still (small : s'.context.Small) :
          s'.context.program.op? node ≠ none ∧ s'.context.program.feed? ⟨node, "b"⟩ = none := by
        obtain ⟨exist, unfed⟩ := blank (before.small small)
        exact ⟨(grown small).1.op_ne exist, ((grown small).2 ⟨node, "b"⟩ exist).trans unfed⟩
      have plan := plan s'.context k.known.identified still
      have feed {v : ValueOut} {c : Context} {holding : Program → Prop}
          (plan : Plan s'.context [⟨node, "b"⟩] [] holding c)
          (larger : ∀ q, holding q → s'.context.program.Extends q) :
          Ensures (Build.connect (node.valueIn "b") v) c fun _ c' =>
            context.Before c' ∧ (c'.Small → context.program.Extends c'.program) := by
        refine (plan.connect v (.refl _)).mono fun _ _ plan => ⟨before.trans plan.before, fun small => ?_⟩
        exact (grown (plan.before.small small)).1.trans (larger _ (plan.sound small).2.now.2)
      dsimp only
      split
      · exact .liftBind (plan.unary value rfl) fun v _ plan => .lift (feed plan fun q now => now.2.larger)
      · rw [pure_bind]
        exact .lift (feed plan fun q now => now.larger)

section Headers

variable {start bound : ValueOut} {flow : FlowOut} {w : Scope} {facts : List Fact} {exits : List FlowOut}
  {s s₁ s₂ : Lowering}

/-- The values of a loop with a variable for its counter feed its test. -/
theorem tests_lowerSteppedLoop (reliable : Reliable inliner) {l : CountingLoop} {body : Body} (flows : Flows body)
    (knows : s.Knows w facts (flow :: exits))
    (first : lowerExpression cls inliner active l.start s = (some start, s₁))
    (last : lowerExpression cls inliner active l.bound s₁ = (some bound, s₂)) :
    Ensures (lowerSteppedLoop cls inliner active l body flow) s fun _ s' =>
      s'.context.Small → ∃ counter set branch,
        s'.context.program.Heads flow start counter set branch ∧
        ∀ q, s'.context.program.Extends q → q.Decides l.comparison start bound counter branch := by
  rw [lowerSteppedLoop_eq]
  extract_lets rest
  have continues (outer? : Option Nat) (declared : ∀ id, outer? = some id → .row id ∈ s.facts) :
      Ensures (rest outer?) s fun _ s' => s'.context.Small → ∃ counter set branch,
        s'.context.program.Heads flow start counter set branch ∧
        ∀ q, s'.context.program.Extends q → q.Decides l.comparison start bound counter branch := by
    have knows : s.Knows w (outer?.toList.map .row ++ facts) (flow :: exits) := by
      cases outer? with
      | none => exact knows
      | some id => exact knows.remembered (declared id rfl)
    have lowers {e : Expression} {v : ValueOut} {before after : Lowering}
        (result : lowerExpression cls inliner active e before = (some v, after)) :
        Ensures (lowerExpression cls inliner active e) before fun v? s' => v? = some v ∧ s' = after := by
      rw [Ensures, result]
      exact ⟨rfl, rfl⟩
    refine ((values_lowerExpression reliable l.start knows).and (lowers first)).bind ?_
    rintro _ _ ⟨k, rfl, rfl⟩
    refine ((values_lowerExpression reliable l.bound k).and (lowers last)).bind ?_
    rintro _ ready ⟨k, rfl, rfl⟩
    have k : ready.Knows w (.out bound :: .out start :: (outer?.toList.map .row ++ facts)) (flow :: exits) := k
    have plan : Plan ready.context [] [] _ ready.context :=
      .begin k.known.identified (by simp) (by simp) .nil .nil
    refine ((gives_loopEnd l.comparison k).and (plan_loopEnd plan l.comparison bound)).bind ?_
    rintro stop s ⟨k, plan⟩
    refine .liftBind ((known_loopBetween k.known (by simp) (by simp)).and (plan_loopBetween plan start stop)) ?_
    rintro loop context ⟨⟨node, inner, same, within, input, blank, shared, known⟩, set, branch, plan⟩
    rw [same] at plan ⊢
    refine ((ensures_lowerLoopStep reliable l.step k known within input blank shared).and
      (extends_lowerLoopStep reliable l.step k known within
        fun small => (plan.sound small).2.blank ⟨node, "b"⟩ (by simp))).bind ?_
    rintro _ s' ⟨inside, before, grown⟩
    have leading : Plan s'.context [] [flow.address] _ s'.context :=
      .begin inside.known.identified (by simp)
        (fun small a member => List.mem_singleton.1 member ▸ inside.known.idle (by simp) small) .nil (by simp)
    refine .liftBind ((knows_connectFlow inside (perm_third ..) (by simp)).and
      (leading.connectFlow loop.flowIn (.refl _))) ?_
    rintro _ context' ⟨inside, leading⟩
    have k : ({ s' with context := context' } : Lowering).Knows w (.out loop.index :: .entry loop.nextStep ::
        .row loop.counter :: (outer?.toList.map .row ++ facts))
        (loop.loopBody :: loop.completed :: exits) := k.leave inside (by simp +contextual)
    have entered : ({ s' with context := context' } : Lowering).Knows (w.enter context') (.out loop.index ::
        .entry loop.nextStep :: .row loop.counter :: (outer?.toList.map .row ++ []))
        (loop.loopBody :: loop.completed :: exits) := by
      refine k.enter.weaken fun f member => mem_enter_of_isShared ?_ ?_
      · simp only [List.mem_cons, List.append_nil, List.mem_map] at member
        rcases member with rfl | rfl | rfl | ⟨_, _, rfl⟩ <;> rfl
      · simp only [List.mem_cons, List.append_nil, List.mem_append] at member ⊢
        exact member.imp_right (.imp_right (.imp_right .inl))
    refine (ensures_runLoop flows entered).mono fun _ final k small => ?_
    obtain ⟨grown', _⟩ := k.known.extends small
    have before' : context'.Before final.context := ⟨k.known.nodes_le, k.known.placeholders_le⟩
    obtain ⟨_, planned⟩ := leading.sound (before'.small small)
    have small' : s'.context.Small := leading.before.small (before'.small small)
    have larger : context.program.Extends final.context.program :=
      (grown small').trans (planned.now.2.larger.trans grown')
    obtain ⟨_, made⟩ := plan.sound (before.small small')
    obtain ⟨⟨tests, starts, _⟩, _⟩ := made.now
    refine ⟨.ofNat loop.counter, set, branch, ⟨grown'.next _ _ (planned.now.1.trans ?_), larger.op _ _ tests.sets,
      larger.parameter _ _ _ tests.counter, larger.feed _ _ (starts _ tests.initial), larger.next _ _ tests.leads,
      larger.op _ _ tests.branches⟩, fun q further σ i a b counts givesStart givesBound => ?_⟩
    · rw [tests.entry]
      rfl
    · -- A test is a value: it stays what it is wherever flows lead.
      obtain ⟨⟨tests, starts, stops⟩, ends, _⟩ := made.ofExtends (larger.trans further)
      obtain ⟨condition, fed, gives⟩ := tests.condition σ i a _ counts
        (starts.accepts (Program.gives_next.2 givesStart))
        (stops.accepts (ends σ b (Program.gives_next.2 givesBound)))
      exact ⟨condition, fed, Program.gives_next.1 gives⟩
  split
  · exact continues none fun _ none => by cases none
  · refine ensures_variableOf?.bind ?_
    rintro outer? _ ⟨rfl, declared⟩
    exact continues outer? declared

/-- A statement that is a loop with a variable for its counter, wherever a flow waits for it. -/
theorem tests_lowerStatement (levels : Nat) {loop : Statement} {l : CountingLoop}
    (awaits : s.Awaits flow) (kind : loop.kind = .forLoop) (shape : CountingLoop.ofStatement? loop = some l)
    (counts : l.start.valueType?.any (· ≠ .int) = false) (stepped : l.isCanonical = false)
    (first : lowerExpression cls (Lower.inliner cls levels) active l.start s = (some start, s₁))
    (last : lowerExpression cls (Lower.inliner cls levels) active l.bound s₁ = (some bound, s₂)) :
    Ensures (lowerStatement cls (Lower.inliner cls levels) active loop flow) s fun _ s' =>
      s'.context.Small → ∃ counter set branch,
        s'.context.program.Heads flow start counter set branch ∧
        ∀ q, s'.context.program.Extends q → q.Decides l.comparison start bound counter branch := by
  obtain ⟨w, facts, exits, knows⟩ := awaits
  have reliable := reliable_inliner cls levels
  rw [lowerStatement, statementStep, kind]
  simp only [lowerLoop, shape, counts, stepped, Bool.false_eq_true, if_false]
  refine tests_lowerSteppedLoop reliable (fun _ _ _ _ flow knows => ?_) knows first last
  exact ensures_lowerBlock reliable _ (.one flow) knows

end Headers

end Lower

/-- In the finished graph, the branch of a loop with a variable for its counter goes on while the counter has
not reached the excluded end, which is what the comparison of the source says if the loop comes from the side
that the comparison is about. -/
theorem stepped_loop_condition {cls : ScriptClass} {levels : Nat} {active : List String} {loop : Statement}
    {l : CountingLoop} {flow : FlowOut} {start bound : ValueOut} {s s₁ s₂ s' : Lowering} {exits : Exits}
    (awaits : s.Awaits flow) (kind : loop.kind = .forLoop) (shape : CountingLoop.ofStatement? loop = some l)
    (counts : l.start.valueType?.any (· ≠ .int) = false) (stepped : l.isCanonical = false)
    (first : Lower.lowerExpression cls (Lower.inliner cls levels) active l.start s = (some start, s₁))
    (last : Lower.lowerExpression cls (Lower.inliner cls levels) active l.bound s₁ = (some bound, s₂))
    (lowered : Lower.lowerStatement cls (Lower.inliner cls levels) active loop flow s = (exits, s'))
    (small : s'.context.Small) :
    ∃ counter set branch, s'.context.program.Heads flow start counter set branch ∧
      ∀ later : Context, s'.context.program.Extends later.program →
        ∀ (σ : Store) (i a b : Int32), σ.vars counter = .int i →
          later.program.Gives σ (.output start.address) (.int a) →
          later.program.Gives σ (.output bound.address) (.int b) → l.comparison.Fits b →
            later.resolved.program.Takes σ ⟨branch, "condition"⟩
              (.bool (SteppedFor.goesOn a (l.comparison.beyond b) i)) ∧
            (l.comparison.Near a b →
              later.resolved.program.Takes σ ⟨branch, "condition"⟩ (.bool (l.comparison.holds i b))) := by
  have tests := Lower.tests_lowerStatement levels awaits kind shape counts stepped first last
  rw [Ensures, lowered] at tests
  obtain ⟨counter, set, branch, heads, decides⟩ := tests small
  refine ⟨counter, set, branch, heads, fun later larger σ i a b holds givesStart givesBound fits => ?_⟩
  have takes := Context.takes_resolved (decides _ larger σ i a b holds givesStart givesBound)
  exact ⟨takes, fun near => l.comparison.goesOn_beyond fits near i ▸ takes⟩

/-- The way to the first statement of an entry point, with the flow that waits there. -/
def Lower.openBody (cls : ScriptClass) (method : Method) : Lower FlowOut := do
  declareFields cls
  let (flow, bindings) ← openEntryPoint method
  modify fun s => { s with frames := { method := method.name, bindings } :: s.frames }
  return flow

theorem Lower.awaits_openBody {cls : ScriptClass} {method : Method}
    (found : cls.method? method.name = some method) :
    Ensures (openBody cls method) (ScriptClass.startOfLowering {} {}) fun flow s => s.Awaits flow := by
  refine (ensures_declareFields cls (cls.knows_start {} {})).bind fun _ _ k => ?_
  refine (ensures_openEntryPoint found k).bind fun opened _ k => .modifyBind (.pure ?_)
  exact ⟨_, _, _, knows_push k fun f named => .inr (by simpa [Frame.facts] using named)⟩

namespace Stride

/-- A number. -/
def number (n : Int) : Expression :=
  { kind := .literal, literal := some (.int n), resultType := some { name := "int" } }

/-- The loop `for (int i = 10; i ⟨operator⟩ 5; i += ⟨amount⟩) total += i;`. -/
def loop (operator : String) (amount : Int) : Statement :=
  let name (n : String) : Expression :=
    { kind := .identifier, name := some n, resultType := some { name := "int" } }
  let add (target : String) (e : Expression) : Expression :=
    { kind := .assignment, operator := some "+=", resultType := some { name := "int" },
      children := [name target, e] }
  { kind := .forLoop
    children := [
      { kind := .forInitializer
        children := [{
          kind := .declaration
          children := [{
            kind := .variableDeclarator
            expressions := [name "i"]
            children := [{ kind := .initializer, expressions := [number 10] }] }] }] },
      { kind := .forCondition
        expressions := [{ kind := .binary, operator := some operator, resultType := some { name := "bool" },
                          children := [name "i", number 5] }] },
      { kind := .forIncrementor, expressions := [add "i" (number amount)] },
      { kind := .expression, expressions := [add "total" (name "i")] }] }

/-- A method with nothing but such a loop. -/
def method (operator : String) (amount : Int) : Method := { name := "Start", body := [loop operator amount] }

/-- A class that adds up the counters of such a loop when it starts. -/
def cls (operator : String) (amount : Int) : ScriptClass :=
  { name := "Striding"
    fields := [{ name := "total", fieldType := { name := "int" } }]
    methods := [method operator amount] }

/-- The state before the loop down, and the flow that waits there. -/
def opened : FlowOut × Lowering :=
  Lower.openBody (cls ">" (-2)) (method ">" (-2)) (ScriptClass.startOfLowering {} {})

/-- The start of the loop down. -/
def first : Option ValueOut × Lowering :=
  Lower.lowerExpression (cls ">" (-2)) (Lower.inliner (cls ">" (-2)) 0) [] (number 10) opened.2

/-- The bound of the loop down. -/
def last : Option ValueOut × Lowering :=
  Lower.lowerExpression (cls ">" (-2)) (Lower.inliner (cls ">" (-2)) 0) [] (number 5) first.2

/-- The loop down. -/
def lowered : Exits × Lowering :=
  Lower.lowerStatement (cls ">" (-2)) (Lower.inliner (cls ">" (-2)) 0) [] (loop ">" (-2)) opened.1 opened.2

/-- A loop that counts down to a bound tests that its counter is above it. -/
theorem condition_down : ∃ counter set branch start,
    lowered.2.context.program.Heads opened.1 start counter set branch ∧
    ∀ (σ : Store) (i : Int32), σ.vars counter = .int i →
      lowered.2.context.resolved.program.Takes σ ⟨branch, "condition"⟩ (.bool (decide (i > 5))) := by
  have found : ((first.1, last.1), lowered.2.context.graph.nodes.size, lowered.2.context.placeholders.size,
      lowered.2.context.program.constant? ⟨.placeholder 0, "value"⟩,
      lowered.2.context.program.constant? ⟨.placeholder 1, "value"⟩) =
      ((some ⟨⟨.placeholder 0, "value"⟩⟩, some ⟨⟨.placeholder 1, "value"⟩⟩), 14, 2, some (.int 10), some (.int 5)) := by
    cbv
  simp only [Prod.mk.injEq] at found
  obtain ⟨values, extent⟩ := found
  have small : lowered.2.context.Small := by
    rw [Context.Small, extent.1, extent.2.1]
    decide
  have awaits : opened.2.Awaits opened.1 := Lower.awaits_openBody (rfl : (cls ">" (-2)).method? "Start" = some _)
  have shape : CountingLoop.ofStatement? (loop ">" (-2)) = some ⟨"i", true, number 10, .gt, number 5,
    .constant (-2), CountingLoop.bodyOf (loop ">" (-2))⟩ := rfl
  obtain ⟨counter, set, branch, heads, condition⟩ := stepped_loop_condition awaits rfl shape rfl rfl
    (Prod.ext values.1 rfl : first = (_, first.2)) (Prod.ext values.2 rfl : last = (_, last.2))
    (rfl : lowered = (lowered.1, lowered.2)) small
  refine ⟨counter, set, branch, _, heads, fun σ i holds => ?_⟩
  exact (condition _ (.refl _) σ i 10 5 holds (.placeholder rfl extent.2.2.1) (.placeholder rfl extent.2.2.2) trivial).2
    (show (10 : Int32) > 5 by decide)

/-- A loop up to a bound that is below its start: the test holds at the start, where the comparison does not. -/
theorem condition_astray : ∃ a, (cls "<" 2).compile {} {} = .ok a ∧
    a.graph.program.op? (.ofNat 1) = some .variableSet ∧
    a.graph.program.parameter? (.ofNat 1) "variable" = some (.int 1) ∧
    a.graph.program.feed? ⟨.ofNat 1, "value"⟩ = some (.constant (.int 10)) ∧
    a.graph.program.next? ⟨.ofNat 1, "out"⟩ = some ⟨.ofNat 2, "in"⟩ ∧
    a.graph.program.op? (.ofNat 2) = some .flowBranch ∧
    ∀ σ : Store, σ.vars 1 = .int 10 →
      ¬ a.graph.program.Takes σ ⟨.ofNat 2, "condition"⟩ (.bool (Comparison.lt.holds 10 5)) := by
  have found : ((cls "<" 2).compile {} {}).map (fun a =>
      let p := a.graph.program
      ([1, 2, 3, 4, 5, 6, 7].map fun i => p.op? (.ofNat i),
        [1, 3].map fun i => p.parameter? (.ofNat i) "variable", p.next? ⟨.ofNat 1, "out"⟩,
        [(1, "value"), (2, "condition"), (4, "a"), (4, "b"), (5, "a"), (5, "b"), (6, "a"), (6, "b"),
          (7, "condition"), (7, "a"), (7, "b")].map fun (i, socket) => p.feed? ⟨.ofNat i, socket⟩)) =
      .ok ([.variableSet, .flowBranch, .variableGet, .mathLe, .mathLt, .mathGt, .mathSelect].map some,
        [some (.int 1), some (.int 1)], some ⟨.ofNat 2, "in"⟩,
        [.constant (.int 10), .output ⟨.ofNat 7, "value"⟩, .constant (.int 10), .constant (.int 5),
          .output ⟨.ofNat 3, "value"⟩, .constant (.int 5), .output ⟨.ofNat 3, "value"⟩, .constant (.int 5),
          .output ⟨.ofNat 4, "value"⟩, .output ⟨.ofNat 5, "value"⟩, .output ⟨.ofNat 6, "value"⟩].map some) := by
    cbv
  cases success : (cls "<" 2).compile {} {} with
  | error e => simp [success, Except.map] at found
  | ok a =>
    rw [success] at found
    simp only [Except.map, List.map, Except.ok.injEq, Prod.mk.injEq, List.cons.injEq, and_true] at found
    obtain ⟨⟨sets, branches, gets, le, lt, gt, selects⟩, ⟨counter, read⟩, leads, initial, condition, leA, leB, ltA, ltB,
      gtA, gtB, selectC, selectA, selectB⟩ := found
    refine ⟨a, rfl, sets, counter, initial, leads, branches, fun σ holds takes => ?_⟩
    have index : a.graph.program.Gives σ (.output ⟨.ofNat 3, "value"⟩) (.int 10) :=
      holds ▸ .variable rfl gets read
    have ascends : a.graph.program.Gives σ (.output ⟨.ofNat 4, "value"⟩) (.bool false) :=
      .binary rfl le rfl ⟨_, leA, .constant _⟩ ⟨_, leB, .constant _⟩ rfl
    have below : a.graph.program.Gives σ (.output ⟨.ofNat 5, "value"⟩) (.bool false) :=
      .binary rfl lt rfl ⟨_, ltA, index⟩ ⟨_, ltB, .constant _⟩ rfl
    have above : a.graph.program.Gives σ (.output ⟨.ofNat 6, "value"⟩) (.bool true) :=
      .binary rfl gt rfl ⟨_, gtA, index⟩ ⟨_, gtB, .constant _⟩ rfl
    have goesOn : a.graph.program.Gives σ (.output ⟨.ofNat 7, "value"⟩) (.bool true) :=
      .select rfl selects ⟨_, selectC, ascends⟩ ⟨_, selectA, below⟩ ⟨_, selectB, above⟩
    cases Program.Takes.unique takes ⟨_, condition, goesOn⟩

end Stride

end ScriptGraph
