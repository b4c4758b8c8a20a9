import Mathlib
import ScriptGraph.Proofs.Construction.Names
import ScriptGraph.Proofs.Runtime.Counting
import ScriptGraph.Proofs.Validation.TypeChain

/-!
Loops with a variable for their counter count.

From a start to an excluded end, by a step that leads towards the end and does not leave the range just behind it,
there is one pass for each number before the end, and then the loop completes. This holds next to any other loops: each
has a counter of its own.
-/

namespace ScriptGraph

open Pattern Build

namespace Pattern.SteppedFor

/-- A number lies before an end, in the direction of a step. -/
def Before (step stop x : ℤ) : Prop := if 0 < step then x < stop else stop < x

/-- The counter after so many steps. -/
def counterAt (s d : Int32) (k : ℕ) : Int32 := .ofInt (s.toInt + k * d.toInt)

section Numbers

variable {s e d : Int32}

theorem counterAt_zero : counterAt s d 0 = s := by simp [counterAt]

theorem counterAt_succ (k : ℕ) : counterAt s d (k + 1) = counterAt s d k + d := by
  rw [counterAt, counterAt, show s.toInt + (k + 1 : ℕ) * d.toInt = s.toInt + k * d.toInt + d.toInt by push_cast; ring,
    Int32.ofInt_add, Int32.ofInt_toInt]

/-- A step towards the end comes to it. -/
theorem exists_reached (up : s ≤ e → 0 < d) (down : e < s → d < 0) :
    ∃ n : ℕ, ¬ Before d.toInt e.toInt (s.toInt + n * d.toInt) := by
  rw [Int32.le_iff_toInt_le, Int32.lt_iff_toInt_lt] at up
  rw [Int32.lt_iff_toInt_lt, Int32.lt_iff_toInt_lt] at down
  refine ⟨(e.toInt - s.toInt).natAbs, ?_⟩
  rw [Before]
  rcases le_or_gt s.toInt e.toInt with near | far
  · have forward : 0 < d.toInt := up near
    rw [if_pos forward, not_lt]
    have distance : ((e.toInt - s.toInt).natAbs : ℤ) = e.toInt - s.toInt := by omega
    rw [distance]
    nlinarith
  · have backward : d.toInt < 0 := down far
    rw [if_neg (by omega), not_lt]
    have distance : ((e.toInt - s.toInt).natAbs : ℤ) = s.toInt - e.toInt := by omega
    rw [distance]
    nlinarith

/-- One step after a number before the end, the counter is still in range. -/
theorem inRange_step (fits : -2 ^ 31 ≤ e.toInt + d.toInt ∧ e.toInt + d.toInt < 2 ^ 31) {k : ℕ}
    (before : Before d.toInt e.toInt (s.toInt + k * d.toInt)) :
    -2 ^ 31 ≤ s.toInt + (k + 1 : ℕ) * d.toInt ∧ s.toInt + (k + 1 : ℕ) * d.toInt < 2 ^ 31 := by
  have low := s.le_toInt
  have high := s.toInt_lt
  push_cast
  rw [Before] at before
  split at before
  · next forward =>
    have ahead : 0 ≤ (k : ℤ) * d.toInt := by positivity
    exact ⟨by linarith, by linarith⟩
  · next backward =>
    have behind : (k : ℤ) * d.toInt ≤ 0 := mul_nonpos_of_nonneg_of_nonpos (by positivity) (by omega)
    exact ⟨by linarith, by linarith⟩

/-- The numbers of the passes: the counter takes them exactly, and the last one is the first that does not lie before
the end. -/
theorem exists_passes (up : s ≤ e → 0 < d) (down : e < s → d < 0)
    (fits : -2 ^ 31 ≤ e.toInt + d.toInt ∧ e.toInt + d.toInt < 2 ^ 31) :
    ∃ n : ℕ, ∀ k ≤ n, (counterAt s d k).toInt = s.toInt + k * d.toInt ∧
      (Before d.toInt e.toInt (s.toInt + k * d.toInt) ↔ k < n) := by
  classical
  have reached := exists_reached up down
  have before {k : ℕ} (below : k < Nat.find reached) : Before d.toInt e.toInt (s.toInt + k * d.toInt) :=
    not_not.1 (Nat.find_min reached below)
  refine ⟨Nat.find reached, fun k within => ⟨?_, fun there => ?_, before⟩⟩
  · cases k with
    | zero => rw [counterAt_zero]; simp
    | succ k =>
      obtain ⟨low, high⟩ := inRange_step fits (before within)
      exact Int32.toInt_ofInt_of_le low high
  · refine lt_of_le_of_ne within fun last => Nat.find_spec reached ?_
    rwa [← last]

/-- The test of a loop asks whether the counter lies before the end. -/
theorem goesOn_eq_before (up : s ≤ e → 0 < d) (down : e < s → d < 0) (i : Int32) :
    goesOn s e i = true ↔ Before d.toInt e.toInt i.toInt := by
  rw [goesOn, Before]
  by_cases near : s ≤ e
  · have forward : 0 < d.toInt := Int32.lt_iff_toInt_lt.1 (up near)
    rw [if_pos near, if_pos forward, decide_eq_true_iff, Int32.lt_iff_toInt_lt]
  · have backward : d.toInt < 0 := Int32.lt_iff_toInt_lt.1 (down (Int32.not_le.1 near))
    rw [if_neg near, if_neg (by omega), decide_eq_true_iff, gt_iff_lt, Int32.lt_iff_toInt_lt]

end Numbers

end Pattern.SteppedFor

namespace Program

variable {p : Program} {loop : SteppedFor} {set branch advance : NodeId} {js : List Job} {σ : Store} {m : Moment}
  {t : List (Job × Store)} {value : ℕ → Int32} {goes : Int32 → Bool} {n : ℕ} {s e d : Int32}

/-- A run that has entered a loop. Nothing else starts it, and a pass is asked for only after the body was set off, with
the counter as it was then. -/
def Drives (p : Program) (loop : SteppedFor) (t : List (Job × Store)) (m : Moment) : Prop :=
  ∃ js σ, (∀ i ∈ js, p.Waits i) ∧ p.Trace ⟨.enter loop.flowIn.address :: js, σ⟩ t m ∧
    (t.filterMap loop.event?).IsChain LapEvent.Allows

/-- A body of a loop can be run through: it leaves the counter alone and ends in the next step. -/
def Returns (p : Program) (loop : SteppedFor) (v : Literal) : Prop :=
  ∀ js σ, (∀ i ∈ js, p.Waits i) → σ.vars (.ofNat loop.counter) = v →
    ∃ t js' τ, p.Trace ⟨.leave loop.loopBody.address :: js, σ⟩ t ⟨.enter loop.nextStep.address :: js', τ⟩ ∧
      τ.vars (.ofNat loop.counter) = v ∧ t.filterMap loop.event? = [.body v]

/-- The course of a loop that makes `n` passes. -/
structure CountsOff (p : Program) (loop : SteppedFor) (value : ℕ → Int32) (n : ℕ) : Prop where
  /-- The index of the loop has the value of its counter. -/
  index : p.Reads loop.index (.ofNat loop.counter)
  /-- What happens to the loop happens in this order. -/
  ordered : ∀ t m, p.Drives loop t m → t.filterMap loop.event? <+: .started :: LapEvent.course value 0 n
  /-- A run that is over has completed the loop, or its body has not ended in the next step. -/
  complete : ∀ t m, p.Drives loop t m → m.jobs = [] →
    (∀ v, (t.filterMap loop.event?).getLast? ≠ some (.body v)) →
      t.filterMap loop.event? = .started :: LapEvent.course value 0 n
  /-- Outside of its body, the loop goes on to what happens next. -/
  proceeds : ∀ t m, p.Drives loop t m → (∀ v, (t.filterMap loop.event?).getLast? ≠ some (.body v)) →
    t.filterMap loop.event? ≠ .started :: LapEvent.course value 0 n →
      ∃ t' m' e, p.Drives loop (t ++ t') m' ∧ t'.filterMap loop.event? = [e]
  /-- The loop completes if its bodies can be run through. -/
  finishes : (∀ k < n, p.Returns loop (.int (value k))) → ∀ js σ, (∀ i ∈ js, p.Waits i) →
    ∃ t m, p.Trace ⟨.enter loop.flowIn.address :: js, σ⟩ t m ∧
      t.filterMap loop.event? = .started :: LapEvent.course value 0 n

namespace Laps

/-- A loop is one as well where more flows lead on. -/
theorem leading {next? : SocketAddress → Option SocketAddress} (laps : Laps { p with next? } loop set branch advance)
    (larger : ∀ a b, next? a = some b → p.next? a = some b) : p.Laps loop set branch advance where
  entry := laps.entry
  sets := laps.sets
  counter := laps.counter
  initial := laps.initial
  leads := larger _ _ laps.leads
  branches := laps.branches
  condition σ i first last counts starts stops := takes_next.1 (laps.condition σ i first last counts
    (fun a member => takes_next.2 (starts a member)) fun a member => takes_next.2 (stops a member))
  different := laps.different
  next := laps.next
  advances := laps.advances
  advanced := laps.advanced
  again := larger _ _ laps.again
  step σ i d counts steps := takes_next.1 (laps.step σ i d counts fun a member => takes_next.2 (steps a member))
  index σ := gives_next.1 (laps.index σ)
  loopBody := laps.loopBody
  completed := laps.completed

variable (laps : p.Laps loop set branch advance)

include laps

/-- Between constants, the counter takes the numbers of the passes. -/
theorem countsBy (starts : ∀ σ, p.Accepts σ loop.start (.int s)) (stops : ∀ σ, p.Accepts σ loop.stop (.int e))
    (steps : ∀ σ, p.Accepts σ loop.step (.int d)) (up : s ≤ e → 0 < d) (down : e < s → d < 0)
    (numbers : ∀ k ≤ n, (SteppedFor.counterAt s d k).toInt = s.toInt + k * d.toInt ∧
      (SteppedFor.Before d.toInt e.toInt (s.toInt + k * d.toInt) ↔ k < n)) :
    p.CountsBy loop branch advance (SteppedFor.goesOn s e) (SteppedFor.counterAt s d) n where
  tests _ counts := laps.condition _ _ _ _ counts (starts _) (stops _)
  goes k within := by
    obtain ⟨exactly, before⟩ := numbers k within
    rw [Bool.eq_iff_iff, SteppedFor.goesOn_eq_before up down, exactly, before, decide_eq_true_iff]
  step _ counts := SteppedFor.counterAt_succ (s := s) _ ▸ laps.step _ _ _ counts (steps _)

/-- Entering a loop writes the start into its counter. -/
theorem step_start (js : List Job) {v : Literal} (takes : p.Takes σ ⟨set, "value"⟩ v) :
    p.Step ⟨.enter loop.flowIn.address :: js, σ⟩ ⟨.leave ⟨set, "out"⟩ :: js, σ.write (.ofNat loop.counter) v⟩ := by
  rw [laps.entry]
  exact .set laps.sets laps.counter takes

/-- From an entrance, a loop comes to its next exit. -/
theorem trace_underway {i : Int32} (tests : ∀ {σ : Store}, σ.vars (.ofNat loop.counter) = .int i →
      p.Takes σ ⟨branch, "condition"⟩ (.bool (goes i)))
    (underway : Underway set branch advance loop goes i m) :
    ∃ t, p.Trace m t ⟨.leave ⟨branch, if goes i then "true" else "false"⟩ :: m.jobs.tail, m.store⟩ ∧
      t.filterMap loop.event? = [] := by
  obtain ⟨jobs, σ⟩ := m
  obtain ⟨counts, next⟩ := underway
  cases jobs with
  | nil => simp at next
  | cons j js =>
    have tested : p.Step ⟨.enter ⟨branch, "in"⟩ :: js, σ⟩
        ⟨.leave ⟨branch, if goes i then "true" else "false"⟩ :: js, σ⟩ := .branch laps.branches (tests counts)
    have apart := laps.branch_ne
    have silent : loop.event? (.enter ⟨branch, "in"⟩, σ) = none := by
      rw [laps.event?_enter, if_neg apart.1, if_neg apart.2]
    simp only [List.head?_cons, Option.some.injEq] at next
    rcases next with rfl | rfl | rfl | rfl
    · refine ⟨_, .perform (.onward laps.leads) (.single tested), ?_⟩
      simp [silent, laps.event?_leave, apart.1.symm]
    · refine ⟨_, .perform (.onward laps.again) (.single tested), ?_⟩
      simp [silent, laps.event?_leave, apart.2.symm]
    · exact ⟨_, .single tested, by simp [silent]⟩
    · exact ⟨_, .stop _, rfl⟩

/-- From an entrance, a loop sets off its body or completes. -/
theorem trace_exit {i : Int32} (tests : ∀ {σ : Store}, σ.vars (.ofNat loop.counter) = .int i →
      p.Takes σ ⟨branch, "condition"⟩ (.bool (goes i)))
    (underway : Underway set branch advance loop goes i m) :
    ∃ t m', p.Trace m t m' ∧
      t.filterMap loop.event? = [if goes i then .body (.int i) else .completed (.int i)] := by
  obtain ⟨t, trace, silent⟩ := laps.trace_underway tests underway
  refine ⟨_, _, trace.append (.single step_of_leave), ?_⟩
  rw [List.filterMap_append, silent]
  cases goes i <;> simp [laps.event?_leave, underway.counts]

variable (values : p.CountsBy loop branch advance goes value n)

include values

/-- The body of a loop can be run through: the loop comes from one pass to the end. -/
theorem trace_finishes (returns : ∀ k < n, p.Returns loop (.int (value k))) {k : ℕ} (within : k ≤ n)
    (waits : ∀ i ∈ m.jobs.tail, p.Waits i) (underway : Underway set branch advance loop goes (value k) m) :
    ∃ t m', p.Trace m t m' ∧ t.filterMap loop.event? = LapEvent.course value k (n - k) := by
  obtain ⟨passes, left⟩ : ∃ passes, n - k = passes := ⟨_, rfl⟩
  rw [left]
  induction passes generalizing k m with
  | zero =>
    obtain rfl : k = n := by omega
    obtain ⟨t, m', trace, event⟩ := laps.trace_exit (values.tests within) underway
    rw [values.goes k within] at event
    exact ⟨t, m', trace, by simpa [LapEvent.course_zero] using event⟩
  | succ passes ih =>
    have below : k < n := by omega
    obtain ⟨t, trace, silent⟩ := laps.trace_underway (values.tests within) underway
    rw [values.goes k within, if_pos (decide_eq_true below)] at trace
    obtain ⟨t', js, τ, body, counts, event⟩ := returns k below _ _ waits underway.counts
    rw [laps.loopBody] at body
    have advanced : p.Step ⟨.enter loop.nextStep.address :: js, τ⟩
        ⟨.leave ⟨advance, "out"⟩ :: js, τ.write (.ofNat loop.counter) (.int (value (k + 1)))⟩ := by
      rw [laps.next]
      exact .set laps.advances laps.advanced (values.step below counts)
    have left : p.Orderly (.enter loop.nextStep.address :: js) := body.orderly waits
    obtain ⟨t'', m', others, events⟩ := ih (k := k + 1)
      (m := ⟨.leave ⟨advance, "out"⟩ :: js, τ.write (.ofNat loop.counter) (.int (value (k + 1)))⟩)
      below left ⟨by simp, by simp⟩ (by omega)
    refine ⟨_, m', trace.append (body.append (.perform advanced others)), ?_⟩
    simp [silent, event, events, laps.event?_next, counts, LapEvent.course_succ]

variable (sealed : p.Seals loop) (starts : ∀ σ, p.Takes σ ⟨set, "value"⟩ (.int (value 0)))

include sealed starts

/-- A run that has entered a loop is about to start it, or has come so far in its course. -/
theorem turn_of_drives (drives : p.Drives loop t m) :
    (t = [] ∧ ∃ js, m.jobs = .enter loop.flowIn.address :: js) ∨
      ∃ last ahead, (t.filterMap loop.event?).getLast? = some last ∧
        .started :: LapEvent.course value 0 n = t.filterMap loop.event? ++ ahead ∧
        Turn set branch advance loop goes value n last m ahead := by
  obtain ⟨js, σ, waits, trace, alone⟩ := drives
  generalize source : (⟨.enter loop.flowIn.address :: js, σ⟩ : Moment) = m₀ at trace
  induction trace generalizing σ with
  | stop => exact .inl ⟨rfl, js, by rw [← source]⟩
  | @perform j _ σ' _ _ t step rest =>
    obtain ⟨⟨rfl, rfl⟩, rfl⟩ := by simpa using source
    rw [List.filterMap_cons, laps.event?_start] at alone ⊢
    have start : p.Step ⟨.enter ⟨set, "in"⟩ :: js, σ⟩ _ := laps.entry ▸ step
    obtain rfl := step_set laps.sets laps.counter (starts σ) start
    have turn : Turn set branch advance loop goes value n .started
        ⟨.leave ⟨set, "out"⟩ :: js, σ.write (.ofNat loop.counter) (.int (value 0))⟩ (LapEvent.course value 0 n) :=
      .underway (Nat.zero_le n) ⟨by simp, by simp⟩
    obtain ⟨last, ahead, final, events, turn⟩ := laps.trace_turn sealed values rest waits turn alone
    exact .inr ⟨last, ahead, final, by rw [events]; rfl, turn⟩
  | act acts =>
    obtain ⟨⟨rfl, rfl⟩, rfl⟩ := by simpa using source
    obtain ⟨kind, op, other⟩ := acts
    rw [laps.entry] at op
    obtain rfl := Option.some.inj (op.symm.trans laps.sets)
    cases other
  | wake => simp at source
  | @drift _ σ' _ _ world _ ih =>
    obtain ⟨rfl, rfl⟩ := by simpa using source
    exact ih _ alone rfl

/-- A loop that is fed constants makes its passes. -/
theorem countsOff : p.CountsOff loop value n where
  index := laps.index
  ordered t m drives := by
    rcases laps.turn_of_drives values sealed starts drives with ⟨rfl, _⟩ | ⟨_, ahead, _, events, _⟩
    · exact List.nil_prefix
    · exact ⟨ahead, events.symm⟩
  complete t m drives resting unfinished := by
    rcases laps.turn_of_drives values sealed starts drives with ⟨rfl, js, waiting⟩ | ⟨_, ahead, final, events, turn⟩
    · cases resting.symm.trans waiting
    · cases turn with
      | underway _ underway => simpa [resting] using underway.next
      | away => exact absurd final (unfinished _)
      | finished => simpa using events.symm
  proceeds t m drives unfinished incomplete := by
    have ⟨js, σ, waits, trace, alone⟩ := drives
    rcases laps.turn_of_drives values sealed starts drives with ⟨rfl, js', waiting⟩ | ⟨_, ahead, final, events, turn⟩
    · obtain ⟨jobs, τ⟩ := m
      obtain rfl : jobs = _ := waiting
      have start := laps.step_start js' (starts τ)
      exact ⟨_, _, .started, ⟨js, σ, waits, trace.append (.single start), by simp [laps.event?_start]⟩,
        by simp [laps.event?_start]⟩
    · cases turn with
      | @underway _ _ k within underway =>
        obtain ⟨t', m', further, event⟩ := laps.trace_exit (values.tests within) underway
        refine ⟨t', m', _, ⟨js, σ, waits, trace.append further, ?_⟩, event⟩
        rw [List.filterMap_append, event, List.isChain_append]
        refine ⟨alone, .singleton _, ?_⟩
        cases goes (value k) <;> simp [LapEvent.Allows]
      | away => exact absurd final (unfinished _)
      | finished => exact absurd (by simpa using events.symm) incomplete
  finishes returns js σ waits := by
    have start := laps.step_start js (starts σ)
    obtain ⟨t, m, trace, events⟩ := laps.trace_finishes values returns (Nat.zero_le n)
      (m := ⟨.leave ⟨set, "out"⟩ :: js, σ.write (.ofNat loop.counter) (.int (value 0))⟩) waits ⟨by simp, by simp⟩
    exact ⟨_, m, .perform start trace, by simp [laps.event?_start, events]⟩

end Laps

/-- The nodes of a loop leave a variable as it is. -/
def LeavesAlone (p : Program) (loop : SteppedFor) (id : Nat) : Prop :=
  ∀ a js σ m, a.node ∈ [loop.flowIn.address.node, loop.nextStep.address.node, loop.loopBody.address.node] →
    p.Step ⟨.enter a :: js, σ⟩ m → m.store.vars (.ofNat id) = σ.vars (.ofNat id)

/-- A loop writes its counter only. -/
theorem Laps.leavesAlone (laps : p.Laps loop set branch advance) {id : Nat}
    (different : Int32.ofNat loop.counter ≠ Int32.ofNat id) : p.LeavesAlone loop id := by
  intro a js σ m member step
  refine step.vars _ fun b same writes parameter => ?_
  obtain rfl := Job.enter.inj same
  rw [laps.entry, laps.next, laps.loopBody] at member
  have member : a.node ∈ [set, advance, branch] := member
  obtain inside | inside | inside : a.node = set ∨ a.node = advance ∨ a.node = branch := by simpa using member
  · rw [inside, laps.counter] at parameter
    exact different (by simpa using parameter)
  · rw [inside, laps.advanced] at parameter
    exact different (by simpa using parameter)
  · rw [inside, laps.branches] at writes
    cases writes

end Program

/-- The nodes of a loop in a program that its graph has grown into. -/
theorem Pattern.laps_steppedFor {c c' : Context} {loop : SteppedFor} {p : Program} (identified : c.graph.Identified)
    (built : steppedFor c = (loop, c')) (small : c'.Small) (larger : c'.program.Extends p) :
    ∃ set branch advance, p.Laps loop set branch advance := by
  have plan := (Plan.bare identified).steppedFor
  rw [Ensures, built] at plan
  obtain ⟨set, branch, advance, plan⟩ := plan
  exact ⟨set, branch, advance, ((plan.sound small).2.ofExtends larger).1.leading larger.next⟩

theorem ofNat_inj_of_lt {m n : Nat} (first : m < 2 ^ 32) (second : n < 2 ^ 32)
    (same : Int32.ofNat m = Int32.ofNat n) : m = n := by
  have bits : m % 2 ^ 32 = n % 2 ^ 32 := congrArg (fun i => i.toBitVec.toNat) same
  rwa [Nat.mod_eq_of_lt first, Nat.mod_eq_of_lt second] at bits

/-- Loops that are made one after the other leave the counters of each other alone. -/
theorem Pattern.leavesAlone_steppedFor {c c' d d' : Context} {loop other : SteppedFor} {p : Program}
    (identified : c.graph.Identified) (built : steppedFor c = (loop, c')) (small : c'.Small)
    (larger : c'.program.Extends p) (later : c'.Later d) (identified' : d.graph.Identified)
    (built' : steppedFor d = (other, d')) (small' : d'.Small) (larger' : d'.program.Extends p)
    (fewVariables : d'.graph.vars.size ≤ 2 ^ 32) :
    p.LeavesAlone loop other.counter ∧ p.LeavesAlone other loop.counter := by
  have first := Pattern.owns_steppedFor c
  have second := Pattern.owns_steppedFor d
  rw [Ensures, built] at first
  rw [Ensures, built'] at second
  have owns := first.1.later (later.trans second.2)
  have ids : loop.counter ≠ other.counter := by
    refine owns.ne second.1 (Nat.ne_of_lt ?_)
    exact Nat.lt_of_lt_of_le first.1.given (later.numbers _)
  have different (same : Int32.ofNat loop.counter = Int32.ofNat other.counter) : False :=
    ids (ofNat_inj_of_lt (Nat.lt_of_lt_of_le owns.named.lt fewVariables)
      (Nat.lt_of_lt_of_le second.1.named.lt fewVariables) same)
  obtain ⟨_, _, _, laps⟩ := Pattern.laps_steppedFor identified built small larger
  obtain ⟨_, _, _, laps'⟩ := Pattern.laps_steppedFor identified' built' small' larger'
  exact ⟨laps.leavesAlone different, laps'.leavesAlone fun same => different same.symm⟩

/-- A loop with a variable for its counter, from constant to constant by a constant step: it makes one pass for each
number before the end and completes, and it and the loops that are made later leave the counters of each other alone. -/
theorem Pattern.steppedFor_counts {c c' : Context} {loop : SteppedFor} {p : Program} {s e d : Int32}
    (identified : c.graph.Identified) (built : steppedFor c = (loop, c')) (small : c'.Small)
    (larger : c'.program.Extends p) (sealed : p.Seals loop) (starts : ∀ σ, p.Accepts σ loop.start (.int s))
    (stops : ∀ σ, p.Accepts σ loop.stop (.int e)) (steps : ∀ σ, p.Accepts σ loop.step (.int d))
    (up : s ≤ e → 0 < d) (down : e < s → d < 0)
    (fits : -2 ^ 31 ≤ e.toInt + d.toInt ∧ e.toInt + d.toInt < 2 ^ 31) :
    ∃ n : ℕ,
      (∀ k ≤ n, (SteppedFor.counterAt s d k).toInt = s.toInt + k * d.toInt ∧
        (SteppedFor.Before d.toInt e.toInt (s.toInt + k * d.toInt) ↔ k < n)) ∧
      p.CountsOff loop (SteppedFor.counterAt s d) n ∧
      ∀ c₁ c₂ other, c'.Later c₁ → c₁.graph.Identified → steppedFor c₁ = (other, c₂) → c₂.Small →
        c₂.program.Extends p → c₂.graph.vars.size ≤ 2 ^ 32 →
          p.LeavesAlone loop other.counter ∧ p.LeavesAlone other loop.counter := by
  obtain ⟨n, numbers⟩ := SteppedFor.exists_passes up down fits
  obtain ⟨_, _, _, laps⟩ := Pattern.laps_steppedFor identified built small larger
  have values := laps.countsBy starts stops steps up down numbers
  refine ⟨n, numbers, laps.countsOff values sealed fun σ => ?_, fun _ _ _ later identified' built' small' larger' =>
    Pattern.leavesAlone_steppedFor identified built small larger later identified' built' small' larger'⟩
  rw [SteppedFor.counterAt_zero]
  exact starts σ _ laps.initial

theorem Dict.mem_of_find? {α : Type} {d : Dict α} {key : String} {v : α} (found : d.find? key = some v) :
    (key, v) ∈ d.entries := by
  rw [Dict.find?] at found
  generalize d.entries = entries at found
  induction entries with
  | nil => cases found
  | cons entry entries ih =>
    rw [Dict.lookup] at found
    split at found
    · next same => exact List.mem_cons.2 (.inl (by rw [← same, ← Option.some.inj found]))
    · exact List.mem_cons_of_mem _ (ih found)

/-- Which flows lead to the test of a loop can be read off the nodes. -/
theorem Context.seals_of_nodes {c : Context} {loop : SteppedFor}
    (origins : ∀ n ∈ c.graph.nodes.toList, ∀ entry ∈ n.flowsOut.entries, ∀ b ∈ entry.2.targets,
      b.node = loop.loopBody.address.node → n.index = loop.flowIn.address.node ∨ n.index = loop.nextStep.address.node) :
    c.program.Seals loop := by
  intro a b leads test
  obtain ⟨n, found, target⟩ := Option.bind_eq_some_iff.1 leads
  obtain ⟨member, index⟩ := Graph.mem_of_node? found
  obtain ⟨output, flow, target⟩ := Option.bind_eq_some_iff.1 target
  rw [← index]
  exact origins n (by simpa using member) _ (Dict.mem_of_find? flow) b (List.mem_of_head? target) test

namespace Nesting

/-- A loop. -/
def outer : SteppedFor × Context := steppedFor {}

/-- Another loop in the same graph. -/
def inner : SteppedFor × Context := steppedFor outer.2

/-- The other loop becomes the body of the first, which counts up from 0 to 3 by 2; the other counts down from 5 to
1. -/
def wire : Build Unit := do
  setLiteral inner.1.start (.int 5)
  setLiteral inner.1.stop (.int 1)
  setLiteral inner.1.step (.int (-2))
  setLiteral outer.1.start (.int 0)
  setLiteral outer.1.stop (.int 3)
  setLiteral outer.1.step (.int 2)
  connectFlow inner.1.loopBody inner.1.nextStep
  connectFlow inner.1.completed outer.1.nextStep
  connectFlow outer.1.loopBody inner.1.flowIn

/-- The loops in one program. -/
def program : Program := (wire inner.2).2.program

theorem identified_empty : ({} : Context).graph.Identified := fun i n found => by simp at found

theorem plan_wire {start c : Context} {blanks idles : List SocketAddress} {holding : Program → Prop}
    (plan : Plan start (inner.1.start.sockets ++ (inner.1.stop.sockets ++ (inner.1.step.sockets ++
        (outer.1.start.sockets ++ (outer.1.stop.sockets ++ (outer.1.step.sockets ++ blanks))))))
      (inner.1.loopBody.address :: inner.1.completed.address :: outer.1.loopBody.address :: idles) holding c) :
    Ensures wire c fun _ c' => Plan start blanks idles holding c' := by
  refine (plan.setLiteral _ (.refl _)).bind fun _ _ plan => ?_
  refine (plan.setLiteral _ (.refl _)).bind fun _ _ plan => ?_
  refine (plan.setLiteral _ (.refl _)).bind fun _ _ plan => ?_
  refine (plan.setLiteral _ (.refl _)).bind fun _ _ plan => ?_
  refine (plan.setLiteral _ (.refl _)).bind fun _ _ plan => ?_
  refine (plan.setLiteral _ (.refl _)).bind fun _ _ plan => ?_
  refine (plan.connectFlow _ (.refl _)).bind fun _ _ plan => ?_
  refine (plan.connectFlow _ (.refl _)).bind fun _ _ plan => ?_
  refine (plan.connectFlow _ (.refl _)).mono fun _ _ plan => plan.mono fun q now => ?_
  exact now.2.2.2.2.2.2.2.2.2

/-- Both loops stand in the program as they were made. -/
theorem extends_program (small : (wire inner.2).2.Small) :
    outer.2.program.Extends program ∧ inner.2.program.Extends program ∧ outer.2.graph.Identified := by
  obtain ⟨_, _, _, first⟩ := (Plan.bare identified_empty).steppedFor
  obtain ⟨_, _, _, second⟩ := first.here.steppedFor
  have whole := plan_wire second
  have alone := plan_wire second.here
  exact ⟨(whole.sound small).2.now.2.larger, (alone.sound small).2.now.larger,
    (first.sound (whole.before.small small)).1⟩

/-- The first loop makes two passes, and the loop inside of it leaves its counter alone. -/
theorem counts_nested : program.CountsOff outer.1 (SteppedFor.counterAt 0 2) 2 ∧
    program.LeavesAlone inner.1 outer.1.counter ∧ program.LeavesAlone outer.1 inner.1.counter := by
  have small : (wire inner.2).2.Small := ⟨by decide +kernel, by decide +kernel⟩
  obtain ⟨larger, larger', identified⟩ := extends_program small
  have fed : (∀ a ∈ outer.1.start.sockets, program.feed? a = some (.constant (.int 0))) ∧
      (∀ a ∈ outer.1.stop.sockets, program.feed? a = some (.constant (.int 3))) ∧
      ∀ a ∈ outer.1.step.sockets, program.feed? a = some (.constant (.int 2)) := by decide +kernel
  obtain ⟨n, numbers, counts, others⟩ := Pattern.steppedFor_counts (s := 0) (e := 3) (d := 2) identified_empty
    (rfl : steppedFor {} = (outer.1, outer.2)) ⟨by decide +kernel, by decide +kernel⟩ larger
    (Context.seals_of_nodes (by decide +kernel))
    (fun _ a member => ⟨_, fed.1 a member, .constant _⟩) (fun _ a member => ⟨_, fed.2.1 a member, .constant _⟩)
    (fun _ a member => ⟨_, fed.2.2 a member, .constant _⟩) (by decide) (by decide) (by decide)
  have passes : n = 2 := by
    have before (k : ℕ) (within : k ≤ n) : 2 * (k : ℤ) < 3 ↔ k < n := by
      have next := (numbers k within).2
      rw [SteppedFor.Before, if_pos (by decide), show (3 : Int32).toInt = 3 from rfl,
        show (0 : Int32).toInt = 0 from rfl, show (2 : Int32).toInt = 2 from rfl] at next
      rwa [zero_add, mul_comm] at next
    have last := before n le_rfl
    rcases Nat.lt_or_ge n 2 with few | enough
    · omega
    · have second := before 2 enough
      omega
  subst passes
  obtain ⟨outward, inward⟩ := others outer.2 inner.2 inner.1 (.refl _) identified rfl
    ⟨by decide +kernel, by decide +kernel⟩ larger' (by decide +kernel)
  exact ⟨counts, inward, outward⟩

end Nesting

end ScriptGraph
