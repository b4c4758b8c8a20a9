import ScriptGraph.Proofs.Runtime.Builders
import ScriptGraph.Proofs.Runtime.Regions

/-!
Loops with a variable for their counter, run step by step.

What happens to such a loop in a run is a list of events: it is started, it sets off its body, it is asked for the
next pass, it completes. When the surroundings start it once and ask for a pass only after the body was set off,
with the counter as it was, the list is determined, whatever else the run does in between.
-/

namespace ScriptGraph

open Pattern

/-- What happens to a loop, with the value of its counter. -/
inductive LapEvent where
  | started
  /-- The body is set off. -/
  | body (counter : Literal)
  /-- The next pass is asked for. -/
  | stepped (counter : Literal)
  | completed (counter : Literal)
deriving DecidableEq

namespace LapEvent

/-- A loop is started once. The next pass is asked for when the body was set off last, and the counter has the value that
it had then. -/
def Allows (last next : LapEvent) : Prop := next ≠ started ∧ ∀ v, next = stepped v → last = body v

/-- So many passes from a number on, and the end. -/
def course (value : ℕ → Int32) (first passes : ℕ) : List LapEvent :=
  (List.range' first passes).flatMap (fun k => [body (.int (value k)), stepped (.int (value k))]) ++
    [completed (.int (value (first + passes)))]

theorem course_zero (value : ℕ → Int32) (k : ℕ) : course value k 0 = [completed (.int (value k))] := rfl

theorem course_succ (value : ℕ → Int32) (k passes : ℕ) :
    course value k (passes + 1) =
      body (.int (value k)) :: stepped (.int (value k)) :: course value (k + 1) passes := by
  simp [course, List.range'_succ, Nat.add_assoc, Nat.add_comm 1 passes]

end LapEvent

/-- The event of a job that is taken up. -/
def Pattern.SteppedFor.event? (loop : SteppedFor) (taken : Job × Store) : Option LapEvent :=
  let counter := taken.2.vars (.ofNat loop.counter)
  match taken.1 with
  | .enter a =>
    if a.node = loop.flowIn.address.node then some .started
    else if a.node = loop.nextStep.address.node then some (.stepped counter)
    else none
  | .leave a =>
    if a = loop.loopBody.address then some (.body counter)
    else if a = loop.completed.address then some (.completed counter)
    else none
  | .ports .. | .counting .. => none

namespace Program

variable {p : Program} {loop : SteppedFor} {set branch advance : NodeId} {j : Job} {js : List Job} {σ : Store}
  {m m' : Moment}

/-- Only the writes of a loop lead to its test. -/
def Seals (p : Program) (loop : SteppedFor) : Prop :=
  ∀ a b, p.next? a = some b → b.node = loop.loopBody.address.node →
    a.node = loop.flowIn.address.node ∨ a.node = loop.nextStep.address.node

/-- The nodes of a loop: flows enter by the writes. -/
def lapNodes (set branch advance : NodeId) : Region := ⟨[branch], [set, advance]⟩

/-- A run is between an entrance of a loop and the next exit, and the counter has a value. -/
structure Underway (set branch advance : NodeId) (loop : SteppedFor) (goes : Int32 → Bool) (i : Int32) (m : Moment) :
    Prop where
  counts : m.store.vars (.ofNat loop.counter) = .int i
  next : m.jobs.head? = some (.leave ⟨set, "out"⟩) ∨ m.jobs.head? = some (.leave ⟨advance, "out"⟩) ∨
    m.jobs.head? = some (.enter ⟨branch, "in"⟩) ∨
    m.jobs.head? = some (.leave ⟨branch, if goes i then "true" else "false"⟩)

/-- How far a loop has come after its last event, and the events that are still to come. -/
inductive Turn (set branch advance : NodeId) (loop : SteppedFor) (goes : Int32 → Bool) (value : ℕ → Int32) (n : ℕ) :
    LapEvent → Moment → List LapEvent → Prop
  | underway {last : LapEvent} {m : Moment} {k : ℕ} (within : k ≤ n)
      (underway : Underway set branch advance loop goes (value k) m) :
      Turn set branch advance loop goes value n last m (LapEvent.course value k (n - k))
  | away {m : Moment} {k : ℕ} (below : k < n) (outside : (lapNodes set branch advance).Outside m.jobs) :
      Turn set branch advance loop goes value n (.body (.int (value k))) m
        (.stepped (.int (value k)) :: LapEvent.course value (k + 1) (n - (k + 1)))
  | finished {v : Literal} {m : Moment} (outside : (lapNodes set branch advance).Outside m.jobs) :
      Turn set branch advance loop goes value n (.completed v) m []

/-- The values that a counter has while a loop makes `n` passes. -/
structure CountsBy (p : Program) (loop : SteppedFor) (branch advance : NodeId) (goes : Int32 → Bool) (value : ℕ → Int32)
    (n : ℕ) : Prop where
  tests : ∀ {σ : Store} {k : ℕ}, k ≤ n → σ.vars (.ofNat loop.counter) = .int (value k) →
    p.Takes σ ⟨branch, "condition"⟩ (.bool (goes (value k)))
  goes : ∀ k ≤ n, goes (value k) = decide (k < n)
  step : ∀ {σ : Store} {k : ℕ}, k < n → σ.vars (.ofNat loop.counter) = .int (value k) →
    p.Takes σ ⟨advance, "value"⟩ (.int (value (k + 1)))

/-- Away from the nodes of a loop, its turn stays what it is. -/
theorem Turn.elsewhere {goes : Int32 → Bool} {value : ℕ → Int32} {n : ℕ} {last : LapEvent} {ahead : List LapEvent}
    (turn : Turn set branch advance loop goes value n last m ahead)
    (apart : ∀ i, ¬ Underway set branch advance loop goes i m)
    (outside : (lapNodes set branch advance).Outside m'.jobs) :
    Turn set branch advance loop goes value n last m' ahead := by
  cases turn with
  | underway _ underway => exact absurd underway (apart _)
  | away below _ => exact .away below outside
  | finished _ => exact .finished outside

namespace Laps

variable (laps : p.Laps loop set branch advance)

include laps

theorem branch_ne : branch ≠ set ∧ branch ≠ advance := by
  constructor <;> rintro rfl
  · cases laps.branches.symm.trans laps.sets
  · cases laps.branches.symm.trans laps.advances

theorem sealed_iff : p.Seals loop ↔
    ∀ a b, p.next? a = some b → b.node = branch → a.node = set ∨ a.node = advance := by
  rw [Seals, laps.loopBody, laps.entry, laps.next]
  rfl

theorem encloses (sealed : p.Seals loop) : p.Encloses (lapNodes set branch advance) where
  kinds node member := by
    rcases List.mem_cons.1 member with rfl | member
    · exact .inr laps.branches
    rcases List.mem_cons.1 member with rfl | member
    · exact .inl laps.sets
    obtain rfl := List.mem_singleton.1 member
    exact .inl laps.advances
  closed a b leads inner := by
    have origin := laps.sealed_iff.1 sealed a b leads (List.mem_singleton.1 inner)
    rcases origin with same | same <;> simp [Region.nodes, lapNodes, same]

/-- What leaves the test leaves the loop. -/
theorem outside_of_leave (sealed : p.Seals loop) {socket : String} (waits : ∀ i ∈ js, p.Waits i) :
    (lapNodes set branch advance).Outside ((Task.follow (p.next? ⟨branch, socket⟩)).jobs ++ js) := by
  cases leads : p.next? ⟨branch, socket⟩ with
  | none => exact (laps.encloses sealed).outside_of_waits waits
  | some b =>
    refine Region.outside_cons.2 fun holds => ?_
    exact (laps.sealed_iff.1 sealed _ b leads (List.mem_singleton.1 holds)).elim laps.branch_ne.1 laps.branch_ne.2

section Events

variable (σ)

theorem event?_enter (a : SocketAddress) : loop.event? (.enter a, σ) =
    if a.node = set then some .started
    else if a.node = advance then some (.stepped (σ.vars (.ofNat loop.counter))) else none := by
  rw [SteppedFor.event?, laps.entry, laps.next]
  rfl

theorem event?_leave (a : SocketAddress) : loop.event? (.leave a, σ) =
    if a = ⟨branch, "true"⟩ then some (.body (σ.vars (.ofNat loop.counter)))
    else if a = ⟨branch, "false"⟩ then some (.completed (σ.vars (.ofNat loop.counter))) else none := by
  rw [SteppedFor.event?, laps.loopBody, laps.completed]
  rfl

theorem event?_start : loop.event? (.enter loop.flowIn.address, σ) = some .started := by
  rw [laps.entry, laps.event?_enter]
  exact if_pos rfl

theorem event?_next :
    loop.event? (.enter loop.nextStep.address, σ) = some (.stepped (σ.vars (.ofNat loop.counter))) := by
  rw [laps.next, laps.event?_enter]
  exact (if_neg laps.different).trans (if_pos rfl)

/-- A job outside of a loop is no event of it, unless it enters the loop. -/
theorem event?_outside (outside : ¬ (lapNodes set branch advance).Holds j)
    (elsewhere : ∀ a, j = .enter a → a.node ∉ (lapNodes set branch advance).entrances) :
    loop.event? (j, σ) = none := by
  cases j with
  | enter a =>
    have elsewhere := elsewhere a rfl
    simp only [lapNodes, List.mem_cons, List.not_mem_nil, or_false, not_or] at elsewhere
    rw [laps.event?_enter, if_neg elsewhere.1, if_neg elsewhere.2]
  | leave a =>
    have apart : a.node ≠ branch := fun same => outside (by simp [Region.Holds, Region.nodes, lapNodes, same])
    rw [laps.event?_leave, if_neg fun same => apart (by rw [same]), if_neg fun same => apart (by rw [same])]
  | ports | counting => rfl

end Events

variable {goes : Int32 → Bool} {value : ℕ → Int32} {n : ℕ} {s e d : Int32}

/-- Inside of a loop, the next job leads on to the next exit, or leaves by it. -/
theorem step_underway {i : Int32} (sealed : p.Seals loop)
    (tests : ∀ {σ : Store}, σ.vars (.ofNat loop.counter) = .int i →
      p.Takes σ ⟨branch, "condition"⟩ (.bool (goes i)))
    (underway : Underway set branch advance loop goes i ⟨j :: js, σ⟩) (waits : ∀ i ∈ js, p.Waits i)
    (step : p.Step ⟨j :: js, σ⟩ m') :
    (loop.event? (j, σ) = none ∧ Underway set branch advance loop goes i m') ∨
      (loop.event? (j, σ) = some (if goes i then .body (.int i) else .completed (.int i)) ∧
        (lapNodes set branch advance).Outside m'.jobs) := by
  obtain ⟨counts, next⟩ := underway
  simp only [List.head?_cons, Option.some.injEq] at next
  have apart := laps.branch_ne
  rcases next with rfl | rfl | rfl | rfl
  · obtain rfl := step_leave step
    refine .inl ⟨?_, counts, ?_⟩
    · rw [laps.event?_leave]
      simp [apart.1.symm]
    · simp [laps.leads, Task.jobs]
  · obtain rfl := step_leave step
    refine .inl ⟨?_, counts, ?_⟩
    · rw [laps.event?_leave]
      simp [apart.2.symm]
    · simp [laps.again, Task.jobs]
  · obtain rfl := step_branch laps.branches (tests counts) step
    refine .inl ⟨?_, counts, by simp⟩
    rw [laps.event?_enter]
    simp [apart.1, apart.2]
  · obtain rfl := step_leave step
    refine .inr ⟨?_, laps.outside_of_leave sealed waits⟩
    rw [laps.event?_leave, counts]
    cases goes i <;> simp

/-- One job of a run takes a loop one event further, or leaves it where it is. -/
theorem step_turn (sealed : p.Seals loop) (values : p.CountsBy loop branch advance goes value n) {last : LapEvent}
    {ahead : List LapEvent} (turn : Turn set branch advance loop goes value n last ⟨j :: js, σ⟩ ahead)
    (orderly : p.Orderly (j :: js)) (step : p.Step ⟨j :: js, σ⟩ m')
    (allows : ∀ e, loop.event? (j, σ) = some e → last.Allows e) :
    ∃ ahead', ahead = (loop.event? (j, σ)).toList ++ ahead' ∧
      Turn set branch advance loop goes value n ((loop.event? (j, σ)).getD last) m' ahead' := by
  have encloses := laps.encloses sealed
  cases turn with
  | @underway _ _ k within underway =>
    rcases laps.step_underway sealed (values.tests within) underway orderly.tail step with ⟨none, next⟩ | ⟨event, outside⟩
    · rw [none]
      exact ⟨_, rfl, .underway within next⟩
    · rw [event, values.goes k within]
      by_cases below : k < n
      · obtain ⟨passes, rest⟩ : ∃ passes, n - k = passes + 1 := ⟨n - (k + 1), by omega⟩
        rw [rest, LapEvent.course_succ, show passes = n - (k + 1) by omega]
        simp only [below, decide_true, if_true]
        exact ⟨_, rfl, .away below outside⟩
      · obtain rfl : k = n := by omega
        rw [Nat.sub_self, LapEvent.course_zero]
        simp only [below, decide_false]
        exact ⟨_, rfl, .finished outside⟩
  | @away _ k below outside =>
    have outside := Region.outside_cons.1 outside
    by_cases entered : ∃ a, j = .enter a ∧ a.node ∈ (lapNodes set branch advance).entrances
    · obtain ⟨a, rfl, member⟩ := entered
      rw [laps.event?_enter] at allows ⊢
      by_cases start : a.node = set
      · rw [if_pos start] at allows
        exact absurd rfl (allows _ rfl).1
      · have next : a.node = advance := by simpa [lapNodes, start] using member
        rw [if_neg start, if_pos next] at allows ⊢
        have counts : σ.vars (.ofNat loop.counter) = .int (value k) :=
          (LapEvent.body.inj ((allows _ rfl).2 _ rfl)).symm
        have takes := values.step below counts
        rw [← next] at takes
        obtain rfl := step_set (next ▸ laps.advances) (next ▸ laps.advanced) takes step
        rw [counts]
        exact ⟨_, rfl, .underway below ⟨by simp, by simp [next]⟩⟩
    · have elsewhere (a : SocketAddress) (same : j = .enter a) :
          a.node ∉ (lapNodes set branch advance).entrances := fun member => entered ⟨a, same, member⟩
      rw [laps.event?_outside σ outside elsewhere]
      exact ⟨_, rfl, .away below (encloses.outside_of_step orderly outside elsewhere step)⟩
  | finished outside =>
    have outside := Region.outside_cons.1 outside
    have elsewhere (a : SocketAddress) (same : j = .enter a) :
        a.node ∉ (lapNodes set branch advance).entrances := by
      subst same
      rw [laps.event?_enter] at allows
      intro member
      by_cases start : a.node = set
      · rw [if_pos start] at allows
        exact (allows _ rfl).1 rfl
      · have next : a.node = advance := by simpa [lapNodes, start] using member
        rw [if_neg start, if_pos next] at allows
        cases (allows _ rfl).2 _ rfl
    rw [laps.event?_outside σ outside elsewhere]
    exact ⟨_, rfl, .finished (encloses.outside_of_step orderly outside elsewhere step)⟩

/-- A run takes a loop from event to event. -/
theorem trace_turn (sealed : p.Seals loop) (values : p.CountsBy loop branch advance goes value n)
    {t : List (Job × Store)} (trace : p.Trace m t m') {last : LapEvent} {ahead : List LapEvent}
    (orderly : p.Orderly m.jobs) (turn : Turn set branch advance loop goes value n last m ahead)
    (alone : (last :: t.filterMap loop.event?).IsChain LapEvent.Allows) :
    ∃ last' ahead', (last :: t.filterMap loop.event?).getLast? = some last' ∧ ahead = t.filterMap loop.event? ++ ahead' ∧
      Turn set branch advance loop goes value n last' m' ahead' := by
  have encloses := laps.encloses sealed
  have control {a : SocketAddress} (acts : p.Open a) : a.node ∉ (lapNodes set branch advance).nodes := by
    intro member
    obtain ⟨kind, op, other⟩ := acts
    rcases encloses.kinds a.node member with kind | kind <;>
      obtain rfl := Option.some.inj (op.symm.trans kind) <;> cases other
  induction trace generalizing last ahead with
  | stop => exact ⟨last, ahead, rfl, rfl, turn⟩
  | @perform j _ σ _ _ t step _ ih =>
    rw [List.filterMap_cons] at alone ⊢
    have turned := laps.step_turn sealed values turn orderly step
    cases event : loop.event? (j, σ) with
    | none =>
      rw [event] at turned alone
      obtain ⟨_, rfl, next⟩ := turned nofun
      exact ih (step.orderly orderly) next alone
    | some e =>
      rw [event] at turned alone
      obtain ⟨allowed, alone⟩ := List.isChain_cons_cons.1 alone
      obtain ⟨_, rfl, next⟩ := turned fun _ same => Option.some.inj same ▸ allowed
      obtain ⟨last', ahead', final, rfl, after⟩ := ih (step.orderly orderly) next alone
      exact ⟨last', ahead', by rw [List.getLast?_cons_cons]; exact final, rfl, after⟩
  | @act a _ _ σ _ t acts sets _ ih =>
    have apart := control acts
    have outside : ¬ (lapNodes set branch advance).Holds (.enter a) := fun holds =>
      apart (List.mem_append_left _ holds)
    have none : loop.event? (.enter a, σ) = none := by
      refine laps.event?_outside σ outside fun b same => ?_
      obtain rfl := Job.enter.inj same
      exact fun member => apart (List.mem_append_right _ member)
    rw [List.filterMap_cons, none] at alone ⊢
    refine ih (orderly_leaves sets orderly.tail) (turn.elsewhere (fun i underway => ?_)
      (encloses.outside_of_leaves orderly sets)) alone
    rcases underway.next with next | next | next | next <;> simp at next
    exact outside (by rw [next]; exact List.mem_cons_self)
  | wake event _ ih =>
    refine ih (by simp [Orderly]) (turn.elsewhere (fun i underway => ?_) ?_) alone
    · rcases underway.next with next | next | next | next <;> simp at next
    · exact encloses.outside_of_open event
  | drift world _ ih =>
    refine ih orderly ?_ alone
    cases turn with
    | underway within underway => exact .underway within ⟨underway.counts, underway.next⟩
    | away below outside => exact .away below outside
    | finished outside => exact .finished outside

end Laps

end Program

end ScriptGraph
