import Mathlib
import ScriptGraph.Proofs.Construction.Names
import ScriptGraph.Proofs.Runtime.Builders
import ScriptGraph.Proofs.Runtime.Regions

/-!
Waits, run step by step.

A wait is entered from two sides: by the flow that is to rest, and by a gate behind the tick event, which a flag opens.
From either side a check follows at once. As long as nothing else writes the flag, a wait goes from one round to
the next: it is armed, its check fails some number of times, it holds, and control goes on. Whatever else the run does
in between, and however often the gate is entered, no wait goes on that was not armed.
-/

namespace ScriptGraph

open Pattern

/-- What happens to a wait. -/
inductive WaitEvent where
  /-- A flow enters the wait. -/
  | armed
  /-- The condition is evaluated; it is as awaited or not. -/
  | tested (holds : Bool)
  /-- Control goes on behind the wait. -/
  | resumed
deriving DecidableEq

/-- How far a wait has come. -/
inductive WaitPhase where
  /-- It is not going on. -/
  | idle
  /-- It was entered, and its check is next. -/
  | due
  /-- Its check has failed so far. -/
  | pending
  /-- Its check has held, and control is about to go on. -/
  | passing
deriving DecidableEq

/-- What may happen to a wait in a phase, and the phase after it. -/
def WaitPhase.next? : WaitPhase → WaitEvent → Option WaitPhase
  | idle, .armed | pending, .armed => some due
  | due, .tested false | pending, .tested false => some pending
  | due, .tested true | pending, .tested true => some passing
  | passing, .resumed => some idle
  | _, _ => none

/-- The phase after what happens, if all of it may happen. -/
def WaitPhase.after? (phase : WaitPhase) (events : List WaitEvent) : Option WaitPhase := events.foldlM next? phase

theorem WaitPhase.after?_append (phase : WaitPhase) (events events' : List WaitEvent) :
    phase.after? (events ++ events') = (phase.after? events).bind (·.after? events') := by
  simp [after?, List.foldlM_append]

/-- A round of a wait: it is armed, its check fails some number of times, it holds, and control goes on. -/
def WaitEvent.round (failures : ℕ) : List WaitEvent :=
  .armed :: (List.replicate failures (.tested false) ++ [.tested true, .resumed])

/-- What has happened in a round that has come to a phase. -/
def WaitPhase.Begun : WaitPhase → List WaitEvent → Prop
  | idle, events => events = []
  | due, events => events = [.armed]
  | pending, events => ∃ failures, events = .armed :: List.replicate (failures + 1) (.tested false)
  | passing, events => ∃ failures, events = .armed :: (List.replicate failures (.tested false) ++ [.tested true])

/-- If a wait is not armed while it is going on, it goes from round to round. -/
theorem WaitPhase.exists_rounds {events : List WaitEvent} {phase : WaitPhase} (may : idle.after? events = some phase)
    (alone : events.IsChain fun last next => next = .armed → last = .resumed) :
    ∃ (rounds : List ℕ) (begun : List WaitEvent),
      events = rounds.flatMap WaitEvent.round ++ begun ∧ phase.Begun begun := by
  induction events using List.reverseRecOn generalizing phase with
  | nil =>
    obtain rfl := Option.some.inj may
    exact ⟨[], [], rfl, rfl⟩
  | append_singleton events e ih =>
    rw [after?_append] at may
    obtain ⟨before, earlier, next⟩ := Option.bind_eq_some_iff.1 may
    have next : before.next? e = some phase := by simpa [after?] using next
    obtain ⟨alone, _, fresh⟩ := List.isChain_append.1 alone
    obtain ⟨rounds, begun, rfl, shape⟩ := ih earlier alone
    match before, e, next with
    | idle, .armed, rfl =>
      obtain rfl := shape
      exact ⟨rounds, [.armed], by simp, rfl⟩
    | pending, .armed, rfl =>
      -- The last event was a check that failed.
      obtain ⟨failures, rfl⟩ := shape
      rw [List.replicate_succ', ← List.cons_append, ← List.append_assoc, List.getLast?_concat] at fresh
      cases fresh _ rfl _ rfl rfl
    | due, .tested false, rfl =>
      obtain rfl := shape
      exact ⟨rounds, [.armed, .tested false], by simp, 0, rfl⟩
    | pending, .tested false, rfl =>
      obtain ⟨failures, rfl⟩ := shape
      exact ⟨rounds, _, List.append_assoc .., failures + 1, by rw [List.replicate_succ' (n := failures + 1)]; rfl⟩
    | due, .tested true, rfl =>
      obtain rfl := shape
      exact ⟨rounds, [.armed, .tested true], by simp, 0, rfl⟩
    | pending, .tested true, rfl =>
      obtain ⟨failures, rfl⟩ := shape
      exact ⟨rounds, _, List.append_assoc .., failures + 1, rfl⟩
    | passing, .resumed, rfl =>
      obtain ⟨failures, rfl⟩ := shape
      exact ⟨rounds ++ [failures], [], by simp [WaitEvent.round], rfl⟩

/-- The nodes of a wait. -/
structure WaitNodes where
  /-- Sets the flag. -/
  arm : NodeId
  /-- Evaluates the condition. -/
  check : NodeId
  /-- Takes the flag down. -/
  disarm : NodeId
  /-- Lets the tick pass while the flag is set. -/
  gate : NodeId

namespace WaitNodes

/-- Flows enter a wait by the write that sets the flag and by the gate. -/
def region (n : WaitNodes) : Region := ⟨[n.check, n.disarm], [n.arm, n.gate]⟩

/-- The event of a job that is taken up, given what the condition is in a state and what is awaited. -/
def event? (n : WaitNodes) (condition : Store → Bool) (awaited : Bool) (taken : Job × Store) : Option WaitEvent :=
  match taken.1 with
  | .enter a =>
    if a.node = n.arm then some .armed
    else if a.node = n.check then some (.tested (condition taken.2 == awaited)) else none
  | .leave a => if a = ⟨n.disarm, "out"⟩ then some .resumed else none
  | .ports .. | .counting .. => none

end WaitNodes

namespace Program

/-- A wait: a flow that enters sets a flag, and a gate that the flag opens leads to the same check. From there control
goes on, when the condition is as awaited, by way of a write that takes the flag down. -/
structure Polls (p : Program) (wait : Wait) (flag : Int32) (n : WaitNodes) (awaited : Bool) : Prop where
  entry : wait.flowIn = n.arm.flowIn "in"
  exit : wait.flowOut = n.disarm.flowOut "out"
  apart : n.arm ≠ n.disarm ∧ n.check ≠ n.gate
  arms : p.op? n.arm = some .variableSet
  raises : p.parameter? n.arm "variable" = some (.int flag) ∧ p.feed? ⟨n.arm, "value"⟩ = some (.constant (.bool true))
  begins : p.next? ⟨n.arm, "out"⟩ = some ⟨n.check, "in"⟩
  checks : p.op? n.check = some .flowBranch
  decides : ∀ σ b, p.Accepts σ wait.condition (.bool b) → p.Takes σ ⟨n.check, "condition"⟩ (.bool (b == awaited))
  passes : p.next? ⟨n.check, "true"⟩ = some ⟨n.disarm, "in"⟩
  disarms : p.op? n.disarm = some .variableSet
  lowers : p.parameter? n.disarm "variable" = some (.int flag) ∧
    p.feed? ⟨n.disarm, "value"⟩ = some (.constant (.bool false))
  gates : p.op? n.gate = some .flowBranch
  opens : ∀ σ, p.Takes σ ⟨n.gate, "condition"⟩ (σ.vars flag)
  again : p.next? ⟨n.gate, "true"⟩ = some ⟨n.check, "in"⟩

/-- Flows come to the check of a wait from the wait itself only, and only the wait writes its flag. -/
structure Isolates (p : Program) (flag : Int32) (n : WaitNodes) : Prop where
  toCheck : ∀ a b, p.next? a = some b → b.node = n.check → a = ⟨n.arm, "out"⟩ ∨ a = ⟨n.gate, "true"⟩
  toDisarm : ∀ a b, p.next? a = some b → b.node = n.disarm → a = ⟨n.check, "true"⟩
  writes : ∀ node, p.op? node = some .variableSet → p.parameter? node "variable" = some (.int flag) →
    node = n.arm ∨ node = n.disarm

/-- How far a run has come with a wait in a phase: the flag is as it should be, and the next job belongs to the wait
only where the phase says so. -/
inductive Rests (flag : Int32) (n : WaitNodes) : WaitPhase → Moment → Prop
  | idle {m : Moment} (down : m.store.vars flag = .bool false)
      (next : n.region.Outside m.jobs ∨ m.jobs.head? = some (.leave ⟨n.gate, "false"⟩)) : Rests flag n .idle m
  | due {m : Moment} (up : m.store.vars flag = .bool true)
      (next : m.jobs.head? = some (.leave ⟨n.arm, "out"⟩) ∨ m.jobs.head? = some (.enter ⟨n.check, "in"⟩)) :
      Rests flag n .due m
  | pending {m : Moment} (up : m.store.vars flag = .bool true)
      (next : n.region.Outside m.jobs ∨ m.jobs.head? = some (.leave ⟨n.gate, "true"⟩) ∨
        m.jobs.head? = some (.enter ⟨n.check, "in"⟩) ∨ m.jobs.head? = some (.leave ⟨n.check, "false"⟩)) :
      Rests flag n .pending m
  | passing {m : Moment} (up : m.store.vars flag = .bool true)
      (next : m.jobs.head? = some (.leave ⟨n.check, "true"⟩) ∨ m.jobs.head? = some (.enter ⟨n.disarm, "in"⟩)) :
      Rests flag n .passing m
  | passed {m : Moment} (down : m.store.vars flag = .bool false)
      (next : m.jobs.head? = some (.leave ⟨n.disarm, "out"⟩)) : Rests flag n .passing m

/-- Away from the nodes of a wait, its phase stays what it is. -/
theorem Rests.elsewhere {flag : Int32} {n : WaitNodes} {phase : WaitPhase} {m m' : Moment}
    (rests : Rests flag n phase m) (outside : n.region.Outside m.jobs) (same : m'.store.vars flag = m.store.vars flag)
    (outside' : n.region.Outside m'.jobs) : Rests flag n phase m' := by
  have apart {j : Job} (next : m.jobs.head? = some j) : ¬ n.region.Holds j := outside j next
  cases rests with
  | idle down _ => exact .idle (same.trans down) (.inl outside')
  | pending up _ => exact .pending (same.trans up) (.inl outside')
  | due _ next =>
    rcases next with next | next <;> exact absurd (by simp [Region.Holds, Region.nodes, WaitNodes.region]) (apart next)
  | passing _ next =>
    rcases next with next | next <;> exact absurd (by simp [Region.Holds, Region.nodes, WaitNodes.region]) (apart next)
  | passed _ next => exact absurd (by simp [Region.Holds, Region.nodes, WaitNodes.region]) (apart next)

namespace Polls

variable {p : Program} {wait : Wait} {flag : Int32} {n : WaitNodes} {awaited : Bool} {j : Job} {js : List Job}
  {σ : Store} {m m' : Moment} {t : List (Job × Store)} {condition : Store → Bool} {phase : WaitPhase}
  (polls : p.Polls wait flag n awaited) (isolates : p.Isolates flag n)

include polls

/-- The nodes of a wait are different ones. -/
theorem distinct : n.arm ≠ n.check ∧ n.arm ≠ n.gate ∧ n.check ≠ n.disarm ∧ n.disarm ≠ n.gate := by
  refine ⟨fun same => ?_, fun same => ?_, fun same => ?_, fun same => ?_⟩
  · cases (same ▸ polls.arms).symm.trans polls.checks
  · cases (same ▸ polls.arms).symm.trans polls.gates
  · cases (same ▸ polls.checks).symm.trans polls.disarms
  · cases (same ▸ polls.disarms).symm.trans polls.gates

include isolates

theorem encloses : p.Encloses n.region where
  kinds node member := by
    obtain rfl | rfl | rfl | rfl : node = n.check ∨ node = n.disarm ∨ node = n.arm ∨ node = n.gate := by
      simpa [Region.nodes, WaitNodes.region] using member
    · exact .inr polls.checks
    · exact .inl polls.disarms
    · exact .inl polls.arms
    · exact .inr polls.gates
  closed a b leads inner := by
    obtain here | here : b.node = n.check ∨ b.node = n.disarm := by simpa [WaitNodes.region] using inner
    · rcases isolates.toCheck a b leads here with rfl | rfl <;> simp [Region.nodes, WaitNodes.region]
    · rw [isolates.toDisarm a b leads here]
      simp [Region.nodes, WaitNodes.region]

/-- What leaves a wait by an output that does not lead on inside of it is outside. -/
theorem outside_of_leave {a : SocketAddress} (begins : a ≠ ⟨n.arm, "out"⟩) (again : a ≠ ⟨n.gate, "true"⟩)
    (passes : a ≠ ⟨n.check, "true"⟩) (waits : ∀ i ∈ js, p.Waits i) :
    n.region.Outside ((Task.follow (p.next? a)).jobs ++ js) := by
  cases leads : p.next? a with
  | none => exact (polls.encloses isolates).outside_of_waits waits
  | some b =>
    refine Region.outside_cons.2 fun holds => ?_
    obtain here | here : b.node = n.check ∨ b.node = n.disarm := by
      simpa [Region.Holds, WaitNodes.region] using holds
    · exact (isolates.toCheck a b leads here).elim begins again
    · exact passes (isolates.toDisarm a b leads here)

/-- The flag of a wait is a truth value; elsewhere, a job arms the wait, or leaves the flag as it is and may open the
gate. -/
theorem step_outside (condition : Store → Bool) (awaited : Bool) {b : Bool} (flagged : σ.vars flag = .bool b)
    (outside : ¬ n.region.Holds j) (orderly : p.Orderly (j :: js)) (step : p.Step ⟨j :: js, σ⟩ m') :
    (n.event? condition awaited (j, σ) = some .armed ∧ m'.store.vars flag = .bool true ∧
        m'.jobs.head? = some (.leave ⟨n.arm, "out"⟩)) ∨
      (n.event? condition awaited (j, σ) = none ∧ m'.store.vars flag = .bool b ∧
        (n.region.Outside m'.jobs ∨ m'.jobs.head? = some (.leave ⟨n.gate, if b then "true" else "false"⟩))) := by
  by_cases entered : ∃ a, j = .enter a ∧ a.node ∈ n.region.entrances
  · obtain ⟨a, rfl, member⟩ := entered
    obtain here | here : a.node = n.arm ∨ a.node = n.gate := by simpa [WaitNodes.region] using member
    · have takes : p.Takes σ ⟨a.node, "value"⟩ (.bool true) := ⟨_, here ▸ polls.raises.2, .constant _⟩
      obtain rfl := step_set (here ▸ polls.arms) (here ▸ polls.raises.1) takes step
      exact .inl ⟨by simp [WaitNodes.event?, here], by simp, by simp [here]⟩
    · have takes : p.Takes σ ⟨a.node, "condition"⟩ (.bool b) := by
        rw [here, ← flagged]
        exact polls.opens σ
      obtain rfl := step_branch (here ▸ polls.gates) takes step
      refine .inr ⟨?_, flagged, .inr (by simp [here])⟩
      simp [WaitNodes.event?, here, polls.distinct.2.1.symm, polls.apart.2.symm]
  · have elsewhere (a : SocketAddress) (same : j = .enter a) : a.node ∉ n.region.entrances :=
      fun member => entered ⟨a, same, member⟩
    refine .inr ⟨?_, ?_, .inl ((polls.encloses isolates).outside_of_step orderly outside elsewhere step)⟩
    · cases j with
      | enter a =>
        have elsewhere := elsewhere a rfl
        simp only [WaitNodes.region, Region.Holds, List.mem_cons, List.not_mem_nil, or_false, not_or]
          at elsewhere outside
        simp [WaitNodes.event?, elsewhere.1, outside.1]
      | leave a =>
        have apart : a ≠ ⟨n.disarm, "out"⟩ := by
          rintro rfl
          exact outside (by simp [Region.Holds, Region.nodes, WaitNodes.region])
        simp [WaitNodes.event?, apart]
      | ports | counting => rfl
    · rw [step.vars flag fun a same writes parameter => ?_, flagged]
      subst same
      rcases isolates.writes a.node writes parameter with here | here
      · exact elsewhere a rfl (by simp [WaitNodes.region, here])
      · exact outside (by simp [Region.Holds, WaitNodes.region, here])

/-- One job of a run takes a wait from phase to phase. -/
theorem step_rests (rests : Rests flag n phase ⟨j :: js, σ⟩) (orderly : p.Orderly (j :: js))
    (step : p.Step ⟨j :: js, σ⟩ m') (accepts : p.Accepts σ wait.condition (.bool (condition σ))) :
    ∃ phase', phase.after? (n.event? condition awaited (j, σ)).toList = some phase' ∧ Rests flag n phase' m' := by
  obtain ⟨armCheck, armGate, checkDisarm, disarmGate⟩ := polls.distinct
  have waits := orderly.tail
  -- The check is taken up in two phases, and ends the round in both of them if it holds.
  have tested (up : σ.vars flag = .bool true) (due : phase = .due ∨ phase = .pending)
      (entered : p.Step ⟨.enter ⟨n.check, "in"⟩ :: js, σ⟩ m') :
      ∃ phase', phase.after? (n.event? condition awaited (.enter ⟨n.check, "in"⟩, σ)).toList = some phase' ∧
        Rests flag n phase' m' := by
    obtain rfl := step_branch polls.checks (polls.decides σ _ accepts) entered
    have event : n.event? condition awaited (.enter ⟨n.check, "in"⟩, σ) =
        some (.tested (condition σ == awaited)) := by simp [WaitNodes.event?, armCheck.symm]
    rw [event]
    cases condition σ == awaited with
    | true => exact ⟨.passing, by rcases due with rfl | rfl <;> rfl, .passing up (by simp)⟩
    | false => exact ⟨.pending, by rcases due with rfl | rfl <;> rfl, .pending up (by simp)⟩
  cases rests with
  | idle down next =>
    rcases next with outside | next
    · rcases polls.step_outside isolates condition awaited down
        (Region.outside_cons.1 outside) orderly step with ⟨event, up, next⟩ | ⟨event, down, next⟩
      · exact ⟨.due, by rw [event]; rfl, .due up (.inl next)⟩
      · exact ⟨.idle, by rw [event]; rfl, .idle down next⟩
    · obtain rfl : j = .leave ⟨n.gate, "false"⟩ := by simpa using next
      obtain rfl := step_leave step
      refine ⟨.idle, by simp [WaitNodes.event?, disarmGate.symm, WaitPhase.after?], .idle down (.inl ?_)⟩
      exact polls.outside_of_leave isolates (by simp) (by simp) (by simp) waits
  | due up next =>
    rcases next with next | next
    · obtain rfl : j = .leave ⟨n.arm, "out"⟩ := by simpa using next
      obtain rfl := step_leave step
      exact ⟨.due, by simp [WaitNodes.event?, polls.apart.1, WaitPhase.after?],
        .due up (by simp [polls.begins, Task.jobs])⟩
    · obtain rfl : j = .enter ⟨n.check, "in"⟩ := by simpa using next
      exact tested up (.inl rfl) step
  | pending up next =>
    rcases next with outside | next | next | next
    · rcases polls.step_outside isolates condition awaited up
        (Region.outside_cons.1 outside) orderly step with ⟨event, up, next⟩ | ⟨event, up, next⟩
      · exact ⟨.due, by rw [event]; rfl, .due up (.inl next)⟩
      · exact ⟨.pending, by rw [event]; rfl, .pending up (next.imp_right .inl)⟩
    · obtain rfl : j = .leave ⟨n.gate, "true"⟩ := by simpa using next
      obtain rfl := step_leave step
      refine ⟨.pending, by simp [WaitNodes.event?, WaitPhase.after?], .pending up ?_⟩
      simp [polls.again, Task.jobs]
    · obtain rfl : j = .enter ⟨n.check, "in"⟩ := by simpa using next
      exact tested up (.inr rfl) step
    · obtain rfl : j = .leave ⟨n.check, "false"⟩ := by simpa using next
      obtain rfl := step_leave step
      refine ⟨.pending, by simp [WaitNodes.event?, WaitPhase.after?], .pending up (.inl ?_)⟩
      exact polls.outside_of_leave isolates (by simp) (by simp) (by simp) waits
  | passing up next =>
    rcases next with next | next
    · obtain rfl : j = .leave ⟨n.check, "true"⟩ := by simpa using next
      obtain rfl := step_leave step
      refine ⟨.passing, by simp [WaitNodes.event?, WaitPhase.after?], .passing up ?_⟩
      simp [polls.passes, Task.jobs]
    · obtain rfl : j = .enter ⟨n.disarm, "in"⟩ := by simpa using next
      obtain rfl := step_set polls.disarms polls.lowers.1 ⟨_, polls.lowers.2, .constant _⟩ step
      refine ⟨.passing, ?_, .passed (by simp) (by simp)⟩
      simp [WaitNodes.event?, polls.apart.1.symm, checkDisarm.symm, WaitPhase.after?]
  | passed down next =>
    obtain rfl : j = .leave ⟨n.disarm, "out"⟩ := by simpa using next
    obtain rfl := step_leave step
    refine ⟨.idle, by simp [WaitNodes.event?, WaitPhase.after?, WaitPhase.next?], .idle down (.inl ?_)⟩
    exact polls.outside_of_leave isolates (by simp [polls.apart.1.symm]) (by simp) (by simp) waits

/-- A run takes a wait from phase to phase. -/
theorem trace_rests (trace : p.Trace m t m') (orderly : p.Orderly m.jobs) (rests : Rests flag n phase m)
    (accepts : ∀ taken ∈ t, p.Accepts taken.2 wait.condition (.bool (condition taken.2))) :
    ∃ phase', phase.after? (t.filterMap (n.event? condition awaited)) = some phase' ∧ Rests flag n phase' m' := by
  have encloses := polls.encloses isolates
  induction trace generalizing phase with
  | stop => exact ⟨phase, rfl, rests⟩
  | @perform j _ σ _ _ t step _ ih =>
    obtain ⟨accepted, others⟩ := List.forall_mem_cons.1 accepts
    obtain ⟨middle, first, rests⟩ := polls.step_rests isolates rests orderly step accepted
    obtain ⟨last, second, rests⟩ := ih (step.orderly orderly) rests others
    refine ⟨last, ?_, rests⟩
    have split : ((j, σ) :: t).filterMap (n.event? condition awaited) =
        (n.event? condition awaited (j, σ)).toList ++ t.filterMap (n.event? condition awaited) := by
      rw [List.filterMap_cons]
      cases n.event? condition awaited (j, σ) <;> rfl
    rw [split, WaitPhase.after?_append, first, Option.bind_some, second]
  | @act a _ _ σ _ t acts sets _ ih =>
    obtain ⟨_, others⟩ := List.forall_mem_cons.1 accepts
    -- A node that is left open is none of the wait.
    have apart : a.node ∉ n.region.nodes := by
      intro member
      obtain ⟨kind, op, other⟩ := acts
      rcases encloses.kinds a.node member with kind | kind <;>
        obtain rfl := Option.some.inj (op.symm.trans kind) <;> cases other
    have none : n.event? condition awaited (.enter a, σ) = none := by
      simp only [Region.nodes, WaitNodes.region, List.mem_append, List.mem_cons, List.not_mem_nil, or_false, not_or]
        at apart
      simp [WaitNodes.event?, apart.1.1, apart.2.1]
    rw [List.filterMap_cons, none]
    exact ih (orderly_leaves sets orderly.tail) (rests.elsewhere
      (Region.outside_cons.2 fun holds => apart (List.mem_append_left _ holds)) rfl
      (encloses.outside_of_leaves orderly sets)) others
  | wake event _ ih =>
    exact ih (by simp [Orderly]) (rests.elsewhere Region.outside_nil rfl (encloses.outside_of_open event)) accepts
  | drift world _ ih =>
    refine ih orderly ?_ accepts
    cases rests with
    | idle down next => exact .idle down next
    | due up next => exact .due up next
    | pending up next => exact .pending up next
    | passing up next => exact .passing up next
    | passed down next => exact .passed down next

/-- A wait that is not armed while it is going on goes from round to round, and its flag is set from the time it is
armed until its check holds. -/
theorem resumes_once (trace : p.Trace m t m') (orderly : p.Orderly m.jobs) (outside : n.region.Outside m.jobs)
    (down : m.store.vars flag = .bool false)
    (accepts : ∀ taken ∈ t, p.Accepts taken.2 wait.condition (.bool (condition taken.2)))
    (alone : (t.filterMap (n.event? condition awaited)).IsChain fun last next => next = .armed → last = .resumed) :
    ∃ (phase : WaitPhase) (rounds : List ℕ) (begun : List WaitEvent),
      t.filterMap (n.event? condition awaited) = rounds.flatMap WaitEvent.round ++ begun ∧ phase.Begun begun ∧
        Rests flag n phase m' := by
  obtain ⟨phase, may, rests⟩ := polls.trace_rests isolates trace orderly (.idle down (.inl outside)) accepts
  obtain ⟨rounds, begun, events, shape⟩ := WaitPhase.exists_rounds may alone
  exact ⟨phase, rounds, begun, events, shape, rests⟩

/-- A wait that was not armed does not go on. -/
theorem not_resumed (trace : p.Trace m t m') (orderly : p.Orderly m.jobs) (outside : n.region.Outside m.jobs)
    (down : m.store.vars flag = .bool false)
    (accepts : ∀ taken ∈ t, p.Accepts taken.2 wait.condition (.bool (condition taken.2)))
    (unarmed : .armed ∉ t.filterMap (n.event? condition awaited)) :
    .resumed ∉ t.filterMap (n.event? condition awaited) := by
  obtain ⟨phase, may, _⟩ := polls.trace_rests isolates trace orderly (.idle down (.inl outside)) accepts
  generalize t.filterMap (n.event? condition awaited) = events at *
  cases events with
  | nil => simp
  | cons e events =>
    -- Nothing but an entry may come first.
    have next : WaitPhase.next? .idle e ≠ none := fun stuck => by simp [WaitPhase.after?, stuck] at may
    cases e with
    | armed => exact absurd List.mem_cons_self unarmed
    | tested | resumed => exact absurd rfl next

omit isolates

/-- A check that fails is the end of the flow that it is on. -/
theorem trace_failed (accepts : p.Accepts σ wait.condition (.bool (condition σ)))
    (fails : (condition σ == awaited) = false) :
    ∃ t, p.Trace ⟨.enter ⟨n.check, "in"⟩ :: js, σ⟩ t ⟨(Task.follow (p.next? ⟨n.check, "false"⟩)).jobs ++ js, σ⟩ ∧
      t.filterMap (n.event? condition awaited) = [.tested false] := by
  have tested := polls.decides σ _ accepts
  rw [fails] at tested
  refine ⟨_, .perform (.branch polls.checks tested) (.single step_of_leave), ?_⟩
  simp [WaitNodes.event?, polls.distinct.1.symm, fails]

/-- A check that holds takes the flag down and lets control go on. -/
theorem trace_held (accepts : p.Accepts σ wait.condition (.bool (condition σ)))
    (holds : (condition σ == awaited) = true) :
    ∃ t, p.Trace ⟨.enter ⟨n.check, "in"⟩ :: js, σ⟩ t
        ⟨(Task.follow (p.next? wait.flowOut.address)).jobs ++ js, σ.write flag (.bool false)⟩ ∧
      t.filterMap (n.event? condition awaited) = [.tested true, .resumed] := by
  have tested := polls.decides σ _ accepts
  rw [holds] at tested
  have lowered : p.Step ⟨.enter ⟨n.disarm, "in"⟩ :: js, σ⟩
      ⟨.leave ⟨n.disarm, "out"⟩ :: js, σ.write flag (.bool false)⟩ :=
    .set polls.disarms polls.lowers.1 ⟨_, polls.lowers.2, .constant _⟩
  have left : p.Step ⟨.leave ⟨n.disarm, "out"⟩ :: js, σ.write flag (.bool false)⟩
      ⟨(Task.follow (p.next? wait.flowOut.address)).jobs ++ js, σ.write flag (.bool false)⟩ := by
    rw [polls.exit]
    exact step_of_leave
  refine ⟨_, .perform (.branch polls.checks tested)
    (.perform (.onward polls.passes) (.perform lowered (.single left))), ?_⟩
  simp [WaitNodes.event?, polls.distinct.1.symm, polls.apart.1.symm, polls.distinct.2.2.1.symm, holds]

/-- From its entry, a wait comes to its check with the flag set. -/
theorem trace_entry : ∃ t, p.Trace ⟨.enter wait.flowIn.address :: js, σ⟩ t
    ⟨.enter ⟨n.check, "in"⟩ :: js, σ.write flag (.bool true)⟩ ∧
      t.filterMap (n.event? condition awaited) = [.armed] := by
  have raised : p.Step ⟨.enter ⟨n.arm, "in"⟩ :: js, σ⟩ ⟨.leave ⟨n.arm, "out"⟩ :: js, σ.write flag (.bool true)⟩ :=
    .set polls.arms polls.raises.1 ⟨_, polls.raises.2, .constant _⟩
  rw [polls.entry]
  refine ⟨_, .perform raised (.single (.onward polls.begins)), ?_⟩
  have entered : n.event? condition awaited (.enter (n.arm.flowIn "in").address, σ) = some .armed := if_pos rfl
  rw [List.filterMap_cons, entered]
  simp [WaitNodes.event?, polls.apart.1]

/-- From the gate, a wait comes to its check if the flag is set, whoever has set it. -/
theorem trace_gate (up : σ.vars flag = .bool true) : ∃ t, p.Trace ⟨.enter ⟨n.gate, "in"⟩ :: js, σ⟩ t
    ⟨.enter ⟨n.check, "in"⟩ :: js, σ⟩ ∧ t.filterMap (n.event? condition awaited) = [] := by
  have opened : p.Takes σ ⟨n.gate, "condition"⟩ (.bool true) := up ▸ polls.opens σ
  refine ⟨_, .perform (.branch polls.gates opened) (.single (.onward polls.again)), ?_⟩
  simp [WaitNodes.event?, polls.distinct.2.1.symm, polls.apart.2.symm]

end Polls

end Program

end ScriptGraph
