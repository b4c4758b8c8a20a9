import Mathlib
import ScriptGraph.Proofs.Construction.Names
import ScriptGraph.Proofs.Runtime.Builders
import ScriptGraph.Proofs.Runtime.Waiting

/-!
The patterns of waits resume once.
-/

namespace ScriptGraph

open Pattern Build

/-- The output of a tick chain that is handed out next. -/
def Pattern.TickChain.opening (t : TickChain) : SocketAddress :=
  match t.sequence with
  | none => ⟨t.event, "out"⟩
  | some sequence => ⟨sequence, toString t.nextOutput⟩

/-- A flag of a wait, under a name of its own. -/
def Pattern.waitFlag : Build Nat := do
  declareVariable (← uniqueName "WaitPending") (some (.bool false)) .bool

namespace Plan

variable {start c : Context} {blanks idles : List SocketAddress} {holding : Program → Prop}

theorem nextFlow {t : TickChain} (plan : Plan start blanks (t.opening :: idles) holding c) :
    Ensures t.nextFlow c fun taken c' => Plan start blanks (taken.1.address :: idles) holding c' := by
  obtain ⟨event, sequence?, next⟩ := t
  cases sequence? with
  | some sequence => exact plan
  | none =>
    refine .bind ?_ fun sequence _ plan => .pure plan
    refine (plan.createNode [] [toString next] (by simp)).bind fun sequence _ ⟨plan, _⟩ => ?_
    refine (plan.connectFlow (f := event.flowOut "out") (sequence.flowIn "in") (perm_front [_] _ _)).bind
      fun _ _ plan => .pure ?_
    exact plan.mono fun q ⟨_, _, old⟩ => old

theorem tickChain {tick : Option TickChain}
    (plan : Plan start blanks (tick.toList.map (·.opening) ++ idles) holding c) :
    Ensures (TickChain.getOrNew tick) c fun t c' => Plan start blanks (t.opening :: idles) holding c' := by
  cases tick with
  | some t => exact plan
  | none =>
    refine (plan.createNode [] ["out"] (by decide)).bind fun event _ ⟨plan, _⟩ => .pure ?_
    exact plan.mono fun q ⟨_, old⟩ => old

/-- The nodes of a wait for a condition. -/
theorem waitUntil {tick : Option TickChain}
    (plan : Plan start blanks (tick.toList.map (·.opening) ++ idles) holding c) :
    Ensures (Pattern.waitUntil tick) c fun result c' => ∃ n : WaitNodes,
      Plan start (result.1.condition.sockets ++ blanks) (result.1.flowOut.address :: idles)
        (fun q => q.Polls result.1 (.ofNat (waitFlag c).1) n true ∧ holding q) c' := by
  have named : Ensures (Build.uniqueName "WaitPending") c fun name c₁ =>
      Build.declareVariable name (some (.bool false)) .bool c₁ = waitFlag c ∧ Plan start blanks _ holding c₁ :=
    ⟨rfl, plan.uniqueName _⟩
  refine named.bind fun name c₁ ⟨same, plan⟩ => ?_
  have declared : Ensures (Build.declareVariable name (some (.bool false)) .bool) c₁ fun pending c₂ =>
      (pending, c₂) = waitFlag c ∧ Plan start blanks _ holding c₂ := ⟨same, plan.declareVariable ..⟩
  refine declared.bind fun pending c₂ ⟨same, plan⟩ => ?_
  rw [← same]
  refine (plan.setVariableStaticNode pending (.bool true)).bind fun arm _ plan => ?_
  refine (plan.createNode ["condition"] ["true", "false"] (by decide)).bind fun check _ ⟨plan, _⟩ => ?_
  refine (plan.connectFlow _ (perm_front [_, _] _ _)).bind fun _ _ plan => ?_
  refine (plan.setVariableStaticNode pending (.bool false)).bind fun disarm _ plan => ?_
  refine (plan.connectFlow (f := check.flowOut "true") _ (perm_front [_] _ _)).bind fun _ _ plan => ?_
  have plan : Plan start _ (tick.toList.map (·.opening) ++ (disarm.flowOut.address :: ⟨check, "false"⟩ :: idles)) _ _ :=
    plan.reorder (.refl _) (List.perm_append_comm_assoc _ [_, _] _)
  refine plan.tickChain.bind fun chain _ plan => ?_
  refine plan.nextFlow.bind fun taken _ plan => ?_
  refine (plan.createNode ["condition"] ["true", "false"] (by decide)).bind fun gate _ ⟨plan, _⟩ => ?_
  refine (plan.getVariable pending).bind fun isPending _ plan => ?_
  refine (plan.connect (t := gate.valueIn "condition") isPending (.refl _)).bind fun _ _ plan => ?_
  refine (plan.connectFlow (f := taken.1) (gate.flowIn "in") (perm_front [_, _] _ _)).bind fun _ _ plan => ?_
  refine (plan.connectFlow (f := gate.flowOut "true") (check.flowIn "in") (.refl _)).bind fun _ _ plan => .pure ?_
  refine ⟨⟨arm.node, check, disarm.node, gate⟩, ?_⟩
  have plan : Plan start (⟨check, "condition"⟩ :: blanks)
    (⟨gate, "false"⟩ :: disarm.flowOut.address :: ⟨check, "false"⟩ :: idles) _ _ := plan
  have plan := plan.apart (a := ⟨check, "condition"⟩) (b := ⟨gate, "condition"⟩) ?_ ?_
  · refine (plan.drop ⟨_, .refl _, .refl _⟩ ⟨_, .cons _ (.cons_cons _ (.cons _ (.refl _))), .refl _⟩).mono
      fun q ⟨different, again, _, gateFed, reads, gateStands, passes, ⟨disarmFeeds, disarmWrites⟩, begins, checkStands,
        ⟨armFeeds, armWrites⟩, old⟩ => ⟨?_, old⟩
    rw [armWrites.value] at armFeeds
    rw [disarmWrites.value] at disarmFeeds
    have raised : q.feed? ⟨arm.node, "value"⟩ = some (.constant (.bool true)) := armFeeds ⟨arm.node, "value"⟩ (by simp)
    have lowered : q.feed? ⟨disarm.node, "value"⟩ = some (.constant (.bool false)) :=
      disarmFeeds ⟨disarm.node, "value"⟩ (by simp)
    have apart : arm.node ≠ disarm.node := fun same => by simp [same, lowered] at raised
    exact
      { entry := armWrites.flowIn
        exit := disarmWrites.flowOut
        apart := ⟨apart, fun same : check = gate => different (by rw [same])⟩
        arms := armWrites.stands.op
        raises := ⟨armWrites.parameter, raised⟩
        begins := by rwa [armWrites.flowOut] at begins
        checks := checkStands.op
        decides := fun σ b accepts => by simpa using accepts ⟨check, "condition"⟩ (by simp)
        passes := by rwa [disarmWrites.flowIn] at passes
        disarms := disarmWrites.stands.op
        lowers := ⟨disarmWrites.parameter, lowered⟩
        gates := gateStands.op
        opens := fun σ => Program.Feeds.takes gateFed (reads σ)
        again }
  · exact fun q _ => List.mem_cons_self
  · rintro q ⟨_, _, gateFed, _⟩
    simp [gateFed ⟨gate, "condition"⟩ (by simp)]

/-- The nodes of a wait as long as a condition holds. -/
theorem waitWhile {tick : Option TickChain}
    (plan : Plan start blanks (tick.toList.map (·.opening) ++ idles) holding c) :
    Ensures (Pattern.waitWhile tick) c fun result c' => ∃ n : WaitNodes,
      Plan start (result.1.condition.sockets ++ blanks) (result.1.flowOut.address :: idles)
        (fun q => q.Polls result.1 (.ofNat (waitFlag c).1) n false ∧ holding q) c' := by
  refine plan.waitUntil.bind fun (wait, chain) _ ⟨n, plan⟩ => ?_
  refine (plan.createNode ["a"] [] (by decide)).bind fun negation _ ⟨plan, _⟩ => ?_
  refine (plan.connect (t := wait.condition) (negation.valueOut "value")
    (List.perm_append_comm_assoc _ [_] _)).bind fun _ _ plan => .pure ⟨n, ?_⟩
  refine plan.mono fun q ⟨fed, stands, polls, old⟩ => ⟨{ polls with decides := fun σ b accepts => ?_ }, old⟩
  have negated : q.Gives σ (.output ⟨negation, "value"⟩) (.bool !b) :=
    .unary stands.real stands.op rfl (accepts ⟨negation, "a"⟩ (by simp)) rfl
  simpa using polls.decides σ _ (Program.Feeds.accepts fed negated)

end Plan

/-- A wait is one as well where more flows lead on. -/
theorem Program.Polls.leading {p : Program} {next? : SocketAddress → Option SocketAddress} {wait : Wait} {flag : Int32}
    {n : WaitNodes} {awaited : Bool} (polls : Polls { p with next? } wait flag n awaited)
    (larger : ∀ a b, next? a = some b → p.next? a = some b) : p.Polls wait flag n awaited where
  entry := polls.entry
  exit := polls.exit
  apart := polls.apart
  arms := polls.arms
  raises := polls.raises
  begins := larger _ _ polls.begins
  checks := polls.checks
  decides σ b accepts :=
    Program.takes_next.1 (polls.decides σ b fun a member => Program.takes_next.2 (accepts a member))
  passes := larger _ _ polls.passes
  disarms := polls.disarms
  lowers := polls.lowers
  gates := polls.gates
  opens σ := Program.takes_next.1 (polls.opens σ)
  again := larger _ _ polls.again

namespace Pattern

variable {c c' d d' : Context} {tick tick' : Option TickChain} {wait wait' : Wait × TickChain} {p : Program}

section Nodes

variable (identified : c.graph.Identified)
  (opening : ∀ t, tick = some t → c.program.op? t.opening.node ≠ none ∧ c.program.next? t.opening = none)

include identified opening

theorem plan_beforeWait : Plan c [] (tick.toList.map (·.opening) ++ [])
    (fun q => c.program.Within q (tick.toList.map (·.opening) ++ [])) c := by
  refine .begin (fun _ => identified) (by simp) (fun _ a member => ?_) .nil ?_
  · obtain ⟨t, same, rfl⟩ : ∃ t, tick = some t ∧ t.opening = a := by simpa using member
    exact opening t same
  · cases tick <;> simp

/-- A wait for a condition, in a program that its graph has grown into. -/
theorem polls_waitUntil (built : waitUntil tick c = (wait, c')) (small : c'.Small) (larger : c'.program.Extends p) :
    ∃ n, p.Polls wait.1 (.ofNat (waitFlag c).1) n true := by
  have plan := (plan_beforeWait identified opening).waitUntil
  rw [Ensures, built] at plan
  obtain ⟨n, plan⟩ := plan
  exact ⟨n, ((plan.sound small).2.ofExtends larger).1.leading larger.next⟩

/-- A wait as long as a condition holds, in a program that its graph has grown into. -/
theorem polls_waitWhile (built : waitWhile tick c = (wait, c')) (small : c'.Small) (larger : c'.program.Extends p) :
    ∃ n, p.Polls wait.1 (.ofNat (waitFlag c).1) n false := by
  have plan := (plan_beforeWait identified opening).waitWhile
  rw [Ensures, built] at plan
  obtain ⟨n, plan⟩ := plan
  exact ⟨n, ((plan.sound small).2.ofExtends larger).1.leading larger.next⟩

end Nodes

/-- The flag of a wait is its own among the flags of waits. -/
theorem owns_waitFlag (c : Context) :
    (waitFlag c).2.Owns "WaitPending" (c.number "WaitPending") (waitFlag c).1 ∧ c.Later (waitFlag c).2 :=
  owns_declareUnique c "WaitPending" (some (.bool false)) .bool

/-- Waits that are made one after the other have different flags. -/
theorem waitFlag_ne (later : (waitFlag c).2.Later d) : (waitFlag c).1 ≠ (waitFlag d).1 := by
  have first := (owns_waitFlag c).1
  refine (first.later (later.trans (owns_waitFlag d).2)).ne (owns_waitFlag d).1 (Nat.ne_of_lt ?_)
  exact Nat.lt_of_lt_of_le first.given (later.numbers _)

/-- Where a variable has the name of a flag already, the flag is that variable. -/
theorem waitFlag_of_taken {id : Nat} (taken : c.variableId? (uniqueName "WaitPending" c).1 = some id) :
    (waitFlag c).1 = id := by
  have taken : (uniqueName "WaitPending" c).2.variableId? (uniqueName "WaitPending" c).1 = some id := taken
  change (declareVariable (uniqueName "WaitPending" c).1 _ _ (uniqueName "WaitPending" c).2).1 = id
  simp only [declareVariable, modifyGet, MonadStateOf.modifyGet, StateT.modifyGet, taken]
  rfl

end Pattern

end ScriptGraph
