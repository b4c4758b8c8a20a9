import Mathlib
import ScriptGraph.Proofs.Runtime.Machine

/-!
What a run does outside of a few nodes.

The jobs that wait while another one is done are few in kind, and none of them belongs to a write or to a branch. So
a region of such nodes, which flows enter by some of them only, is left alone until one of its entrances
is entered, however the run goes on elsewhere.
-/

namespace ScriptGraph

namespace Program

variable {p : Program} {j : Job} {js : List Job} {σ : Store} {m m' : Moment} {t : List (Job × Store)}

/-- The job may wait for others to be done. -/
def Waits (p : Program) : Job → Prop
  | .enter a => p.op? a.node = some .flowWhile
  | .leave a => p.Open a
  | .ports node _ => p.op? node = some .flowSequence
  | .counting node _ => p.op? node = some .flowFor

/-- Whatever waits in a moment may wait. A sequence and a counting loop are worked off by nodes of their kind. -/
def Orderly (p : Program) : List Job → Prop
  | [] => True
  | .ports node numbers :: js => p.Waits (.ports node numbers) ∧ ∀ j ∈ js, p.Waits j
  | .counting node i :: js => p.Waits (.counting node i) ∧ ∀ j ∈ js, p.Waits j
  | _ :: js => ∀ j ∈ js, p.Waits j

theorem Orderly.tail (orderly : p.Orderly (j :: js)) : ∀ i ∈ js, p.Waits i := by
  cases j with
  | enter | leave => exact orderly
  | ports | counting => exact orderly.2

theorem orderly_of_waits (waits : ∀ i ∈ js, p.Waits i) : p.Orderly js := by
  cases js with
  | nil => trivial
  | cons j js =>
    obtain ⟨first, others⟩ := List.forall_mem_cons.1 waits
    cases j with
    | enter | leave => exact others
    | ports | counting => exact ⟨first, others⟩

theorem Step.orderly (step : p.Step m m') (orderly : p.Orderly m.jobs) : p.Orderly m'.jobs := by
  cases step with
  | onward | set | branch | switch | ended => exact Orderly.tail orderly
  | nowhere | done => exact orderly_of_waits (Orderly.tail orderly)
  | sequence op | loop op => exact ⟨op, Orderly.tail orderly⟩
  | port | pass => exact List.forall_mem_cons.2 orderly
  | completed => exact orderly.2
  | again op => exact List.forall_mem_cons.2 ⟨op, orderly⟩

theorem orderly_leaves {outs : List SocketAddress} (sets : ∀ b ∈ outs, p.Open b) (waits : ∀ i ∈ js, p.Waits i) :
    p.Orderly (outs.map .leave ++ js) := by
  refine orderly_of_waits fun i member => ?_
  rcases List.mem_append.1 member with new | old
  · obtain ⟨b, listed, rfl⟩ := List.mem_map.1 new
    exact sets b listed
  · exact waits i old

/-- A run leaves waiting only what may wait. -/
theorem Trace.orderly (trace : p.Trace m t m') (orderly : p.Orderly m.jobs) : p.Orderly m'.jobs := by
  induction trace with
  | stop => exact orderly
  | perform step _ ih => exact ih (step.orderly orderly)
  | act _ sets _ ih => exact ih (orderly_leaves sets (Orderly.tail orderly))
  | wake _ _ ih => exact ih (by simp [Orderly])
  | drift _ _ ih => exact ih orderly

/-- Only a write changes a variable. -/
theorem Step.vars (step : p.Step ⟨j :: js, σ⟩ m') (id : Int32)
    (other : ∀ a, j = .enter a → p.op? a.node = some .variableSet →
      p.parameter? a.node "variable" ≠ some (.int id)) : m'.store.vars id = σ.vars id := by
  cases step with
  | set op parameter =>
    refine Function.update_of_ne ?_ ..
    rintro rfl
    exact other _ rfl op parameter
  | _ => rfl

theorem step_leave {a : SocketAddress} (step : p.Step ⟨.leave a :: js, σ⟩ m') :
    m' = ⟨(Task.follow (p.next? a)).jobs ++ js, σ⟩ := by
  cases step with
  | onward leads => rw [leads]; rfl
  | nowhere ends => rw [ends]; rfl

theorem step_set {a : SocketAddress} {id : Int32} {value : Literal} (sets : p.op? a.node = some .variableSet)
    (parameter : p.parameter? a.node "variable" = some (.int id)) (takes : p.Takes σ ⟨a.node, "value"⟩ value)
    (step : p.Step ⟨.enter a :: js, σ⟩ m') : m' = ⟨.leave ⟨a.node, "out"⟩ :: js, σ.write id value⟩ := by
  cases step with
  | set _ parameter' takes' =>
    obtain rfl := takes.unique takes'
    obtain rfl := ConfigValue.int.inj (Option.some.inj (parameter.symm.trans parameter'))
    rfl
  | _ => simp_all

theorem step_branch {a : SocketAddress} {condition : Bool} (branches : p.op? a.node = some .flowBranch)
    (takes : p.Takes σ ⟨a.node, "condition"⟩ (.bool condition)) (step : p.Step ⟨.enter a :: js, σ⟩ m') :
    m' = ⟨.leave ⟨a.node, if condition then "true" else "false"⟩ :: js, σ⟩ := by
  cases step with
  | branch _ takes' =>
    obtain rfl := Literal.bool.inj (takes.unique takes')
    rfl
  | _ => simp_all

end Program

/-- A few nodes, some of which flows enter from elsewhere. -/
structure Region where
  inner : List NodeId
  entrances : List NodeId

namespace Region

/-- The nodes of a region. -/
def nodes (r : Region) : List NodeId := r.inner ++ r.entrances

/-- The job belongs to a region: a flow is on its way between the nodes, or out of them. -/
def Holds (r : Region) : Job → Prop
  | .enter a => a.node ∈ r.inner
  | .leave a => a.node ∈ r.nodes
  | .ports node _ | .counting node _ => node ∈ r.nodes

/-- Nothing of what is next belongs to the region. -/
def Outside (r : Region) (jobs : List Job) : Prop := ∀ j ∈ jobs.head?, ¬ r.Holds j

variable {r : Region}

theorem outside_nil : r.Outside [] := by simp [Outside]

theorem outside_cons {j : Job} {js : List Job} : r.Outside (j :: js) ↔ ¬ r.Holds j := by simp [Outside]

end Region

namespace Program

variable {p : Program} {r : Region} {j : Job} {js : List Job} {σ : Store} {m m' : Moment}

/-- The nodes of a region are writes and branches, and flows from elsewhere come in by the entrances only. -/
structure Encloses (p : Program) (r : Region) : Prop where
  kinds : ∀ node ∈ r.nodes, p.op? node = some .variableSet ∨ p.op? node = some .flowBranch
  closed : ∀ a b, p.next? a = some b → b.node ∈ r.inner → a.node ∈ r.nodes

variable (encloses : p.Encloses r)

include encloses

/-- A run that leaves an open node is outside. -/
theorem Encloses.outside_of_open {a : SocketAddress} (opens : p.Open a) : r.Outside (.leave a :: js) := by
  obtain ⟨kind, op, other⟩ := opens
  refine Region.outside_cons.2 fun holds => ?_
  rcases encloses.kinds a.node holds with set | branch
  · obtain rfl := Option.some.inj (op.symm.trans set)
    cases other
  · obtain rfl := Option.some.inj (op.symm.trans branch)
    cases other

/-- What may wait is no job of the region. -/
theorem Encloses.outside_of_waits (waits : ∀ i ∈ js, p.Waits i) : r.Outside js := by
  cases js with
  | nil => exact Region.outside_nil
  | cons j js =>
    have first := (List.forall_mem_cons.1 waits).1
    cases j with
    | leave a => exact encloses.outside_of_open first
    | enter a =>
      refine Region.outside_cons.2 fun holds => ?_
      have while' : p.op? a.node = some .flowWhile := first
      rcases encloses.kinds a.node (List.mem_append_left _ holds) with kind | kind <;> simp [while'] at kind
    | ports node =>
      refine Region.outside_cons.2 fun holds => ?_
      have sequence : p.op? node = some .flowSequence := first
      rcases encloses.kinds node holds with kind | kind <;> simp [sequence] at kind
    | counting node =>
      refine Region.outside_cons.2 fun holds => ?_
      have loop : p.op? node = some .flowFor := first
      rcases encloses.kinds node holds with kind | kind <;> simp [loop] at kind

/-- Outside of a region a run stays outside, until it enters. -/
theorem Encloses.outside_of_step (orderly : p.Orderly (j :: js)) (outside : ¬ r.Holds j)
    (elsewhere : ∀ a, j = .enter a → a.node ∉ r.entrances) (step : p.Step ⟨j :: js, σ⟩ m') : r.Outside m'.jobs := by
  have apart {node : NodeId} (entered : ∃ a, j = .enter a ∧ a.node = node) : node ∉ r.nodes := by
    obtain ⟨a, rfl, rfl⟩ := entered
    exact fun member => (List.mem_append.1 member).elim outside (elsewhere a rfl)
  cases step with
  | onward leads => exact Region.outside_cons.2 fun holds => outside (encloses.closed _ _ leads holds)
  | nowhere | done => exact encloses.outside_of_waits orderly.tail
  | set | branch | switch | ended | sequence | loop | again => exact Region.outside_cons.2 (apart ⟨_, rfl, rfl⟩)
  | port | pass | completed => exact Region.outside_cons.2 outside

theorem Encloses.outside_of_leaves {outs : List SocketAddress} (orderly : p.Orderly (j :: js))
    (sets : ∀ b ∈ outs, p.Open b) : r.Outside (outs.map .leave ++ js) := by
  cases outs with
  | nil => exact encloses.outside_of_waits orderly.tail
  | cons b outs => exact encloses.outside_of_open (sets b (by simp))

end Program

end ScriptGraph
