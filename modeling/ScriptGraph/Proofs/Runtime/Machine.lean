import Mathlib.Logic.Relation
import ScriptGraph.Proofs.Runtime.Program

/-!
A graph that runs step by step, in a world that moves.

`Program.Runs` says where a flow comes to rest. Here the same flows are taken one job at a time, so that one can say
what a run has done before it ends, or while it never ends. Nodes that act on the world are left open, and so are the
events that set a resting graph off again: they may let any flow leave them, and the world may change at any
time. None of this writes a variable.

`runs_iff_steps` says that both accounts agree on flows that do not leave the graph.
-/

namespace ScriptGraph

/-- What a running graph has to do. -/
inductive Job where
  /-- A flow enters a node. -/
  | enter (a : SocketAddress)
  /-- A flow leaves a node. -/
  | leave (a : SocketAddress)
  /-- The outputs of a sequence that have not run yet. -/
  | ports (node : NodeId) (numbers : List Nat)
  /-- A counting loop before the pass with the given number. -/
  | counting (node : NodeId) (i : Int32)

/-- A running graph between two jobs; the first one is next. -/
structure Moment where
  jobs : List Job
  store : Store

/-- Operations that hand control on by a rule of their own. -/
def Op.isControl (op : Op) : Bool :=
  op = .variableSet || op = .flowBranch || op = .flowSequence || op = .flowSwitch || op = .flowFor || op = .flowWhile

namespace Program

/-- The first job is done. -/
inductive Step (p : Program) : Moment → Moment → Prop
  | onward {a b : SocketAddress} {js : List Job} {σ : Store} (leads : p.next? a = some b) :
      Step p ⟨.leave a :: js, σ⟩ ⟨.enter b :: js, σ⟩
  | nowhere {a : SocketAddress} {js : List Job} {σ : Store} (ends : p.next? a = none) :
      Step p ⟨.leave a :: js, σ⟩ ⟨js, σ⟩
  | set {a : SocketAddress} {id : Int32} {value : Literal} {js : List Job} {σ : Store}
      (op : p.op? a.node = some .variableSet)
      (parameter : p.parameter? a.node "variable" = some (.int id))
      (takes : p.Takes σ ⟨a.node, "value"⟩ value) :
      Step p ⟨.enter a :: js, σ⟩ ⟨.leave ⟨a.node, "out"⟩ :: js, σ.write id value⟩
  | branch {a : SocketAddress} {condition : Bool} {js : List Job} {σ : Store}
      (op : p.op? a.node = some .flowBranch)
      (takes : p.Takes σ ⟨a.node, "condition"⟩ (.bool condition)) :
      Step p ⟨.enter a :: js, σ⟩ ⟨.leave ⟨a.node, if condition then "true" else "false"⟩ :: js, σ⟩
  | sequence {a : SocketAddress} {numbers : List Nat} {js : List Job} {σ : Store}
      (op : p.op? a.node = some .flowSequence) (ascending : numbers.Pairwise (· < ·))
      (all : ∀ k, k ∈ numbers ↔ p.next? ⟨a.node, toString k⟩ ≠ none) :
      Step p ⟨.enter a :: js, σ⟩ ⟨.ports a.node numbers :: js, σ⟩
  | done {node : NodeId} {js : List Job} {σ : Store} : Step p ⟨.ports node [] :: js, σ⟩ ⟨js, σ⟩
  | port {node : NodeId} {k : Nat} {numbers : List Nat} {js : List Job} {σ : Store} :
      Step p ⟨.ports node (k :: numbers) :: js, σ⟩ ⟨.leave ⟨node, toString k⟩ :: .ports node numbers :: js, σ⟩
  | switch {a : SocketAddress} {cases : List Int32} {k : Int32} {js : List Job} {σ : Store}
      (op : p.op? a.node = some .flowSwitch)
      (parameter : p.parameter? a.node "cases" = some (.intList cases))
      (takes : p.Takes σ ⟨a.node, "selection"⟩ (.int k)) :
      Step p ⟨.enter a :: js, σ⟩ ⟨.leave ⟨a.node, chosenSocket cases k⟩ :: js, σ⟩
  | loop {a : SocketAddress} {i : Int32} {js : List Job} {σ : Store} (op : p.op? a.node = some .flowFor)
      (takes : p.Takes σ ⟨a.node, "startIndex"⟩ (.int i)) :
      Step p ⟨.enter a :: js, σ⟩ ⟨.counting a.node i :: js, σ⟩
  | pass {node : NodeId} {i stop : Int32} {js : List Job} {σ : Store}
      (takes : p.Takes σ ⟨node, "endIndex"⟩ (.int stop)) (below : i < stop) :
      Step p ⟨.counting node i :: js, σ⟩
        ⟨.leave ⟨node, "loopBody"⟩ :: .counting node (i + 1) :: js, σ.count node i⟩
  | completed {node : NodeId} {i stop : Int32} {js : List Job} {σ : Store}
      (takes : p.Takes σ ⟨node, "endIndex"⟩ (.int stop)) (reached : ¬ i < stop) :
      Step p ⟨.counting node i :: js, σ⟩ ⟨.leave ⟨node, "completed"⟩ :: js, σ.count node i⟩
  | again {a : SocketAddress} {js : List Job} {σ : Store} (op : p.op? a.node = some .flowWhile)
      (takes : p.Takes σ ⟨a.node, "condition"⟩ (.bool true)) :
      Step p ⟨.enter a :: js, σ⟩ ⟨.leave ⟨a.node, "loopBody"⟩ :: .enter a :: js, σ⟩
  | ended {a : SocketAddress} {js : List Job} {σ : Store} (op : p.op? a.node = some .flowWhile)
      (takes : p.Takes σ ⟨a.node, "condition"⟩ (.bool false)) :
      Step p ⟨.enter a :: js, σ⟩ ⟨.leave ⟨a.node, "completed"⟩ :: js, σ⟩

/-- The address is one of a node whose doing is left open. -/
def Open (p : Program) (a : SocketAddress) : Prop := ∃ kind, p.op? a.node = some kind ∧ kind.isControl = false

/-- What a run does from one moment to another: its jobs, each with the state in which it is taken up. -/
inductive Trace (p : Program) : Moment → List (Job × Store) → Moment → Prop
  | stop (m : Moment) : Trace p m [] m
  | perform {j : Job} {js : List Job} {σ : Store} {m m' : Moment} {t : List (Job × Store)}
      (step : p.Step ⟨j :: js, σ⟩ m) (rest : Trace p m t m') : Trace p ⟨j :: js, σ⟩ ((j, σ) :: t) m'
  | act {a : SocketAddress} {outs : List SocketAddress} {js : List Job} {σ : Store} {m' : Moment}
      {t : List (Job × Store)} (acts : p.Open a) (sets : ∀ b ∈ outs, p.Open b)
      (rest : Trace p ⟨outs.map .leave ++ js, σ⟩ t m') : Trace p ⟨.enter a :: js, σ⟩ ((.enter a, σ) :: t) m'
  | wake {b : SocketAddress} {σ : Store} {m' : Moment} {t : List (Job × Store)} (event : p.Open b)
      (rest : Trace p ⟨[.leave b], σ⟩ t m') : Trace p ⟨[], σ⟩ t m'
  | drift {js : List Job} {σ : Store} {m' : Moment} {t : List (Job × Store)}
      (world : SocketAddress → List Literal → Option Literal)
      (rest : Trace p ⟨js, { σ with world }⟩ t m') : Trace p ⟨js, σ⟩ t m'

/-- A run goes on with another. -/
theorem Trace.append {p : Program} {m m' m'' : Moment} {t t' : List (Job × Store)} (first : p.Trace m t m')
    (second : p.Trace m' t' m'') : p.Trace m (t ++ t') m'' := by
  induction first with
  | stop => exact second
  | perform step _ ih => exact .perform step (ih second)
  | act acts sets _ ih => exact .act acts sets (ih second)
  | wake event _ ih => exact .wake event (ih second)
  | drift world _ ih => exact .drift world (ih second)

theorem Trace.single {p : Program} {j : Job} {js : List Job} {σ : Store} {m : Moment} (step : p.Step ⟨j :: js, σ⟩ m) :
    p.Trace ⟨j :: js, σ⟩ [(j, σ)] m :=
  .perform step (.stop m)

section Agreement

variable {p : Program} {σ τ : Store}

/-- A task as jobs. -/
def Task.jobs : Task → List Job
  | follow none => []
  | follow (some a) => [.enter a]
  | ports node numbers => [.ports node numbers]
  | counting node i => [.counting node i]

/-- A flow that leaves a node goes where the node leads. -/
theorem step_of_leave {a : SocketAddress} {js : List Job} :
    p.Step ⟨.leave a :: js, σ⟩ ⟨(Task.follow (p.next? a)).jobs ++ js, σ⟩ := by
  cases leads : p.next? a with
  | none => exact .nowhere leads
  | some b => exact .onward leads

/-- A task that comes to rest is worked off step by step, whatever waits behind it. -/
theorem Runs.steps {task : Task} (runs : p.Runs task σ τ) (js : List Job) :
    Relation.ReflTransGen p.Step ⟨task.jobs ++ js, σ⟩ ⟨js, τ⟩ := by
  induction runs generalizing js with
  | rest => exact .refl
  | set op parameter takes _ ih => exact .head (.set op parameter takes) (.head step_of_leave (ih js))
  | branch op takes _ ih => exact .head (.branch op takes) (.head step_of_leave (ih js))
  | sequence op ascending all _ ih => exact .head (.sequence op ascending all) (ih js)
  | done => exact .single .done
  | port _ _ first others => exact .head .port (.head step_of_leave ((first _).trans (others js)))
  | switch op parameter takes _ ih => exact .head (.switch op parameter takes) (.head step_of_leave (ih js))
  | loop op takes _ ih => exact .head (.loop op takes) (ih js)
  | pass takes below _ _ body others =>
    exact .head (.pass takes below) (.head step_of_leave ((body _).trans (others js)))
  | completed takes reached _ ih => exact .head (.completed takes reached) (.head step_of_leave (ih js))
  | again op takes _ _ body others => exact .head (.again op takes) (.head step_of_leave ((body _).trans (others js)))
  | ended op takes _ ih => exact .head (.ended op takes) (.head step_of_leave (ih js))

/-- From a state, a job comes to rest in another. -/
def Finishes (p : Program) : Job → Store → Store → Prop
  | .enter a => p.Runs (.follow (some a))
  | .leave a => p.Runs (.follow (p.next? a))
  | .ports node numbers => p.Runs (.ports node numbers)
  | .counting node i => p.Runs (.counting node i)

/-- From a state, jobs come to rest in another, one after the other. -/
inductive FinishesAll (p : Program) : List Job → Store → Store → Prop
  | nil {σ : Store} : FinishesAll p [] σ σ
  | cons {j : Job} {js : List Job} {σ μ τ : Store} (first : p.Finishes j σ μ) (others : FinishesAll p js μ τ) :
      FinishesAll p (j :: js) σ τ

/-- What comes to rest after a step comes to rest as well before it. -/
theorem Step.finishes {m m' : Moment} (step : p.Step m m') (after : p.FinishesAll m'.jobs m'.store τ) :
    p.FinishesAll m.jobs m.store τ := by
  cases step with
  | onward leads =>
    obtain _ | ⟨first, others⟩ := after
    exact .cons (show p.Runs (.follow (p.next? _)) _ _ by rw [leads]; exact first) others
  | nowhere ends => exact .cons (show p.Runs (.follow (p.next? _)) _ _ by rw [ends]; exact .rest) after
  | set op parameter takes =>
    obtain _ | ⟨first, others⟩ := after
    exact .cons (.set op parameter takes first) others
  | branch op takes =>
    obtain _ | ⟨first, others⟩ := after
    exact .cons (.branch op takes first) others
  | sequence op ascending all =>
    obtain _ | ⟨first, others⟩ := after
    exact .cons (.sequence op ascending all first) others
  | done => exact .cons .done after
  | port =>
    obtain _ | ⟨first, _ | ⟨second, others⟩⟩ := after
    exact .cons (.port first second) others
  | switch op parameter takes =>
    obtain _ | ⟨first, others⟩ := after
    exact .cons (.switch op parameter takes first) others
  | loop op takes =>
    obtain _ | ⟨first, others⟩ := after
    exact .cons (.loop op takes first) others
  | pass takes below =>
    obtain _ | ⟨first, _ | ⟨second, others⟩⟩ := after
    exact .cons (.pass takes below first second) others
  | completed takes reached =>
    obtain _ | ⟨first, others⟩ := after
    exact .cons (.completed takes reached first) others
  | again op takes =>
    obtain _ | ⟨first, _ | ⟨second, others⟩⟩ := after
    exact .cons (.again op takes first second) others
  | ended op takes =>
    obtain _ | ⟨first, others⟩ := after
    exact .cons (.ended op takes first) others

theorem finishesAll_of_steps {m : Moment} (steps : Relation.ReflTransGen p.Step m ⟨[], τ⟩) :
    p.FinishesAll m.jobs m.store τ := by
  induction steps using Relation.ReflTransGen.head_induction_on with
  | refl => exact .nil
  | head step _ ih => exact step.finishes ih

/-- A flow comes to rest in a state exactly if the machine does. -/
theorem runs_iff_steps {a : SocketAddress} :
    p.Runs (.follow (some a)) σ τ ↔ Relation.ReflTransGen p.Step ⟨[.enter a], σ⟩ ⟨[], τ⟩ := by
  refine ⟨fun runs => runs.steps [], fun steps => ?_⟩
  obtain _ | ⟨first, _ | _⟩ := finishesAll_of_steps steps
  exact first

end Agreement

end Program

end ScriptGraph
