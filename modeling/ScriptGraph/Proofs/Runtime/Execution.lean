import ScriptGraph.Proofs.Pattern.Flows
import ScriptGraph.Proofs.Runtime.Plan

/-!
How the nodes of a flow run, one equivalence for each of them.

A node takes what stands on its inputs and hands control on. As runs are determined, entering a node comes
to rest exactly as what follows it does.
-/

namespace ScriptGraph

namespace Store

variable (σ : Store) (id other : Int32) (node node' : NodeId) (value : Literal) (i : Int32)

@[simp] theorem vars_write_self : (σ.write id value).vars id = value := Function.update_self ..

@[simp] theorem vars_write_of_ne (different : other ≠ id) : (σ.write id value).vars other = σ.vars other :=
  Function.update_of_ne different ..

@[simp] theorem counters_write : (σ.write id value).counters = σ.counters := rfl

@[simp] theorem world_write : (σ.write id value).world = σ.world := rfl

@[simp] theorem vars_count : (σ.count node i).vars = σ.vars := rfl

@[simp] theorem counters_count_self : (σ.count node i).counters node = i := Function.update_self ..

@[simp] theorem world_count : (σ.count node i).world = σ.world := rfl

end Store

namespace Program

variable {p : Program} {σ τ : Store} {id : NodeId} {socket : String} {flows : List String}

/-- What stands on every socket of an input. -/
def Feeds (p : Program) (t : ValueIn) (feed : Feed) : Prop := ∀ a ∈ t.sockets, p.feed? a = some feed

/-- Every socket of an input takes the value. -/
def Accepts (p : Program) (σ : Store) (t : ValueIn) (value : Literal) : Prop :=
  ∀ a ∈ t.sockets, p.Takes σ a value

theorem Feeds.accepts {t : ValueIn} {feed : Feed} {value : Literal} (feeds : p.Feeds t feed)
    (gives : p.Gives σ feed value) : p.Accepts σ t value :=
  fun a member => ⟨feed, feeds a member, gives⟩

theorem accepts_valueIn {name : String} {value : Literal} :
    p.Accepts σ (id.valueIn name) value ↔ p.Takes σ ⟨id, name⟩ value := by
  simp [Accepts]

theorem runs_rest : p.Runs (.follow none) σ τ ↔ τ = σ := by
  refine ⟨fun run => ?_, fun same => same ▸ .rest⟩
  cases run
  rfl

/-- A flow comes to rest in a state, and in no other. -/
def Ends (p : Program) (a? : Option SocketAddress) (σ σ' : Store) : Prop :=
  ∀ τ, p.Runs (.follow a?) σ τ ↔ τ = σ'

theorem ends_none : p.Ends none σ σ := fun _ => runs_rest

section Passing

variable {entry entry' : FlowIn} {exit exit' : FlowOut} {μ σ' : Store}

theorem Passes.trans (first : p.Passes entry exit σ μ) (leads : p.next? exit.address = some entry'.address)
    (second : p.Passes entry' exit' μ σ') : p.Passes entry exit' σ σ' :=
  fun τ => by rw [first τ, leads, second τ]

theorem Passes.ends (passes : p.Passes entry exit σ μ) (after : p.Ends (p.next? exit.address) μ σ') :
    p.Ends (some entry.address) σ σ' :=
  fun τ => (passes τ).trans (after τ)

end Passing

theorem runs_set {variableId : Int32} {value : Literal} (sets : p.op? id = some .variableSet)
    (parameter : p.parameter? id "variable" = some (.int variableId))
    (takes : p.Takes σ ⟨id, "value"⟩ value) :
    p.Runs (.follow (some ⟨id, socket⟩)) σ τ ↔
      p.Runs (.follow (p.next? ⟨id, "out"⟩)) (σ.write variableId value) τ := by
  refine ⟨fun run => ?_, fun after => .set sets parameter takes after⟩
  cases run with
  | set _ parameter' takes' after =>
    obtain rfl := takes.unique takes'
    obtain rfl := ConfigValue.int.inj (Option.some.inj (parameter.symm.trans parameter'))
    exact after
  | _ => simp_all

theorem runs_branch {condition : Bool} (stands : p.Stands id .flowBranch flows)
    (takes : p.Takes σ ⟨id, "condition"⟩ (.bool condition)) :
    p.Runs (.follow (some ⟨id, socket⟩)) σ τ ↔
      p.Runs (.follow (p.next? ⟨id, if condition then "true" else "false"⟩)) σ τ := by
  refine ⟨fun run => ?_, fun after => .branch stands.op takes after⟩
  cases run with
  | branch _ takes' after =>
    obtain rfl := Literal.bool.inj (takes.unique takes')
    exact after
  | _ => simp_all [stands.op]

theorem runs_switch {cases : List Int32} {k : Int32} (stands : p.Stands id .flowSwitch flows)
    (parameter : p.parameter? id "cases" = some (.intList cases))
    (takes : p.Takes σ ⟨id, "selection"⟩ (.int k)) :
    p.Runs (.follow (some ⟨id, socket⟩)) σ τ ↔
      p.Runs (.follow (p.next? ⟨id, chosenSocket cases k⟩)) σ τ := by
  refine ⟨fun run => ?_, fun after => .switch stands.op parameter takes after⟩
  cases run with
  | switch _ parameter' takes' after =>
    obtain rfl := Literal.int.inj (takes.unique takes')
    obtain rfl := ConfigValue.intList.inj (Option.some.inj (parameter.symm.trans parameter'))
    exact after
  | _ => simp_all [stands.op]

theorem runs_ports_nil : p.Runs (.ports id []) σ τ ↔ τ = σ := by
  refine ⟨fun run => ?_, fun same => same ▸ .done⟩
  cases run
  rfl

theorem runs_ports_cons {k : Nat} {numbers : List Nat} :
    p.Runs (.ports id (k :: numbers)) σ τ ↔
      ∃ μ, p.Runs (.follow (p.next? ⟨id, toString k⟩)) σ μ ∧ p.Runs (.ports id numbers) μ τ := by
  refine ⟨fun run => ?_, fun ⟨μ, first, others⟩ => .port first others⟩
  cases run with
  | port first others => exact ⟨_, first, others⟩

/-- Outputs that lead nowhere may be left out. -/
theorem runs_ports_filter {wired : Nat → Bool}
    (unwired : ∀ k, wired k = false → p.next? ⟨id, toString k⟩ = none) (numbers : List Nat) {σ : Store} :
    p.Runs (.ports id (numbers.filter wired)) σ τ ↔ p.Runs (.ports id numbers) σ τ := by
  induction numbers generalizing σ with
  | nil => rfl
  | cons k numbers ih =>
    rw [List.filter_cons, runs_ports_cons]
    split
    · simp only [runs_ports_cons, ih]
    · next nowhere =>
      rw [ih, unwired k (by simpa using nowhere)]
      simp only [runs_rest, exists_eq_left]

/-- A sequence runs its outputs in ascending order. -/
theorem runs_sequence {numbers : List Nat} (stands : p.Stands id .flowSequence (numbers.map toString))
    (ascending : numbers.Pairwise (· < ·)) :
    p.Runs (.follow (some ⟨id, socket⟩)) σ τ ↔ p.Runs (.ports id numbers) σ τ := by
  let wired (k : Nat) : Bool := (p.next? ⟨id, toString k⟩).isSome
  have unwired (k : Nat) (nowhere : wired k = false) : p.next? ⟨id, toString k⟩ = none := by
    simpa [wired] using nowhere
  have all (k : Nat) : k ∈ numbers.filter wired ↔ p.next? ⟨id, toString k⟩ ≠ none := by
    rw [List.mem_filter]
    refine ⟨fun listed => by simpa [wired, Option.isSome_iff_ne_none] using listed.2, fun leads => ⟨?_, ?_⟩⟩
    · by_contra absent
      refine leads (stands.closed _ fun listed => ?_)
      obtain ⟨m, member, same⟩ := List.mem_map.1 listed
      exact absent (toString_inj same ▸ member)
    · simpa [wired, Option.isSome_iff_ne_none] using leads
  have sorted : (numbers.filter wired).Pairwise (· < ·) := ascending.filter _
  rw [← runs_ports_filter unwired]
  refine ⟨fun run => ?_, fun after => .sequence stands.op sorted all after⟩
  cases run with
  | sequence _ sorted' all' after =>
    obtain rfl := ports_unique sorted sorted' all all'
    exact after
  | _ => simp_all [stands.op]

/-- A sequence of two goes on with its second output when the first has come to rest. -/
theorem passes_sequence {σ' : Store} (stands : p.Stands id .flowSequence ["0", "1"])
    (ends : p.Ends (p.next? ⟨id, "0"⟩) σ σ') : p.Passes (id.flowIn "in") (id.flowOut "1") σ σ' := by
  intro τ
  have stands : p.Stands id .flowSequence ([0, 1].map toString) := stands
  have first (μ : Store) : p.Runs (.follow (p.next? ⟨id, toString 0⟩)) σ μ ↔ μ = σ' := ends μ
  refine (runs_sequence stands (by decide)).trans ?_
  simp only [runs_ports_cons, first, exists_eq_left, runs_ports_nil, exists_eq_right']
  rfl

theorem runs_loop {i : Int32} (stands : p.Stands id .flowFor flows)
    (takes : p.Takes σ ⟨id, "startIndex"⟩ (.int i)) :
    p.Runs (.follow (some ⟨id, socket⟩)) σ τ ↔ p.Runs (.counting id i) σ τ := by
  refine ⟨fun run => ?_, fun after => .loop stands.op takes after⟩
  cases run with
  | loop _ takes' after =>
    obtain rfl := Literal.int.inj (takes.unique takes')
    exact after
  | _ => simp_all [stands.op]

theorem runs_counting_pass {i stop : Int32} (takes : p.Takes σ ⟨id, "endIndex"⟩ (.int stop))
    (below : i < stop) :
    p.Runs (.counting id i) σ τ ↔
      ∃ μ, p.Runs (.follow (p.next? ⟨id, "loopBody"⟩)) (σ.count id i) μ ∧ p.Runs (.counting id (i + 1)) μ τ := by
  refine ⟨fun run => ?_, fun ⟨μ, body, others⟩ => .pass takes below body others⟩
  cases run with
  | pass _ _ body others => exact ⟨_, body, others⟩
  | completed takes' reached _ =>
    obtain rfl := Literal.int.inj (takes.unique takes')
    exact absurd below reached

theorem runs_counting_completed {i stop : Int32} (takes : p.Takes σ ⟨id, "endIndex"⟩ (.int stop))
    (reached : ¬ i < stop) :
    p.Runs (.counting id i) σ τ ↔ p.Runs (.follow (p.next? ⟨id, "completed"⟩)) (σ.count id i) τ := by
  refine ⟨fun run => ?_, fun after => .completed takes reached after⟩
  cases run with
  | completed _ _ after => exact after
  | pass takes' below _ _ =>
    obtain rfl := Literal.int.inj (takes.unique takes')
    exact absurd below reached

theorem runs_while_again (stands : p.Stands id .flowWhile flows)
    (takes : p.Takes σ ⟨id, "condition"⟩ (.bool true)) :
    p.Runs (.follow (some ⟨id, socket⟩)) σ τ ↔
      ∃ μ, p.Runs (.follow (p.next? ⟨id, "loopBody"⟩)) σ μ ∧ p.Runs (.follow (some ⟨id, socket⟩)) μ τ := by
  refine ⟨fun run => ?_, fun ⟨μ, body, others⟩ => .again stands.op takes body others⟩
  cases run with
  | again _ _ body others => exact ⟨_, body, others⟩
  | ended _ takes' _ => cases takes.unique takes'
  | _ => simp_all [stands.op]

theorem runs_while_ended (stands : p.Stands id .flowWhile flows)
    (takes : p.Takes σ ⟨id, "condition"⟩ (.bool false)) :
    p.Runs (.follow (some ⟨id, socket⟩)) σ τ ↔ p.Runs (.follow (p.next? ⟨id, "completed"⟩)) σ τ := by
  refine ⟨fun run => ?_, fun after => .ended stands.op takes after⟩
  cases run with
  | again _ takes' _ _ => cases takes.unique takes'
  | ended _ _ after => exact after
  | _ => simp_all [stands.op]

end Program

end ScriptGraph
