import ScriptGraph.Proofs.Construction.Step

/-!
What legal steps leave alone.

Operations, outputs and set parameters never change, a flow that leads somewhere leads there for good,
and nodes before the base of a run keep their values and parameters.
-/

namespace ScriptGraph

/-- How a node may change; a settled one keeps its inputs and its parameters. -/
structure Node.Evolves (settled : Prop) (n n' : Node) : Prop where
  index : n'.index = n.index
  op : n'.op = n.op
  outputs : n'.valuesOut = n.valuesOut
  config : ∀ name value, n.config? name = some value → n'.config? name = some value
  parameters : settled ∨ n.op ≠ .debugLog → n'.configuration = n.configuration
  inputs : settled → n'.valuesIn = n.valuesIn
  valuesIn : ∀ socket, n.valuesIn.contains socket = true → n'.valuesIn.contains socket = true
  flowsIn : ∀ socket, n.flowsIn.contains socket = true → n'.flowsIn.contains socket = true
  flowsOut : ∀ socket, n.flowsOut.contains socket = true → n'.flowsOut.contains socket = true
  targets : ∀ socket, n.targets socket ≠ [] → n'.targets socket = n.targets socket

namespace Node

theorem index_changeInput (n : Node) (name : String) (f : ValueInput → ValueInput) :
    (n.changeInput name f).index = n.index := rfl

theorem index_configure (n : Node) (name : String) (value : ConfigValue) :
    (n.configure name value).index = n.index := rfl

theorem index_addTarget (n : Node) (name : String) (target : SocketAddress) :
    (n.addTarget name target).index = n.index := rfl

theorem index_addFlowIn (n : Node) (name : String) : (n.addFlowIn name).index = n.index := rfl

theorem Evolves.refl (settled : Prop) (n : Node) : n.Evolves settled n :=
  ⟨rfl, rfl, rfl, fun _ _ h => h, fun _ => rfl, fun _ => rfl, fun _ h => h, fun _ h => h,
    fun _ h => h, fun _ _ => rfl⟩

theorem Evolves.trans {settled : Prop} {n m l : Node} (first : n.Evolves settled m)
    (second : m.Evolves settled l) : n.Evolves settled l where
  index := second.index.trans first.index
  op := second.op.trans first.op
  outputs := second.outputs.trans first.outputs
  config name value h := second.config name value (first.config name value h)
  parameters h := (second.parameters (first.op ▸ h)).trans (first.parameters h)
  inputs h := (second.inputs h).trans (first.inputs h)
  valuesIn socket h := second.valuesIn socket (first.valuesIn socket h)
  flowsIn socket h := second.flowsIn socket (first.flowsIn socket h)
  flowsOut socket h := second.flowsOut socket (first.flowsOut socket h)
  targets socket h :=
    (second.targets socket (by rwa [first.targets socket h])).trans (first.targets socket h)

theorem Evolves.mono {settled settled' : Prop} {n m : Node} (weaker : settled' → settled)
    (evolves : n.Evolves settled m) : n.Evolves settled' m :=
  { evolves with
    parameters := fun h => evolves.parameters (h.imp_left weaker)
    inputs := fun h => evolves.inputs (weaker h) }

theorem contains_update {α : Type} (d : Dict α) (key other : String) (f : Option α → α)
    (member : d.contains other = true) : (d.update key f).contains other = true := by
  simp only [Dict.contains, Dict.find?_update] at member ⊢
  split
  · rfl
  · exact member

theorem evolves_changeInput (n : Node) {settled : Prop} (unsettled : ¬ settled) (name : String)
    (f : ValueInput → ValueInput) : n.Evolves settled (n.changeInput name f) :=
  { Evolves.refl settled n with
    inputs := fun h => absurd h unsettled
    valuesIn := fun socket => contains_update n.valuesIn name socket _ }

theorem evolves_addTarget (n : Node) (settled : Prop) {name : String} (target : SocketAddress)
    (free : n.targets name = []) : n.Evolves settled (n.addTarget name target) :=
  { Evolves.refl settled n with
    flowsOut := fun socket => contains_update n.flowsOut name socket _
    targets := fun socket used => by
      rw [targets_addTarget, if_neg]
      rintro rfl
      exact used free }

theorem evolves_addFlowIn (n : Node) (settled : Prop) (name : String) :
    n.Evolves settled (n.addFlowIn name) :=
  { Evolves.refl settled n with flowsIn := fun socket => contains_update n.flowsIn name socket _ }

theorem evolves_configure (n : Node) {settled : Prop} (unsettled : ¬ settled) {name : String}
    (value : ConfigValue) (isLog : n.op = .debugLog) (unset : n.configuration.find? name = some none) :
    n.Evolves settled (n.configure name value) :=
  { Evolves.refl settled n with
    config := fun other old h => by
      rw [config?_configure, if_neg]
      · exact h
      · rintro rfl
        simp [config?, unset] at h
    parameters := fun h => absurd h (by simp [unsettled, isLog]) }

end Node

namespace Graph.NamesApart

variable {g g' : Graph}

/-- A variable with a new name. -/
theorem push {v : Variable} (apart : g.NamesApart) (new : ∀ w ∈ g.vars, w.name ≠ v.name) :
    NamesApart { g with vars := g.vars.push v } := by
  have other {i : Nat} {w : Variable} (found : g.vars[i]? = some w) : w.name ≠ v.name :=
    new w (Array.mem_of_getElem? found)
  intro i j w w' found found' same
  simp only [Array.getElem?_push] at found found'
  split at found <;> split at found'
  · next last last' => exact last.trans last'.symm
  · cases found
    exact absurd same.symm (other found')
  · cases found'
    exact absurd same (other found)
  · exact apart found found' same

/-- Names stay where they are. -/
theorem renamed (apart : g.NamesApart)
    (kept : ∀ (i : Nat) w, g'.vars[i]? = some w → ∃ v, g.vars[i]? = some v ∧ v.name = w.name) : g'.NamesApart := by
  intro i j w w' found found' same
  obtain ⟨v, there, name⟩ := kept i w found
  obtain ⟨v', there', name'⟩ := kept j w' found'
  exact apart there there' (name.trans (same.trans name'.symm))

end Graph.NamesApart

namespace Context

variable {cls : ScriptClass} {sources : Nat → Prop} {base : Nat} {c c' : Context}

theorem TablesGrow.refl (c : Context) : c.TablesGrow c :=
  ⟨fun _ v h => ⟨v, h, rfl, rfl⟩, fun _ _ h => h, fun _ _ h => h, id⟩

theorem TablesGrow.trans {a b c : Context} (first : a.TablesGrow b) (second : b.TablesGrow c) :
    a.TablesGrow c where
  vars i v h := by
    obtain ⟨v', h', name, type⟩ := first.vars i v h
    obtain ⟨v'', h'', name', type'⟩ := second.vars i v' h'
    exact ⟨v'', h'', name'.trans name, type'.trans type⟩
  events i e h := second.events i e (first.events i e h)
  placeholders i p h := second.placeholders i p (first.placeholders i p h)
  apart := second.apart ∘ first.apart

theorem evolves_modifyNode (identified : c.graph.Identified) {id : NodeId} {f : Node → Node}
    (evolves : ∀ n, c.graph.nodes[id.toNat]? = some n → n.Evolves (id.toNat < base) (f n))
    {i : Nat} {n : Node} (found : c.graph.nodes[i]? = some n) :
    ∃ n', (c.modifyNode id f).graph.nodes[i]? = some n' ∧ n.Evolves (i < base) n' := by
  rw [modifyNode, identified.nodes_modifyNode]
  by_cases same : i = id.toNat
  · subst same
    exact ⟨f n, by simp [found], evolves n found⟩
  · exact ⟨n, by simp [same, found], .refl _ n⟩

theorem Step.identified (step : Step cls sources base c c') (identified : c.graph.Identified) :
    c'.graph.Identified := by
  cases step with
  | place draft => exact identified.place draft.index
  | feed => exact identified.modifyNode _ fun n => n.index_changeInput ..
  | put => exact identified.modifyNode _ fun n => n.index_changeInput ..
  | label => exact identified.modifyNode _ fun n => n.index_configure ..
  | @lead start target =>
    have first := identified.modifyNode start.address.node
      fun n => n.index_addTarget start.address.socket target.address
    exact first.modifyNode _ fun n => n.index_addFlowIn ..
  | book same => intro i n; rw [same]; exact identified i n

theorem TablesGrow.modifyNode (c : Context) (id : NodeId) (f : Node → Node) :
    c.TablesGrow (c.modifyNode id f) := by
  refine ⟨fun i v h => ⟨v, ?_, rfl, rfl⟩, fun i e h => ?_, fun _ _ h => h, fun apart => ?_⟩
  · simpa only [Context.modifyNode, Graph.vars_modifyNode] using h
  · simpa only [Context.modifyNode, Graph.events_modifyNode] using h
  · simpa only [Graph.NamesApart, Context.modifyNode, Graph.vars_modifyNode] using apart

theorem Step.tables (step : Step cls sources base c c') : c.TablesGrow c' := by
  cases step with
  | place => exact ⟨fun _ v h => ⟨v, h, rfl, rfl⟩, fun _ _ h => h, fun _ _ h => h, id⟩
  | feed => exact .modifyNode ..
  | put => exact .modifyNode ..
  | label => exact .modifyNode ..
  | lead => exact (TablesGrow.modifyNode ..).trans (.modifyNode ..)
  | book _ tables => exact tables

theorem Step.evolves (step : Step cls sources base c c') (identified : c.graph.Identified)
    {i : Nat} {n : Node} (found : c.graph.nodes[i]? = some n) :
    ∃ n', c'.graph.nodes[i]? = some n' ∧ n.Evolves (i < base) n' := by
  cases step with
  | place draft =>
    have inside : i < c.graph.nodes.size := (Array.getElem?_eq_some_iff.1 found).1
    refine ⟨n, ?_, .refl _ n⟩
    rw [Context.place, Graph.nodes_place, if_neg (by omega), found]
  | feed recent =>
    exact evolves_modifyNode identified
      (fun n _ => n.evolves_changeInput (Nat.not_lt.2 recent) ..) found
  | put recent =>
    exact evolves_modifyNode identified
      (fun n _ => n.evolves_changeInput (Nat.not_lt.2 recent) ..) found
  | label recent there isLog unset =>
    refine evolves_modifyNode identified (fun n same => ?_) found
    obtain rfl := Option.some.inj (same.symm.trans there)
    exact n.evolves_configure (Nat.not_lt.2 recent) _ isLog unset
  | @lead start target from' _ there _ free =>
    have leads (n : Node) (same : c.graph.nodes[start.address.node.toNat]? = some n) :
        n.Evolves (start.address.node.toNat < base)
          (n.addTarget start.address.socket target.address) := by
      obtain rfl := Option.some.inj (same.symm.trans there)
      exact n.evolves_addTarget _ _ free
    obtain ⟨m, atM, first⟩ := evolves_modifyNode identified leads found
    obtain ⟨l, atL, second⟩ := evolves_modifyNode
      (identified.modifyNode _ fun n => n.index_addTarget ..)
      (fun n _ => n.evolves_addFlowIn (target.address.node.toNat < base) target.address.socket) atM
    exact ⟨l, atL, first.trans second⟩
  | book same => exact ⟨n, by rw [same, found], .refl _ n⟩

theorem Step.mono {sources' : Nat → Prop} {base' : Nat} (step : Step cls sources base c c')
    (more : ∀ i, sources i → sources' i) (lower : base' ≤ base) : Step cls sources' base' c c' := by
  have widen (a : SocketAddress) (among : a.Among sources) : a.Among sources' :=
    among.imp_right (more _)
  cases step with
  | place draft =>
    exact .place { draft with
      offered := fun s i a h h' => (draft.offered s i a h h').imp_right (widen a) }
  | feed recent found takes unset offered among severed =>
    exact .feed (Nat.le_trans lower recent) found takes unset offered (widen _ among) severed
  | put recent found takes unfed => exact .put (Nat.le_trans lower recent) found takes unfed
  | label recent found isLog unset => exact .label (Nat.le_trans lower recent) found isLog unset
  | lead found declared free entered admits => exact .lead found declared free entered admits
  | book same tables announced => exact .book same tables announced

theorem Run.one (step : Step cls sources base c c') : Run cls sources base c c' := .next .refl step

theorem Run.trans {a b c : Context} (first : Run cls sources base a b)
    (second : Run cls sources base b c) : Run cls sources base a c := by
  induction second with
  | refl => exact first
  | next _ step ih => exact .next ih step

theorem Run.mono {sources' : Nat → Prop} {base' : Nat} (run : Run cls sources base c c')
    (more : ∀ i, sources i → sources' i) (lower : base' ≤ base) : Run cls sources' base' c c' := by
  induction run with
  | refl => exact .refl
  | next _ step ih => exact .next ih (step.mono more lower)

theorem Run.identified (run : Run cls sources base c c') (identified : c.graph.Identified) :
    c'.graph.Identified := by
  induction run with
  | refl => exact identified
  | next _ step ih => exact step.identified ih

theorem Run.tables (run : Run cls sources base c c') : c.TablesGrow c' := by
  induction run with
  | refl => exact .refl c
  | next _ step ih => exact ih.trans step.tables

theorem Run.evolves (run : Run cls sources base c c') (identified : c.graph.Identified)
    {i : Nat} {n : Node} (found : c.graph.nodes[i]? = some n) :
    ∃ n', c'.graph.nodes[i]? = some n' ∧ n.Evolves (i < base) n' := by
  induction run with
  | refl => exact ⟨n, found, .refl _ n⟩
  | next run step ih =>
    obtain ⟨m, atM, first⟩ := ih
    obtain ⟨l, atL, second⟩ := step.evolves (run.identified identified) atM
    exact ⟨l, atL, first.trans second⟩

end Context

end ScriptGraph
