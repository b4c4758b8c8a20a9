import ScriptGraph.Proofs.Compile.Wiring
import ScriptGraph.Proofs.Runtime.Plan

/-!
What later steps leave to a runtime.

In a scope, nodes from before its start are not touched: a runtime finds there what it found before. Putting
constants in place takes nothing away: an input that was fed by a placeholder holds its constant.
-/

namespace ScriptGraph

namespace Context

variable {c c' : Context}

theorem small_inRange (small : c.Small) : c.InRange := by
  obtain ⟨nodes, placeholders⟩ := small
  rw [NodeId.placeholderBase] at nodes placeholders
  rw [InRange, NodeId.placeholderBase]
  omega

/-- Legal steps that leave old nodes alone. -/
theorem Run.extends {cls : ScriptClass} {sources : Nat → Prop}
    (run : Run cls sources c.graph.nodes.size c c') (identified : c.graph.Identified) :
    c.program.Extends c'.program ∧
      ∀ a, c.program.op? a.node ≠ none → c'.program.feed? a = c.program.feed? a := by
  have evolves {id : NodeId} {n : Node} (found : c.graph.node? id = some n) :
      ∃ n', c'.graph.node? id = some n' ∧ n.Evolves True n' := by
    rw [identified.node?] at found
    obtain ⟨n', found', evolves⟩ := run.evolves identified found
    rw [(run.identified identified).node?]
    exact ⟨n', found', evolves.mono fun _ => (Array.getElem?_eq_some_iff.1 found).1⟩
  have shows {id : NodeId} (exist : c.program.op? id ≠ none) :
      ∃ n n', c.program.Shows id n ∧ c'.program.Shows id n' ∧ n.Evolves True n' := by
    obtain ⟨n, found, shows⟩ := exists_shows exist
    obtain ⟨n', found', evolves⟩ := evolves found
    exact ⟨n, n', shows, shows_of_node? found', evolves⟩
  have feed (a : SocketAddress) (exist : c.program.op? a.node ≠ none) :
      c'.program.feed? a = c.program.feed? a := by
    obtain ⟨n, n', here, there, evolves⟩ := shows exist
    rw [here.feed, there.feed, Node.valueIn?, Node.valueIn?, evolves.inputs trivial]
  -- A runtime finds nothing where there is no node.
  have exists_of_node {id : NodeId} {α : Type} {ask : Node → Option α} {answer : α}
      (found : (c.graph.node? id).bind ask = some answer) : c.program.op? id ≠ none := by
    obtain ⟨n, there, _⟩ := Option.bind_eq_some_iff.1 found
    simp [program, Graph.programWith, there]
  refine ⟨⟨fun id kind found => ?_, fun id name value found => ?_, fun a f found => ?_, fun a b found => ?_,
    fun a value found => ?_⟩, feed⟩
  · obtain ⟨n, n', here, there, evolves⟩ := shows (Option.ne_none_iff_exists'.2 ⟨kind, found⟩)
    rw [there.op, evolves.op, ← here.op, found]
  · obtain ⟨n, n', here, there, evolves⟩ := shows (exists_of_node found)
    rw [there.parameter]
    exact evolves.config name value (by rw [← here.parameter, found])
  · have held : ((c.graph.node? a.node).bind fun n => (n.valueIn? a.socket).bind (·.feed?)) = some f := by
      rw [← Option.bind_assoc]
      exact found
    rw [feed a (exists_of_node held), found]
  · obtain ⟨n, n', here, there, evolves⟩ := shows (exists_of_node found)
    have leads : n.flowTarget? a.socket = some b := by rw [← here.next, found]
    rw [Node.flowTarget?_eq_head?] at leads
    rw [there.next, Node.flowTarget?_eq_head?, evolves.targets a.socket, leads]
    rintro empty
    simp [empty] at leads
  · simp only [program, Graph.programWith, placeholderValue?] at found ⊢
    split at found
    · next isPlaceholder =>
      have row := Option.join_eq_some_iff.1 found
      rw [if_pos isPlaceholder, run.tables.placeholders _ _ row, Option.join_some]
    · cases found

/-- What stands on an input after the constants are in place. -/
def resolveFeed (c : Context) : Feed → Feed
  | .constant value => .constant value
  | .output a =>
    match c.placeholderValue? ⟨a⟩ with
    | some value => .constant value
    | none => .output a

theorem node?_resolved (c : Context) (id : NodeId) :
    c.resolved.node? id = (c.graph.node? id).map c.resolveNode := by
  have position : c.resolved.position? id = c.graph.position? id := by
    simp only [Graph.position?, resolved, Array.findIdx?_map]
    rfl
  rw [Graph.node?, Graph.node?, position]
  cases c.graph.position? id with
  | none => rfl
  | some i => simp [resolved]

/-- If a feed is a placeholder, its constant is known. -/
def Resolves (c : Context) (f : Feed) : Prop :=
  ∀ a, f = .output a → a.node.isPlaceholder = true → c.placeholderValue? ⟨a⟩ ≠ none

theorem resolves_of_gives {f : Feed} {σ : Store} {value : Literal} (gives : c.program.Gives σ f value) :
    c.Resolves f := by
  rintro a rfl isPlaceholder
  cases gives with
  | placeholder _ known => exact Option.ne_none_iff_exists'.2 ⟨value, known⟩
  | _ => simp_all

/-- What stands on an input is in place with the constants. -/
theorem feed?_resolved {a : SocketAddress} {f : Feed} (fed : c.program.feed? a = some f) (resolves : c.Resolves f) :
    c.resolved.program.feed? a = some (c.resolveFeed f) := by
  simp only [program, Graph.program, Graph.programWith, node?_resolved] at fed ⊢
  obtain ⟨input, atSocket, feed⟩ := Option.bind_eq_some_iff.1 fed
  obtain ⟨n, found, atSocket⟩ := Option.bind_eq_some_iff.1 atSocket
  simp only [found, Option.map_some, Option.bind_some, valueIn?_resolveNode, atSocket]
  rw [ValueInput.feed?] at feed
  cases source : input.source with
  | none =>
    rw [source] at feed
    obtain ⟨constant, held, rfl⟩ := Option.map_eq_some_iff.1 feed
    simp [resolveInput, source, ValueInput.feed?, held, resolveFeed]
  | some address =>
    rw [source] at feed
    cases feed
    by_cases isPlaceholder : address.node.isPlaceholder = true
    · obtain ⟨value, known⟩ := Option.ne_none_iff_exists'.1 (resolves address rfl isPlaceholder)
      simp [resolveInput, source, isPlaceholder, ValueInput.feed?, resolveFeed, known]
    · have unknown : c.placeholderValue? ⟨address⟩ = none := by simp [placeholderValue?, isPlaceholder]
      simp [resolveInput, source, isPlaceholder, ValueInput.feed?, resolveFeed, unknown]

theorem resolveFeed_real (c : Context) {a : SocketAddress} (real : a.node.isPlaceholder = false) :
    c.resolveFeed (.output a) = .output a := by
  simp [resolveFeed, placeholderValue?, real]

theorem op?_resolved (c : Context) (id : NodeId) : c.resolved.program.op? id = c.program.op? id := by
  simp [program, Graph.program, Graph.programWith, node?_resolved, Function.comp_def, resolveNode]

theorem parameter?_resolved (c : Context) (id : NodeId) (name : String) :
    c.resolved.program.parameter? id name = c.program.parameter? id name := by
  simp [program, Graph.program, Graph.programWith, node?_resolved, Option.bind_map, Function.comp_def, resolveNode,
    Node.config?]

theorem next?_resolved (c : Context) (a : SocketAddress) : c.resolved.program.next? a = c.program.next? a := by
  simp [program, Graph.program, Graph.programWith, node?_resolved, Option.bind_map, Function.comp_def, resolveNode,
    Node.flowTarget?]

/-- Putting constants in place changes no value. -/
theorem gives_resolved {f : Feed} {σ : Store} {value : Literal} (gives : c.program.Gives σ f value) :
    c.resolved.program.Gives σ (c.resolveFeed f) value := by
  have op {id : NodeId} {kind : Op} (found : c.program.op? id = some kind) :
      c.resolved.program.op? id = some kind := (c.op?_resolved id).trans found
  have parameter {id : NodeId} {name : String} {config : ConfigValue}
      (found : c.program.parameter? id name = some config) :
      c.resolved.program.parameter? id name = some config := (c.parameter?_resolved id name).trans found
  induction gives with
  | constant value => exact .constant value
  | placeholder isPlaceholder known =>
    have known : c.placeholderValue? ⟨_⟩ = some _ := known
    rw [resolveFeed, known]
    exact .constant _
  | «variable» real isGet set =>
    rw [c.resolveFeed_real real]
    exact .variable real (op isGet) (parameter set)
  | counter real isFor =>
    rw [c.resolveFeed_real real]
    exact .counter real (op isFor)
  | switch real isSwitch set fed selects chosen given selects' given' =>
    rw [c.resolveFeed_real real]
    exact .switch real (op isSwitch) (parameter set) (feed?_resolved fed (resolves_of_gives selects)) selects'
      (feed?_resolved chosen (resolves_of_gives given)) given'
  | compute real computes plain fed given result given' =>
    rw [c.resolveFeed_real real]
    exact .compute real (op computes) plain
      (fun name member => feed?_resolved (fed name member) (resolves_of_gives (given name member))) given' result

theorem takes_resolved {a : SocketAddress} {σ : Store} {value : Literal} (takes : c.program.Takes σ a value) :
    c.resolved.program.Takes σ a value := by
  obtain ⟨f, fed, gives⟩ := takes
  exact ⟨c.resolveFeed f, feed?_resolved fed (resolves_of_gives gives), gives_resolved gives⟩

/-- All constants that inputs wait for are known. -/
def Settled (c : Context) : Prop :=
  ∀ n ∈ c.graph.nodes, ∀ input ∈ n.valuesIn.values, ∀ a ∈ input.source, a.node.isPlaceholder = true →
    c.placeholderValue? ⟨a⟩ ≠ none

instance (c : Context) : Decidable c.Settled :=
  inferInstanceAs (Decidable (∀ n ∈ c.graph.nodes, ∀ input ∈ n.valuesIn.values, ∀ a ∈ input.source,
    a.node.isPlaceholder = true → c.placeholderValue? ⟨a⟩ ≠ none))

theorem Settled.resolves (settled : c.Settled) {a : SocketAddress} {f : Feed} (fed : c.program.feed? a = some f) :
    c.Resolves f := by
  rintro b rfl
  obtain ⟨input, atSocket, feed⟩ := Option.bind_eq_some_iff.1 fed
  obtain ⟨n, found, atSocket⟩ := Option.bind_eq_some_iff.1 atSocket
  obtain ⟨i, _, found⟩ := Option.bind_eq_some_iff.1 found
  refine settled n (Array.mem_of_getElem? found) input (Dict.mem_values_of_find? atSocket) b ?_
  rw [ValueInput.feed?] at feed
  split at feed
  · next source => exact source.trans (by simpa using feed)
  · simp at feed

theorem Settled.feed? (settled : c.Settled) (a : SocketAddress) :
    c.resolved.program.feed? a = (c.program.feed? a).map c.resolveFeed := by
  cases fed : c.program.feed? a with
  | some f => exact feed?_resolved fed (settled.resolves fed)
  | none =>
    simp only [program, Graph.program, Graph.programWith, node?_resolved, Option.map_none] at fed ⊢
    cases found : c.graph.node? a.node with
    | none => rfl
    | some n =>
      cases atSocket : n.valueIn? a.socket with
      | none => simp [valueIn?_resolveNode, atSocket]
      | some input =>
        have unfed : input.feed? = none := by simpa [found, atSocket] using fed
        have unfed' : input.source = none := by
          cases source : input.source with
          | none => rfl
          | some source => simp [ValueInput.feed?, source] at unfed
        simpa [valueIn?_resolveNode, atSocket, resolveInput, unfed'] using unfed

theorem eq_output_of_resolveFeed {f : Feed} {a : SocketAddress} (same : c.resolveFeed f = .output a) :
    f = .output a := by
  cases f with
  | constant value => cases same
  | output b =>
    simp only [resolveFeed] at same
    split at same
    · cases same
    · exact same

theorem eq_constant_of_resolveFeed {f : Feed} {value : Literal} (same : c.resolveFeed f = .constant value) :
    f = .constant value ∨ ∃ a, f = .output a ∧ c.placeholderValue? ⟨a⟩ = some value := by
  cases f with
  | constant value => exact .inl same
  | output a =>
    simp only [resolveFeed] at same
    split at same
    · next known =>
      cases same
      exact .inr ⟨a, rfl, known⟩
    · cases same

/-- When all constants are known, no value comes with them that was not there before. -/
theorem Settled.gives (settled : c.Settled) {f : Feed} {σ : Store} {value : Literal}
    (gives : c.resolved.program.Gives σ (c.resolveFeed f) value) : c.program.Gives σ f value := by
  have fed {a : SocketAddress} {f' : Feed} (there : c.resolved.program.feed? a = some f') :
      ∃ f, c.program.feed? a = some f ∧ c.resolveFeed f = f' := by
    rwa [settled.feed?, Option.map_eq_some_iff] at there
  generalize same : c.resolveFeed f = f' at gives
  induction gives generalizing f with
  | constant value =>
    rcases eq_constant_of_resolveFeed same with rfl | ⟨a, rfl, known⟩
    · exact .constant value
    · have isPlaceholder : a.node.isPlaceholder = true := by
        simp only [placeholderValue?] at known
        split at known
        · assumption
        · cases known
      exact .placeholder isPlaceholder known
  | placeholder isPlaceholder known => cases known
  | «variable» real isGet set =>
    cases eq_output_of_resolveFeed same
    exact .variable real (c.op?_resolved _ ▸ isGet) (c.parameter?_resolved _ _ ▸ set)
  | counter real isFor =>
    cases eq_output_of_resolveFeed same
    exact .counter real (c.op?_resolved _ ▸ isFor)
  | switch real isSwitch set selection _ chosen _ selects given =>
    cases eq_output_of_resolveFeed same
    obtain ⟨selection, there, same⟩ := fed selection
    obtain ⟨chosen, there', same'⟩ := fed chosen
    exact .switch real (c.op?_resolved _ ▸ isSwitch) (c.parameter?_resolved _ _ ▸ set) there (selects same) there'
      (given same')
  | compute real computes plain inputs _ result given =>
    cases eq_output_of_resolveFeed same
    refine .plain real (c.op?_resolved _ ▸ computes) plain (fun name member => ?_) result
    obtain ⟨f, there, same⟩ := fed (inputs name member)
    exact ⟨f, there, given name member same⟩

theorem Settled.takes (settled : c.Settled) {a : SocketAddress} {σ : Store} {value : Literal}
    (takes : c.resolved.program.Takes σ a value) : c.program.Takes σ a value := by
  obtain ⟨f', fed, gives⟩ := takes
  rw [settled.feed?, Option.map_eq_some_iff] at fed
  obtain ⟨f, fed, rfl⟩ := fed
  exact ⟨f, fed, settled.gives gives⟩

end Context

/-- A run depends on the nodes, on where flows lead and on what inputs take. -/
theorem Program.Runs.transfer {p q : Program} (op : ∀ id, q.op? id = p.op? id)
    (parameter : ∀ id name, q.parameter? id name = p.parameter? id name) (next : ∀ a, q.next? a = p.next? a)
    (takes : ∀ {σ a value}, p.Takes σ a value → q.Takes σ a value) {task : Task} {σ τ : Store}
    (runs : p.Runs task σ τ) : q.Runs task σ τ := by
  induction runs with
  | rest => exact .rest
  | set isSet set value _ after =>
    exact .set ((op _).trans isSet) ((parameter _ _).trans set) (takes value) (next _ ▸ after)
  | branch isBranch condition _ after => exact .branch ((op _).trans isBranch) (takes condition) (next _ ▸ after)
  | sequence isSequence ascending all _ after =>
    exact .sequence ((op _).trans isSequence) ascending (fun k => by rw [all, next]) after
  | done => exact .done
  | port _ _ first others => exact .port (next _ ▸ first) others
  | switch isSwitch set selection _ after =>
    exact .switch ((op _).trans isSwitch) ((parameter _ _).trans set) (takes selection) (next _ ▸ after)
  | loop isFor start _ after => exact .loop ((op _).trans isFor) (takes start) after
  | pass stop below _ _ body others => exact .pass (takes stop) below (next _ ▸ body) others
  | completed stop reached _ after => exact .completed (takes stop) reached (next _ ▸ after)
  | again isWhile condition _ _ body others =>
    exact .again ((op _).trans isWhile) (takes condition) (next _ ▸ body) others
  | ended isWhile condition _ after => exact .ended ((op _).trans isWhile) (takes condition) (next _ ▸ after)

/-- When all constants are known, putting them in place changes no run. -/
theorem Context.Settled.runs_iff {c : Context} (settled : c.Settled) {task : Program.Task} {σ τ : Store} :
    c.resolved.program.Runs task σ τ ↔ c.program.Runs task σ τ :=
  ⟨.transfer (fun id => (c.op?_resolved id).symm) (fun id name => (c.parameter?_resolved id name).symm)
      (fun a => (c.next?_resolved a).symm) settled.takes,
    .transfer c.op?_resolved c.parameter?_resolved c.next?_resolved Context.takes_resolved⟩

/-- What was made before a scope is there for a runtime as it was. -/
theorem Known.extends {w : Scope} {facts : List Fact} {exits : List FlowOut} {c : Context}
    (known : Known w facts exits c) (small : c.Small) :
    w.start.program.Extends c.program ∧
      ∀ a, w.start.program.op? a.node ≠ none → c.program.feed? a = w.start.program.feed? a := by
  have sound := known.sound (Context.small_inRange small)
  exact sound.run.extends sound.wired.identified

end ScriptGraph
