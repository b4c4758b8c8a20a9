import ScriptGraph.Proofs.Construction.Facts

/-!
What legal steps keep: sources stay offered, finished nodes stay finished, and a set of nodes that
nothing outside reads stays apart as long as values come from outside of it.
-/

namespace ScriptGraph

namespace Graph

/-- The node at a place of an edited graph, as it was before. -/
theorem Identified.of_modifyNode {g : Graph} (identified : g.Identified) {id : NodeId}
    {f : Node → Node} {i : Nat} {n' : Node} (found : (g.modifyNode id f).nodes[i]? = some n') :
    (i = id.toNat ∧ ∃ n, g.nodes[i]? = some n ∧ n' = f n) ∨
      (i ≠ id.toNat ∧ g.nodes[i]? = some n') := by
  rw [identified.nodes_modifyNode] at found
  split at found
  · next same =>
    obtain ⟨n, atN, rfl⟩ := Option.map_eq_some_iff.1 found
    exact .inl ⟨same, n, atN, rfl⟩
  · next different => exact .inr ⟨different, found⟩

theorem of_place {g : Graph} {n n' : Node} {i : Nat} (found : (g.place n).nodes[i]? = some n') :
    (i = g.nodes.size ∧ n' = n) ∨ (i < g.nodes.size ∧ g.nodes[i]? = some n') := by
  rw [nodes_place] at found
  split at found
  · next last => exact .inl ⟨last, (Option.some.inj found).symm⟩
  · exact .inr ⟨(Array.getElem?_eq_some_iff.1 found).1, found⟩

end Graph

namespace Validation

theorem cases_eq_nil {n n' : Node} (op : n'.op = n.op) (configuration : n'.configuration = n.configuration)
    (valuesIn : ∀ socket, n.valuesIn.contains socket = true → n'.valuesIn.contains socket = true)
    (flowsOut : ∀ socket, n.flowsOut.contains socket = true → n'.flowsOut.contains socket = true)
    (none : cases n = []) : cases n' = [] := by
  simp only [cases, Node.config?, op, configuration] at none ⊢
  split at none
  · rfl
  · next values _ =>
    simp only [List.filterMap_eq_nil_iff, ite_eq_left_iff, reduceCtorEq, imp_false,
      Classical.not_not] at none ⊢
    intro value member
    have present := none value member
    split at present
    · next isSwitch => simpa [isSwitch] using flowsOut _ present
    · next isOther => simpa [isOther] using valuesIn _ present

end Validation

namespace Node

/-- The tokens of a parameter stay once it is set. -/
theorem Evolves.tokensOf {settled : Prop} {n n' : Node} (evolves : n.Evolves settled n')
    {parameter name : String} (member : (Validation.tokensOf n parameter).contains name = true) :
    (Validation.tokensOf n' parameter).contains name = true := by
  unfold Validation.tokensOf at member ⊢
  rcases config : n.config? parameter with _ | value
  · simp [config] at member
  · rw [evolves.config _ _ config]
    rwa [config] at member

theorem Takes.evolves {settled : Prop} {n n' : Node} {socket : String} (takes : n.Takes socket)
    (evolves : n.Evolves settled n') : n'.Takes socket := by
  intro g
  have before := takes g
  unfold Validation.takesValueInput at before ⊢
  rw [evolves.op]
  rcases Bool.or_eq_true_iff.1 before with declared | dynamic
  · rw [declared, Bool.true_or]
  · refine Bool.or_eq_true_iff.2 (.inr ?_)
    split at dynamic
    · exact dynamic
    · exact evolves.tokensOf dynamic
    · exact evolves.tokensOf dynamic
    · unfold Validation.eventValueNames at dynamic ⊢
      rw [evolves.op]
      rcases config : n.config? "event" with _ | value
      · simp [config] at dynamic
      · rw [evolves.config _ _ config]
        rwa [config] at dynamic
    · exact absurd dynamic Bool.false_ne_true

end Node

namespace Graph

theorem At.lt {g : Graph} {i : Nat} {property : Node → Prop} (here : g.At i property) :
    i < g.nodes.size := by
  obtain ⟨_, found, _⟩ := here
  exact (Array.getElem?_eq_some_iff.1 found).1

theorem At.mono {g : Graph} {i : Nat} {property property' : Node → Prop} (here : g.At i property)
    (weaker : ∀ n, property n → property' n) : g.At i property' := by
  obtain ⟨n, found, holds⟩ := here
  exact ⟨n, found, weaker n holds⟩

theorem At.place {g : Graph} {i : Nat} {property : Node → Prop} (here : g.At i property) (n : Node) :
    (g.place n).At i property := by
  have inside := here.lt
  obtain ⟨m, found, holds⟩ := here
  exact ⟨m, by rw [nodes_place, if_neg (by omega), found], holds⟩

theorem At.modifyNode {g : Graph} {i : Nat} {property : Node → Prop} (here : g.At i property)
    (identified : g.Identified) {id : NodeId} {f : Node → Node}
    (keeps : ∀ n, i = id.toNat → property n → property (f n)) :
    (g.modifyNode id f).At i property := by
  obtain ⟨n, found, holds⟩ := here
  by_cases same : i = id.toNat
  · exact ⟨f n, by rw [identified.nodes_modifyNode, if_pos same, found, Option.map_some],
      keeps n same holds⟩
  · exact ⟨n, by rw [identified.nodes_modifyNode, if_neg same, found], holds⟩

theorem Finished.evolves {g g' : Graph} {n n' : Node} (finished : g.Finished n)
    (evolves : n.Evolves False n') (configuration : n'.configuration = n.configuration)
    (vars : g.vars.size ≤ g'.vars.size) (events : g.events.size ≤ g'.events.size)
    (message : n.op = .debugLog → ∀ socket, n'.valuesIn.contains socket = true → n'.Takes socket) :
    g'.Finished n' where
  configured := configuration ▸ finished.configured
  typed := by rw [evolves.index, evolves.outputs]; exact finished.typed
  variableRow op := by
    rw [evolves.op] at op
    obtain ⟨id, config, inside⟩ := finished.variableRow op
    exact ⟨id, evolves.config _ _ config, Nat.lt_of_lt_of_le inside vars⟩
  eventRow op := by
    rw [evolves.op] at op
    obtain ⟨id, config, inside⟩ := finished.eventRow op
    exact ⟨id, evolves.config _ _ config, Nat.lt_of_lt_of_le inside events⟩
  notSent := by rw [evolves.op]; exact finished.notSent
  cases op := by
    rw [evolves.op] at op
    exact Validation.cases_eq_nil evolves.op configuration evolves.valuesIn evolves.flowsOut
      (finished.cases op)
  message op := message (by rwa [← evolves.op])

end Graph

namespace Context

variable {cls : ScriptClass} {sources : Nat → Prop} {base : Nat} {c c' : Context}

/-- Every node of `c` is a node of `c'`, changed as steps may change it. -/
def Advances (c c' : Context) : Prop :=
  ∀ (i : Nat) (n : Node), c.graph.nodes[i]? = some n →
    ∃ n', c'.graph.nodes[i]? = some n' ∧ n.Evolves False n'

theorem Run.advances (run : Run cls sources base c c') (identified : c.graph.Identified) :
    c.Advances c' := by
  intro i n found
  obtain ⟨n', found', evolves⟩ := run.evolves identified found
  exact ⟨n', found', evolves.mono False.elim⟩

theorem Step.advances (step : Step cls sources base c c') (identified : c.graph.Identified) :
    c.Advances c' := (Run.one step).advances identified

theorem TablesGrow.stray (tables : c.TablesGrow c') {n n' : Node}
    (evolves : n.Evolves False n') {socket : String} (stray : c.graph.Stray cls n socket) :
    c'.graph.Stray cls n' socket := by
  obtain ⟨op, id, event, method, parameter, config, row, rest⟩ := stray
  exact ⟨evolves.op.trans op, id, event, method, parameter, evolves.config _ _ config,
    tables.events _ _ row, rest⟩

theorem Advances.offers (advances : c.Advances c') (tables : c.TablesGrow c') {a : SocketAddress}
    (offers : c.graph.Offers cls a) : c'.graph.Offers cls a := by
  rcases offers with placeholder | ⟨n, found, output⟩
  · exact .inl placeholder
  · obtain ⟨n', found', evolves⟩ := advances _ n found
    refine .inr ⟨n', found', output.imp (fun h => ?_) (tables.stray evolves)⟩
    rwa [evolves.outputs]

/-- Where a source of an input comes from: it fed the input before, or the step takes it from an offered
output that does not depend on the input's node. -/
theorem Step.source_origin (step : Step cls sources base c c') (identified : c.graph.Identified)
    {i : Nat} {n' : Node} {socket : String} {input : ValueInput} {source : SocketAddress}
    (found : c'.graph.nodes[i]? = some n') (atSocket : n'.valueIn? socket = some input)
    (fed : input.source = some source) :
    (∃ n before, c.graph.nodes[i]? = some n ∧ n.valueIn? socket = some before ∧
        before.source = some source) ∨
      (c.graph.Offers cls source ∧ source.Among sources ∧
        (i = c.graph.nodes.size ∨ c.graph.Severed i source)) := by
  cases step with
  | place draft =>
    rcases Graph.of_place found with ⟨last, rfl⟩ | ⟨_, old⟩
    · obtain ⟨offers, among⟩ := draft.offered socket input source atSocket fed
      exact .inr ⟨offers, among, .inl last⟩
    · exact .inl ⟨n', input, old, atSocket, fed⟩
  | feed _ _ _ _ offered among severed =>
    rcases identified.of_modifyNode found with ⟨same, n, old, rfl⟩ | ⟨_, old⟩
    · rw [Node.valueIn?_changeInput] at atSocket
      split at atSocket
      · obtain rfl := Option.some.inj atSocket
        obtain rfl := Option.some.inj fed
        exact .inr ⟨offered, among, .inr (same ▸ severed)⟩
      · exact .inl ⟨n, input, old, atSocket, fed⟩
    · exact .inl ⟨n', input, old, atSocket, fed⟩
  | @put a =>
    rcases identified.of_modifyNode found with ⟨_, n, old, rfl⟩ | ⟨_, old⟩
    · rw [Node.valueIn?_changeInput] at atSocket
      split at atSocket
      · next here =>
        obtain rfl := Option.some.inj atSocket
        rcases before : n.valueIn? a.socket with _ | earlier
        · simp [before, ValueInput.holding] at fed
        · exact .inl ⟨n, earlier, old, here ▸ before, by simpa [before, ValueInput.holding] using fed⟩
      · exact .inl ⟨n, input, old, atSocket, fed⟩
    · exact .inl ⟨n', input, old, atSocket, fed⟩
  | label =>
    rcases identified.of_modifyNode found with ⟨_, n, old, rfl⟩ | ⟨_, old⟩
    · exact .inl ⟨n, input, old, atSocket, fed⟩
    · exact .inl ⟨n', input, old, atSocket, fed⟩
  | @lead start target =>
    have led := identified.modifyNode start.address.node
      fun n => n.index_addTarget start.address.socket target.address
    rcases led.of_modifyNode found with ⟨_, m, old, rfl⟩ | ⟨_, old⟩ <;>
      rcases identified.of_modifyNode old with ⟨_, n, older, rfl⟩ | ⟨_, older⟩
    all_goals exact .inl ⟨_, input, older, atSocket, fed⟩
  | book same => exact .inl ⟨n', input, same ▸ found, atSocket, fed⟩

theorem Step.supplied (step : Step cls sources base c c') (identified : c.graph.Identified)
    (supplied : c.graph.Supplied cls) : c'.graph.Supplied cls := by
  intro i n' socket input source found atSocket fed
  refine (step.advances identified).offers step.tables ?_
  rcases step.source_origin identified found atSocket fed with ⟨n, before, old, here, same⟩ | ⟨offers, _⟩
  · exact supplied i n socket before source old here same
  · exact offers

/-- An edge after a step was there before, or leads to a source of the step. -/
theorem Step.reads_origin (step : Step cls sources base c c') (identified : c.graph.Identified)
    {m n : Nat} (reads : c'.graph.Reads m n) :
    c.graph.Reads m n ∨ (sources n ∧ ∃ source : SocketAddress, source.node.toNat = n ∧
      source.node.isPlaceholder = false ∧ c.graph.Offers cls source ∧
      (m = c.graph.nodes.size ∨ c.graph.Severed m source)) := by
  obtain ⟨node, socket, input, source, found, atSocket, fed, real, rfl⟩ := reads
  rcases step.source_origin identified found atSocket fed with
    ⟨n, before, old, here, same⟩ | ⟨offers, among, severed⟩
  · exact .inl ⟨n, socket, before, source, old, here, same, real, rfl⟩
  · have inside : sources source.node.toNat := among.resolve_left (by simp [real])
    exact .inr ⟨inside, source, rfl, real, offers, severed⟩

theorem Step.apart (step : Step cls sources base c c') (identified : c.graph.Identified)
    {block : Nat → Prop} (avoids : ∀ i, sources i → ¬ block i) (apart : c.graph.Apart block) :
    c'.graph.Apart block := by
  intro m n reads inside
  rcases step.reads_origin identified reads with old | ⟨source, _⟩
  · exact apart m n old inside
  · exact absurd inside (avoids n source)

theorem Step.declared (step : Step cls sources base c c') (identified : c.graph.Identified)
    (declared : c.graph.Declared) : c'.graph.Declared := by
  intro i n' socket found schema
  by_cases old : i < c.graph.nodes.size
  · obtain ⟨m, found', evolves⟩ :=
      step.advances identified i _ (Array.getElem?_eq_getElem old)
    obtain rfl := Option.some.inj (found.symm.trans found')
    rw [evolves.outputs]
    rw [evolves.op] at schema
    exact declared i _ socket (Array.getElem?_eq_getElem old) schema
  · cases step with
    | place draft =>
      rcases Graph.of_place found with ⟨_, rfl⟩ | ⟨inside, _⟩
      · exact draft.declares socket schema
      · exact absurd inside old
    | book same => exact declared i n' socket (same ▸ found) schema
    | feed | put | label | lead =>
      have inside := (Array.getElem?_eq_some_iff.1 found).1
      simp only [modifyNode, Graph.size_modifyNode] at inside
      exact absurd inside old

theorem TablesGrow.yields (tables : c.TablesGrow c') {n n' : Node} (evolves : n.Evolves False n')
    {socket : String} (yields : c.graph.Yields n socket) : c'.graph.Yields n' socket := by
  rw [Graph.Yields, evolves.op]
  refine yields.imp_right (And.imp_right ?_)
  rintro ⟨id, event, config, row, named⟩
  exact ⟨id, event, evolves.config _ _ config, tables.events _ _ row, named⟩

theorem Step.exact (step : Step cls sources base c c') (identified : c.graph.Identified)
    (exact : c.graph.Exact) : c'.graph.Exact := by
  intro i n' socket found output
  by_cases old : i < c.graph.nodes.size
  · obtain ⟨m, found', evolves⟩ :=
      step.advances identified i _ (Array.getElem?_eq_getElem old)
    obtain rfl := Option.some.inj (found.symm.trans found')
    rw [evolves.outputs] at output
    exact step.tables.yields evolves
      (exact i _ socket (Array.getElem?_eq_getElem old) output)
  · have tables := step.tables
    cases step with
    | place draft =>
      rcases Graph.of_place found with ⟨_, rfl⟩ | ⟨inside, _⟩
      · exact tables.yields (.refl _ _) (draft.outputs socket output)
      · exact absurd inside old
    | book same =>
      have inside := (Array.getElem?_eq_some_iff.1 found).1
      exact absurd (same ▸ inside) old
    | feed | put | label | lead =>
      have inside := (Array.getElem?_eq_some_iff.1 found).1
      simp only [modifyNode, Graph.size_modifyNode] at inside
      exact absurd inside old

theorem Step.announced (step : Step cls sources base c c') (announced : c.graph.Announced cls) :
    c'.graph.Announced cls := by
  intro i e found
  cases step with
  | place => exact announced i e found
  | book _ _ fresh => exact (fresh i e found).elim (announced i e) id
  | feed | put | label | lead =>
    simp only [modifyNode, Graph.events_modifyNode] at found
    exact announced i e found

theorem TablesGrow.vars_le (tables : c.TablesGrow c') : c.graph.vars.size ≤ c'.graph.vars.size := by
  refine Nat.le_of_not_lt fun less => ?_
  obtain ⟨_, found, _⟩ := tables.vars _ _ (Array.getElem?_eq_getElem less)
  exact Nat.lt_irrefl _ (Array.getElem?_eq_some_iff.1 found).1

theorem TablesGrow.events_le (tables : c.TablesGrow c') :
    c.graph.events.size ≤ c'.graph.events.size := by
  refine Nat.le_of_not_lt fun less => ?_
  have found := tables.events _ _ (Array.getElem?_eq_getElem less)
  exact Nat.lt_irrefl _ (Array.getElem?_eq_some_iff.1 found).1

/-- A finished log has a message, so that what is fed or set later is one of its slots. -/
theorem finished_changeInput {n : Node} (finished : c.graph.Finished n) {name : String}
    {f : ValueInput → ValueInput} (takes : n.Takes name ∨ n.Unlabeled) :
    n.op = .debugLog → ∀ socket, (n.changeInput name f).valuesIn.contains socket = true →
      (n.changeInput name f).Takes socket := by
  intro isLog socket member
  have known : n.Takes name := takes.resolve_right fun unlabeled =>
    finished.configured "message" unlabeled.2
  refine Node.takes_congr rfl rfl ?_
  simp only [Node.changeInput, Dict.contains, Dict.find?_update] at member
  split at member
  · next same => exact same ▸ known
  · exact finished.message isLog socket member

theorem Step.finished (step : Step cls sources base c c') (identified : c.graph.Identified)
    {i : Nat} {n : Node} (found : c.graph.nodes[i]? = some n) (finished : c.graph.Finished n) :
    c'.graph.At i c'.graph.Finished := by
  have vars := step.tables.vars_le
  have events := step.tables.events_le
  obtain ⟨n', found', evolves⟩ := step.advances identified i n found
  refine ⟨n', found', ?_⟩
  cases step with
  | place =>
    have inside := (Array.getElem?_eq_some_iff.1 found).1
    rw [Context.place, Graph.nodes_place, if_neg (by omega), found] at found'
    obtain rfl := Option.some.inj found'
    exact finished.evolves evolves rfl vars events finished.message
  | feed recent there takes =>
    rcases identified.of_modifyNode found' with ⟨same, m, old, rfl⟩ | ⟨_, old⟩
    · subst same
      obtain rfl := Option.some.inj (old.symm.trans found)
      obtain rfl := Option.some.inj (old.symm.trans there)
      exact finished.evolves evolves rfl vars events (finished_changeInput finished takes)
    · obtain rfl := Option.some.inj (old.symm.trans found)
      exact finished.evolves evolves rfl vars events finished.message
  | put recent there takes =>
    rcases identified.of_modifyNode found' with ⟨same, m, old, rfl⟩ | ⟨_, old⟩
    · subst same
      obtain rfl := Option.some.inj (old.symm.trans found)
      obtain rfl := Option.some.inj (old.symm.trans there)
      exact finished.evolves evolves rfl vars events (finished_changeInput finished (.inl takes))
    · obtain rfl := Option.some.inj (old.symm.trans found)
      exact finished.evolves evolves rfl vars events finished.message
  | label recent there isLog unset =>
    rcases identified.of_modifyNode found' with ⟨same, m, old, rfl⟩ | ⟨_, old⟩
    · subst same
      obtain rfl := Option.some.inj (there.symm.trans found)
      exact absurd unset (finished.configured _)
    · obtain rfl := Option.some.inj (old.symm.trans found)
      exact finished.evolves evolves rfl vars events finished.message
  | @lead start target =>
    have led := identified.modifyNode start.address.node
      fun n => n.index_addTarget start.address.socket target.address
    have same : n'.configuration = n.configuration ∧ n'.valuesIn = n.valuesIn := by
      rcases led.of_modifyNode found' with ⟨_, m, old, rfl⟩ | ⟨_, old⟩ <;>
        rcases identified.of_modifyNode old with ⟨_, l, older, rfl⟩ | ⟨_, older⟩ <;>
          obtain rfl := Option.some.inj (older.symm.trans found) <;> exact ⟨rfl, rfl⟩
    refine finished.evolves evolves same.1 vars events fun isLog socket member => ?_
    exact (finished.message isLog socket (same.2 ▸ member)).evolves evolves
  | book same =>
    rw [same, found] at found'
    obtain rfl := Option.some.inj found'
    exact finished.evolves evolves rfl vars events finished.message

theorem Run.finished (run : Run cls sources base c c') (identified : c.graph.Identified)
    {i : Nat} {n : Node} (found : c.graph.nodes[i]? = some n) (finished : c.graph.Finished n) :
    c'.graph.At i c'.graph.Finished := by
  induction run with
  | refl => exact ⟨n, found, finished⟩
  | next run step ih =>
    obtain ⟨m, atM, holds⟩ := ih
    exact step.finished (run.identified identified) atM holds

theorem Run.apart (run : Run cls sources base c c') (identified : c.graph.Identified)
    {block : Nat → Prop} (avoids : ∀ i, sources i → ¬ block i) (apart : c.graph.Apart block) :
    c'.graph.Apart block := by
  induction run with
  | refl => exact apart
  | next run step ih => exact step.apart (run.identified identified) avoids ih

theorem Run.wired (run : Run cls sources base c c') (wired : c.Wired cls) : c'.Wired cls := by
  induction run with
  | refl => exact wired
  | next _ step ih =>
    exact ⟨step.identified ih.identified, step.supplied ih.identified ih.supplied,
      step.declared ih.identified ih.declared, step.exact ih.identified ih.exact,
      step.announced ih.announced⟩

/-- A property that steps keep. -/
theorem Advances.at {i : Nat} {property : Node → Prop} (advances : c.Advances c')
    (here : c.graph.At i property)
    (keeps : ∀ n n' : Node, n.Evolves False n' → property n → property n') :
    c'.graph.At i property := by
  obtain ⟨n, found, holds⟩ := here
  obtain ⟨n', found', evolves⟩ := advances i n found
  exact ⟨n', found', keeps n n' evolves holds⟩

end Context

end ScriptGraph
