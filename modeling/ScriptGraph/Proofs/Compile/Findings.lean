import Mathlib
import ScriptGraph.Proofs.Compile.Wiring

/-!
What validation can find in compiled graphs.

`Graph.Sturdy` gathers what lowering guarantees of a graph with its constants in place. In such a graph
every check but four passes: an input may be left unfed or get a value of the wrong type, a template may
name a socket that is not there, and a node index may be no index. A connection is broken only at a
parameter that has no type to be carried with.
-/

namespace ScriptGraph

theorem Dict.lookup_of_mem {α : Type} {key : String} {value : α} {entries : List (String × α)}
    (ascending : Ascending entries) (member : (key, value) ∈ entries) :
    lookup key entries = some value := by
  induction entries with
  | nil => cases member
  | cons head rest ih =>
    obtain ⟨above, tail⟩ := List.pairwise_cons.1 ascending
    rcases List.mem_cons.1 member with same | later
    · rw [← same, lookup, if_pos rfl]
    · have below := above _ later
      have different : head.1 ≠ key := fun same => String.lt_irrefl key (by rwa [same] at below)
      rw [lookup, if_neg different]
      exact ih tail later

theorem Dict.find?_of_mem_entries {α : Type} {d : Dict α} {key : String} {value : α}
    (member : (key, value) ∈ d.entries) : d.find? key = some value :=
  lookup_of_mem d.ascending member

theorem Dict.contains_of_mem_keys {α : Type} {d : Dict α} {key : String} (member : key ∈ d.keys) :
    d.contains key = true := by
  obtain ⟨entry, listed, rfl⟩ := List.mem_map.1 member
  exact Option.isSome_iff_exists.2 ⟨entry.2, find?_of_mem_entries listed⟩

theorem Dict.mem_map_of_lookup {α : Type} {key : String} {value : α} {entries : List (String × α)}
    (found : lookup key entries = some value) : (key, value) ∈ entries := by
  induction entries with
  | nil => cases found
  | cons head rest ih =>
    rw [lookup] at found
    split at found
    · next same =>
      cases found
      exact same ▸ List.mem_cons_self
    · exact List.mem_cons_of_mem _ (ih found)

theorem Dict.mem_keys_of_contains {α : Type} {d : Dict α} {key : String} (has : d.contains key = true) :
    key ∈ d.keys := by
  obtain ⟨value, found⟩ := Option.isSome_iff_exists.1 has
  exact List.mem_map.2 ⟨_, mem_map_of_lookup found, rfl⟩

/-- A graph as lowering leaves it when the constants are in place. -/
structure Graph.Sturdy (cls : ScriptClass) (g : Graph) : Prop where
  identified : g.Identified
  nodes_small : g.nodes.size < 0x40000000
  vars_small : g.vars.size < 0x40000000
  events_small : g.events.size < 0x40000000
  ordered : g.Ordered
  finished : ∀ (i : Nat) (n : Node), g.nodes[i]? = some n → g.Finished n
  exact : g.Exact
  supplied : ∀ (i : Nat) (n : Node) (socket : String) (input : ValueInput) (source : SocketAddress),
    g.nodes[i]? = some n → n.valueIn? socket = some input → input.source = some source →
      source.node.isPlaceholder = false ∧ g.Offers cls source

section Resolution

variable {c : Context} {cls : ScriptClass}

namespace Context

theorem contains_resolveNode (c : Context) (n : Node) (socket : String) :
    (c.resolveNode n).valuesIn.contains socket = n.valuesIn.contains socket := by
  rw [Dict.contains, Dict.contains, resolveNode, Dict.find?_map, Option.isSome_map]

theorem single_resolveInput {input : ValueInput} (single : input.literal = none ∨ input.source = none) :
    (c.resolveInput input).literal = none ∨ (c.resolveInput input).source = none := by
  unfold resolveInput
  split
  · exact single
  · split
    · exact .inr rfl
    · exact single

theorem tidy_resolveNode {n : Node} (tidy : n.Tidy) : (c.resolveNode n).Tidy :=
  { tidy with
    single := fun socket input found => by
      rw [valueIn?_resolveNode] at found
      obtain ⟨before, old, rfl⟩ := Option.map_eq_some_iff.1 found
      exact single_resolveInput (tidy.single socket before old)
    takes := fun notLog socket member => by
      rw [contains_resolveNode] at member
      exact Node.takes_congr rfl rfl (tidy.takes notLog socket member) }

theorem finished_resolveNode {n : Node} (finished : c.graph.Finished n) :
    c.resolved.Finished (c.resolveNode n) :=
  { finished with
    cases := fun op => by
      have none : Validation.cases n = [] := finished.cases op
      refine Validation.cases_eq_nil (n := n) rfl rfl (fun socket has => ?_)
        (fun _ has => has) none
      rwa [contains_resolveNode]
    message := fun op socket member => by
      rw [contains_resolveNode] at member
      exact Node.takes_congr rfl rfl (finished.message op socket member) }

theorem at_resolved {i : Nat} {property : Node → Prop} (here : c.graph.At i property)
    (keeps : ∀ n, property n → property (c.resolveNode n)) : c.resolved.At i property := by
  obtain ⟨n, found, holds⟩ := here
  refine ⟨c.resolveNode n, ?_, keeps n holds⟩
  rw [resolved, Array.getElem?_map, found, Option.map_some]

theorem offers_resolved {source : SocketAddress} (offers : c.graph.Offers cls source) :
    c.resolved.Offers cls source := by
  refine offers.imp_right fun offered => ?_
  have here : c.graph.At source.node.toNat fun n =>
      n.valuesOut.contains source.socket = true ∨ c.graph.Stray cls n source.socket := offered
  exact at_resolved here fun _ holds => holds

theorem ordered_resolved (ordered : c.graph.Ordered) : c.resolved.Ordered where
  tidy i n' found := by
    obtain ⟨n, old, rfl⟩ := nodes_resolved found
    exact tidy_resolveNode (ordered.tidy i n old)
  landed i n' socket target found leads := by
    obtain ⟨n, old, rfl⟩ := nodes_resolved found
    exact at_resolved (ordered.landed i n socket target old leads) fun _ holds => holds
  acyclic i cycle := ordered.acyclic i (cycle.lift id fun _ _ => reads_resolved)

end Context

theorem ScriptClass.sturdy_lowered {options : Options} {targets : Targets}
    (nodes : (cls.lowered options targets).graph.nodes.size < 0x40000000)
    (placeholders : (cls.lowered options targets).placeholders.size < 0x40000000)
    (vars : (cls.lowered options targets).graph.vars.size < 0x40000000)
    (events : (cls.lowered options targets).graph.events.size < 0x40000000) :
    (cls.lowered options targets).resolved.Sturdy cls := by
  have inRange : (cls.lowered options targets).InRange := by
    constructor
    · omega
    · rw [NodeId.placeholderBase]
      omega
  obtain ⟨wired, ordered⟩ := ordered_lowered inRange
  obtain ⟨w, rfl, start, pending, sound⟩ := cls.sound_lowered options targets inRange
  refine ⟨fun i n' found => ?_, ?_, vars, events, Context.ordered_resolved ordered, fun i n' found => ?_,
    fun i n' socket found => ?_, fun i n' socket input' source found atSocket fed => ?_⟩
  · obtain ⟨n, old, rfl⟩ := Context.nodes_resolved found
    exact wired.identified i n old
  · rw [Context.resolved, Array.size_map]
    exact nodes
  · obtain ⟨n, old, rfl⟩ := Context.nodes_resolved found
    refine Context.finished_resolveNode (sound.finished i n ?_ old (by simp [pending]))
    rw [start]
    exact Nat.zero_le _
  · obtain ⟨n, old, rfl⟩ := Context.nodes_resolved found
    exact wired.exact i n socket old
  · obtain ⟨n, old, rfl⟩ := Context.nodes_resolved found
    rw [Context.valueIn?_resolveNode] at atSocket
    obtain ⟨input, there, rfl⟩ := Option.map_eq_some_iff.1 atSocket
    obtain ⟨before, real⟩ := Context.source_resolveInput fed
    exact ⟨real, Context.offers_resolved (wired.supplied i n socket input source old there before)⟩

end Resolution

namespace Validation

/-- A parameter that points into its table is found there. -/
theorem reference_eq_nil {α : Type} {n : Node} {table : Array α} {parameter : String} {kind : FindingKind} {id : Nat}
    (small : table.size < 0x40000000) (config : n.config? parameter = some (.int (.ofNat id)))
    (inside : id < table.size) : reference n parameter table kind = [] := by
  have number : (Int32.ofNat id).toInt = id := Int32.toInt_ofNat_of_lt (by omega)
  have there : tableRow? table (Int32.ofNat id) = some table[id] := by
    rw [tableRow?, number, if_neg (by omega), Int.toNat_natCast,
      Array.getElem?_eq_getElem inside]
  simp [reference, config, ConfigValue.toInt?, there]

end Validation

namespace Graph.Sturdy

variable {cls : ScriptClass} {g : Graph} (sturdy : g.Sturdy cls)
include sturdy

theorem toNat_index {i : Nat} {n : Node} (found : g.nodes[i]? = some n) : n.index.toNat = i := by
  have inside := (Array.getElem?_eq_some_iff.1 found).1
  have small := sturdy.nodes_small
  rw [sturdy.identified i n found, NodeId.toNat_ofNat (by omega)]

theorem real_index {i : Nat} {n : Node} (found : g.nodes[i]? = some n) : n.index.isPlaceholder = false := by
  have inside := (Array.getElem?_eq_some_iff.1 found).1
  have small := sturdy.nodes_small
  rw [NodeId.isPlaceholder, sturdy.toNat_index found, NodeId.placeholderBase]
  simp only [decide_eq_false_iff_not]
  omega

/-- A connection that reaches no output comes from a parameter without a type. -/
theorem stray_of_problem {source : SocketAddress} (real : source.node.isPlaceholder = false)
    (offers : g.Offers cls source) {problem : String}
    (broken : g.connectionProblem? source = some problem) :
    ∃ feeder, g.node? source.node = some feeder ∧ g.Stray cls feeder source.socket := by
  obtain ⟨feeder, found, output⟩ := offers.resolve_left (by simp [real])
  have there : g.node? source.node = some feeder := (sturdy.identified.node? _).trans found
  refine ⟨feeder, there, output.resolve_left fun has => ?_⟩
  simp [connectionProblem?, real, there, has] at broken

/-- A source without a problem is an output of the graph. -/
theorem mem_outputs {source : SocketAddress} (whole : g.connectionProblem? source = none) :
    source ∈ g.outputs ∧ ∃ feeder, g.nodes[source.node.toNat]? = some feeder ∧
      feeder.valuesOut.contains source.socket = true := by
  unfold connectionProblem? at whole
  split at whole
  · cases whole
  · split at whole
    · cases whole
    · next feeder there =>
      split at whole
      · next has =>
        rw [sturdy.identified.node?] at there
        refine ⟨List.mem_flatMap.2 ⟨feeder, ?_, List.mem_map.2 ⟨source.socket, ?_, ?_⟩⟩, feeder, there,
          has⟩
        · exact Array.mem_toList_iff.2 (Array.mem_of_getElem? there)
        · exact Dict.mem_keys_of_contains has
        · rw [sturdy.identified _ _ there, NodeId.ofNat_toNat]
      · cases whole

/-- A chain of inputs that share their types ends: it visits no address twice, and there are only so many. -/
theorem outputTypeWithin_ne_undetermined (fuel : Nat) (visited : List SocketAddress)
    (source : SocketAddress) (whole : g.connectionProblem? source = none) (nodup : visited.Nodup)
    (known : ∀ v ∈ visited, v ∈ g.outputs)
    (behind : ∀ v ∈ visited, Relation.TransGen g.Reads v.node.toNat source.node.toNat)
    (enough : g.outputs.length < fuel + visited.length) :
    g.outputTypeWithin fuel visited source ≠ .undetermined := by
  induction fuel generalizing visited source with
  | zero =>
    have few : visited.length ≤ g.outputs.length := (List.Nodup.subperm nodup known).length_le
    omega
  | succ fuel ih =>
    obtain ⟨listed, feeder, found, has⟩ := sturdy.mem_outputs whole
    have new : source ∉ visited := fun again => sturdy.ordered.acyclic _ (behind source again)
    have there : g.node? source.node = some feeder := (sturdy.identified.node? _).trans found
    obtain ⟨output, atSocket⟩ := Option.isSome_iff_exists.1 has
    have typed := (sturdy.finished _ feeder found).typed (sturdy.real_index found) _ output atSocket
    obtain ⟨expected, declared⟩ := Option.ne_none_iff_exists'.1 typed
    simp only [outputTypeWithin, List.contains_iff_mem, new, if_false, there, atSocket, Option.bind_some,
      declared]
    split
    · simp
    · next none => cases none
    · next name same =>
      split
      · simp
      · next input atName =>
        split
        · simp
        · next next _ fed =>
          split
          · simp
          · next sound =>
            have whole : g.connectionProblem? next = none := by simpa using sound
            have real := (sturdy.supplied _ feeder name input next found atName fed).1
            have reads : g.Reads source.node.toNat next.node.toNat :=
              ⟨feeder, name, input, next, found, atName, fed, real, rfl⟩
            refine ih (source :: visited) next whole (List.nodup_cons.2 ⟨new, nodup⟩) ?_ ?_ ?_
            · exact List.forall_mem_cons.2 ⟨listed, known⟩
            · exact List.forall_mem_cons.2 ⟨.single reads, fun v member => (behind v member).tail reads⟩
            · rw [List.length_cons]
              omega
        · simp

theorem outputType_ne_undetermined {source : SocketAddress} (whole : g.connectionProblem? source = none) :
    g.outputType source ≠ .undetermined := by
  refine sturdy.outputTypeWithin_ne_undetermined _ [] source whole List.nodup_nil (by simp) (by simp) ?_
  simp

variable {i : Nat} {n : Node} (found : g.nodes[i]? = some n)
include found

theorem configuration_eq_nil : Validation.configuration n = [] := by
  refine List.filterMap_eq_nil_iff.2 fun ⟨name, value⟩ member => ?_
  have set := (sturdy.finished i n found).configured name
  rw [Dict.find?_of_mem_entries member] at set
  cases value with
  | none => exact absurd rfl set
  | some value => rfl

theorem takesValueInput_of_contains {socket : String} (has : n.valuesIn.contains socket = true) :
    Validation.takesValueInput g n socket = true := by
  by_cases isLog : n.op = .debugLog
  · exact (sturdy.finished i n found).message isLog socket has g
  · exact (sturdy.ordered.tidy i n found).takes isLog socket has g

theorem hasValueOutput_of_contains {socket : String} (has : n.valuesOut.contains socket = true) :
    Validation.hasValueOutput g n socket = true := by
  rw [Validation.hasValueOutput]
  rcases sturdy.exact i n socket found has with schema | ⟨op, id, event, config, row, carried⟩
  · rw [schema, Bool.true_or]
  · have inside := (Array.getElem?_eq_some_iff.1 row).1
    have small := sturdy.events_small
    have number : (Int32.ofNat id).toInt = id := Int32.toInt_ofNat_of_lt (by omega)
    have there : Validation.tableRow? g.events (Int32.ofNat id) = some event := by
      rw [Validation.tableRow?, number, if_neg (by omega), Int.toNat_natCast, row]
    have names : Validation.eventValueNames g n = event.values.map (·.name) := by
      simp only [Validation.eventValueNames, op, config, Option.bind_some, ConfigValue.toInt?, there]
      rfl
    rw [names, List.contains_iff_mem.2 carried, op]
    rfl

theorem sockets_eq_nil : Validation.sockets g n = [] := by
  have tidy := sturdy.ordered.tidy i n found
  have declared {names : List String} {accepts : String → Bool} {message : String}
      (all : ∀ name ∈ names, accepts name = true) :
      Validation.undeclared n names accepts message = [] :=
    List.filterMap_eq_nil_iff.2 fun name member => if_pos (all name member)
  have inputs (socket : String) (member : socket ∈ n.valuesIn.keys) :=
    sturdy.takesValueInput_of_contains found (Dict.contains_of_mem_keys member)
  have outputs (socket : String) (member : socket ∈ n.valuesOut.keys) :=
    sturdy.hasValueOutput_of_contains found (Dict.contains_of_mem_keys member)
  rw [Validation.sockets, declared inputs, declared outputs,
    declared fun socket member => tidy.enters socket (Dict.contains_of_mem_keys member),
    declared fun socket member => tidy.leads socket (Dict.contains_of_mem_keys member)]
  rfl

theorem flowOutputs_eq_nil : Validation.flowOutputs g n = [] := by
  refine List.flatMap_eq_nil_iff.2 fun ⟨socket, output⟩ member => ?_
  have here := Dict.find?_of_mem_entries member
  have targets : n.targets socket = output.targets := by rw [Node.targets, here, Option.getD_some]
  have narrow := (sturdy.ordered.tidy i n found).narrow socket
  rw [targets] at narrow
  simp only [if_neg (Nat.not_lt.2 narrow), List.nil_append]
  refine List.filterMap_eq_nil_iff.2 fun target listed => ?_
  obtain ⟨next, there, enters⟩ := sturdy.ordered.landed i n socket target found (targets ▸ listed)
  rw [Validation.targetProblem?, sturdy.identified.node?, there]
  simp [enters]

theorem kind_of_mem_special {f : Finding} (member : f ∈ Validation.special g n) :
    f.kind = .missingTemplateInput ∨ f.kind = .invalidNodeIndex := by
  have finished := sturdy.finished i n found
  have pointers (listed : f ∈ Validation.pointer n) :
      f.kind = .missingTemplateInput ∨ f.kind = .invalidNodeIndex := by
    obtain ⟨name, _, here⟩ := List.mem_flatMap.1 listed
    split at here
    · exact .inl (by rw [List.mem_singleton.1 here]; rfl)
    · split at here
      · cases here
      · split at here
        · cases here
        · split at here
          · cases here
          · exact .inr (by rw [List.mem_singleton.1 here]; rfl)
  have rows (op : n.op = .variableGet ∨ n.op = .variableSet) :
      Validation.reference n "variable" g.vars .unknownVariable = [] := by
    obtain ⟨id, config, inside⟩ := finished.variableRow op
    exact Validation.reference_eq_nil sturdy.vars_small config inside
  unfold Validation.special at member
  split at member
  · exact pointers member
  · exact pointers member
  · next op => rw [rows (.inl op)] at member; cases member
  · next op => rw [rows (.inr op)] at member; cases member
  · next op =>
    obtain ⟨id, config, inside⟩ := finished.eventRow op
    rw [Validation.reference_eq_nil sturdy.events_small config inside] at member
    cases member
  · next op => exact absurd op finished.notSent
  · obtain ⟨name, _, here⟩ := List.mem_filterMap.1 member
    split at here
    · cases here
    · obtain rfl := Option.some.inj here
      exact .inl rfl
  · next op => rw [finished.cases (.inl op)] at member; cases member
  · next op => rw [finished.cases (.inr op)] at member; cases member
  · cases member

/-- A problem of a value input is that it is not fed, that its value has the wrong type, or that it is fed
by a parameter without a type. -/
theorem kind_of_mem_valueInputs {f : Finding} (member : f ∈ Validation.valueInputs g n) :
    f.kind = .danglingInput ∨ f.kind = .typeMismatch ∨ f.kind = .brokenConnection ∧
      ∃ socket input source feeder, f.node = n.index ∧ f.socket = some socket ∧
        n.valueIn? socket = some input ∧ input.source = some source ∧
        g.node? source.node = some feeder ∧ g.Stray cls feeder source.socket := by
  obtain ⟨⟨socket, input⟩, entry, here⟩ := List.mem_flatMap.1 member
  have atSocket : n.valueIn? socket = some input := Dict.find?_of_mem_entries entry
  have mismatches {actual : ValueType} (listed : f ∈ Validation.mismatch g n socket input actual) :
      f.kind = .typeMismatch := by
    unfold Validation.mismatch at listed
    split at listed
    · cases listed
    · split at listed
      · cases listed
      · rw [List.mem_singleton.1 listed]
        rfl
  simp only [Validation.valueInput] at here
  split at here
  · exact .inl (by rw [List.mem_singleton.1 here]; rfl)
  · next held fed =>
    have single := (sturdy.ordered.tidy i n found).single socket input atSocket
    simp [held, fed] at single
  · exact .inr (.inl (mismatches here))
  · next source _ fed =>
    obtain ⟨real, offers⟩ := sturdy.supplied i n socket input source found atSocket fed
    split at here
    · next problem broken =>
      obtain ⟨feeder, there, stray⟩ := sturdy.stray_of_problem real offers broken
      rw [List.mem_singleton.1 here]
      refine .inr (.inr ⟨by simp [real, Validation.finding], socket, input, source, feeder, rfl, rfl,
        atSocket, fed, there, stray⟩)
    · next whole =>
      split at here
      · next undetermined => exact absurd undetermined (sturdy.outputType_ne_undetermined whole)
      · cases here
      · exact .inr (.inl (mismatches here))

theorem kind_of_mem_node {f : Finding} (member : f ∈ Validation.node g n) :
    f.kind ∈ [.danglingInput, .typeMismatch, .missingTemplateInput, .invalidNodeIndex] ∨
      f.kind = .brokenConnection ∧ ∃ socket input source feeder, f.node = n.index ∧
        f.socket = some socket ∧ n.valueIn? socket = some input ∧ input.source = some source ∧
        g.node? source.node = some feeder ∧ g.Stray cls feeder source.socket := by
  rw [Validation.node, sturdy.configuration_eq_nil found, sturdy.sockets_eq_nil found,
    sturdy.flowOutputs_eq_nil found, List.append_nil, List.nil_append, List.nil_append] at member
  rcases List.mem_append.1 member with input | special
  · rcases sturdy.kind_of_mem_valueInputs found input with dangling | mismatch | broken
    · exact .inl (by simp [dangling])
    · exact .inl (by simp [mismatch])
    · exact .inr broken
  · rcases sturdy.kind_of_mem_special found special with missing | invalid
    · exact .inl (by simp [missing])
    · exact .inl (by simp [invalid])

end Graph.Sturdy

namespace HostType

theorem storageType?_eq_none {t : HostType} (none : t.storageType? = none) :
    t.valueType? = Option.none ∧ t.isObject = false := by
  obtain ⟨value, object⟩ := Option.or_eq_none_iff.1 none
  refine ⟨value, ?_⟩
  cases isObject : t.isObject with
  | true => simp [isObject] at object
  | false => rfl

end HostType

namespace ScriptClass

/-- Findings that no compiled graph gives rise to. -/
def soundKinds : List FindingKind :=
  [.missingConfiguration, .undeclaredSocket, .conflictingInput, .placeholderConnection, .unresolvedType,
    .brokenFlow, .unknownVariable, .unknownEvent, .missingCase]

/-- Validation of a compiled graph finds nothing that lowering is answerable for. A connection is broken
only where the input is fed by the node that receives the event of a method, at the name of a parameter
whose type is neither a value type nor that of an object. -/
theorem compile_findings_sound {cls : ScriptClass} {options : Options} {targets : Targets}
    {a : Artifacts} (success : cls.compile options targets = .ok a)
    (nodes : (cls.lowered options targets).graph.nodes.size < 0x40000000)
    (placeholders : (cls.lowered options targets).placeholders.size < 0x40000000)
    (vars : (cls.lowered options targets).graph.vars.size < 0x40000000)
    (events : (cls.lowered options targets).graph.events.size < 0x40000000)
    {f : Finding} (member : f ∈ a.validation.findings) :
    f.kind ∉ soundKinds ∧ (f.kind = .brokenConnection →
      ∃ n ∈ a.graph.nodes, ∃ socket input source feeder, f.node = n.index ∧ f.socket = some socket ∧
        n.valueIn? socket = some input ∧ input.source = some source ∧
        a.graph.node? source.node = some feeder ∧ feeder.op = .eventReceive ∧
        ∃ id event method parameter, feeder.config? "event" = some (.int (.ofNat id)) ∧
          a.graph.events[id]? = some event ∧ cls.method? event.name = some method ∧
          parameter ∈ method.parameters ∧ parameter.name = source.socket ∧
          parameter.paramType.valueType? = none ∧ parameter.paramType.isObject = false) := by
  obtain ⟨graph, validation⟩ := compile_eq_ok success
  have sturdy : a.graph.Sturdy cls := graph ▸ sturdy_lowered nodes placeholders vars events
  have listed : f ∈ a.graph.validate.findings := by
    rw [validation] at member
    split at member
    · exact member
    · cases member
  obtain ⟨n, here, found⟩ := List.mem_flatMap.1 listed
  have here : n ∈ a.graph.nodes := Array.mem_toList_iff.1 here
  obtain ⟨i, there⟩ := Array.getElem?_of_mem here
  rcases sturdy.kind_of_mem_node there found with harmless | ⟨broken, socket, input, source, feeder,
    node, atSocket, value, fed, reached, op, id, event, method, parameter, config, row, named, declared,
    name, untyped⟩
  · simp only [List.mem_cons, List.not_mem_nil, or_false] at harmless
    rcases harmless with kind | kind | kind | kind <;> simp [kind, soundKinds]
  · refine ⟨by simp [broken, soundKinds], fun _ => ⟨n, here, socket, input, source, feeder, node, atSocket,
      value, fed, reached, op, id, event, method, parameter, config, row, named, declared, name, ?_⟩⟩
    exact HostType.storageType?_eq_none untyped

/-- A class whose only statement stores a text, which an event cannot carry, in a number. -/
def doorbell : ScriptClass :=
  { name := "Doorbell"
    fields := [{ name := "visitors", fieldType := { name := "int" } }]
    methods := [{
      name := "Ring"
      parameters := [{ name := "who", paramType := { name := "string" } }]
      body := [{
        kind := .expression
        expressions := [{
          kind := .assignment
          operator := some "="
          children := [{ kind := .identifier, name := some "visitors" },
            { kind := .identifier, name := some "who" }] }] }] }] }

/-- A connection to a parameter without a socket is found to be broken. -/
theorem doorbell_findings_sound : ∃ a, doorbell.compile { entryPoints := ["Ring"] } {} = .ok a ∧
    ∃ f ∈ a.validation.findings, f.kind = .brokenConnection ∧
      ∃ n ∈ a.graph.nodes, ∃ socket input source feeder, f.node = n.index ∧ f.socket = some socket ∧
        n.valueIn? socket = some input ∧ input.source = some source ∧
        a.graph.node? source.node = some feeder ∧ feeder.op = .eventReceive ∧
        ∃ id event method parameter, feeder.config? "event" = some (.int (.ofNat id)) ∧
          a.graph.events[id]? = some event ∧ doorbell.method? event.name = some method ∧
          parameter ∈ method.parameters ∧ parameter.name = source.socket ∧
          parameter.paramType.valueType? = none ∧ parameter.paramType.isObject = false := by
  have compiled : (doorbell.extent? { entryPoints := ["Ring"] } {},
      (doorbell.compile { entryPoints := ["Ring"] } {}).map (·.validation.findings)) =
      (some (2, 0, 1, 1), .ok [⟨.ofNat 1, .variableSet, some "value", .brokenConnection,
        "connected to missing output #0000.who"⟩]) := by cbv
  obtain ⟨extent, findings⟩ := Prod.mk.inj compiled
  obtain ⟨a, success, nodes, placeholders, vars, events⟩ := exists_compile_of_extent rfl extent
  rw [success] at findings
  obtain ⟨f, found, broken⟩ : ∃ f ∈ a.validation.findings, f.kind = .brokenConnection := by
    have listed : a.validation.findings = _ := Except.ok.inj findings
    rw [listed]
    exact ⟨_, List.mem_singleton_self _, rfl⟩
  refine ⟨a, success, f, found, broken, ?_⟩
  exact (compile_findings_sound success (by rw [nodes]; decide) (by rw [placeholders]; decide)
    (by rw [vars]; decide) (by rw [events]; decide) found).2 broken

end ScriptClass

end ScriptGraph
