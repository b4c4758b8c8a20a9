import Mathlib
import ScriptGraph.Proofs.Construction.Order
import ScriptGraph.Proofs.Lower.Classes

/-!
The wiring of compiled graphs: a flow leads to one place at most, and no value depends on itself.

Both hold of the graph that lowering leaves, which was made by legal steps, and putting constants in
place only takes connections away. Identities are numbers of 32 bits, so a class is assumed not to use
them up (`Context.InRange`).
-/

namespace ScriptGraph

namespace Context

/-- A node whose constants are in place. -/
def resolveNode (c : Context) (n : Node) : Node := { n with valuesIn := n.valuesIn.map c.resolveInput }

/-- The graph with all constants in place. -/
def resolved (c : Context) : Graph := { c.graph with nodes := c.graph.nodes.map c.resolveNode }

theorem nodes_resolved {c : Context} {i : Nat} {n' : Node} (found : c.resolved.nodes[i]? = some n') :
    ∃ n, c.graph.nodes[i]? = some n ∧ n' = c.resolveNode n := by
  rw [resolved, Array.getElem?_map] at found
  obtain ⟨n, old, rfl⟩ := Option.map_eq_some_iff.1 found
  exact ⟨n, old, rfl⟩

theorem valueIn?_resolveNode (c : Context) (n : Node) (socket : String) :
    (c.resolveNode n).valueIn? socket = (n.valueIn? socket).map c.resolveInput :=
  Dict.find?_map c.resolveInput n.valuesIn socket

theorem resolveInput_of_real {c : Context} {x : ValueInput} (real : ∀ a, x.source = some a → a.node.isPlaceholder = false) :
    c.resolveInput x = x := by
  unfold resolveInput
  split
  · rfl
  · next a fed => rw [real a fed, if_neg (by decide)]

theorem resolveInput_of_placeholder {c : Context} {x : ValueInput} {a : SocketAddress} (fed : x.source = some a)
    (placeholder : a.node.isPlaceholder = true) :
    c.resolveInput x = { x with literal := (c.placeholderValue? ⟨a⟩).or x.literal, source := none } := by
  unfold resolveInput
  rw [fed]
  exact if_pos placeholder

/-- Where a constant is in place there is no source, and every other source was there before. -/
theorem source_resolveInput {c : Context} {input : ValueInput} {source : SocketAddress}
    (fed : (c.resolveInput input).source = some source) :
    input.source = some source ∧ source.node.isPlaceholder = false := by
  unfold resolveInput at fed
  split at fed
  · next none => cases none.symm.trans fed
  · next old some =>
    split at fed
    · cases fed
    · next real =>
      obtain rfl := Option.some.inj (some.symm.trans fed)
      exact ⟨some, by simpa using real⟩

theorem reads_resolved {c : Context} {m n : Nat} (reads : c.resolved.Reads m n) : c.graph.Reads m n := by
  obtain ⟨node', socket, input', source, found, atSocket, fed, real, rfl⟩ := reads
  obtain ⟨node, old, rfl⟩ := nodes_resolved found
  rw [valueIn?_resolveNode] at atSocket
  obtain ⟨input, there, rfl⟩ := Option.map_eq_some_iff.1 atSocket
  exact ⟨node, socket, input, source, old, there, (source_resolveInput fed).1, real, rfl⟩

end Context

namespace ScriptClass

/-- What a successful compilation consists of. -/
theorem compile_eq_ok {cls : ScriptClass} {options : Options} {targets : Targets} {a : Artifacts}
    (success : cls.compile options targets = .ok a) :
    a.graph = (cls.lowered options targets).resolved ∧
      a.validation = if options.validate then a.graph.validate else {} := by
  unfold compile at success
  split at success
  · cases success
  · unfold lowered
    split at success
    · cases success
    · next lowered result =>
      rw [result]
      cases success
      exact ⟨rfl, rfl⟩

/-- The numbers of nodes, placeholders, variables and events of a lowered class, if lowering succeeds. -/
def extent? (cls : ScriptClass) (options : Options) (targets : Targets) : Option (Nat × Nat × Nat × Nat) :=
  match Lower.lowerClass cls (startOfLowering options targets) with
  | (.error _, _) => none
  | (.ok (), lowered) =>
    some (lowered.context.graph.nodes.size, lowered.context.placeholders.size,
      lowered.context.graph.vars.size, lowered.context.graph.events.size)

theorem exists_compile_of_extent {cls : ScriptClass} {options : Options} {targets : Targets}
    {n p v e : Nat} (valid : options.problem? = none)
    (extent : cls.extent? options targets = some (n, p, v, e)) :
    ∃ a, cls.compile options targets = .ok a ∧
      (cls.lowered options targets).graph.nodes.size = n ∧
      (cls.lowered options targets).placeholders.size = p ∧
      (cls.lowered options targets).graph.vars.size = v ∧
      (cls.lowered options targets).graph.events.size = e := by
  unfold extent? at extent
  unfold compile lowered
  rw [valid]
  split at extent
  · cases extent
  · next lowered result =>
    rw [result]
    cases extent
    exact ⟨_, rfl, rfl, rfl, rfl, rfl⟩

theorem ordered_lowered {cls : ScriptClass} {options : Options} {targets : Targets}
    (inRange : (cls.lowered options targets).InRange) :
    (cls.lowered options targets).Wired cls ∧ (cls.lowered options targets).graph.Ordered := by
  obtain ⟨w, rfl, start, _, sound⟩ := cls.sound_lowered options targets inRange
  refine ⟨sound.wiredNow, sound.run.ordered sound.wired ?_⟩
  rw [start]
  refine ⟨fun i n found => (by cases found), fun i n _ _ found => (by cases found), fun i cycle => ?_⟩
  obtain ⟨_, ⟨_, _, _, _, found, _⟩, _⟩ := Relation.TransGen.head'_iff.1 cycle
  cases found

/-- Every flow output of a compiled graph leads to one place at most. -/
theorem compile_flow_targets_le_one {cls : ScriptClass} {options : Options} {targets : Targets}
    {a : Artifacts} (success : cls.compile options targets = .ok a)
    (inRange : (cls.lowered options targets).InRange) {n : Node} (member : n ∈ a.graph.nodes)
    {socket : String} {output : FlowOutput} (found : n.flowsOut.find? socket = some output) :
    output.targets.length ≤ 1 := by
  rw [(compile_eq_ok success).1] at member
  obtain ⟨i, there⟩ := Array.getElem?_of_mem member
  obtain ⟨before, old, rfl⟩ := Context.nodes_resolved there
  have narrow := ((ordered_lowered inRange).2.tidy i before old).narrow socket
  have same : before.flowsOut.find? socket = some output := found
  rwa [Node.targets, same, Option.getD_some] at narrow

/-- A class that counts upwards where a condition holds and downwards where it does not. -/
def counting : ScriptClass :=
  let count : Expression :=
    { kind := .identifier, name := some "count", resultType := some { name := "int" } }
  let write (operator : String) : Statement :=
    { kind := .expression
      expressions := [{ kind := .postfixUnary, operator := some operator, children := [count] }] }
  { name := "Counting"
    fields := [{ name := "count", fieldType := { name := "int" } },
      { name := "upwards", fieldType := { name := "bool" } }]
    methods := [{
      name := "Start"
      body := [
        { kind := .ifStatement
          children := [
            { kind := .condition
              expressions := [{ kind := .identifier, name := some "upwards",
                                resultType := some { name := "bool" } }] },
            { kind := .thenClause, children := [write "++"] },
            { kind := .elseClause, children := [write "--"] }] },
        write "++"] }] }

theorem extent_counting : counting.extent? {} {} = some (13, 0, 2, 0) := by cbv

theorem compile_counting : ∃ a, counting.compile {} {} = .ok a ∧ (counting.lowered {} {}).InRange := by
  obtain ⟨a, success, nodes, placeholders, _⟩ := exists_compile_of_extent rfl extent_counting
  refine ⟨a, success, ?_⟩
  rw [Context.InRange, nodes, placeholders]
  decide

/-- The two arms of a branch come together, and still every flow leads to one place. -/
theorem counting_flow_targets_le_one : ∃ a, counting.compile {} {} = .ok a ∧ ∀ n ∈ a.graph.nodes,
    ∀ socket output, n.flowsOut.find? socket = some output → output.targets.length ≤ 1 := by
  obtain ⟨a, success, inRange⟩ := compile_counting
  exact ⟨a, success, fun n member socket output found =>
    compile_flow_targets_le_one success inRange member found⟩

/-- Variables with the same name are the same, in every compiled graph. -/
theorem namesApart_compile {cls : ScriptClass} {options : Options} {targets : Targets} {a : Artifacts}
    (success : cls.compile options targets = .ok a) (inRange : (cls.lowered options targets).InRange) :
    a.graph.NamesApart := by
  obtain ⟨w, rfl, start, _, sound⟩ := cls.sound_lowered options targets inRange
  have none : w.start.graph.NamesApart := by
    rw [start]
    intro i j v v' found
    cases found
  rw [(compile_eq_ok success).1]
  exact sound.run.tables.apart none

end ScriptClass

namespace Graph

/-- Some value input of the node `m` has its source on the node `n`. -/
def DependsOn (g : Graph) (m n : NodeId) : Prop :=
  ∃ node ∈ g.nodes, node.index = m ∧ ∃ socket input source, node.valueIn? socket = some input ∧
    input.source = some source ∧ source.node = n

end Graph

namespace ScriptClass

/-- No value of a compiled graph depends on itself. -/
theorem compile_dependsOn_acyclic {cls : ScriptClass} {options : Options} {targets : Targets}
    {a : Artifacts} (success : cls.compile options targets = .ok a)
    (inRange : (cls.lowered options targets).InRange) (id : NodeId) :
    ¬ Relation.TransGen a.graph.DependsOn id id := by
  obtain ⟨wired, ordered⟩ := ordered_lowered inRange
  have edge (m n : NodeId) (depends : a.graph.DependsOn m n) :
      (cls.lowered options targets).graph.Reads m.toNat n.toNat := by
    obtain ⟨node, member, rfl, socket, input, source, atSocket, fed, rfl⟩ := depends
    rw [(compile_eq_ok success).1] at member
    obtain ⟨i, there⟩ := Array.getElem?_of_mem member
    obtain ⟨before, old, rfl⟩ := Context.nodes_resolved there
    have here : i < (cls.lowered options targets).graph.nodes.size :=
      (Array.getElem?_eq_some_iff.1 old).1
    have number : (Context.resolveNode (cls.lowered options targets) before).index.toNat = i := by
      refine (congrArg NodeId.toNat (wired.identified i before old)).trans (NodeId.toNat_ofNat ?_)
      exact Nat.lt_of_lt_of_le here inRange.1
    have reads := Context.reads_resolved
      ⟨_, socket, input, source, there, atSocket, fed, ?_, rfl⟩
    · rwa [number]
    · rw [Context.valueIn?_resolveNode] at atSocket
      obtain ⟨earlier, _, rfl⟩ := Option.map_eq_some_iff.1 atSocket
      exact (Context.source_resolveInput fed).2
  exact fun cycle => ordered.acyclic id.toNat (cycle.lift NodeId.toNat edge)

/-- The counter is read to be written, and yet its value does not depend on itself. -/
theorem counting_dependsOn_acyclic : ∃ a, counting.compile {} {} = .ok a ∧
    ∀ id, ¬ Relation.TransGen a.graph.DependsOn id id := by
  obtain ⟨a, success, inRange⟩ := compile_counting
  exact ⟨a, success, compile_dependsOn_acyclic success inRange⟩

end ScriptClass

end ScriptGraph
