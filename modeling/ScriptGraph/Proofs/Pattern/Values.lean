import ScriptGraph.Pattern.Quaternion
import ScriptGraph.Pattern.Variable
import ScriptGraph.Proofs.Construction.Creation

/-!
What is known after the patterns of values: functions, conversions of space, rotations, and reads and
writes of variables.
-/

namespace ScriptGraph

/-- The sockets of linked inputs are those of the single ones. -/
@[simp] theorem ValueIn.mem_link {inputs : List ValueIn} {a : SocketAddress} :
    a ∈ (ValueIn.link inputs).sockets ↔ ∃ t ∈ inputs, a ∈ t.sockets := by
  have general (known rest : List SocketAddress) :
      a ∈ ValueIn.addNew known rest ↔ a ∈ known ∨ a ∈ rest := by
    induction rest generalizing known with
    | nil => simp [ValueIn.addNew]
    | cons head rest ih =>
      rw [ValueIn.addNew, ih]
      split
      · next old =>
        have := List.contains_iff_mem.1 old
        by_cases same : a = head <;> simp [same, this]
      · simp [or_assoc]
  rw [ValueIn.link, general]
  simp [List.mem_flatMap]

/-- An operation without parameters that computes its output `value` from the given inputs. -/
abbrev Op.Computes (op : Op) (sockets : List String) : Prop := op.Has ["value"] sockets [] []

namespace Known

variable {w : Scope} {facts : List Fact} {exits : List FlowOut} {c : Context}

theorem unary {op : Op} {a : ValueOut} (known : Known w facts exits c) (computes : op.Computes ["a"])
    (given : .out a ∈ facts) :
    Ensures (Pattern.unary op a) c fun v c' => Known w (.out v :: facts) exits c' := by
  refine (known.enter.createNode computes).bind fun id _ k => ?_
  refine (k.connect (t := id.valueIn "a") (by simp) (by simpa)).bind fun _ _ k => .pure ?_
  exact known.leave k (by simp +contextual)

theorem binary {op : Op} {a b : ValueOut} (known : Known w facts exits c)
    (computes : op.Computes ["a", "b"]) (givenA : .out a ∈ facts) (givenB : .out b ∈ facts) :
    Ensures (Pattern.binary op a b) c fun v c' => Known w (.out v :: facts) exits c' := by
  refine (known.enter.createNode computes).bind fun id _ k => ?_
  refine (k.connect (t := id.valueIn "a") (by simp) (by simpa)).bind fun _ _ k => ?_
  refine (k.connect (t := id.valueIn "b") (by simp) (by simpa)).bind fun _ _ k => .pure ?_
  exact known.leave k (by simp +contextual)

theorem binaryLiteral {op : Op} {a : ValueOut} {b : Literal} (known : Known w facts exits c)
    (computes : op.Computes ["a", "b"]) (given : .out a ∈ facts) :
    Ensures (Pattern.binaryLiteral op a b) c fun v c' => Known w (.out v :: facts) exits c' := by
  refine (known.enter.createNode computes).bind fun id _ k => ?_
  refine (k.connect (t := id.valueIn "a") (by simp) (by simpa)).bind fun _ _ k => ?_
  refine (k.setLiteral (by simp)).bind fun _ _ k => .pure ?_
  exact known.leave k (by simp +contextual)

theorem select {condition ifTrue ifFalse : ValueOut} (known : Known w facts exits c)
    (chosen : .out condition ∈ facts) (first : .out ifTrue ∈ facts) (second : .out ifFalse ∈ facts) :
    Ensures (Pattern.select condition ifTrue ifFalse) c fun v c' =>
      Known w (.out v :: facts) exits c' := by
  refine (known.enter.createNode
    (by decide : Op.mathSelect.Computes ["condition", "a", "b"])).bind fun id _ k => ?_
  refine (k.connect (t := id.valueIn "condition") (by simp) (by simpa)).bind fun _ _ k => ?_
  refine (k.connect (t := id.valueIn "a") (by simp) (by simpa)).bind fun _ _ k => ?_
  refine (k.connect (t := id.valueIn "b") (by simp) (by simpa)).bind fun _ _ k => .pure ?_
  exact known.leave k (by simp +contextual)

theorem connectAll {node : NodeId} (sockets : List String) (parts : List ValueOut)
    (known : Known w facts exits c) (into : ∀ socket ∈ sockets, .input ⟨node, socket⟩ ∈ facts)
    (given : ∀ v ∈ parts, .arg v ∈ facts) :
    Ensures (Pattern.connectAll node sockets parts) c fun _ c' =>
      Known w (fed facts (sockets.map (SocketAddress.mk node))) exits c' := by
  induction sockets generalizing parts c facts with
  | nil => exact known.weaken (by simp)
  | cons socket rest ih =>
    cases parts with
    | nil => exact known.weaken (by simp +contextual)
    | cons part parts =>
      refine (known.connect (t := node.valueIn socket) (by simp [into]) (by simp [given])).bind
        fun _ _ k => ?_
      refine (ih parts k (fun s member => ?_) (fun v member => ?_)).mono fun _ _ k =>
        k.weaken (by simp +contextual)
      · simpa using into s (List.mem_cons_of_mem _ member)
      · simpa using given v (List.mem_cons_of_mem _ member)

/-- A new node that is fed from several values in order. -/
theorem createCombination {op : Op} {sockets : List String} (parts : List ValueOut)
    (known : Known w facts exits c) (computes : op.Computes sockets)
    (given : ∀ v ∈ parts, .out v ∈ facts) :
    Ensures (do let node ← Build.createNode op; Pattern.connectAll node sockets parts
                return node.valueOut "value") c fun v c' => Known w (.out v :: facts) exits c' := by
  refine (known.enter.createNode computes).bind fun id _ k => ?_
  refine (k.connectAll sockets parts (by simp +contextual) (by simpa)).bind fun _ _ k => .pure ?_
  exact known.leave k (by simp +contextual)

theorem connectAll_take (node : NodeId) (sockets : List String) (parts : List ValueOut) :
    Pattern.connectAll node sockets parts =
      Pattern.connectAll node (sockets.take parts.length) parts := by
  induction sockets generalizing parts with
  | nil => simp
  | cons socket rest ih =>
    cases parts with
    | nil => rfl
    | cons part parts =>
      simp only [Pattern.connectAll, List.length_cons, List.take_succ_cons]
      rw [ih]

theorem combine? {parts : List ValueOut} (known : Known w facts exits c)
    (given : ∀ v ∈ parts, .out v ∈ facts) :
    Ensures (Pattern.combine? parts) c fun v? c' =>
      Known w (v?.toList.map .out ++ facts) exits c' := by
  have combines {op : Op} (computes : op.Computes (Pattern.componentSockets.take parts.length)) :
      Ensures (do let node ← Build.createNode op
                  Pattern.connectAll node Pattern.componentSockets parts
                  return some (node.valueOut "value")) c fun v? c' =>
        Known w (v?.toList.map .out ++ facts) exits c' := by
    simp only [connectAll_take _ Pattern.componentSockets]
    exact known.createCombination parts computes given
  unfold Pattern.combine?
  split
  · next count => exact combines (by rw [count]; decide)
  · next count => exact combines (by rw [count]; decide)
  · next count => exact combines (by rw [count]; decide)
  · exact .pure known

theorem extract? {vector : ValueOut} {count : Nat} (known : Known w facts exits c)
    (given : .out vector ∈ facts) :
    Ensures (Pattern.extract? vector count) c fun parts? c' =>
      Known w ((parts?.getD []).map .out ++ facts) exits c' := by
  have extracts {op : Op} (has : op.Has ((List.range count).map toString) ["a"] [] []) :
      Ensures (do let node ← Build.createNode op; Build.connect (node.valueIn "a") vector
                  return some ((List.range count).map fun i => node.valueOut (toString i))) c
        fun parts? c' => Known w ((parts?.getD []).map .out ++ facts) exits c' := by
    refine (known.enter.createNode has).bind fun id _ k => ?_
    refine (k.connect (t := id.valueIn "a") (by simp) (by simpa)).bind fun _ _ k => .pure ?_
    refine known.leave k fun f member => ?_
    rcases List.mem_append.1 member with new | old
    · simp only [Option.getD_some, List.mem_map] at new
      obtain ⟨_, ⟨i, inside, rfl⟩, rfl⟩ := new
      have output : Fact.out (id.valueOut (toString i)) ∈
          ((List.range count).map toString).map fun socket => .out (id.valueOut socket) :=
        List.mem_map.2 ⟨_, List.mem_map.2 ⟨i, inside, rfl⟩, rfl⟩
      exact .inr ⟨mem_fed.2 ⟨by simp only [made, List.mem_append, List.mem_cons, output, true_or, or_true],
        by simp⟩, rfl⟩
    · exact .inl old
  unfold Pattern.extract?
  split
  · exact extracts (by decide)
  · exact extracts (by decide)
  · exact extracts (by decide)
  · exact .pure known

/-- A multiplication by constant signs, with its input and its output. -/
theorem flip {factor : Literal} (known : Known w facts exits c) :
    Ensures (Pattern.flip factor) c fun ends c' =>
      Known w (.out ends.2 :: ends.1.sockets.map .input ++ facts) exits c' := by
  refine (known.enter.createNode (by decide : Op.mathMul.Computes ["a", "b"])).bind fun id _ k => ?_
  refine (k.setLiteral (by simp)).bind fun _ _ k => .pure ?_
  exact known.leave k (by simp +contextual)

theorem convert {factor : Literal} {value : ValueOut} (known : Known w facts exits c)
    (given : .out value ∈ facts) :
    Ensures (Pattern.convert factor value) c fun v c' => Known w (.out v :: facts) exits c' := by
  unfold Pattern.convert
  refine .getBind ?_
  split
  · refine known.enter.flip.bind fun ends _ k => ?_
    refine (k.connect (by simp +contextual) (by simpa)).bind fun _ _ k => .pure ?_
    exact known.leave k (by simp +contextual)
  · exact .pure (known.weaken (by simp [given]))

/-- An input before the flip; the flip depends on nothing, so that it may feed any new node. -/
theorem convertInto {factor : Literal} {sink : ValueIn} (known : Known w facts exits c)
    (into : ∀ a ∈ sink.sockets, .input a ∈ facts) :
    Ensures (Pattern.convertInto factor sink) c fun t c' =>
      Known w (t.sockets.map .input ++ fed facts sink.sockets) exits c' := by
  unfold Pattern.convertInto
  refine .getBind ?_
  split
  · refine known.fence.flip.bind fun ends _ k => ?_
    refine (known.connectFenced (ends.1.sockets.map .input) k into (by simp) (by simp +contextual)).bind
      fun _ _ k => .pure (k.weaken (by simp +contextual [or_imp]))
  · refine .pure (known.weaken fun f member => ?_)
    rcases List.mem_append.1 member with new | old
    · obtain ⟨a, socket, rfl⟩ := List.mem_map.1 new
      exact into a socket
    · exact (mem_fed.1 old).1

theorem extract3 {vector : ValueOut} (known : Known w facts exits c) (given : .out vector ∈ facts) :
    Ensures (Pattern.extract3 vector) c fun parts c' =>
      Known w (.out parts.1 :: .out parts.2.1 :: .out parts.2.2 :: facts) exits c' := by
  refine (known.enter.createNode (by decide : Op.mathExtract3.Has ["0", "1", "2"] ["a"] [] [])).bind
    fun id _ k => ?_
  refine (k.connect (t := id.valueIn "a") (by simp) (by simpa)).bind fun _ _ k => .pure ?_
  exact known.leave k (by simp +contextual)

theorem combine4 {x y z u : ValueOut} (known : Known w facts exits c)
    (given : ∀ v ∈ [x, y, z, u], .out v ∈ facts) :
    Ensures (Pattern.combine4 x y z u) c fun v c' => Known w (.out v :: facts) exits c' :=
  known.createCombination [x, y, z, u] (by decide) given

theorem fromEulerRadians {euler : ValueOut} (known : Known w facts exits c)
    (given : .out euler ∈ facts) :
    Ensures (Pattern.fromEulerRadians euler) c fun v c' => Known w (.out v :: facts) exits c' := by
  refine (known.binaryLiteral (by decide) given).bind fun halved _ k => ?_
  refine (k.unary (by decide) (by simp)).bind fun sin _ k => ?_
  refine (k.unary (by decide) (by simp)).bind fun cos _ k => ?_
  refine (k.extract3 (by simp)).bind fun sines _ k => ?_
  refine (k.extract3 (by simp)).bind fun cosines _ k => ?_
  refine (k.combine4 (by simp)).bind fun a0 _ k => ?_
  refine (k.combine4 (by simp)).bind fun a1 _ k => ?_
  refine (k.combine4 (by simp)).bind fun a2 _ k => ?_
  refine (k.combine4 (by simp)).bind fun b0 _ k => ?_
  refine (k.combine4 (by simp)).bind fun b1 _ k => ?_
  refine (k.combine4 (by simp)).bind fun b2 _ k => ?_
  refine (k.binary (by decide) (by simp) (by simp)).bind fun a01 _ k => ?_
  refine (k.binary (by decide) (by simp) (by simp)).bind fun aTerm _ k => ?_
  refine (k.binary (by decide) (by simp) (by simp)).bind fun b01 _ k => ?_
  refine (k.binary (by decide) (by simp) (by simp)).bind fun b012 _ k => ?_
  refine (k.binaryLiteral (by decide) (by simp)).bind fun bTerm _ k => ?_
  exact (k.binary (by decide) (by simp) (by simp)).mono fun v _ k => k.weaken (by simp +contextual)

theorem fromEulerDegrees {euler : ValueOut} (known : Known w facts exits c)
    (given : .out euler ∈ facts) :
    Ensures (Pattern.fromEulerDegrees euler) c fun v c' => Known w (.out v :: facts) exits c' := by
  refine (known.unary (by decide) given).bind fun radians _ k => ?_
  exact (k.fromEulerRadians (by simp)).mono fun v _ k => k.weaken (by simp +contextual)

theorem invert {rotation : ValueOut} (known : Known w facts exits c) (given : .out rotation ∈ facts) :
    Ensures (Pattern.invert rotation) c fun v c' => Known w (.out v :: facts) exits c' :=
  known.binaryLiteral (by decide) given

theorem multiply {a b : ValueOut} (known : Known w facts exits c) (givenA : .out a ∈ facts)
    (givenB : .out b ∈ facts) :
    Ensures (Pattern.multiply a b) c fun v c' => Known w (.out v :: facts) exits c' :=
  known.binary (by decide) givenA givenB

theorem finished_variableGet {g : Graph} {index : NodeId} {id : Nat} {type : ValueType}
    (inside : id < g.vars.size) :
    g.Finished (((Node.new index .variableGet).configure "variable" (.int (.ofNat id))).expectReal
      "value" (.exact type)) := by
  refine Node.finished_variable ?_ (Node.typed_expectReal fun other output different found => ?_)
    ?_ inside (.inl (Node.op_expectReal ..))
  · rw [Node.Lacks, Node.configuration_expectReal]
    exact (Node.lacks_new index .variableGet).configure "variable" _
  · obtain ⟨type, member, rfl⟩ := Node.find?_valuesOut_new index found
    simp [Op.schema, different] at member
  · rw [Node.config?, Node.configuration_expectReal]
    exact (Node.config?_configure ..).trans (if_pos rfl)

theorem getVariable {id : Nat} (known : Known w facts exits c) (declared : .row id ∈ facts) :
    Ensures (Pattern.getVariable id) c fun v c' => Known w (.out v :: facts) exits c' := by
  refine (Context.drafts_createNode c .variableGet).bind fun node _ d => ?_
  refine (d.configure "variable" (.int (.ofNat id))).bind fun _ c2 d => .getBind ?_
  have unwired : (((Node.new node .variableGet).configure "variable" (.int (.ofNat id)))).Unwired
      .variableGet := Node.unwired_of_new node rfl rfl (fun _ => rfl) rfl rfl
  have placed {n : Node} {c' : Context} (d : c.Drafts node n c') (unwired : n.Unwired .variableGet)
      (finished : c.InRange → c.graph.Finished n) :
      Known w (.out (node.valueOut "value") :: facts) exits c' :=
    (known.placed .variableGet d unwired (.inr finished) (by decide : ∀ socket ∈ ["value"], _)
      (by simp : ∀ socket ∈ [], _) (by decide : ∀ socket ∈ [], _) (by decide : List.Nodup [])
      (by simp)).weaken (by simp +contextual)
  rcases row : c2.graph.vars[id]? with _ | v
  · -- A declared variable has a row as long as identities are in range.
    refine .pure (placed d unwired fun inRange => ?_)
    have inside := (known.sound inRange).holds _ declared
    rw [d.vars, Array.getElem?_eq_getElem inside] at row
    cases row
  · refine (d.expect "value" (.exact v.valueType)).bind fun _ _ d => .pure ?_
    refine placed d (unwired.expectReal _ (Node.valuesOut_new node .variableGet "value"))
      fun inRange => ?_
    exact finished_variableGet ((known.sound inRange).holds _ declared)

/-- A write of a variable, not fed yet. -/
theorem setVariable {id : Nat} (known : Known w facts exits c) (declared : .row id ∈ facts) :
    Ensures (Pattern.setVariable id) c fun write c' =>
      write = ⟨write.node, write.node.valueIn "value", write.node.flowIn "in", write.node.flowOut "out"⟩ ∧
        Known w (made write.node .variableSet [] ["value"] ["in"] ++ facts) (write.flowOut :: exits) c' := by
  refine (Context.drafts_createNode c .variableSet).bind fun node _ d => ?_
  refine (d.configure "variable" (.int (.ofNat id))).bind fun _ _ d => .pure ⟨rfl, ?_⟩
  refine known.placed .variableSet d (Node.unwired_of_new node rfl rfl (fun _ => rfl) rfl rfl)
    (.inr fun inRange => ?_) (by decide) ?_ (by decide) (by decide : List.Nodup ["out"]) (by decide)
  · refine Node.finished_variable ((Node.lacks_new node .variableSet).configure "variable" _)
      (fun _ socket output found => ?_) ((Node.config?_configure ..).trans (if_pos rfl))
      ((known.sound inRange).holds _ declared) (.inr rfl)
    obtain ⟨type, member, rfl⟩ := Node.find?_valuesOut_new node found
    simp [Op.schema] at member
  · simp only [List.mem_singleton, forall_eq]
    exact Node.takes_of_schema rfl

theorem setVariableFrom {id : Nat} {value : ValueOut} (known : Known w facts exits c)
    (declared : .row id ∈ facts) (given : .out value ∈ facts) :
    Ensures (Pattern.setVariableFrom id value) c fun write c' =>
      Known w (.entry write.flowIn :: facts) (write.flowOut :: exits) c' := by
  refine (known.enter.setVariable (by simpa)).bind fun write _ ⟨same, k⟩ => ?_
  rw [same] at k ⊢
  refine (k.connect (by simp) (by simpa)).bind fun _ _ k => .pure ?_
  exact known.leave k (by simp +contextual)

theorem setVariableStatic {id : Nat} {value : Literal} (known : Known w facts exits c)
    (declared : .row id ∈ facts) :
    Ensures (Pattern.setVariableStatic id value) c fun write c' =>
      Known w (.entry write.flowIn :: facts) (write.flowOut :: exits) c' := by
  refine (known.enter.setVariable (by simpa)).bind fun write _ ⟨same, k⟩ => ?_
  rw [same] at k ⊢
  refine (k.setLiteral (by simp)).bind fun _ _ k => .pure ?_
  exact known.leave k (by simp +contextual)

end Known

end ScriptGraph
