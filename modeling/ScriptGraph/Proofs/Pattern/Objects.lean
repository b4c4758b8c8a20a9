import ScriptGraph.Pattern.Transform
import ScriptGraph.Proofs.Pattern.Templates
import ScriptGraph.Proofs.Pattern.Values

/-!
What is known after the patterns that read and write objects of the host.
-/

namespace ScriptGraph

namespace Template

theorem tokens_path (rest : List Char) :
    tokens ("/nodes/\x7bnodeIndex\x7d/".toList ++ rest) = "nodeIndex".toList :: tokens ('/' :: rest) := by
  have opened : splitAt? '\x7b' ("/nodes/\x7bnodeIndex\x7d/".toList ++ rest) =
      some ("/nodes/".toList, "nodeIndex\x7d/".toList ++ rest) := by
    simp [splitAt?]
  have closed : splitAt? '\x7d' ("nodeIndex\x7d/".toList ++ rest) =
      some ("nodeIndex".toList, '/' :: rest) := by
    simp [splitAt?]
  exact tokens_cons opened closed

theorem nodeIndex_mem_names (property : String) :
    Pattern.Pointer.nodeIndex ∈ names (Pattern.Pointer.path property) := by
  have split := tokens_path property.toList
  rw [← String.toList_append] at split
  have member : "nodeIndex".toList ∈ tokens ("/nodes/\x7bnodeIndex\x7d/" ++ property).toList := by
    rw [split]
    exact List.mem_cons_self
  refine mem_firsts_iff.2 ⟨List.mem_filter.2 ⟨List.mem_map.2 ⟨"nodeIndex".toList, member, ?_⟩, ?_⟩, List.not_mem_nil⟩
  · simp [Pattern.Pointer.nodeIndex]
  · simp [Pattern.Pointer.nodeIndex]

end Template

/-- A node with restrictions on some inputs and otherwise the same. -/
structure Node.Restricted (names : List String) (n n' : Node) : Prop where
  rest : n' = { n with valuesIn := n'.valuesIn }
  inputs : ∀ socket input, n'.valueIn? socket = some input →
    (∃ old, n.valueIn? socket = some old ∧ input.literal = old.literal ∧ input.source = old.source) ∨
      (socket ∈ names ∧ input.literal = none ∧ input.source = none)

namespace Node

theorem Restricted.refl (names : List String) (n : Node) : n.Restricted names n :=
  ⟨rfl, fun _ input found => .inl ⟨input, found, rfl, rfl⟩⟩

theorem Restricted.next {names : List String} {n n' : Node} (restricted : n.Restricted names n')
    {name : String} (member : name ∈ names) (restriction : TypeRestriction) :
    n.Restricted names (n'.changeInput name fun input => { input with restriction := some restriction }) where
  rest := by
    rw [restricted.rest]
    rfl
  inputs socket input found := by
    rw [valueIn?_changeInput] at found
    split at found
    · next same =>
      obtain rfl := Option.some.inj found
      rcases before : n'.valueIn? name with _ | earlier
      · exact .inr ⟨same ▸ member, rfl, rfl⟩
      · rw [same]
        exact restricted.inputs name earlier before
    · exact restricted.inputs socket input found

theorem Restricted.mono {names more : List String} {n n' : Node} (restricted : n.Restricted names n')
    (within : ∀ name, name ∈ names → name ∈ more) : n.Restricted more n' :=
  ⟨restricted.rest, fun socket input found =>
    (restricted.inputs socket input found).imp_right (And.imp_left (within socket))⟩

theorem Restricted.trans {names : List String} {n n' n'' : Node} (first : n.Restricted names n')
    (second : n'.Restricted names n'') : n.Restricted names n'' where
  rest := by
    rw [second.rest, first.rest]
  inputs socket input found := by
    rcases second.inputs socket input found with ⟨old, before, literal, source⟩ | new
    · rcases first.inputs socket old before with ⟨older, before, literal', source'⟩ | ⟨member, none, none'⟩
      · exact .inl ⟨older, before, literal.trans literal', source.trans source'⟩
      · exact .inr ⟨member, literal.trans none, source.trans none'⟩
    · exact .inr new

/-- Restrictions do not wire a node. -/
theorem Unwired.restricted {op : Op} {names : List String} {n n' : Node} (unwired : n.Unwired op)
    (restricted : n.Restricted names n') (takes : ∀ name ∈ names, n.Takes name) : n'.Unwired op := by
  have same {socket : String} (known : n.Takes socket) : n'.Takes socket :=
    takes_congr (by rw [restricted.rest]) (by rw [restricted.rest]) known
  refine ⟨?_, fun socket input found => ?_, ?_, ?_, ?_, ?_⟩
  · rw [restricted.rest]; exact unwired.op_eq
  · rcases restricted.inputs socket input found with ⟨old, before, literal, source⟩ | ⟨member, none, none'⟩
    · obtain ⟨known, empty, empty'⟩ := unwired.inputs socket old before
      exact ⟨same known, literal.trans empty, source.trans empty'⟩
    · exact ⟨same (takes socket member), none, none'⟩
  · rw [restricted.rest]; exact unwired.outputs
  · rw [restricted.rest]; exact unwired.flowsIn
  · rw [restricted.rest]; exact unwired.flowsOut
  · rw [restricted.rest]; exact unwired.idle

/-- A pointer node takes an input for each token of its path. -/
theorem takes_token {n : Node} {template name : String}
    (dynamic : n.op.schema.dynamic = .templateValueInputs)
    (path : n.config? "pointer" = some (.text template)) (token : name ∈ Template.names template) :
    n.Takes name := by
  intro g
  have known : (Validation.tokensOf n "pointer").contains name = true := by
    simp [Validation.tokensOf, path, ConfigValue.toText?, token]
  simp only [Validation.takesValueInput, dynamic, known, Bool.or_true]

end Node

/-- What is known of the terminals of a read. -/
@[simp] def Pattern.PropertyGet.facts (read : Pattern.PropertyGet) : List Fact :=
  .out read.value :: read.target.sockets.map .input

/-- What is known of the terminals of a write. -/
@[simp] def Pattern.PropertySet.facts (write : Pattern.PropertySet) : List Fact :=
  .entry write.flowIn :: (write.target.sockets.map .input ++ write.value.sockets.map .input)

/-- What is known of the terminals of a change. -/
@[simp] def Pattern.TransformAction.facts (action : Pattern.TransformAction) : List Fact :=
  .entry action.flowIn :: action.target.sockets.map .input

namespace Context

variable {c c' : Context}

theorem Drafts.restrictTokens {id : NodeId} {all : List String} (names : List String) {c' : Context}
    {n : Node} (drafts : c.Drafts id n c') (among : ∀ name ∈ names, name ∈ all) :
    Ensures (Pattern.restrictTokens id names) c' fun _ c'' =>
      ∃ n', c.Drafts id n' c'' ∧ n.Restricted all n' := by
  induction names generalizing c' n with
  | nil => exact ⟨n, drafts, .refl all n⟩
  | cons name rest ih =>
    refine (drafts.restrict name (.only .int)).bind fun _ _ d => ?_
    refine (ih d fun other member => among other (List.mem_cons_of_mem _ member)).mono ?_
    rintro _ _ ⟨n', drafts', restricted⟩
    exact ⟨n', drafts', ((Node.Restricted.refl all n).next (among name List.mem_cons_self) _).trans
      restricted⟩

/-- The node of a pointer before its inputs are restricted. -/
def pointerNode (id : NodeId) (op : Op) (template : String) (type : ValueType) : Node :=
  ((Node.new id op).configure "pointer" (.text template)).configure "type" (.text type.name)

theorem Drafts.configurePointer {id : NodeId} {op : Op} {template : String} {type : ValueType}
    (drafts : c.Drafts id (.new id op) c') :
    Ensures (Pattern.configurePointer id template type) c' fun _ c'' =>
      ∃ n, c.Drafts id n c'' ∧
        (pointerNode id op template type).Restricted (Template.names template) n := by
  refine (drafts.configure "pointer" (.text template)).bind fun _ _ d => ?_
  refine (d.configure "type" (.text type.name)).bind fun _ _ d => ?_
  exact d.restrictTokens (Template.names template) fun _ member => member

theorem config_pointerNode (id : NodeId) (op : Op) (template : String) (type : ValueType) :
    (pointerNode id op template type).config? "pointer" = some (.text template) := by
  rw [pointerNode, Node.config?_configure, if_neg (by decide), Node.config?_configure, if_pos rfl]

theorem takes_pointerNode {id : NodeId} {op : Op} {template name : String} {type : ValueType}
    (dynamic : op.schema.dynamic = .templateValueInputs) (token : name ∈ Template.names template) :
    (pointerNode id op template type).Takes name :=
  Node.takes_token dynamic (config_pointerNode id op template type) token

theorem unwired_pointerNode (id : NodeId) (op : Op) (template : String) (type : ValueType) :
    (pointerNode id op template type).Unwired op :=
  Node.unwired_of_new id rfl rfl (fun _ => rfl) rfl rfl

theorem lacks_pointerNode (id : NodeId) {op : Op} (template : String) (type : ValueType)
    (config : op.schema.config = ["pointer", "type"]) :
    (pointerNode id op template type).Lacks [] := by
  have lacks := ((Node.lacks_new id op).configure "pointer" (.text template)).configure "type"
    (.text type.name)
  rwa [config] at lacks

end Context

namespace Known

variable {w : Scope} {facts : List Fact} {exits : List FlowOut} {c : Context}

open Context

/-- The terminals of a read, its target still to be fed. -/
theorem pointerGet {property : String} {type : ValueType} (known : Known w facts exits c) :
    Ensures (Pattern.pointerGet (Pattern.Pointer.path property) type) c fun read c' =>
      Known w (.out read.value :: read.target.sockets.map .input ++ facts) exits c' := by
  refine (drafts_createNode c .pointerGet).bind fun node _ d => ?_
  refine d.configurePointer.bind fun _ _ ⟨n, d, restricted⟩ => ?_
  refine (d.expect "value" (.exact type)).bind fun _ _ d => .pure ?_
  have takes (name : String) (token : name ∈ Template.names (Pattern.Pointer.path property)) :
      (pointerNode node .pointerGet (Pattern.Pointer.path property) type).Takes name :=
    takes_pointerNode rfl token
  have unwired := (unwired_pointerNode node .pointerGet _ type).restricted restricted takes
  have target : (n.expectReal "value" (.exact type)).Takes Pattern.Pointer.nodeIndex := by
    refine Node.takes_congr ?_ ?_ (takes _ (Template.nodeIndex_mem_names property))
    · rw [Node.op_expectReal, restricted.rest]
    · rw [Node.configuration_expectReal, restricted.rest]
  refine (known.placed .pointerGet d
    (unwired.expectReal _ ((unwired.outputs "value").trans rfl)) (.inr fun _ => ?_)
    (by decide : ∀ socket ∈ ["value"], _) (by simpa : ∀ s ∈ [Pattern.Pointer.nodeIndex], _)
    (by decide : ∀ socket ∈ [], _) (by decide : List.Nodup []) (by simp)).weaken (by simp +contextual)
  refine Node.finished_of ?_ (Node.typed_expectReal fun other output different found => ?_) ?_
  · rw [Node.Lacks, Node.configuration_expectReal, restricted.rest]
    exact lacks_pointerNode node _ type rfl
  · rw [restricted.rest] at found
    obtain ⟨type, member, rfl⟩ := Node.find?_valuesOut_new node found
    have isValid : type = .exact .bool := by
      simpa [Op.schema, different] using And.right (by simpa [Op.schema, different] using member)
    simp [isValid, OutputType.expected]
  · rw [Node.op_expectReal, unwired.op_eq]
    decide

/-- The terminals of a write, its target and its value still to be fed. -/
theorem pointerSet {property : String} {type : ValueType} (known : Known w facts exits c) :
    Ensures (Pattern.pointerSet (Pattern.Pointer.path property) type) c fun write c' =>
      write = ⟨write.node, write.node.valueIn Pattern.Pointer.nodeIndex, write.node.valueIn "value",
        write.node.flowIn "in", write.node.flowOut "out"⟩ ∧
        Known w (made write.node .pointerSet [] [Pattern.Pointer.nodeIndex, "value"] ["in"] ++ facts)
          (write.flowOut :: exits) c' := by
  refine (drafts_createNode c .pointerSet).bind fun node _ d => ?_
  refine d.configurePointer.bind fun _ _ ⟨n, d, restricted⟩ => ?_
  refine (d.restrict "value" (.only type)).bind fun _ _ d => .pure ⟨rfl, ?_⟩
  have takes (name : String)
      (token : name ∈ "value" :: Template.names (Pattern.Pointer.path property)) :
      (pointerNode node .pointerSet (Pattern.Pointer.path property) type).Takes name := by
    rcases List.mem_cons.1 token with rfl | token
    · exact Node.takes_of_schema rfl
    · exact takes_pointerNode rfl token
  have restricted := (restricted.mono (fun _ => List.mem_cons_of_mem "value")).next List.mem_cons_self
    (.only type)
  have unwired := (unwired_pointerNode node .pointerSet _ type).restricted restricted takes
  refine known.placed .pointerSet d unwired (.inr fun _ => ?_) (by decide) ?_ (by decide)
    (by decide : List.Nodup ["out"]) (by decide)
  · refine Node.finished_of ?_ (fun _ other output found => ?_) ?_
    · rw [Node.Lacks, restricted.rest]
      exact lacks_pointerNode node _ type rfl
    · rw [restricted.rest] at found
      obtain ⟨type, member, rfl⟩ := Node.find?_valuesOut_new node found
      simp [Op.schema] at member
    · rw [unwired.op_eq]
      decide
  · have same (name : String)
        (known : (pointerNode node .pointerSet (Pattern.Pointer.path property) type).Takes name) :=
      Node.takes_congr (congrArg Node.op restricted.rest) (congrArg Node.configuration restricted.rest)
        known
    simp only [List.mem_cons, List.not_mem_nil, or_false, forall_eq_or_imp, forall_eq]
    exact ⟨same _ (takes _ (List.mem_cons_of_mem _ (Template.nodeIndex_mem_names property))),
      same _ (takes _ List.mem_cons_self)⟩

theorem convertPosition {value : ValueOut} (known : Known w facts exits c)
    (given : .out value ∈ facts) :
    Ensures (Pattern.convertPosition value) c fun v c' => Known w (.out v :: facts) exits c' :=
  known.convert given

theorem convertRotation {value : ValueOut} (known : Known w facts exits c)
    (given : .out value ∈ facts) :
    Ensures (Pattern.convertRotation value) c fun v c' => Known w (.out v :: facts) exits c' :=
  known.convert given

theorem localPositionGet (known : Known w facts exits c) :
    Ensures Pattern.localPositionGet c fun read c' => Known w (read.facts ++ facts) exits c' := by
  refine known.pointerGet.bind fun read _ k => ?_
  exact (k.convertPosition (by simp)).bind fun v _ k => .pure (k.weaken (by simp +contextual))

theorem localRotationGet (known : Known w facts exits c) :
    Ensures Pattern.localRotationGet c fun read c' => Known w (read.facts ++ facts) exits c' := by
  refine known.pointerGet.bind fun read _ k => ?_
  exact (k.convertRotation (by simp)).bind fun v _ k => .pure (k.weaken (by simp +contextual))

theorem localScaleGet (known : Known w facts exits c) :
    Ensures Pattern.localScaleGet c fun read c' => Known w (read.facts ++ facts) exits c' :=
  known.pointerGet.bind fun _ _ k => .pure k

theorem worldMatrix (known : Known w facts exits c) :
    Ensures Pattern.worldMatrix c fun ends c' =>
      Known w (.out (ends.2.valueOut "translation") :: .out (ends.2.valueOut "rotation") ::
        .out (ends.2.valueOut "scale") :: ends.1.target.sockets.map .input ++ facts) exits c' := by
  refine known.pointerGet.bind fun matrix _ outer => ?_
  refine (outer.enter.createNode (by decide :
    Op.mathMatDecompose.Has ["translation", "rotation", "scale"] ["a"] [] [])).bind fun parts _ k => ?_
  refine (k.connect (t := parts.valueIn "a") (by simp) (by simp)).bind fun _ _ k => .pure ?_
  exact outer.leave k (by simp +contextual)

theorem worldPositionGet (known : Known w facts exits c) :
    Ensures Pattern.worldPositionGet c fun read c' => Known w (read.facts ++ facts) exits c' := by
  refine known.worldMatrix.bind fun ends _ k => ?_
  exact (k.convertPosition (by simp)).bind fun v _ k => .pure (k.weaken (by simp +contextual))

theorem worldRotationGet (known : Known w facts exits c) :
    Ensures Pattern.worldRotationGet c fun read c' => Known w (read.facts ++ facts) exits c' := by
  refine known.worldMatrix.bind fun ends _ k => ?_
  exact (k.convertRotation (by simp)).bind fun v _ k => .pure (k.weaken (by simp +contextual))

theorem worldScaleGet (known : Known w facts exits c) :
    Ensures Pattern.worldScaleGet c fun read c' => Known w (read.facts ++ facts) exits c' :=
  known.worldMatrix.bind fun _ _ k => .pure (k.weaken (by simp +contextual))

/-- A write through a path whose value may pass a flip. -/
theorem pointerSetInto {property : String} {type : ValueType} {factor : Literal}
    (known : Known w facts exits c) :
    Ensures (do let write ← Pattern.pointerSet (Pattern.Pointer.path property) type
                return { write.toProperty with value := ← Pattern.convertInto factor write.value }) c
      fun write c' => Known w (write.facts ++ facts) (write.flowOut :: exits) c' := by
  refine known.enter.pointerSet.bind fun write _ ⟨same, k⟩ => ?_
  rw [same] at k ⊢
  refine (k.convertInto (by simp)).bind fun value _ k => .pure ?_
  exact known.leave k (by simp +contextual [Pattern.PointerSet.toProperty, or_imp])

theorem localPositionSet (known : Known w facts exits c) :
    Ensures Pattern.localPositionSet c fun write c' =>
      Known w (write.facts ++ facts) (write.flowOut :: exits) c' :=
  known.pointerSetInto

theorem localRotationSet (known : Known w facts exits c) :
    Ensures Pattern.localRotationSet c fun write c' =>
      Known w (write.facts ++ facts) (write.flowOut :: exits) c' :=
  known.pointerSetInto

theorem localScaleSet (known : Known w facts exits c) :
    Ensures Pattern.localScaleSet c fun write c' =>
      Known w (write.facts ++ facts) (write.flowOut :: exits) c' := by
  refine known.pointerSet.bind fun write _ ⟨same, k⟩ => ?_
  rw [same] at k ⊢
  exact .pure (k.weaken (by simp +contextual [Pattern.PointerSet.toProperty, or_imp]))

theorem positionInto {sink : ValueIn} (known : Known w facts exits c)
    (into : ∀ a ∈ sink.sockets, .input a ∈ facts) :
    Ensures (Pattern.positionInto sink) c fun t c' =>
      Known w (t.sockets.map .input ++ fed facts sink.sockets) exits c' :=
  known.convertInto into

theorem rotationInto {sink : ValueIn} (known : Known w facts exits c)
    (into : ∀ a ∈ sink.sockets, .input a ∈ facts) :
    Ensures (Pattern.rotationInto sink) c fun t c' =>
      Known w (t.sockets.map .input ++ fed facts sink.sockets) exits c' :=
  known.convertInto into

/-- The first three inputs of a combination are fed from the first three parts of a split. -/
theorem connectThree {combined split : NodeId} (known : Known w facts exits c)
    (into : ∀ socket ∈ ["a", "b", "c"], .input ⟨combined, socket⟩ ∈ facts)
    (given : ∀ socket ∈ ["0", "1", "2"], .arg (split.valueOut socket) ∈ facts) :
    Ensures (Pattern.connectThree combined split) c fun _ c' =>
      Known w (fed facts (["a", "b", "c"].map (SocketAddress.mk combined))) exits c' :=
  known.connectAll _ _ into (by simpa using given)

theorem worldPositionSet (known : Known w facts exits c) :
    Ensures Pattern.worldPositionSet c fun write c' =>
      Known w (write.facts ++ facts) (write.flowOut :: exits) c' := by
  refine known.enter.pointerGet.bind fun world _ k => ?_
  refine k.pointerGet.bind fun own _ k => ?_
  refine k.pointerSet.bind fun write _ ⟨same, k⟩ => ?_
  rw [same] at k ⊢
  refine (k.unary (by decide) (by simp)).bind fun ownInverse _ k => ?_
  refine (k.binary (by decide) (by simp) (by simp)).bind fun parent _ k => ?_
  refine (k.unary (by decide) (by simp)).bind fun parentInverse _ k => ?_
  refine (k.createNode (by decide : Op.mathExtract3.Has ["0", "1", "2"] ["a"] [] [])).bind
    fun split _ k => ?_
  refine (k.positionInto (by simp)).bind fun value _ k => ?_
  refine (k.enter.createNode (by decide : Op.mathCombine4.Computes ["a", "b", "c", "d"])).bind
    fun point _ inner => ?_
  refine (inner.connectThree (by simp) (by simp)).bind fun _ _ inner => ?_
  refine (inner.setLiteral (by simp)).bind fun _ _ inner => ?_
  have k := k.leaveAdding [.out (point.valueOut "value")] inner (by simp)
  refine (k.enter.createNode (by decide : Op.mathTransform.Computes ["a", "b"])).bind
    fun transformed _ inner => ?_
  refine (inner.connect (t := transformed.valueIn "a") (by simp) (by simp)).bind fun _ _ inner => ?_
  refine (inner.connect (t := transformed.valueIn "b") (by simp) (by simp)).bind fun _ _ inner => ?_
  have k := k.leaveAdding [.out (transformed.valueOut "value")] inner (by simp)
  refine (k.enter.createNode (by decide : Op.mathExtract4.Has ["0", "1", "2"] ["a"] [] [])).bind
    fun localPoint _ inner => ?_
  refine (inner.connect (t := localPoint.valueIn "a") (by simp) (by simp)).bind fun _ _ inner => ?_
  have k := k.leaveAdding (["0", "1", "2"].map fun socket => .out (localPoint.valueOut socket)) inner (by simp)
  refine (k.enter.createNode (by decide : Op.mathCombine3.Computes ["a", "b", "c"])).bind
    fun moved _ inner => ?_
  refine (inner.connectThree (by simp) (by simp)).bind fun _ _ inner => ?_
  have k := k.leaveAdding [.out (moved.valueOut "value")] inner (by simp)
  refine (k.connectSink .pointerSet (by simp) rfl (by simp) (by simp)).bind fun _ _ k => .pure ?_
  exact known.leave k (by simp +contextual [or_imp, forall_and])

theorem worldRotationSet (known : Known w facts exits c) :
    Ensures Pattern.worldRotationSet c fun write c' =>
      Known w (write.facts ++ facts) (write.flowOut :: exits) c' := by
  refine known.enter.worldMatrix.bind fun ends _ k => ?_
  refine k.pointerGet.bind fun own _ k => ?_
  refine k.pointerSet.bind fun write _ ⟨same, k⟩ => ?_
  rw [same] at k ⊢
  refine (k.invert (by simp)).bind fun ownInverse _ k => ?_
  refine (k.multiply (by simp) (by simp)).bind fun parent _ k => ?_
  refine (k.invert (by simp)).bind fun parentInverse _ k => ?_
  refine (k.enter.createNode (by decide : Op.mathQuatMul.Computes ["a", "b"])).bind
    fun product _ inner => ?_
  refine (inner.connect (t := product.valueIn "a") (by simp) (by simp)).bind fun _ _ inner => ?_
  have k := k.leaveAdding [.out (product.valueOut "value"), .input ⟨product, "b"⟩] inner (by simp)
  refine (k.connectSink .pointerSet (by simp) rfl (by simp) (by simp)).bind fun _ _ k => ?_
  refine (k.rotationInto (by simp)).bind fun value _ k => .pure ?_
  exact known.leave k (by simp +contextual [or_imp, forall_and])

theorem activeSet (known : Known w facts exits c) :
    Ensures Pattern.activeSet c fun write c' =>
      Known w (write.facts ++ facts) (write.flowOut :: exits) c' := by
  refine known.enter.pointerSet.bind fun visible _ ⟨same, k⟩ => ?_
  rw [same] at k ⊢
  refine k.pointerSet.bind fun selectable _ ⟨same, k⟩ => ?_
  rw [same] at k ⊢
  refine (k.connectFlow (.swap ..) (by simp)).bind fun _ _ k => .pure ?_
  exact known.leave k (by simp +contextual [or_imp, forall_and])

theorem translate {offset : ValueOut} (known : Known w facts exits c) (given : .out offset ∈ facts) :
    Ensures (Pattern.translate offset) c fun action c' =>
      Known w (action.facts ++ facts) (action.flowOut :: exits) c' := by
  refine known.enter.localPositionGet.bind fun current _ k => ?_
  refine k.enter.localPositionSet.bind fun write _ inner => ?_
  refine (inner.fence.binary (by decide) (by simp) (by simp [given])).bind fun moved _ fenced => ?_
  refine (inner.connectFenced [] fenced (by simp +contextual) (by simp) (by simp)).bind fun _ _ inner => .pure ?_
  have k := k.leaveAdding write.facts inner (by simp +contextual [or_imp, forall_and])
  exact known.leave k (by simp +contextual [or_imp, forall_and])
   

theorem rotate {rotation : ValueOut} (known : Known w facts exits c)
    (given : .out rotation ∈ facts) :
    Ensures (Pattern.rotate rotation) c fun action c' =>
      Known w (action.facts ++ facts) (action.flowOut :: exits) c' := by
  refine known.enter.localRotationGet.bind fun current _ k => ?_
  refine k.enter.localRotationSet.bind fun write _ inner => ?_
  refine (inner.fence.multiply (by simp) (by simp [given])).bind fun rotated _ fenced => ?_
  refine (inner.connectFenced [] fenced (by simp +contextual) (by simp) (by simp)).bind fun _ _ inner => .pure ?_
  have k := k.leaveAdding write.facts inner (by simp +contextual [or_imp, forall_and])
  exact known.leave k (by simp +contextual [or_imp, forall_and])
   

theorem lookAt {point : ValueOut} (known : Known w facts exits c) (given : .out point ∈ facts) :
    Ensures (Pattern.lookAt point) c fun action c' =>
      Known w (action.facts ++ facts) (action.flowOut :: exits) c' := by
  refine known.enter.worldPositionGet.bind fun current _ outer => ?_
  refine outer.enter.worldRotationSet.bind fun write _ inner => ?_
  refine (inner.fence.binary (by decide) (by simp [given]) (by simp)).bind fun direction _ k => ?_
  refine (k.extract3 (by simp)).bind fun parts _ k => ?_
  refine (k.binary (by decide) (by simp) (by simp)).bind fun yaw _ k => ?_
  refine (k.enter.createNode (by decide : Op.mathCombine2.Computes ["a", "b"])).bind
    fun horizontal _ made => ?_
  refine (made.connect (t := horizontal.valueIn "a") (by simp) (by simp)).bind fun _ _ made => ?_
  refine (made.connect (t := horizontal.valueIn "b") (by simp) (by simp)).bind fun _ _ made => ?_
  have k := k.leaveAdding [.out (horizontal.valueOut "value")] made (by simp)
  refine (k.unary (by decide) (by simp)).bind fun ground _ k => ?_
  refine (k.binary (by decide) (by simp) (by simp)).bind fun rise _ k => ?_
  refine (k.binaryLiteral (by decide) (by simp)).bind fun pitch _ k => ?_
  refine (k.enter.createNode (by decide : Op.mathCombine3.Computes ["a", "b", "c"])).bind
    fun euler _ made => ?_
  refine (made.connect (t := euler.valueIn "a") (by simp) (by simp)).bind fun _ _ made => ?_
  refine (made.connect (t := euler.valueIn "b") (by simp) (by simp)).bind fun _ _ made => ?_
  refine (made.setLiteral (by simp)).bind fun _ _ made => ?_
  have k := k.leaveAdding [.out (euler.valueOut "value")] made (by simp)
  refine (k.fromEulerRadians (by simp)).bind fun rotation _ fenced => ?_
  refine (inner.connectFenced [] fenced (by simp +contextual) (by simp) (by simp)).bind fun _ _ inner => .pure ?_
  have k := outer.leaveAdding write.facts inner (by simp +contextual [or_imp, forall_and])
  exact known.leave k (by simp +contextual [or_imp, forall_and])
   

end Known

end ScriptGraph
