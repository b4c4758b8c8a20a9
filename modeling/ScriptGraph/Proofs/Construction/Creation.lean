import ScriptGraph.Proofs.Construction.Primitives

/-!
New nodes.

A builder makes a node, sets its parameters and types, and only then wires it. In range all of this is one
legal step that places the node as it is in the end.
-/

namespace ScriptGraph

namespace Dict

variable {α : Type}

theorem find?_foldl_insert (entries : List (String × α)) (d : Dict α) {key : String} {value : α}
    (found : (entries.foldl (fun d e => d.insert e.1 e.2) d).find? key = some value) :
    (key, value) ∈ entries ∨ d.find? key = some value := by
  induction entries generalizing d with
  | nil => exact .inr found
  | cons e rest ih =>
    rcases ih _ found with later | now
    · exact .inl (List.mem_cons_of_mem _ later)
    · rw [find?_insert] at now
      split at now
      · next same =>
        obtain rfl := Option.some.inj now
        exact .inl (same ▸ List.mem_cons_self)
      · exact .inr now

theorem contains_foldl_insert (entries : List (String × α)) (d : Dict α) {key : String}
    (member : key ∈ entries.map (·.1) ∨ d.contains key = true) :
    (entries.foldl (fun d e => d.insert e.1 e.2) d).contains key = true := by
  induction entries generalizing d with
  | nil => simpa using member
  | cons e rest ih =>
    refine ih _ ?_
    simp only [List.map_cons, List.mem_cons] at member
    simp only [contains, find?_insert] at member ⊢
    rcases member with (rfl | later) | old
    · exact .inr (by simp)
    · exact .inl later
    · refine .inr ?_
      split
      · rfl
      · exact old

theorem mem_of_find?_ofList {entries : List (String × α)} {key : String} {value : α}
    (found : (ofList entries).find? key = some value) : (key, value) ∈ entries :=
  (find?_foldl_insert entries empty found).resolve_right (by simp)

theorem contains_ofList (entries : List (String × α)) (key : String) :
    (ofList entries).contains key = true ↔ key ∈ entries.map (·.1) := by
  constructor
  · intro member
    obtain ⟨value, found⟩ := Option.isSome_iff_exists.1 member
    exact List.mem_map.2 ⟨_, mem_of_find?_ofList found, rfl⟩
  · exact fun member => contains_foldl_insert entries empty (.inl member)

end Dict

theorem NameSet.mem_of_contains_ofNames {names : List String} {name : String}
    (member : (NameSet.ofNames names).contains name = true) : name ∈ names := by
  suffices general : ∀ (d : NameSet), (names.foldl NameSet.add d).contains name = true →
      name ∈ names ∨ d.contains name = true from
    (general _ member).resolve_right (by simp [Dict.contains])
  clear member
  induction names with
  | nil => exact fun d member => .inr member
  | cons head rest ih =>
    intro d member
    rcases ih _ member with later | now
    · exact .inl (List.mem_cons_of_mem _ later)
    · simp only [NameSet.add, Dict.contains, Dict.find?_insert] at now ⊢
      split at now
      · next same => exact .inl (same ▸ List.mem_cons_self)
      · exact .inr now

/-- The outputs of an operation without parameters have their types from the start. -/
theorem Op.typed (op : Op) (plain : op.schema.config = []) :
    (op.schema.valuesOut.all fun o => o.2.expected.isSome) = true := by
  cases op <;> first | rfl | cases plain

theorem Validation.isNumeral_toString (n : Nat) : isNumeral (toString n) = true := by
  have digits : (toString n).toList = Nat.toDigits 10 n := Nat.toList_repr
  rw [isNumeral, digits, Bool.and_eq_true, decide_eq_true_eq, List.all_eq_true]
  refine ⟨fun empty => ?_, fun c member => Nat.isDigit_of_mem_toDigits (by decide) (by decide) member⟩
  rw [empty] at digits
  exact Nat.toDigits_ne_nil digits.symm

/-- The flow outputs of an operation. -/
def Op.leads (op : Op) (socket : String) : Bool :=
  op.schema.flowsOut.contains socket ||
    (op.schema.dynamic = .numberedFlowOutputs && Validation.isNumeral socket)

/-- The flow inputs of an operation. -/
def Op.enters (op : Op) (socket : String) : Bool :=
  op.schema.flowsIn.contains socket ||
    (op.schema.dynamic = .numberedFlowInputs && Validation.isNumeral socket)

namespace Node

/-- A node of an operation, with all of its sockets and without any values or targets. -/
structure Unwired (op : Op) (n : Node) : Prop where
  op_eq : n.op = op
  inputs : ∀ socket input, n.valueIn? socket = some input →
    n.Takes socket ∧ input.literal = none ∧ input.source = none
  outputs : ∀ socket, n.valuesOut.contains socket = op.schema.valuesOut.any (·.1 == socket)
  flowsIn : ∀ socket, n.flowsIn.contains socket = true → Validation.takesFlowInput n socket = true
  flowsOut : ∀ socket, n.flowsOut.contains socket = true → Validation.hasFlowOutput n socket = true
  idle : ∀ socket, n.targets socket = []

theorem takes_of_schema {n : Node} {socket : String}
    (declared : n.op.schema.valuesIn.contains socket = true) : n.Takes socket := by
  intro g
  rw [Validation.takesValueInput, declared, Bool.true_or]

theorem valueIn?_new {index : NodeId} {op : Op} {socket : String} {input : ValueInput}
    (found : (new index op).valueIn? socket = some input) :
    op.schema.valuesIn.contains socket = true ∧ input = {} := by
  obtain ⟨name, member, same⟩ := List.mem_map.1 (Dict.mem_of_find?_ofList found)
  obtain ⟨rfl, rfl⟩ := Prod.mk.inj same
  exact ⟨List.contains_iff_mem.2 member, rfl⟩

theorem valuesOut_new (index : NodeId) (op : Op) (socket : String) :
    (new index op).valuesOut.contains socket = op.schema.valuesOut.any (·.1 == socket) := by
  rw [Bool.eq_iff_iff, List.any_eq_true]
  refine (Dict.contains_ofList _ _).trans ?_
  simp only [List.map_map, List.mem_map, Function.comp_apply, beq_iff_eq]

theorem find?_valuesOut_new (index : NodeId) {op : Op} {socket : String} {output : ValueOutput}
    (found : (new index op).valuesOut.find? socket = some output) :
    ∃ type, (socket, type) ∈ op.schema.valuesOut ∧ output = ⟨type.expected⟩ := by
  obtain ⟨⟨name, type⟩, member, same⟩ := List.mem_map.1 (Dict.mem_of_find?_ofList found)
  obtain ⟨rfl, rfl⟩ := Prod.mk.inj same
  exact ⟨type, member, rfl⟩

theorem configuration_new {index : NodeId} {op : Op} {name : String} {value : Option ConfigValue}
    (found : (new index op).configuration.find? name = some value) :
    name ∈ op.schema.config ∧ value = none := by
  obtain ⟨name, member, same⟩ := List.mem_map.1 (Dict.mem_of_find?_ofList found)
  obtain ⟨rfl, rfl⟩ := Prod.mk.inj same
  exact ⟨member, rfl⟩

/-- Parameters and types do not wire a node. -/
theorem unwired_of_new (index : NodeId) {op : Op} {n : Node} (same : n.op = op)
    (valuesIn : n.valuesIn = (new index op).valuesIn)
    (valuesOut : ∀ socket, n.valuesOut.contains socket = (new index op).valuesOut.contains socket)
    (flowsIn : n.flowsIn = (new index op).flowsIn) (flowsOut : n.flowsOut = (new index op).flowsOut) :
    n.Unwired op where
  op_eq := same
  inputs socket input found := by
    rw [valueIn?, valuesIn] at found
    obtain ⟨declared, rfl⟩ := valueIn?_new found
    exact ⟨takes_of_schema (same ▸ declared), rfl, rfl⟩
  outputs socket := (valuesOut socket).trans (valuesOut_new index op socket)
  flowsIn socket member := by
    rw [flowsIn] at member
    have declared := NameSet.mem_of_contains_ofNames member
    rw [Validation.takesFlowInput, same, List.contains_iff_mem.2 declared, Bool.true_or]
  flowsOut socket member := by
    rw [flowsOut] at member
    have declared := (Dict.contains_ofList _ _).1 member
    simp only [List.map_map, Function.comp_def, List.map_id'] at declared
    rw [Validation.hasFlowOutput, same, List.contains_iff_mem.2 declared, Bool.true_or]
  idle socket := by
    rw [targets, flowsOut]
    rcases found : (new index op).flowsOut.find? socket with _ | output
    · rfl
    · obtain ⟨name, _, same⟩ := List.mem_map.1 (Dict.mem_of_find?_ofList found)
      obtain ⟨rfl, rfl⟩ := Prod.mk.inj same
      rfl

theorem unwired_new (index : NodeId) (op : Op) : (new index op).Unwired op :=
  unwired_of_new index rfl rfl (fun _ => rfl) rfl rfl

/-- An operation without parameters needs no further work. -/
theorem finished_new {g : Graph} {index : NodeId} {op : Op} (plain : op.schema.config = []) :
    g.Finished (new index op) where
  configured name found := by
    have := (configuration_new found).1
    simp [plain] at this
  typed _ socket output found := by
    obtain ⟨type, member, rfl⟩ := find?_valuesOut_new _ found
    exact Option.isSome_iff_ne_none.1 (List.all_eq_true.1 (op.typed plain) _ member)
  variableRow op := by
    rcases op with rfl | rfl <;> simp [Op.schema] at plain
  eventRow op := by subst op; simp [Op.schema] at plain
  notSent op := by subst op; simp [Op.schema] at plain
  cases op := by rcases op with rfl | rfl <;> simp [Op.schema] at plain
  message op := by subst op; simp [Op.schema] at plain

theorem lacks_new (index : NodeId) (op : Op) : (new index op).Lacks op.schema.config :=
  fun _ found => (configuration_new found).1

theorem Lacks.configure {n : Node} {names : List String} (lacks : n.Lacks names) (key : String)
    (value : ConfigValue) : (n.configure key value).Lacks (names.filter (· ≠ key)) := by
  intro name found
  simp only [Node.configure, Dict.find?_insert] at found
  split at found
  · cases Option.some.inj found
  · next other => exact List.mem_filter.2 ⟨lacks name found, by simpa using other⟩

/-- The type of an output; identities of placeholders have none. -/
def expectReal (n : Node) (socket : String) (type : ExpectedType) : Node :=
  if n.index.isPlaceholder then n else n.expect socket type

theorem contains_expectReal (n : Node) {socket : String} (type : ExpectedType)
    (declared : n.valuesOut.contains socket = true) (other : String) :
    (n.expectReal socket type).valuesOut.contains other = n.valuesOut.contains other := by
  rw [expectReal]
  split
  · rfl
  · simp only [expect, Dict.contains, Dict.find?_insert] at declared ⊢
    split
    · next same => rw [same, declared]; rfl
    · rfl

theorem typed_expectReal {n : Node} {socket : String} {type : ExpectedType}
    (others : ∀ other output, other ≠ socket → n.valuesOut.find? other = some output →
      output.expected ≠ none) :
    (n.expectReal socket type).index.isPlaceholder = false → ∀ other output,
      (n.expectReal socket type).valuesOut.find? other = some output → output.expected ≠ none := by
  rw [expectReal]
  split
  · next placeholder => exact fun real => absurd placeholder (by simp [real])
  · intro _ other output found
    simp only [expect, Dict.find?_insert] at found
    split at found
    · obtain rfl := Option.some.inj found
      simp
    · next different => exact others other output different found

theorem op_expectReal (n : Node) (socket : String) (type : ExpectedType) :
    (n.expectReal socket type).op = n.op := by
  rw [expectReal]; split <;> rfl

theorem configuration_expectReal (n : Node) (socket : String) (type : ExpectedType) :
    (n.expectReal socket type).configuration = n.configuration := by
  rw [expectReal]; split <;> rfl

theorem valuesIn_expectReal (n : Node) (socket : String) (type : ExpectedType) :
    (n.expectReal socket type).valuesIn = n.valuesIn := by
  rw [expectReal]; split <;> rfl

theorem flowsIn_expectReal (n : Node) (socket : String) (type : ExpectedType) :
    (n.expectReal socket type).flowsIn = n.flowsIn := by
  rw [expectReal]; split <;> rfl

theorem flowsOut_expectReal (n : Node) (socket : String) (type : ExpectedType) :
    (n.expectReal socket type).flowsOut = n.flowsOut := by
  rw [expectReal]; split <;> rfl

theorem Unwired.expectReal {n : Node} {op : Op} (unwired : n.Unwired op) {socket : String}
    (type : ExpectedType) (declared : n.valuesOut.contains socket = true) :
    (n.expectReal socket type).Unwired op where
  op_eq := (op_expectReal ..).trans unwired.op_eq
  inputs other input found := by
    rw [valueIn?, valuesIn_expectReal] at found
    obtain ⟨takes, empty⟩ := unwired.inputs other input found
    exact ⟨takes_congr (op_expectReal ..) (configuration_expectReal ..) takes, empty⟩
  outputs other := (contains_expectReal n type declared other).trans (unwired.outputs other)
  flowsIn other member := by
    rw [flowsIn_expectReal] at member
    rw [Validation.takesFlowInput, op_expectReal]
    exact unwired.flowsIn other member
  flowsOut other member := by
    rw [flowsOut_expectReal] at member
    rw [Validation.hasFlowOutput, op_expectReal]
    exact unwired.flowsOut other member
  idle other := by
    rw [targets, flowsOut_expectReal]
    exact unwired.idle other

/-- Nodes that point into no table and have neither cases nor slots are finished with their parameters
and types. -/
theorem finished_of {g : Graph} {n : Node} (lacks : n.Lacks [])
    (typed : n.index.isPlaceholder = false → ∀ socket output,
      n.valuesOut.find? socket = some output → output.expected ≠ none)
    (simple : n.op ∉ [Op.variableGet, .variableSet, .eventReceive, .eventSend, .flowSwitch, .mathSwitch,
      .debugLog]) : g.Finished n where
  configured name found := by simpa using lacks name found
  typed := typed
  variableRow op := by rcases op with op | op <;> simp [op] at simple
  eventRow op := by simp [op] at simple
  notSent op := by simp [op] at simple
  cases op := by rcases op with op | op <;> simp [op] at simple
  message op := by simp [op] at simple

/-- Reads and writes of variables are finished with their row and their types. -/
theorem finished_variable {g : Graph} {n : Node} {id : Nat} (lacks : n.Lacks [])
    (typed : n.index.isPlaceholder = false → ∀ socket output,
      n.valuesOut.find? socket = some output → output.expected ≠ none)
    (row : n.config? "variable" = some (.int (.ofNat id))) (inside : id < g.vars.size)
    (isVariable : n.op = .variableGet ∨ n.op = .variableSet) : g.Finished n where
  configured name found := by simpa using lacks name found
  typed := typed
  variableRow _ := ⟨id, row, inside⟩
  eventRow op := by simp [op] at isVariable
  notSent op := by simp [op] at isVariable
  cases op := by rcases op with op | op <;> simp [op] at isVariable
  message op := by simp [op] at isVariable

theorem Unwired.draft {cls : ScriptClass} {sources : Nat → Prop} {c : Context} {n : Node} {op : Op} (unwired : n.Unwired op)
    (index : n.index = .ofNat c.graph.nodes.size) (small : c.graph.nodes.size < 0x100000000) :
    c.Draft cls sources n where
  index := index
  small := small
  takes socket input found := (unwired.inputs socket input found).1
  single socket input found := .inl (unwired.inputs socket input found).2.1
  offered socket input source found fed := by
    simp [(unwired.inputs socket input found).2.2] at fed
  outputs socket output := by
    rw [unwired.outputs] at output
    exact .inl (unwired.op_eq ▸ output)
  declares socket output := by rwa [unwired.outputs, ← unwired.op_eq]
  flowsIn := unwired.flowsIn
  flowsOut := unwired.flowsOut
  idle := unwired.idle

end Node

namespace NodeId

@[simp] theorem valueOut_inj {id : NodeId} {a b : String} : id.valueOut a = id.valueOut b ↔ a = b := by
  simp [valueOut]

@[simp] theorem flowOut_inj {id : NodeId} {a b : String} : id.flowOut a = id.flowOut b ↔ a = b := by
  simp [flowOut]

@[simp] theorem flowIn_inj {id : NodeId} {a b : String} : id.flowIn a = id.flowIn b ↔ a = b := by
  simp [flowIn]

@[simp] theorem sockets_valueIn (id : NodeId) (socket : String) :
    (id.valueIn socket).sockets = [⟨id, socket⟩] := rfl

end NodeId

/-- What is known of a new node with the given outputs, inputs and entries. -/
@[simp] def made (id : NodeId) (op : Op) (outs ins entries : List String) : List Fact :=
  .node id op :: (outs.map (fun socket => .out (id.valueOut socket)) ++
    ins.map (fun socket => .input ⟨id, socket⟩) ++ ins.map (fun socket => .blank ⟨id, socket⟩) ++
    entries.map fun socket => .entry (id.flowIn socket))

/-- An operation without parameters has the given sockets. -/
def Op.Has (op : Op) (outs ins entries exits : List String) : Prop :=
  op.schema.config = [] ∧ (∀ socket ∈ outs, socket ∈ op.schema.valuesOut.map (·.1)) ∧
    (∀ socket ∈ ins, socket ∈ op.schema.valuesIn) ∧ (∀ socket ∈ entries, op.enters socket = true) ∧
    exits.Nodup ∧ ∀ socket ∈ exits, op.leads socket = true

instance (op : Op) (outs ins entries exits : List String) : Decidable (op.Has outs ins entries exits) :=
  inferInstanceAs (Decidable (_ ∧ _ ∧ _ ∧ _ ∧ _ ∧ _))

theorem Build.snd_expect (v : ValueOut) (type : ExpectedType) (c : Context) :
    (Build.expect v type c).2 =
      if v.address.node.isPlaceholder then c
      else c.modifyNode v.address.node (·.expect v.address.socket type) := by
  have changed : (Build.expect v type c).2 = { c with graph := c.graph.expect v type } := rfl
  rw [changed, Graph.expect]
  split
  · rfl
  · rfl

namespace Context

variable {c c' : Context}

/-- A node that is being made: in range the context is the one before with the node placed. -/
structure Drafts (c : Context) (id : NodeId) (n : Node) (c' : Context) : Prop where
  id_eq : id = .ofNat c.graph.nodes.size
  index : n.index = id
  nodes : c'.graph.nodes.size = c.graph.nodes.size + 1
  placeholders : c'.placeholders = c.placeholders
  vars : c'.graph.vars = c.graph.vars
  events : c'.graph.events = c.graph.events
  same : c.graph.Identified → c.graph.nodes.size < 0x100000000 → c' = c.place n

theorem drafts_createNode (c : Context) (op : Op) :
    Ensures (Build.createNode op) c fun id c' => c.Drafts id (.new id op) c' :=
  ⟨rfl, rfl, Array.size_push .., rfl, rfl, rfl, fun _ _ => rfl⟩

theorem Drafts.edit {id : NodeId} {n : Node} (drafts : c.Drafts id n c') {f : Node → Node}
    (keeps : (f n).index = n.index) : c.Drafts id (f n) (c'.modifyNode id f) where
  id_eq := drafts.id_eq
  index := keeps.trans drafts.index
  nodes := (Graph.size_modifyNode ..).trans drafts.nodes
  placeholders := drafts.placeholders
  vars := (Graph.vars_modifyNode ..).trans drafts.vars
  events := (Graph.events_modifyNode ..).trans drafts.events
  same identified small := by
    rw [drafts.same identified small, drafts.id_eq]
    simp only [modifyNode, place, identified.modifyNode_place (drafts.index.trans drafts.id_eq) small]

theorem Drafts.configure {id : NodeId} {n : Node} (drafts : c.Drafts id n c') (name : String)
    (value : ConfigValue) :
    Ensures (Build.configure id name value) c' fun _ c'' => c.Drafts id (n.configure name value) c'' :=
  drafts.edit (f := fun n => n.configure name value) rfl

theorem Drafts.restrict {id : NodeId} {n : Node} (drafts : c.Drafts id n c') (socket : String)
    (restriction : TypeRestriction) :
    Ensures (Build.restrict (id.valueIn socket) restriction) c' fun _ c'' =>
      c.Drafts id (n.changeInput socket fun input => { input with restriction := some restriction }) c'' :=
  drafts.edit (f := fun n => n.changeInput socket fun input =>
    { input with restriction := some restriction }) rfl

theorem Drafts.expect {id : NodeId} {n : Node} (drafts : c.Drafts id n c') (socket : String)
    (type : ExpectedType) :
    Ensures (Build.expect (id.valueOut socket) type) c' fun _ c'' =>
      c.Drafts id (n.expectReal socket type) c'' := by
  rw [Ensures, Build.snd_expect, Node.expectReal, drafts.index]
  by_cases placeholder : id.isPlaceholder = true
  · simpa [NodeId.valueOut, placeholder] using drafts
  · simpa [NodeId.valueOut, placeholder] using drafts.edit (f := fun n => n.expect socket type) rfl

theorem Drafts.inRange {id : NodeId} {n : Node} (drafts : c.Drafts id n c') (inRange : c'.InRange) :
    c.InRange ∧ c.graph.nodes.size < 0x100000000 ∧ id.toNat = c.graph.nodes.size := by
  have room := inRange.1
  rw [drafts.nodes] at room
  refine ⟨⟨by omega, drafts.placeholders ▸ inRange.2⟩, by omega, ?_⟩
  rw [drafts.id_eq, NodeId.toNat_ofNat (by omega)]

end Context

namespace Known

variable {w : Scope} {facts : List Fact} {exits : List FlowOut} {c c' : Context}

open Context

theorem drafted {id : NodeId} {n : Node} (known : Known w facts exits c) (drafts : c.Drafts id n c')
    (inRange : c'.InRange) : c'.graph.nodes[id.toNat]? = some n := by
  obtain ⟨before, small, number⟩ := drafts.inRange inRange
  rw [drafts.same (known.sound before).wiredNow.identified small, Context.place, Graph.nodes_place, number,
    if_pos rfl]

/-- A new node as its builder leaves it, some of its flows being kept. -/
theorem placedDraft {id : NodeId} {n : Node} {new : List Fact} {flows : List String}
    (known : Known w facts exits c) (drafts : c.Drafts id n c')
    (draft : c.InRange → n.index = .ofNat c.graph.nodes.size → c.graph.nodes.size < 0x100000000 →
      c.Draft w.cls w.sources n)
    (finished : id ∈ w.pending ∨ (c.InRange → c.graph.Finished n))
    (holds : w.start.graph.nodes.size ≤ id.toNat → w.sources id.toNat →
      c'.graph.nodes[id.toNat]? = some n → ∀ f ∈ new, f.Holds w c')
    (nodup : flows.Nodup) (leads : ∀ socket ∈ flows, Validation.hasFlowOutput n socket = true)
    (keeps : String → Prop)
    (others : ∀ socket, keeps socket → Validation.hasFlowOutput n socket = true ∧ socket ∉ flows) :
    Known { w with kept := fun f => (∃ socket, keeps socket ∧ f = id.flowOut socket) ∨ w.kept f }
      (new ++ facts) (flows.map id.flowOut ++ exits) c' where
  nodes_le := by
    have := known.nodes_le
    simp only [drafts.nodes]
    omega
  placeholders_le := drafts.placeholders ▸ known.placeholders_le
  sound inRange := by
    obtain ⟨before, small, number⟩ := drafts.inRange inRange
    have old := known.sound before
    have identified := old.wiredNow.identified
    have draft := draft before (drafts.index.trans drafts.id_eq) small
    have sound := old.place draft
      (finished.imp (fun member => drafts.index ▸ member) fun done => done before)
    have recent : w.start.graph.nodes.size ≤ id.toNat :=
      Nat.le_trans known.nodes_le (Nat.le_of_eq number.symm)
    rw [← drafts.same identified small] at sound
    have here := known.drafted drafts inRange
    have newer {i : Nat} {property : Node → Prop} (at' : c.graph.At i property) : i ≠ id.toNat := by
      have := at'.lt
      omega
    refine ⟨sound.wired, sound.run, sound.fresh, sound.finished, fun f member => ?_, fun f member => ?_,
      ?_, fun f kept => ?_⟩
    · rcases List.mem_append.1 member with new | old
      · exact holds recent (sound.fresh _ recent) here f new
      · exact sound.holds f old
    · rcases List.mem_append.1 member with new | old
      · obtain ⟨socket, listed, rfl⟩ := List.mem_map.1 new
        exact ⟨n, here, leads socket listed, draft.idle socket⟩
      · exact sound.free f old
    · refine List.nodup_append.2 ⟨?_, sound.nodup, ?_⟩
      · exact List.Pairwise.map _ (fun a b different same => different (NodeId.flowOut_inj.1 same)) nodup
      · rintro _ new g member rfl
        obtain ⟨socket, _, rfl⟩ := List.mem_map.1 new
        exact newer (old.free _ member) rfl
    · rcases kept with ⟨socket, held, rfl⟩ | kept
      · obtain ⟨leads, outside⟩ := others socket held
        refine ⟨fun member => ?_, ⟨n, here, leads, draft.idle socket⟩⟩
        rcases List.mem_append.1 member with new | old'
        · obtain ⟨exit, listed, same⟩ := List.mem_map.1 new
          exact outside (NodeId.flowOut_inj.1 same ▸ listed)
        · exact newer (old.free _ old') rfl
      · refine ⟨fun member => ?_, (sound.keeps f kept).2⟩
        rcases List.mem_append.1 member with new | old'
        · obtain ⟨socket, _, rfl⟩ := List.mem_map.1 new
          exact newer (old.keeps _ kept).2 rfl
        · exact (sound.keeps f kept).1 old'

/-- A new node that is not wired yet, some of its flows being kept. -/
theorem placedKeeping {id : NodeId} {n : Node} (op : Op) (known : Known w facts exits c)
    (drafts : c.Drafts id n c') (unwired : n.Unwired op)
    (finished : id ∈ w.pending ∨ (c.InRange → c.graph.Finished n))
    {outs ins entries flows : List String}
    (outputs : ∀ socket ∈ outs, socket ∈ op.schema.valuesOut.map (·.1))
    (takes : ∀ socket ∈ ins, n.Takes socket) (enters : ∀ socket ∈ entries, op.enters socket = true)
    (nodup : flows.Nodup) (leads : ∀ socket ∈ flows, op.leads socket = true) (keeps : String → Prop)
    (others : ∀ socket, keeps socket → op.leads socket = true ∧ socket ∉ flows) :
    Known { w with kept := fun f => (∃ socket, keeps socket ∧ f = id.flowOut socket) ∨ w.kept f }
      (made id op outs ins entries ++ facts) (flows.map id.flowOut ++ exits) c' := by
  have leading {socket : String} (leads : op.leads socket = true) :
      Validation.hasFlowOutput n socket = true := by
    rw [Validation.hasFlowOutput, unwired.op_eq]
    exact leads
  refine known.placedDraft drafts (fun _ => unwired.draft) finished (fun recent source here f new => ?_)
    nodup (fun socket listed => leading (leads socket listed)) keeps
    (fun socket held => (others socket held).imp_left leading)
  simp only [made, List.mem_cons, List.mem_append, List.mem_map] at new
  rcases new with rfl | ((⟨socket, listed, rfl⟩ | ⟨socket, listed, rfl⟩) | ⟨socket, listed, rfl⟩) |
    ⟨socket, listed, rfl⟩
  · exact ⟨n, here, unwired.op_eq⟩
  · refine ⟨.inr ⟨n, here, .inl ?_⟩, .inr source⟩
    obtain ⟨o, output, rfl⟩ := List.mem_map.1 (outputs socket listed)
    rw [unwired.outputs, List.any_eq_true]
    exact ⟨o, output, beq_self_eq_true _⟩
  · exact ⟨recent, n, here, takes socket listed, fun input found => (unwired.inputs _ _ found).2.1⟩
  · exact ⟨recent, n, here, takes socket listed, fun input found => (unwired.inputs _ _ found).2⟩
  · refine ⟨n, here, ?_⟩
    have enters := enters socket listed
    rw [← unwired.op_eq] at enters
    exact enters

/-- A new node that is not wired yet. -/
theorem placed {id : NodeId} {n : Node} (op : Op) (known : Known w facts exits c)
    (drafts : c.Drafts id n c') (unwired : n.Unwired op)
    (finished : id ∈ w.pending ∨ (c.InRange → c.graph.Finished n))
    {outs ins entries flows : List String}
    (outputs : ∀ socket ∈ outs, socket ∈ op.schema.valuesOut.map (·.1))
    (takes : ∀ socket ∈ ins, n.Takes socket) (enters : ∀ socket ∈ entries, op.enters socket = true)
    (nodup : flows.Nodup) (leads : ∀ socket ∈ flows, op.leads socket = true) :
    Known w (made id op outs ins entries ++ facts) (flows.map id.flowOut ++ exits) c' :=
  have kept := (known.placedKeeping op drafts unwired finished outputs takes enters nodup leads
    (fun _ => False) (by simp)).keepOnly (fun f keep => .inr keep : ∀ f, w.kept f → _)
  kept

/-- A new node of an operation without parameters. -/
theorem createNode {op : Op} {outs ins entries flows : List String} (known : Known w facts exits c)
    (has : op.Has outs ins entries flows) :
    Ensures (Build.createNode op) c fun id c' =>
      Known w (made id op outs ins entries ++ facts) (flows.map id.flowOut ++ exits) c' := by
  obtain ⟨plain, outputs, inputs, enters, nodup, leads⟩ := has
  refine (drafts_createNode c op).mono fun id _ drafts => ?_
  exact known.placed op drafts (Node.unwired_new id op) (.inr fun _ => Node.finished_new plain) outputs
    (fun socket listed => Node.takes_of_schema (List.contains_iff_mem.2 (inputs socket listed))) enters
    nodup leads

/-- A new sequence, all of whose outputs are kept. -/
theorem createSequence (known : Known w facts exits c) :
    Ensures (Build.createNode .flowSequence) c fun id c' =>
      Known { w with kept := fun f =>
          (∃ socket, Validation.isNumeral socket = true ∧ f = id.flowOut socket) ∨ w.kept f }
        (made id .flowSequence [] [] ["in"] ++ facts) exits c' := by
  refine (drafts_createNode c .flowSequence).mono fun id _ drafts => ?_
  have made := known.placedKeeping .flowSequence drafts (Node.unwired_new id _)
    (.inr fun _ => Node.finished_new rfl) (by decide : ∀ socket ∈ [], _) (by simp : ∀ socket ∈ [], _)
    (by decide : ∀ socket ∈ ["in"], _) (by decide : List.Nodup []) (by simp)
    (Validation.isNumeral · = true) fun _ numeral => ⟨Bool.or_eq_true_iff.2 (.inr numeral), by simp⟩
  refine made.keepOnly fun f kept => ?_
  rcases kept with ⟨socket, numeral, rfl⟩ | kept
  · exact .inl ⟨socket, numeral, rfl⟩
  · exact .inr kept

theorem getElem?_push_of_some {α : Type} {xs : Array α} {x y : α} {i : Nat} (found : xs[i]? = some y) :
    (xs.push x)[i]? = some y := by
  have inside := (Array.getElem?_eq_some_iff.1 found).1
  rw [Array.getElem?_push_lt inside, ← found, Array.getElem?_eq_getElem inside]

/-- Nodes, tables and placeholders are not touched. -/
theorem aside (known : Known w facts exits c) (graph : c'.graph = c.graph)
    (placeholders : c'.placeholders = c.placeholders) : Known w facts exits c' := by
  refine known.book (by rw [graph]) (placeholders ▸ Nat.le_refl _) ⟨?_, ?_, ?_, ?_⟩
    fun i e found => .inl (graph ▸ found)
  · exact fun i v found => ⟨v, graph ▸ found, rfl, rfl⟩
  · exact fun i e found => graph ▸ found
  · exact fun i p found => placeholders ▸ found
  · exact fun apart => graph ▸ apart

theorem createPlaceholder {value : Option Literal} (known : Known w facts exits c) :
    Ensures (Build.createPlaceholder value) c fun v c' => Known w (.out v :: facts) exits c' := by
  have more : Known w facts exits (Build.createPlaceholder value c).2 := by
    refine known.book rfl (Nat.le_of_lt ?_) ⟨fun _ v h => ⟨v, h, rfl, rfl⟩, fun _ _ h => h, ?_, id⟩
      fun _ _ => .inl
    · exact Nat.lt_of_lt_of_eq (Nat.lt_succ_self _) (Array.size_push ..).symm
    · exact fun i p found => getElem?_push_of_some found
  refine more.learn fun inRange => ?_
  have room : NodeId.placeholderBase + (c.placeholders.size + 1) ≤ 0x100000000 := by
    rw [← Array.size_push value]
    exact inRange.2
  have placeholder := NodeId.isPlaceholder_placeholder (n := c.placeholders.size) (by omega)
  exact ⟨.inl placeholder, .inl placeholder⟩

theorem createLiteral {value : Literal} (known : Known w facts exits c) :
    Ensures (Build.createLiteral value) c fun v c' => Known w (.out v :: facts) exits c' :=
  known.createPlaceholder

theorem createUnknownLiteral (known : Known w facts exits c) :
    Ensures Build.createUnknownLiteral c fun v c' => Known w (.out v :: facts) exits c' :=
  known.createPlaceholder

theorem declareVariable {name : String} {initial : Option Literal} {valueType : ValueType}
    (known : Known w facts exits c) :
    Ensures (Build.declareVariable name initial valueType) c fun id c' =>
      Known w (.row id :: facts) exits c' := by
  rcases found : c.variableId? name with _ | id
  · have ends : Build.declareVariable name initial valueType c =
        (c.graph.vars.size, { c with graph :=
          { c.graph with vars := c.graph.vars.push { name, valueType, initial } } }) := by
      simp only [Build.declareVariable, modifyGet, MonadStateOf.modifyGet, StateT.modifyGet, found]
      rfl
    rw [Ensures, ends]
    refine learn (known.book rfl (Nat.le_refl _) ⟨fun i v found => ?_, fun _ _ h => h,
      fun _ _ h => h, fun apart => apart.push ?_⟩ fun _ _ => .inl) fun _ => ?_
    · exact ⟨v, getElem?_push_of_some found, rfl, rfl⟩
    · simpa [Context.variableId?] using found
    · exact Nat.lt_of_lt_of_eq (Nat.lt_succ_self _) (Array.size_push ..).symm
  · have ends : Build.declareVariable name initial valueType c = (id, c) := by
      simp only [Build.declareVariable, modifyGet, MonadStateOf.modifyGet, StateT.modifyGet, found]
      rfl
    rw [Ensures, ends]
    exact known.learn fun _ => (Array.findIdx?_eq_some_iff_getElem.1 found).1

theorem setInitial {id : Nat} {initial : Option Literal} (known : Known w facts exits c) :
    Ensures (Build.setInitial id initial) c fun _ c' => Known w facts exits c' := by
  refine known.book rfl (Nat.le_refl _) ⟨fun i v found => ?_, fun _ _ h => h, fun _ _ h => h, fun apart => ?_⟩
    fun _ _ => .inl
  · refine ⟨if id = i then { v with initial } else v, ?_, ?_⟩
    · refine (Array.getElem?_modify ..).trans ?_
      rw [found]
      split <;> rfl
    · split <;> exact ⟨rfl, rfl⟩
  · refine apart.renamed fun i v' found => ?_
    have found := (Array.getElem?_modify ..).symm.trans found
    split at found
    · obtain ⟨v, there, rfl⟩ := Option.map_eq_some_iff.1 found
      exact ⟨v, there, rfl⟩
    · exact ⟨v', found, rfl⟩

theorem uniqueName {stem : String} (known : Known w facts exits c) :
    Ensures (Build.uniqueName stem) c fun _ c' => Known w facts exits c' :=
  known.aside rfl rfl

theorem report {kind : DiagnosticKind} {message : String} (known : Known w facts exits c) :
    Ensures (Build.report kind message) c fun _ c' => Known w facts exits c' :=
  known.aside rfl rfl

theorem setMethod {name : String} (known : Known w facts exits c) :
    Ensures (Build.setMethod name) c fun _ c' => Known w facts exits c' :=
  known.aside rfl rfl

end Known

end ScriptGraph
