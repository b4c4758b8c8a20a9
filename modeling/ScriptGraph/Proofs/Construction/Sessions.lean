import Mathlib
import ScriptGraph.Proofs.Construction.Positions

/-!
What a caller of the construction may rely on.

A caller hears the answers to its calls and nothing else: the identity of each node, the number of each
variable and event, the placeholder of each constant. A `Session` keeps a record of these answers beside
the graph. However calls follow one another, the record and the tables of the graph agree, and what an
identity once denoted it denotes for good.
-/

namespace ScriptGraph

/-- A call on a graph under construction. -/
inductive Operation where
  | createNode (op : Op)
  | createLiteral (value : Literal)
  | createUnknownLiteral
  | declareVariable (name : String) (initial : Option Literal) (type : ValueType)
  | declareEvent (name : String) (values : List EventValue)
  | setInitial (id : Nat) (initial : Option Literal)
  | uniqueName (stem : String)
  | configure (id : NodeId) (name : String) (value : ConfigValue)
  | connect (target : ValueIn) (source : ValueOut)
  | setLiteral (target : ValueIn) (value : Literal)
  | restrict (target : ValueIn) (restriction : TypeRestriction)
  | expect (output : ValueOut) (type : ExpectedType)
  | connectFlow (start : FlowOut) (target : FlowIn)
  | resolveLiterals

/-- The identity after another. -/
def NodeId.next (id : NodeId) : NodeId := ⟨id.val + 1⟩

/-- A graph under construction and the answers given to its callers. -/
structure Session where
  context : Context
  /-- The identity after the last one given to a node. -/
  nextNode : NodeId := .ofNat 0
  /-- The identity after the last one given to a placeholder since placeholders were last replaced. -/
  nextPlaceholder : NodeId := .placeholder 0
  /-- The placeholders given since they were last replaced, with the constants they were asked for. -/
  live : List (NodeId × Option Literal) := []
  /-- The last answer for each name of a variable. -/
  vars : Dict Nat := .empty
  /-- The last answer for each name of an event. -/
  events : Dict Nat := .empty

namespace Session

/-- Nothing was asked for yet. -/
def start (options : Options) (targets : Targets) : Session := { context := { options, targets } }

/-- Takes a step of construction and notes its answer. -/
def after {α : Type} (s : Session) (step : Build α) (note : α → Session → Session) : Session :=
  note (step s.context).1 { s with context := (step s.context).2 }

/-- Notes a placeholder. -/
def addLive (s : Session) (value : Option Literal) (output : ValueOut) : Session :=
  { s with
    live := s.live ++ [(output.address.node, value)]
    nextPlaceholder := output.address.node.next }

/-- Takes a call. -/
def perform (s : Session) : Operation → Session
  | .createNode op => s.after (Build.createNode op) fun id s => { s with nextNode := id.next }
  | .createLiteral value => s.after (Build.createLiteral value) fun v s => s.addLive (some value) v
  | .createUnknownLiteral => s.after Build.createUnknownLiteral fun v s => s.addLive none v
  | .declareVariable name initial type =>
    s.after (Build.declareVariable name initial type) fun id s =>
      { s with vars := s.vars.insert name id }
  | .declareEvent name values =>
    s.after (Build.declareEvent name values) fun id s => { s with events := s.events.insert name id }
  | .setInitial id initial => s.after (Build.setInitial id initial) fun _ s => s
  | .uniqueName stem => s.after (Build.uniqueName stem) fun _ s => s
  | .configure id name value => s.after (Build.configure id name value) fun _ s => s
  | .connect target source => s.after (Build.connect target source) fun _ s => s
  | .setLiteral target value => s.after (Build.setLiteral target value) fun _ s => s
  | .restrict target restriction => s.after (Build.restrict target restriction) fun _ s => s
  | .expect output type => s.after (Build.expect output type) fun _ s => s
  | .connectFlow start target => s.after (Build.connectFlow start target) fun _ s => s
  | .resolveLiterals => s.after Build.resolveLiterals fun _ s =>
      { s with live := [], nextPlaceholder := .placeholder 0 }

/-- Takes one call after another. -/
def run (s : Session) (calls : List Operation) : Session := calls.foldl perform s

end Session

/-- What stays of a node. -/
def Node.signature (n : Node) : NodeId × Op := (n.index, n.op)

theorem Node.signature_addTarget (n : Node) (name : String) (target : SocketAddress) :
    (n.addTarget name target).signature = n.signature := rfl

theorem Node.signature_addFlowIn (n : Node) (name : String) : (n.addFlowIn name).signature = n.signature := rfl

/-- What stays of a variable. -/
def Variable.signature (v : Variable) : String × ValueType := (v.name, v.valueType)

/-- What stays of the contents of a graph. -/
structure Outline where
  nodes : List (NodeId × Op)
  vars : List (String × ValueType)
  events : List CustomEvent

/-- The signatures of the nodes and variables, and the events. -/
def Graph.outline (g : Graph) : Outline where
  nodes := g.nodes.toList.map Node.signature
  vars := g.vars.toList.map Variable.signature
  events := g.events.toList

/-- Each table is a beginning of the other one's. -/
structure Outline.Begins (o o' : Outline) : Prop where
  nodes : o.nodes <+: o'.nodes
  vars : o.vars <+: o'.vars
  events : o.events <+: o'.events

namespace Outline.Begins

theorem refl (o : Outline) : o.Begins o :=
  ⟨List.prefix_refl _, List.prefix_refl _, List.prefix_refl _⟩

theorem trans {o p q : Outline} (first : o.Begins p) (second : p.Begins q) : o.Begins q :=
  ⟨first.nodes.trans second.nodes, first.vars.trans second.vars, first.events.trans second.events⟩

end Outline.Begins

namespace Graph

theorem map_modify {α β : Type} {xs : Array α} {i : Nat} {f : α → α} {view : α → β}
    (keeps : ∀ x, view (f x) = view x) : (xs.modify i f).toList.map view = xs.toList.map view := by
  apply List.ext_getElem?
  intro k
  simp only [List.getElem?_map, Array.getElem?_toList, Array.getElem?_modify]
  split
  · rw [Option.map_map]
    exact congrArg (Option.map · _) (funext keeps)
  · rfl

theorem outline_modifyNode (g : Graph) (id : NodeId) {f : Node → Node}
    (keeps : ∀ n, (f n).signature = n.signature) : (g.modifyNode id f).outline = g.outline := by
  rw [modifyNode]
  split
  · simp only [outline, map_modify keeps]
  · rfl

theorem outline_changeInput (g : Graph) (target : ValueIn) (f : ValueInput → ValueInput) :
    (g.changeInput target f).outline = g.outline := by
  obtain ⟨sockets⟩ := target
  simp only [changeInput]
  induction sockets generalizing g with
  | nil => rfl
  | cons a sockets ih =>
    rw [List.foldl_cons, ih]
    exact outline_modifyNode g a.node fun _ => rfl

theorem outline_expect (g : Graph) (output : ValueOut) (type : ExpectedType) :
    (g.expect output type).outline = g.outline := by
  rw [expect]
  split
  · rfl
  · exact outline_modifyNode g _ fun _ => rfl

theorem outline_connectFlow (g : Graph) (start : FlowOut) (target : FlowIn) :
    (g.connectFlow start target).outline = g.outline := by
  have led := outline_modifyNode g start.address.node
    fun n => n.signature_addTarget start.address.socket target.address
  exact (outline_modifyNode _ target.address.node fun n => n.signature_addFlowIn _).trans led

theorem identified_iff (g : Graph) :
    g.Identified ↔ ∀ (i : Nat) p, g.outline.nodes[i]? = some p → p.1 = .ofNat i := by
  simp only [Identified, outline, List.getElem?_map, Array.getElem?_toList, Option.map_eq_some_iff]
  constructor
  · rintro identified i p ⟨n, found, rfl⟩
    exact identified i n found
  · intro identified i n found
    exact identified i n.signature ⟨n, found, rfl⟩

theorem outline_place (g : Graph) (n : Node) :
    (g.place n).outline = { g.outline with nodes := g.outline.nodes ++ [n.signature] } := by
  simp [outline, place]

end Graph

/-- The answers for names are the places of the names. -/
def Interned (names : List String) (ids : Dict Nat) : Prop :=
  ∀ name id, ids.find? name = some id ↔ names[id]? = some name

namespace Interned

variable {names : List String} {ids : Dict Nat} {name : String}

theorem nil : Interned [] .empty := by
  intro name id
  simp

/-- A search through the names finds the answer. -/
theorem findIdx? {α : Type} {xs : Array α} {view : α → String}
    (interned : Interned (xs.toList.map view) ids) (name : String) :
    xs.findIdx? (view · == name) = ids.find? name := by
  have places (i : Nat) : (xs.toList.map view)[i]? = some name ↔ ids.find? name = some i :=
    (interned name i).symm
  simp only [List.getElem?_map, Array.getElem?_toList] at places
  cases known : ids.find? name with
  | none =>
    rw [Array.findIdx?_eq_none_iff]
    intro x member
    obtain ⟨i, inside, rfl⟩ := Array.getElem_of_mem member
    have absent : ¬ xs[i]?.map view = some name := by
      rw [places, known]
      exact Option.some_ne_none _ ∘ Eq.symm
    simpa [Array.getElem?_eq_getElem inside] using absent
  | some id =>
    obtain ⟨x, found, named⟩ := Option.map_eq_some_iff.1 ((places id).2 known)
    obtain ⟨inside, rfl⟩ := Array.getElem?_eq_some_iff.1 found
    rw [Array.findIdx?_eq_some_iff_getElem]
    refine ⟨inside, by simpa using named, fun j below => ?_⟩
    intro same
    have again : xs[j]?.map view = some name := by
      rw [Array.getElem?_eq_getElem (Nat.lt_trans below inside), Option.map_some]
      exact congrArg some (by simpa using same)
    rw [places, known] at again
    exact absurd (Option.some.inj again) (Nat.ne_of_gt below)

/-- The answer for a known name is given again. -/
theorem again (interned : Interned names ids) {id : Nat} (known : ids.find? name = some id) :
    Interned names (ids.insert name id) := by
  intro other i
  rw [← interned, Dict.find?_insert]
  split
  · next same => rw [same, known]
  · rfl

/-- A new name gets the place behind the others. -/
theorem push (interned : Interned names ids) (unknown : ids.find? name = none) :
    Interned (names ++ [name]) (ids.insert name names.length) := by
  intro other i
  have absent (j : Nat) : names[j]? ≠ some name := by
    intro found
    rw [← interned, unknown] at found
    cases found
  rw [Dict.find?_insert, List.getElem?_append]
  by_cases inside : i < names.length
  · rw [if_pos inside]
    split
    · next same =>
      subst same
      simp only [Option.some.injEq, absent i, iff_false]
      omega
    · exact interned other i
  · rw [if_neg inside]
    split
    · next same => simp [same, List.getElem?_singleton]; omega
    · next different =>
      have beyond : names[i]? = none := List.getElem?_eq_none (by omega)
      rw [interned, beyond]
      simp [List.getElem?_singleton, Ne.symm different]

end Interned

namespace Build

variable {c : Context} {name : String} {id : Nat}

theorem declareVariable_of_known (initial : Option Literal) (type : ValueType)
    (known : c.variableId? name = some id) : declareVariable name initial type c = (id, c) := by
  simp only [declareVariable, modifyGet, MonadStateOf.modifyGet, StateT.modifyGet, known]
  rfl

theorem declareVariable_of_new (initial : Option Literal) (type : ValueType) (new : c.variableId? name = none) :
    declareVariable name initial type c = (c.graph.vars.size,
      { c with graph := { c.graph with vars := c.graph.vars.push ⟨name, type, initial⟩ } }) := by
  simp only [declareVariable, modifyGet, MonadStateOf.modifyGet, StateT.modifyGet, new]
  rfl

theorem declareEvent_of_known (values : List EventValue) (known : c.eventId? name = some id) :
    declareEvent name values c = (id, c) := by
  simp only [declareEvent, modifyGet, MonadStateOf.modifyGet, StateT.modifyGet, known]
  rfl

theorem declareEvent_of_new (values : List EventValue) (new : c.eventId? name = none) :
    declareEvent name values c = (c.graph.events.size,
      { c with graph := { c.graph with events := c.graph.events.push ⟨name, values⟩ } }) := by
  simp only [declareEvent, modifyGet, MonadStateOf.modifyGet, StateT.modifyGet, new]
  rfl

end Build

theorem NodeId.next_ofNat (n : Nat) : (ofNat n).next = ofNat (n + 1) := by
  simp [next, ofNat]

namespace Session

/-- What a call can do to a session. -/
inductive Change (s : Session) : Session → Prop
  | edit {c : Context} (outline : c.graph.outline = s.context.graph.outline)
      (placeholders : c.placeholders = s.context.placeholders) : Change s { s with context := c }
  | node (op : Op) :
      Change s { s with
        context := { s.context with
          graph := s.context.graph.place (.new (.ofNat s.context.graph.nodes.size) op) }
        nextNode := (NodeId.ofNat s.context.graph.nodes.size).next }
  | placeholder (value : Option Literal) :
      Change s { s with
        context := { s.context with placeholders := s.context.placeholders.push value }
        live := s.live ++ [(.placeholder s.context.placeholders.size, value)]
        nextPlaceholder := (NodeId.placeholder s.context.placeholders.size).next }
  | knownVariable {name : String} {id : Nat} (known : s.context.variableId? name = some id) :
      Change s { s with vars := s.vars.insert name id }
  | newVariable {v : Variable} (new : s.context.variableId? v.name = none) :
      Change s { s with
        context := { s.context with
          graph := { s.context.graph with vars := s.context.graph.vars.push v } }
        vars := s.vars.insert v.name s.context.graph.vars.size }
  | knownEvent {name : String} {id : Nat} (known : s.context.eventId? name = some id) :
      Change s { s with events := s.events.insert name id }
  | newEvent {e : CustomEvent} (new : s.context.eventId? e.name = none) :
      Change s { s with
        context := { s.context with
          graph := { s.context.graph with events := s.context.graph.events.push e } }
        events := s.events.insert e.name s.context.graph.events.size }
  | resolve {c : Context} (outline : c.graph.outline = s.context.graph.outline)
      (placeholders : c.placeholders = #[]) :
      Change s { s with context := c, live := [], nextPlaceholder := .placeholder 0 }

theorem change_declareVariable (s : Session) (name : String) (initial : Option Literal) (type : ValueType) :
    s.Change (s.perform (.declareVariable name initial type)) := by
  rw [perform, after]
  cases known : s.context.variableId? name with
  | some id =>
    rw [Build.declareVariable_of_known initial type known]
    exact .knownVariable known
  | none =>
    rw [Build.declareVariable_of_new initial type known]
    exact .newVariable known

theorem change_declareEvent (s : Session) (name : String) (values : List EventValue) :
    s.Change (s.perform (.declareEvent name values)) := by
  rw [perform, after]
  cases known : s.context.eventId? name with
  | some id =>
    rw [Build.declareEvent_of_known values known]
    exact .knownEvent known
  | none =>
    rw [Build.declareEvent_of_new values known]
    exact .newEvent known

theorem change_setInitial (s : Session) (id : Nat) (initial : Option Literal) :
    s.Change (s.perform (.setInitial id initial)) := by
  have same : (s.context.graph.vars.modify id ({ · with initial })).toList.map Variable.signature =
    s.context.graph.vars.toList.map Variable.signature := Graph.map_modify fun _ => rfl
  exact .edit (congrArg (Outline.mk s.context.graph.outline.nodes · s.context.graph.outline.events) same) rfl

theorem change_resolveLiterals (s : Session) : s.Change (s.perform .resolveLiterals) := by
  have same : (s.context.graph.nodes.map fun n => { n with valuesIn := n.valuesIn.map s.context.resolveInput }
    ).toList.map Node.signature = s.context.graph.nodes.toList.map Node.signature := by
    simp [Node.signature, Function.comp_def]
  exact .resolve (congrArg (Outline.mk · s.context.graph.outline.vars s.context.graph.outline.events) same) rfl

theorem change_perform (s : Session) (call : Operation) : s.Change (s.perform call) := by
  cases call with
  | createNode op => exact .node op
  | createLiteral value => exact .placeholder (some value)
  | createUnknownLiteral => exact .placeholder none
  | declareVariable name initial type => exact s.change_declareVariable name initial type
  | declareEvent name values => exact s.change_declareEvent name values
  | setInitial id initial => exact s.change_setInitial id initial
  | uniqueName => exact .edit rfl rfl
  | configure id name value => exact .edit (Graph.outline_modifyNode _ id fun _ => rfl) rfl
  | connect target => exact .edit (Graph.outline_changeInput _ target _) rfl
  | setLiteral target => exact .edit (Graph.outline_changeInput _ target _) rfl
  | restrict target => exact .edit (Graph.outline_changeInput _ target _) rfl
  | expect output type => exact .edit (Graph.outline_expect _ output type) rfl
  | connectFlow start target => exact .edit (Graph.outline_connectFlow _ start target) rfl
  | resolveLiterals => exact s.change_resolveLiterals

/-- The record and the tables tell the same. Identities are counted modulo 2³² here, so that no bound on
the number of nodes or placeholders is needed along a run. -/
structure Kept (s : Session) : Prop where
  identified : s.context.graph.Identified
  nextNode : s.nextNode = .ofNat s.context.graph.nodes.size
  nextPlaceholder : s.nextPlaceholder = .placeholder s.context.placeholders.size
  live : s.live = s.context.placeholders.toList.zipIdx.map fun (value, i) => (.placeholder i, value)
  vars : Interned (s.context.graph.vars.toList.map (·.name)) s.vars
  events : Interned (s.context.graph.events.toList.map (·.name)) s.events

variable {s t : Session}

theorem Kept.variableId? (kept : s.Kept) (name : String) :
    s.context.variableId? name = s.vars.find? name :=
  kept.vars.findIdx? name

theorem Kept.eventId? (kept : s.Kept) (name : String) : s.context.eventId? name = s.events.find? name :=
  kept.events.findIdx? name

/-- What is said of the graph depends on its outline only. -/
theorem Kept.edit (kept : s.Kept) {c : Context} (outline : c.graph.outline = s.context.graph.outline) :
    c.graph.Identified ∧ s.nextNode = .ofNat c.graph.nodes.size ∧
      Interned (c.graph.vars.toList.map (·.name)) s.vars ∧
      Interned (c.graph.events.toList.map (·.name)) s.events := by
  have size := congrArg (·.nodes.length) outline
  have vars := congrArg (·.vars.map (·.1)) outline
  have events : c.graph.events.toList = s.context.graph.events.toList := congrArg (·.events) outline
  simp only [Graph.outline, List.length_map, Array.length_toList] at size
  simp only [Graph.outline, List.map_map] at vars
  refine ⟨?_, size ▸ kept.nextNode, ?_, ?_⟩
  · have identified := kept.identified
    rw [Graph.identified_iff, outline, ← Graph.identified_iff]
    exact identified
  · exact (vars : c.graph.vars.toList.map (·.name) = _) ▸ kept.vars
  · exact events ▸ kept.events

theorem Kept.change (kept : s.Kept) (change : s.Change t) : t.Kept := by
  cases change with
  | edit outline placeholders =>
    obtain ⟨identified, nextNode, vars, events⟩ := kept.edit outline
    exact { identified, nextNode, vars, events
            nextPlaceholder := placeholders ▸ kept.nextPlaceholder
            live := placeholders ▸ kept.live }
  | node op =>
    refine { kept with identified := kept.identified.place rfl, nextNode := ?_ }
    simp [Graph.place, NodeId.next_ofNat]
  | placeholder value =>
    refine { kept with nextPlaceholder := ?_, live := ?_ }
    · simp [NodeId.placeholder, NodeId.next_ofNat, Nat.add_assoc]
    · simp [kept.live, List.zipIdx_append]
  | @knownVariable name id known =>
    rw [kept.variableId?] at known
    exact { kept with vars := kept.vars.again known }
  | @newVariable v new =>
    rw [kept.variableId?] at new
    refine { kept with vars := ?_ }
    simpa using kept.vars.push new
  | @knownEvent name id known =>
    rw [kept.eventId?] at known
    exact { kept with events := kept.events.again known }
  | @newEvent e new =>
    rw [kept.eventId?] at new
    refine { kept with events := ?_ }
    simpa using kept.events.push new
  | resolve outline placeholders =>
    obtain ⟨identified, nextNode, vars, events⟩ := kept.edit outline
    exact { identified, nextNode, vars, events
            nextPlaceholder := by rw [placeholders]; rfl
            live := by rw [placeholders]; rfl }

theorem Kept.run (kept : s.Kept) (calls : List Operation) : (s.run calls).Kept := by
  induction calls generalizing s with
  | nil => exact kept
  | cons call calls ih => exact ih (kept.change (s.change_perform call))

/-- A call adds at the ends of the tables at most. -/
theorem Change.begins (change : s.Change t) :
    s.context.graph.outline.Begins t.context.graph.outline := by
  cases change with
  | edit outline | resolve outline => exact outline ▸ .refl _
  | node op =>
    rw [Graph.outline_place]
    exact { Outline.Begins.refl _ with nodes := List.prefix_append _ _ }
  | placeholder | knownVariable | knownEvent => exact .refl _
  | newVariable =>
    refine { Outline.Begins.refl _ with vars := ?_ }
    simp [Graph.outline]
  | newEvent =>
    refine { Outline.Begins.refl _ with events := ?_ }
    simp [Graph.outline]

/-- The answers given so far are right: identities are places, names are known by exactly their places, and
the placeholders not yet replaced are those from the first one up to the next. -/
structure Faithful (s : Session) : Prop where
  index : ∀ (k : Nat) n, s.context.graph.nodes[k]? = some n → n.index.toNat = k
  node? : ∀ id, s.context.graph.node? id = s.context.graph.nodes[id.toNat]?
  nextNode : s.nextNode.toNat = s.context.graph.nodes.size
  newNode : ∀ op, (Build.createNode op s.context).1 = s.nextNode
  variableId? : ∀ name, s.context.variableId? name = s.vars.find? name
  vars : ∀ name id, s.vars.find? name = some id ↔
    ∃ v, s.context.graph.vars[id]? = some v ∧ v.name = name
  eventId? : ∀ name, s.context.eventId? name = s.events.find? name
  events : ∀ name id, s.events.find? name = some id ↔
    ∃ e, s.context.graph.events[id]? = some e ∧ e.name = name
  live : ∀ id : NodeId, id ∈ s.live.map (·.1) ↔
    NodeId.placeholderBase ≤ id.toNat ∧ id.toNat < s.nextPlaceholder.toNat
  newPlaceholder : ∀ value, (Build.createPlaceholder value s.context).1.address.node = s.nextPlaceholder
  constants : ∀ id value, (id, value) ∈ s.live →
    s.context.placeholders[id.toNat - NodeId.placeholderBase]? = some value

theorem toNat_placeholder {n : Nat} (small : n ≤ NodeId.placeholderBase) :
    (NodeId.placeholder n).toNat = NodeId.placeholderBase + n := by
  apply NodeId.toNat_ofNat
  simp only [NodeId.placeholderBase] at small ⊢
  omega

theorem Kept.mem_live (kept : s.Kept) {id : NodeId} {value : Option Literal} :
    (id, value) ∈ s.live ↔ ∃ i : Nat, s.context.placeholders[i]? = some value ∧ .placeholder i = id := by
  rw [kept.live, List.mem_map]
  constructor
  · rintro ⟨⟨v, i⟩, member, same⟩
    obtain ⟨rfl, rfl⟩ := Prod.mk.inj same
    exact ⟨i, by simpa [List.mem_zipIdx_iff_getElem?] using member, rfl⟩
  · rintro ⟨i, found, rfl⟩
    exact ⟨(value, i), by simpa [List.mem_zipIdx_iff_getElem?] using found, rfl⟩

theorem Kept.faithful (kept : s.Kept) (nodes : s.context.graph.nodes.size ≤ NodeId.placeholderBase)
    (placeholders : s.context.placeholders.size ≤ NodeId.placeholderBase) : s.Faithful := by
  have few : s.context.graph.nodes.size < 0x100000000 := Nat.lt_of_le_of_lt nodes (by decide)
  have number {i : Nat} {value : Option Literal} (found : s.context.placeholders[i]? = some value) :
      i < s.context.placeholders.size ∧ (NodeId.placeholder i).toNat = NodeId.placeholderBase + i := by
    have inside := (Array.getElem?_eq_some_iff.1 found).1
    exact ⟨inside, toNat_placeholder (Nat.le_of_lt (Nat.lt_of_lt_of_le inside placeholders))⟩
  refine
    { index := fun k n found => ?_
      node? := kept.identified.node?
      nextNode := by rw [kept.nextNode, NodeId.toNat_ofNat few]
      newNode := fun _ => kept.nextNode.symm
      newPlaceholder := fun _ => kept.nextPlaceholder.symm
      variableId? := kept.variableId?
      vars := fun name id => by simp [kept.vars name id]
      eventId? := kept.eventId?
      events := fun name id => by simp [kept.events name id]
      live := fun id => ?_
      constants := fun id value member => ?_ }
  · have inside := (Array.getElem?_eq_some_iff.1 found).1
    rw [kept.identified k n found, NodeId.toNat_ofNat (Nat.lt_trans inside few)]
  · rw [kept.nextPlaceholder, toNat_placeholder placeholders, List.mem_map]
    constructor
    · rintro ⟨⟨_, value⟩, member, rfl⟩
      obtain ⟨i, found, rfl⟩ := kept.mem_live.1 member
      obtain ⟨inside, same⟩ := number found
      dsimp only
      omega
    · rintro ⟨above, below⟩
      have inside : id.toNat - NodeId.placeholderBase < s.context.placeholders.size := by omega
      refine ⟨(id, s.context.placeholders[id.toNat - NodeId.placeholderBase]), kept.mem_live.2 ?_, rfl⟩
      refine ⟨id.toNat - NodeId.placeholderBase, Array.getElem?_eq_getElem inside, NodeId.toNat_inj ?_⟩
      rw [toNat_placeholder (by omega)]
      omega
  · obtain ⟨i, found, rfl⟩ := kept.mem_live.1 member
    rw [(number found).2, Nat.add_sub_cancel_left, found]

end Session

end ScriptGraph
