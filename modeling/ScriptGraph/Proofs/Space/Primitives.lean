import Mathlib
import ScriptGraph.Proofs.Construction.Sessions
import ScriptGraph.Proofs.Space.Abreast

/-!
The primitives of construction keep pace, and so do the passages between the spaces.

The primitives do the same in both runs. A passage makes a flip in the converting run; in the other run it returns
what it was given, and that is what the flip stands for.
-/

namespace ScriptGraph

open Pattern

namespace Context.Shares

variable {c c' : Context}

theorem modifyNode (shares : c.Shares c') (id id' : NodeId) (f f' : Node → Node) :
    (c.modifyNode id f).Shares (c'.modifyNode id' f') :=
  { shares with
    vars := by
      rw [Context.modifyNode, Graph.vars_modifyNode, shares.vars, Context.modifyNode, Graph.vars_modifyNode]
    events := by
      rw [Context.modifyNode, Graph.events_modifyNode, shares.events, Context.modifyNode, Graph.events_modifyNode] }

end Context.Shares

/-- The nodes and the settings are left alone. -/
structure Context.Aside (c c₁ : Context) : Prop where
  nodes : c₁.graph.nodes = c.graph.nodes
  options : c₁.options = c.options
  placeholders : c.placeholders.size ≤ c₁.placeholders.size

theorem Context.Aside.refl (c : Context) : c.Aside c := ⟨rfl, rfl, Nat.le_refl _⟩

section Handles

variable {p : Pairing} {sink : Option String} {id id' : NodeId}

theorem Pairing.Keeps.valueIn (keeps : p.Keeps sink id id') (socket : String) (free : sink ≠ some socket) :
    Pair p (id.valueIn socket) (id'.valueIn socket) :=
  .cons (.kept keeps socket free) .nil

theorem Pairing.Keeps.valueOut (keeps : p.Keeps sink id id') (socket : String) :
    Pair p (id.valueOut socket) (id'.valueOut socket) :=
  .kept keeps socket

theorem Pairing.Keeps.flowIn (keeps : p.Keeps sink id id') (socket : String) :
    Pair p (id.flowIn socket) (id'.flowIn socket) :=
  .kept keeps socket

theorem Pairing.Keeps.flowOut (keeps : p.Keeps sink id id') (socket : String) :
    Pair p (id.flowOut socket) (id'.flowOut socket) :=
  .kept keeps socket

theorem Pair.valueIn (node : Pair p id id') (socket : String) : Pair p (id.valueIn socket) (id'.valueIn socket) :=
  Pairing.Keeps.valueIn node socket (by simp)

theorem Pair.valueOut (node : Pair p id id') (socket : String) : Pair p (id.valueOut socket) (id'.valueOut socket) :=
  Pairing.Keeps.valueOut node socket

theorem Pair.flowIn (node : Pair p id id') (socket : String) : Pair p (id.flowIn socket) (id'.flowIn socket) :=
  Pairing.Keeps.flowIn node socket

theorem Pair.flowOut (node : Pair p id id') (socket : String) : Pair p (id.flowOut socket) (id'.flowOut socket) :=
  Pairing.Keeps.flowOut node socket

/-- A node with an input that is to be fed through a flip that is not there yet. -/
def Pairing.Unfed (socket : String) (p : Pairing) (id id' : NodeId) : Prop :=
  p.Keeps (some socket) id id' ∧ ∀ roles, p = .apart roles → ∀ j : Nat, roles[j]? ≠ some (.writing ⟨id, socket⟩)

theorem Pairing.Unfed.refl {socket : String} (id : NodeId) : Pairing.lost.Unfed socket id id := ⟨.lost rfl, nofun⟩

theorem Pairing.Unfed.stays {socket : String} {p' : Pairing} (unfed : p.Unfed socket id id') {α : Type} {a b : α}
    (stays : p.Stays p' a b) : p'.Unfed socket id id' := by
  rcases stays with rfl | rfl
  · exact unfed
  · exact ⟨.lost unfed.1.isPlaceholder, nofun⟩

end Handles

namespace Build

variable {p : Pairing} {sink : Option String} {id id' : NodeId}

theorem before_modifyNode (c : Context) (id : NodeId) (f : Node → Node) : c.Before (c.modifyNode id f) :=
  ⟨(Graph.size_modifyNode ..).ge, Nat.le_refl _⟩

section Nodes

/-- A node is made, with an input that is to be fed through a flip if one is given. -/
theorem abreast_createNode (p : Pairing) (op : Op) {q : Pairing → NodeId → NodeId → Prop} (sink : Option String)
    (has : ∀ socket, sink = some socket → socket ∈ op.schema.valuesIn)
    (related : ∀ {roles : List Role} {c c' : Context}, Twins roles c c' →
      c'.graph.nodes.size < NodeId.placeholderBase →
      (Pairing.apart (roles ++ [.kept (.ofNat c.graph.nodes.size) sink])).Keeps sink
        (.ofNat c.graph.nodes.size) (.ofNat c'.graph.nodes.size) →
      q (.apart (roles ++ [.kept (.ofNat c.graph.nodes.size) sink])) (.ofNat c.graph.nodes.size)
        (.ofNat c'.graph.nodes.size)) :
    Abreast p q (createNode op) (createNode op) where
  grows c := ⟨(Array.size_push _).symm ▸ Nat.le_succ _, Nat.le_refl _⟩
  twins c c' sim small := by
    cases p with
    | lost => exact sim.elim
    | apart roles =>
      obtain ⟨twins, shares⟩ := sim
      have room : c'.graph.nodes.size < NodeId.placeholderBase := by
        have total : (createNode op c').2.graph.nodes.size = c'.graph.nodes.size + 1 := Array.size_push _
        have bound : (createNode op c').2.graph.nodes.size ≤ NodeId.placeholderBase := small.1
        omega
      have role : (roles ++ [.kept (.ofNat c.graph.nodes.size) sink])[(NodeId.ofNat c'.graph.nodes.size).toNat]? =
          some (.kept (.ofNat c.graph.nodes.size) sink) := by
        rw [NodeId.toNat_ofNat (room.trans (by decide)), show c'.graph.nodes.size = roles.length from twins.size]
        exact List.getElem?_concat_length
      obtain ⟨real, real'⟩ := twins.isPlaceholder_new room
      exact ⟨_, Pairing.Le.append roles _, ⟨twins.place room op has, { shares with }⟩,
        related twins room (.kept role real real')⟩

theorem tracks_createNode (op : Op) : Tracks p (createNode op) (createNode op) :=
  abreast_createNode p op none nofun fun _ _ keeps => keeps

theorem abreast_createSink (op : Op) (socket : String) (has : socket ∈ op.schema.valuesIn) :
    Abreast p (Pairing.Unfed socket) (createNode op) (createNode op) := by
  refine abreast_createNode p op (some socket) (fun _ same => Option.some.inj same ▸ has) ?_
  refine fun {roles c c'} twins _ keeps => ⟨keeps, ?_⟩
  rintro _ ⟨rfl⟩ j here
  -- A flip feeds an input of an older node.
  have here : roles[j]? = some (.writing ⟨.ofNat c.graph.nodes.size, socket⟩) := by
    rcases Nat.lt_or_ge j roles.length with old | last
    · rwa [List.getElem?_append_left old] at here
    · have inside := (List.getElem?_eq_some_iff.1 here).1
      rw [List.length_append, List.length_singleton] at inside
      obtain rfl : j = roles.length := by omega
      rw [List.getElem?_concat_length] at here
      cases here
  obtain ⟨_, _, k, _, there, _⟩ := twins.fed here
  have inside := twins.inside there
  have le := twins.size_le
  have short := twins.length_le
  have base : NodeId.placeholderBase = 0x40000000 := rfl
  rw [NodeId.toNat_ofNat (by omega)] at inside
  exact absurd inside (Nat.lt_irrefl _)

end Nodes

section Edits

theorem stays_modifyNode (keeps : p.Keeps sink id id') {f f' : Node → Node} (index : ∀ n, (f n).index = n.index)
    (index' : ∀ n, (f' n).index = n.index) (inputs : ∀ n, (f n).valuesIn = n.valuesIn)
    (inputs' : ∀ n, (f' n).valuesIn = n.valuesIn)
    (apart : ∀ n, { f n with valuesIn := Dict.empty } = f { n with valuesIn := Dict.empty })
    (apart' : ∀ n, { f' n with valuesIn := Dict.empty } = f' { n with valuesIn := Dict.empty })
    (alike : ∀ roles c c', p = .apart roles → Twins roles c c' → ∀ n n', n.Alike p n' → (f n).Alike p (f' n')) :
    Abreast p p.Stays (modifyGraph (·.modifyNode id f)) (modifyGraph (·.modifyNode id' f')) where
  grows c := before_modifyNode c id' f'
  twins c c' sim _ := by
    cases p with
    | lost => exact sim.elim
    | apart roles =>
      obtain ⟨twins, shares⟩ := sim
      exact ⟨_, .refl _, ⟨twins.edit keeps f f' index index' inputs inputs' apart apart' (alike roles c c' rfl twins),
        shares.modifyNode id id' f f'⟩, .inl rfl⟩

theorem stays_configure (keeps : p.Keeps sink id id') (name : String) (value : ConfigValue) :
    Abreast p p.Stays (configure id name value) (configure id' name value) :=
  stays_modifyNode keeps (fun _ => rfl) (fun _ => rfl) (fun _ => rfl) (fun _ => rfl) (fun _ => rfl) (fun _ => rfl)
    fun _ _ _ _ _ n n' alike =>
      have same : (n'.configure name value).configuration = (n.configure name value).configuration :=
        congrArg (fun d : Dict (Option ConfigValue) => d.insert name (some value)) alike.configuration
      { alike with configuration := same }

theorem tracks_configure (node : Pair p id id') (name : String) (value : ConfigValue) :
    Tracks p (configure id name value) (configure id' name value) :=
  (stays_configure node name value).forget

theorem tracks_expect (node : Pair p id id') (socket : String) (type : ExpectedType) :
    Tracks p (expect (id.valueOut socket) type) (expect (id'.valueOut socket) type) := by
  have same : id'.isPlaceholder = id.isPlaceholder := Pairing.Keeps.isPlaceholder node
  have stays : Abreast p p.Stays (expect (id.valueOut socket) type) (expect (id'.valueOut socket) type) := by
    unfold expect Graph.expect NodeId.valueOut
    dsimp only
    rw [same]
    cases id.isPlaceholder with
    | true =>
      refine ⟨fun c => .refl c, fun c c' sim _ => ?_⟩
      cases p with
      | lost => exact sim.elim
      | apart roles => exact ⟨_, .refl _, sim, .inl rfl⟩
    | false =>
      refine stays_modifyNode node (fun _ => rfl) (fun _ => rfl) (fun _ => rfl) (fun _ => rfl) (fun _ => rfl)
        (fun _ => rfl) fun _ _ _ _ _ n n' alike => ?_
      have same : (n'.expect socket type).valuesOut = (n.expect socket type).valuesOut :=
        congrArg (fun d : Dict ValueOutput => d.insert socket ⟨some type⟩) alike.valuesOut
      exact { alike with valuesOut := same }
  exact stays.forget

/-- Every socket of an input is fed anew. -/
theorem stays_changeInput {t t' : ValueIn} {f f' : ValueInput → ValueInput} (target : Pair p t t')
    (feeds : ∀ roles, p = .apart roles → ValueInput.Feeds p f f') :
    Abreast p p.Stays (modifyGraph (·.changeInput t f)) (modifyGraph (·.changeInput t' f')) where
  grows c := ⟨(Graph.size_changeInput ..).ge, Nat.le_refl _⟩
  twins c c' sim _ := by
    cases p with
    | lost => exact sim.elim
    | apart roles =>
      obtain ⟨twins, shares⟩ := sim
      suffices general : ∀ {sockets sockets' : List SocketAddress},
          List.Forall₂ (Pairing.apart roles).Input sockets sockets' → ∀ {c c' : Context}, Twins roles c c' →
          c.Shares c' → (Pairing.apart roles).Sim
            { c with graph := c.graph.changeInput ⟨sockets⟩ f }
            { c' with graph := c'.graph.changeInput ⟨sockets'⟩ f' } from
        ⟨_, .refl _, general target twins shares, .inl rfl⟩
      clear twins shares
      intro sockets sockets' inputs
      induction inputs with
      | nil => exact fun twins shares => ⟨twins, shares⟩
      | cons input _ ih =>
        exact fun twins shares => ih (twins.feed input (feeds roles rfl)) (shares.modifyNode _ _ _ _)

theorem stays_connect {t t' : ValueIn} {v v' : ValueOut} (target : Pair p t t') (source : Pair p v v') :
    Abreast p p.Stays (connect t v) (connect t' v') :=
  stays_changeInput target fun _ _ => ⟨fun _ => rfl, fun _ => rfl, fun _ _ alike => ⟨alike.literal, .some source⟩⟩

theorem tracks_connect {t t' : ValueIn} {v v' : ValueOut} (target : Pair p t t') (source : Pair p v v') :
    Tracks p (connect t v) (connect t' v') :=
  (stays_connect target source).forget

/-- Inputs are linked and fed at once. -/
theorem tracks_connect_link {ts ts' : List ValueIn} {v v' : ValueOut} (targets : Pair p ts ts') (source : Pair p v v') :
    Tracks p (connect (.link ts) v) (connect (.link ts') v') where
  grows c := ⟨(Graph.size_changeInput ..).ge, Nat.le_refl _⟩
  twins c c' sim small := by
    cases p with
    | lost => exact sim.elim
    | apart roles => exact (tracks_connect (pairs_link sim.1.sound targets) source).twins c c' sim small

theorem tracks_setLiteral {t t' : ValueIn} (target : Pair p t t') (value : Literal) :
    Tracks p (setLiteral t value) (setLiteral t' value) := by
  have stays : Abreast p p.Stays (setLiteral t value) (setLiteral t' value) :=
    stays_changeInput target fun _ _ => ⟨fun _ => rfl, fun _ => rfl, fun _ _ alike => ⟨rfl, alike.source⟩⟩
  exact stays.forget

theorem stays_restrict (keeps : p.Keeps sink id id') (socket : String) (r : TypeRestriction) :
    Abreast p p.Stays (restrict (id.valueIn socket) r) (restrict (id'.valueIn socket) r) where
  grows c := ⟨(Graph.size_changeInput ..).ge, Nat.le_refl _⟩
  twins c c' sim _ := by
    cases p with
    | lost => exact sim.elim
    | apart roles =>
      obtain ⟨twins, shares⟩ := sim
      exact ⟨_, .refl _, ⟨twins.restrict keeps socket r, shares.modifyNode _ _ _ _⟩, .inl rfl⟩

/-- A target that is added to alike targets, unless it is one already. -/
theorem targets_alike {roles : List Role} {c c' : Context} (twins : Twins roles c c') {o o' : FlowOutput}
    (old : List.Forall₂ (Pairing.apart roles).Joins o.targets o'.targets) {a a' : SocketAddress}
    (joins : (Pairing.apart roles).Joins a a') : List.Forall₂ (Pairing.apart roles).Joins
      (if o.targets.contains a then o else ⟨o.targets ++ [a]⟩ : FlowOutput).targets
      (if o'.targets.contains a' then o' else ⟨o'.targets ++ [a']⟩ : FlowOutput).targets := by
  have member : a ∈ o.targets ↔ a' ∈ o'.targets := by
    revert old
    generalize o.targets = targets
    generalize o'.targets = targets'
    intro old
    induction old with
    | nil => simp
    | cons first _ ih => simp only [List.mem_cons, ih, twins.joins_eq_iff joins first]
  simp only [List.contains_iff_mem, member]
  split
  · exact old
  · exact List.rel_append old (.cons joins .nil)

theorem targets_getD {o? o'? : Option FlowOutput}
    (alike : Option.Rel (fun o o' => List.Forall₂ p.Joins o.targets o'.targets) o? o'?) :
    List.Forall₂ p.Joins (o?.getD {}).targets (o'?.getD {}).targets := by
  cases alike with
  | some targets => exact targets
  | none => exact .nil

theorem tracks_connectFlow {start start' : FlowOut} {target target' : FlowIn} (leaves : Pair p start start')
    (enters : Pair p target target') : Tracks p (connectFlow start target) (connectFlow start' target') := by
  obtain ⟨a⟩ := start
  obtain ⟨a'⟩ := start'
  obtain ⟨b⟩ := target
  obtain ⟨b'⟩ := target'
  obtain ⟨keeps, socket⟩ : p.Joins a a' := leaves
  obtain ⟨keeps', socket'⟩ : p.Joins b b' := enters
  refine ⟨fun c => ?_, fun c c' sim small => ?_⟩
  · exact (before_modifyNode c _ _).trans (before_modifyNode _ _ _)
  · cases p with
    | lost => exact sim.elim
    | apart roles =>
      obtain ⟨twins, shares⟩ := sim
      have led := twins.edit keeps (·.addTarget socket ⟨_, socket'⟩) (·.addTarget socket ⟨_, socket'⟩)
        (fun _ => rfl) (fun _ => rfl) (fun _ => rfl) (fun _ => rfl) (fun _ => rfl) (fun _ => rfl) fun n n' alike =>
        { alike with
          flowsOut := fun other => by
            simp only [Node.addTarget, Dict.find?_update]
            split
            · exact .some (targets_alike twins (targets_getD (alike.flowsOut socket)) (.kept keeps' socket'))
            · exact alike.flowsOut other }
      have entered := led.edit keeps' (·.addFlowIn socket') (·.addFlowIn socket') (fun _ => rfl) (fun _ => rfl)
        (fun _ => rfl) (fun _ => rfl) (fun _ => rfl) (fun _ => rfl) fun n n' alike =>
        { alike with flowsIn := congrArg (fun s : NameSet => s.add socket') alike.flowsIn }
      exact ⟨_, .refl _, ⟨entered, (shares.modifyNode _ _ _ _).modifyNode _ _ _ _⟩, rfl⟩

end Edits

section Tables

/-- A step that leaves the nodes alone and does the same in both runs. -/
theorem tracks_aside {α : Type} [Paired α] {step : Build α} (aside : ∀ c : Context, c.Aside (step c).2)
    (same : ∀ c c' : Context, c.Shares c' → (step c).2.Shares (step c').2 ∧ (step c').1 = (step c).1)
    (pairs : ∀ a : α, Pair p a a) : Tracks p step step where
  grows c := ⟨(congrArg Array.size (aside c).nodes).ge, (aside c).placeholders⟩
  twins c c' sim small := by
    cases p with
    | lost => exact sim.elim
    | apart roles =>
      obtain ⟨twins, shares⟩ := sim
      obtain ⟨shares', result⟩ := same c c' shares
      exact ⟨_, .refl _, ⟨twins.aside (aside c).nodes (aside c').nodes (aside c).options (aside c').options small,
        shares'⟩, result ▸ pairs _⟩

theorem tracks_createPlaceholder (value : Option Literal) :
    Tracks p (createPlaceholder value) (createPlaceholder value) where
  grows c := ⟨Nat.le_refl _, (Array.size_push _).symm ▸ Nat.le_succ _⟩
  twins c c' sim small := by
    cases p with
    | lost => exact sim.elim
    | apart roles =>
      obtain ⟨twins, shares⟩ := sim
      have shares' : (createPlaceholder value c).2.Shares (createPlaceholder value c').2 :=
        { shares with placeholders := congrArg (·.push value) shares.placeholders }
      have number : (createPlaceholder value c').1 = (createPlaceholder value c).1 :=
        congrArg (fun placeholders : Array (Option Literal) =>
          (NodeId.placeholder placeholders.size).valueOut "value") shares.placeholders
      refine ⟨_, .refl _, ⟨twins.aside rfl rfl rfl rfl small, shares'⟩, ?_⟩
      rw [number]
      refine .constant (NodeId.isPlaceholder_placeholder ?_)
      have total : (createPlaceholder value c').2.placeholders.size = c'.placeholders.size + 1 := Array.size_push _
      have bound : (createPlaceholder value c').2.placeholders.size ≤ NodeId.placeholderBase := small.2
      have base : NodeId.placeholderBase = 0x40000000 := rfl
      rw [← shares.placeholders]
      omega

theorem tracks_createLiteral (value : Literal) : Tracks p (createLiteral value) (createLiteral value) :=
  tracks_createPlaceholder _

theorem tracks_createUnknownLiteral : Tracks p createUnknownLiteral createUnknownLiteral :=
  tracks_createPlaceholder _

theorem tracks_declareVariable (name : String) (initial : Option Literal) (type : ValueType) :
    Tracks p (declareVariable name initial type) (declareVariable name initial type) := by
  refine tracks_aside (fun c => ?_) (fun c c' shares => ?_) fun _ => rfl
  · cases known : c.variableId? name with
    | some id =>
      rw [declareVariable_of_known initial type known]
      exact .refl c
    | none =>
      rw [declareVariable_of_new initial type known]
      exact ⟨rfl, rfl, Nat.le_refl _⟩
  · have same : c'.variableId? name = c.variableId? name := by
      rw [Context.variableId?, shares.vars, Context.variableId?]
    cases known : c.variableId? name with
    | some id =>
      rw [declareVariable_of_known initial type known, declareVariable_of_known initial type (same.trans known)]
      exact ⟨shares, rfl⟩
    | none =>
      rw [declareVariable_of_new initial type known, declareVariable_of_new initial type (same.trans known)]
      refine ⟨{ shares with vars := ?_ }, congrArg Array.size shares.vars⟩
      exact congrArg (fun vars : Array Variable => vars.push ⟨name, type, initial⟩) shares.vars

theorem tracks_declareEvent (name : String) (values : List EventValue) :
    Tracks p (declareEvent name values) (declareEvent name values) := by
  refine tracks_aside (fun c => ?_) (fun c c' shares => ?_) fun _ => rfl
  · cases known : c.eventId? name with
    | some id =>
      rw [declareEvent_of_known values known]
      exact .refl c
    | none =>
      rw [declareEvent_of_new values known]
      exact ⟨rfl, rfl, Nat.le_refl _⟩
  · have same : c'.eventId? name = c.eventId? name := by rw [Context.eventId?, shares.events, Context.eventId?]
    cases known : c.eventId? name with
    | some id =>
      rw [declareEvent_of_known values known, declareEvent_of_known values (same.trans known)]
      exact ⟨shares, rfl⟩
    | none =>
      rw [declareEvent_of_new values known, declareEvent_of_new values (same.trans known)]
      refine ⟨{ shares with events := ?_ }, congrArg Array.size shares.events⟩
      exact congrArg (fun events : Array CustomEvent => events.push ⟨name, values⟩) shares.events

theorem tracks_setInitial (id : Nat) (initial : Option Literal) :
    Tracks p (setInitial id initial) (setInitial id initial) :=
  tracks_aside (fun _ => ⟨rfl, rfl, Nat.le_refl _⟩)
    (fun _ _ shares => ⟨{ shares with vars := congrArg (·.modify id ({ · with initial })) shares.vars }, rfl⟩)
    fun _ => rfl

theorem tracks_uniqueName (stem : String) : Tracks p (uniqueName stem) (uniqueName stem) := by
  refine tracks_aside (fun _ => ⟨rfl, rfl, Nat.le_refl _⟩) (fun c c' shares => ⟨?_, ?_⟩) fun _ => rfl
  · exact { shares with counters := congrArg (fun counters : Dict Nat =>
      counters.insert stem ((counters.find? stem).getD 0 + 1)) shares.counters }
  · exact congrArg (fun counters : Dict Nat => stem ++ "_" ++ toString ((counters.find? stem).getD 0)) shares.counters

theorem tracks_targetOf? (object : ObjectRef) : Tracks p (targetOf? object) (targetOf? object) := by
  refine tracks_aside (fun c => .refl c)
    (fun _ _ shares => ⟨shares, congrArg (fun targets : Targets => targets.find? object) shares.targets⟩) fun a => ?_
  cases a with
  | some id => exact .some rfl
  | none => exact .none

theorem tracks_report (kind : DiagnosticKind) (message : String) :
    Tracks p (report kind message) (report kind message) :=
  tracks_aside (fun _ => ⟨rfl, rfl, Nat.le_refl _⟩)
    (fun _ _ shares => ⟨{ shares with diagnostics := congrArg (·.push kind message) shares.diagnostics }, rfl⟩)
    fun _ => rfl

theorem tracks_unsupported (message : String) : Tracks p (unsupported message) (unsupported message) :=
  tracks_report _ _

theorem tracks_unresolved (message : String) : Tracks p (unresolved message) (unresolved message) :=
  tracks_report _ _

theorem tracks_malformed (message : String) : Tracks p (malformed message) (malformed message) :=
  tracks_report _ _

theorem tracks_setMethod (name : String) : Tracks p (setMethod name) (setMethod name) :=
  tracks_aside (fun _ => ⟨rfl, rfl, Nat.le_refl _⟩)
    (fun _ _ shares => ⟨{ shares with diagnostics := congrArg ({ · with method := name }) shares.diagnostics }, rfl⟩)
    fun _ => rfl

end Tables

end Build

namespace Pattern

open Build

variable {p : Pairing} {factor : Literal}

section Flips

theorem snd_flip {c : Context} (identified : c.graph.Identified) (small : c.graph.nodes.size < 0x100000000)
    (factor : Literal) : (flip factor c).2 = c.place (Twins.signed (.ofNat c.graph.nodes.size) factor) :=
  congrArg (fun graph : Graph => { c with graph }) (identified.modifyNode_place rfl small)

theorem size_flip (c : Context) (factor : Literal) :
    (flip factor c).2.graph.nodes.size = c.graph.nodes.size + 1 :=
  (Graph.size_modifyNode ..).trans (Array.size_push _)

theorem size_connect (t : ValueIn) (v : ValueOut) (c : Context) :
    (connect t v c).2.graph.nodes.size = c.graph.nodes.size :=
  Graph.size_changeInput ..

/-- What a conversion does, with the setting and without it. -/
theorem convert_eq (factor : Literal) (v : ValueOut) (c : Context) : convert factor v c =
    if c.options.spaceConversion then
      ((flip factor c).1.2, (connect (flip factor c).1.1 v (flip factor c).2).2)
    else (v, c) := by
  have read : convert factor v c = (if c.options.spaceConversion then
      (do let ends ← flip factor; connect ends.1 v; return ends.2) else return v : Build ValueOut) c := rfl
  rw [read]
  split
  · rfl
  · rfl

theorem convertInto_eq (factor : Literal) (sink : ValueIn) (c : Context) : convertInto factor sink c =
    if c.options.spaceConversion then
      ((flip factor c).1.1, (connect sink (flip factor c).1.2 (flip factor c).2).2)
    else (sink, c) := by
  have read : convertInto factor sink c = (if c.options.spaceConversion then
      (do let ends ← flip factor; connect sink ends.2; return ends.1) else return sink : Build ValueIn) c := rfl
  rw [read]
  split
  · rfl
  · rfl

/-- A value that is converted. In the other run it is the value itself. -/
theorem tracks_convert (signs : factor = positionFlip ∨ factor = rotationFlip) {v v' : ValueOut}
    (joins : p.Joins v.address v'.address) : Tracks p (convert factor v) (convert factor v') where
  grows c := by
    rw [convert_eq]
    split
    · exact ⟨((size_connect ..).trans (size_flip c factor)).symm ▸ Nat.le_succ _, Nat.le_refl _⟩
    · exact .refl c
  twins c c' sim small := by
    cases p with
    | lost => exact sim.elim
    | apart roles =>
      obtain ⟨(twins : Twins roles c c'), (shares : c.Shares c')⟩ := sim
      rw [convert_eq, if_neg (by rw [twins.plain]; decide)]
      rw [convert_eq, if_pos twins.converting] at small ⊢
      have room : c'.graph.nodes.size < NodeId.placeholderBase := by
        have bound := small.1
        rwa [show (Machine.context (connect (flip factor c').1.1 v' (flip factor c').2).2) =
          (connect (flip factor c').1.1 v' (flip factor c').2).2 from rfl, size_connect, size_flip] at bound
      have short : c'.graph.nodes.size < 0x100000000 := room.trans (by decide)
      have made : (connect (flip factor c').1.1 v' (flip factor c').2).2 =
          c'.place (Twins.flipped (.ofNat c'.graph.nodes.size) factor v'.address) := by
        rw [snd_flip twins.identified' short]
        exact congrArg (fun graph : Graph => { c' with graph })
          (twins.identified'.modifyNode_place (n := Twins.signed (.ofNat c'.graph.nodes.size) factor) rfl short)
      have role : (roles ++ [.reading v.address])[(NodeId.ofNat c'.graph.nodes.size).toNat]? =
          some (.reading v.address) := by
        rw [NodeId.toNat_ofNat short, twins.size]
        exact List.getElem?_concat_length
      rw [made]
      refine ⟨_, Pairing.Le.append roles _, ⟨twins.placeReading room signs joins, { shares with }⟩, ?_⟩
      refine .flipped role ?_ (twins.isPlaceholder_new room).2
      obtain ⟨v⟩ := v
      obtain ⟨v'⟩ := v'
      obtain ⟨keeps, socket⟩ : (Pairing.apart roles).Joins v v' := joins
      cases keeps with | kept _ real => exact real

/-- An input that is fed through a flip from now on. In the other run it is the input itself. -/
theorem tracks_convertInto (signs : factor = positionFlip ∨ factor = rotationFlip) {id id' : NodeId} {socket : String}
    (unfed : p.Unfed socket id id') :
    Tracks p (convertInto factor (id.valueIn socket)) (convertInto factor (id'.valueIn socket)) where
  grows c := by
    rw [convertInto_eq]
    split
    · exact ⟨((size_connect ..).trans (size_flip c factor)).symm ▸ Nat.le_succ _, Nat.le_refl _⟩
    · exact .refl c
  twins c c' sim small := by
    cases p with
    | lost => exact sim.elim
    | apart roles =>
      obtain ⟨(twins : Twins roles c c'), (shares : c.Shares c')⟩ := sim
      rw [convertInto_eq, if_neg (by rw [twins.plain]; decide)]
      rw [convertInto_eq, if_pos twins.converting] at small ⊢
      have room : c'.graph.nodes.size < NodeId.placeholderBase := by
        have bound := small.1
        rwa [show (Machine.context (connect (id'.valueIn socket) (flip factor c').1.2 (flip factor c').2).2) =
          (connect (id'.valueIn socket) (flip factor c').1.2 (flip factor c').2).2 from rfl, size_connect,
          size_flip] at bound
      have short : c'.graph.nodes.size < 0x100000000 := room.trans (by decide)
      have role : (roles ++ [.writing ⟨id, socket⟩])[(NodeId.ofNat c'.graph.nodes.size).toNat]? =
          some (.writing ⟨id, socket⟩) := by
        rw [NodeId.toNat_ofNat short, twins.size]
        exact List.getElem?_concat_length
      have made := twins.placeWriting room signs unfed.1 (unfed.2 roles rfl)
      rw [snd_flip twins.identified' short]
      have fed : c.Shares ((c'.place (Twins.signed (.ofNat c'.graph.nodes.size) factor)).modifyNode id'
          (·.changeInput socket ({ · with source := some ⟨.ofNat c'.graph.nodes.size, "value"⟩ }))) :=
        { shares with
          vars := (Graph.vars_modifyNode ..).trans shares.vars
          events := (Graph.events_modifyNode ..).trans shares.events }
      exact ⟨_, Pairing.Le.append roles _, ⟨made, fed⟩, .cons (.flipped role) .nil⟩

end Flips

end Pattern

end ScriptGraph
