import ScriptGraph.Proofs.Construction.Ensures
import ScriptGraph.Proofs.Construction.Upkeep

/-!
How knowledge of a context is restricted, nested and put together again.

A builder enters a scope of its own (`Known.enter`), in which every output that was there before is an
argument, and leaves it with what it made (`Known.leave`). A fence hides the nodes of the current scope
from a builder (`Known.fence`), so that its result may feed them.
-/

namespace ScriptGraph

theorem SocketAddress.Among.mono {p q : Nat → Prop} {a : SocketAddress} (among : a.Among p)
    (weaker : ∀ i, p i → q i) : a.Among q :=
  among.imp_right (weaker _)

theorem Graph.Offers.among {cls : ScriptClass} {g : Graph} {a : SocketAddress}
    (offers : g.Offers cls a) : a.Among (· < g.nodes.size) := by
  refine offers.imp_right fun ⟨_, found, _⟩ => ?_
  exact (Array.getElem?_eq_some_iff.1 found).1

namespace Node

theorem IsUnset.settled {n n' : Node} {socket : String} (unset : n.IsUnset socket)
    (evolves : n.Evolves True n') : n'.IsUnset socket := by
  refine ⟨unset.1.evolves evolves, fun input atSocket => unset.2 input ?_⟩
  rwa [valueIn?, ← evolves.inputs trivial]

theorem IsBlank.settled {n n' : Node} {socket : String} (blank : n.IsBlank socket)
    (evolves : n.Evolves True n') : n'.IsBlank socket := by
  refine ⟨blank.1.evolves evolves, fun input atSocket => blank.2 input ?_⟩
  rwa [valueIn?, ← evolves.inputs trivial]

theorem Evolves.isSet {settled : Prop} {n n' : Node} (evolves : n.Evolves settled n') {name : String}
    {value : ConfigValue} (isSet : n.IsSet name value) : n'.IsSet name value := by
  obtain ⟨notLog, lacks, config⟩ := isSet
  refine ⟨evolves.op ▸ notLog, ?_, evolves.config _ _ config⟩
  rw [Lacks, evolves.parameters (.inr notLog)]
  exact lacks

end Node

namespace Fact

/-- What a fact is to a builder that starts now: outputs are arguments as well, and inputs are not its
own. -/
def entering : Fact → List Fact
  | out v => [out v, arg v]
  | arg _ | input _ | blank _ => []
  | fact => [fact]

/-- What a fact is to a builder that starts now and does not see the new nodes. -/
def fencing : Fact → List Fact
  | arg v => [out v, arg v]
  | out _ | input _ | blank _ => []
  | fact => [fact]

/-- What must be known for a builder that starts now to know a fact. -/
def EntersFrom (facts : List Fact) : Fact → Prop
  | arg v => out v ∈ facts
  | input _ | blank _ => False
  | fact => fact ∈ facts

/-- What must be known for a builder that starts now, and does not see the new nodes, to know a fact. -/
def FencedFrom (facts : List Fact) : Fact → Prop
  | out v | arg v => arg v ∈ facts
  | input _ | blank _ => False
  | fact => fact ∈ facts

/-- Facts that hold beyond the scope in which they were found. -/
def lasts : Fact → Bool
  | arg _ => false
  | _ => true

/-- Facts that any builder may use, whenever it starts. -/
def isShared : Fact → Bool
  | out _ | entry _ | row _ => true
  | _ => false

@[simp] theorem lasts_eq_true {f : Fact} : f.lasts = true ↔ ∀ v, f ≠ arg v := by
  cases f <;> simp [lasts]

theorem lasts_of_isShared {f : Fact} (shared : f.isShared = true) : f.lasts = true := by
  cases f <;> simp [isShared] at shared <;> rfl

end Fact

/-- The facts of a builder that starts now. -/
def enter (facts : List Fact) : List Fact := facts.flatMap Fact.entering

/-- The facts of a builder that starts now and does not see the new nodes. -/
def fence (facts : List Fact) : List Fact := facts.flatMap Fact.fencing

section Membership

variable {facts : List Fact} {v : ValueOut} {a : SocketAddress} {t : FlowIn} {id : Nat} {node : NodeId}
  {op : Op}

theorem mem_enter {fact : Fact} : fact ∈ enter facts ↔ ∃ f ∈ facts, fact ∈ f.entering :=
  List.mem_flatMap

theorem mem_fence {fact : Fact} : fact ∈ fence facts ↔ ∃ f ∈ facts, fact ∈ f.fencing :=
  List.mem_flatMap

/-- A builder that starts now knows a fact when what it came from was known before. -/
theorem mem_enter_iff {fact : Fact} : fact ∈ enter facts ↔ fact.EntersFrom facts := by
  rw [mem_enter]
  constructor
  · rintro ⟨f, member, same⟩
    cases f with
    | out v =>
      rcases List.mem_cons.1 same with rfl | same
      · exact member
      · obtain rfl := List.mem_singleton.1 same
        exact member
    | arg | input | blank => cases same
    | entry | row | node | port | parameter =>
      obtain rfl := List.mem_singleton.1 same
      exact member
  · intro known
    cases fact with
    | arg v => exact ⟨.out v, known, .tail _ (.head _)⟩
    | input | blank => cases known
    | out | entry | row | node | port | parameter => exact ⟨_, known, .head _⟩

/-- A builder behind a fence knows a fact when what it came from was known before. -/
theorem mem_fence_iff {fact : Fact} : fact ∈ fence facts ↔ fact.FencedFrom facts := by
  rw [mem_fence]
  constructor
  · rintro ⟨f, member, same⟩
    cases f with
    | arg v =>
      rcases List.mem_cons.1 same with rfl | same
      · exact member
      · obtain rfl := List.mem_singleton.1 same
        exact member
    | out | input | blank => cases same
    | entry | row | node | port | parameter =>
      obtain rfl := List.mem_singleton.1 same
      exact member
  · intro known
    cases fact with
    | out v => exact ⟨.arg v, known, .head _⟩
    | arg v => exact ⟨.arg v, known, .tail _ (.head _)⟩
    | input | blank => cases known
    | entry | row | node | port | parameter => exact ⟨_, known, .head _⟩

@[simp] theorem out_mem_enter : .out v ∈ enter facts ↔ .out v ∈ facts := mem_enter_iff

@[simp] theorem arg_mem_enter : .arg v ∈ enter facts ↔ .out v ∈ facts := mem_enter_iff

@[simp] theorem input_mem_enter : .input a ∉ enter facts := mem_enter_iff.1

@[simp] theorem blank_mem_enter : .blank a ∉ enter facts := mem_enter_iff.1

@[simp] theorem entry_mem_enter : .entry t ∈ enter facts ↔ .entry t ∈ facts := mem_enter_iff

@[simp] theorem row_mem_enter : .row id ∈ enter facts ↔ .row id ∈ facts := mem_enter_iff

@[simp] theorem node_mem_enter : .node node op ∈ enter facts ↔ .node node op ∈ facts := mem_enter_iff

@[simp] theorem out_mem_fence : .out v ∈ fence facts ↔ .arg v ∈ facts := mem_fence_iff

@[simp] theorem entry_mem_fence : .entry t ∈ fence facts ↔ .entry t ∈ facts := mem_fence_iff

@[simp] theorem row_mem_fence : .row id ∈ fence facts ↔ .row id ∈ facts := mem_fence_iff

theorem mem_enter_of_isShared {f : Fact} (shared : f.isShared = true) (member : f ∈ facts) :
    f ∈ enter facts := by
  cases f <;> simp [Fact.isShared] at shared
  · exact out_mem_enter.2 member
  · exact entry_mem_enter.2 member
  · exact row_mem_enter.2 member

/-- What a builder may use before it starts it may use behind a fence around its work. -/
theorem mem_fence_of_isShared {f : Fact} (shared : f.isShared = true) {facts' : List Fact}
    (member : f ∈ facts) (within : ∀ g ∈ enter facts, g ∈ facts') : f ∈ fence facts' := by
  cases f <;> simp [Fact.isShared] at shared
  · exact out_mem_fence.2 (within _ (arg_mem_enter.2 member))
  · exact entry_mem_fence.2 (within _ (entry_mem_enter.2 member))
  · exact row_mem_fence.2 (within _ (row_mem_enter.2 member))

end Membership

namespace Scope

variable {w : Scope} {facts facts' : List Fact} {exits exits' : List FlowOut} {c c' : Context}

/-- The scope of a builder that starts now. -/
def enter (w : Scope) (c : Context) : Scope := { w with start := c, pending := [] }

/-- The scope of a builder that starts now and does not see the new nodes. -/
def fence (w : Scope) (c : Context) : Scope :=
  { w with
    sources := fun i => w.sources i ∧ ¬ (w.start.graph.nodes.size ≤ i ∧ i < c.graph.nodes.size)
    start := c
    pending := [] }

theorem Sound.wiredNow (sound : w.Sound facts exits c) : c.Wired w.cls := sound.run.wired sound.wired

/-- Nodes from before the start read nothing that is new. -/
theorem Sound.apart (sound : w.Sound facts exits c) :
    c.graph.Apart (w.start.graph.nodes.size ≤ ·) := by
  rintro m n ⟨node, socket, input, source, found, atSocket, fed, real, rfl⟩ new
  refine Nat.le_of_not_lt fun old => ?_
  obtain ⟨node', found', evolves⟩ :=
    sound.run.evolves sound.wired.identified (Array.getElem?_eq_getElem old)
  obtain rfl := Option.some.inj (found.symm.trans found')
  rw [Node.valueIn?, evolves.inputs old] at atSocket
  have offers := sound.wired.supplied m _ socket input source (Array.getElem?_eq_getElem old)
    atSocket fed
  have inside : source.node.toNat < w.start.graph.nodes.size :=
    offers.among.resolve_left (by simp [real])
  omega

/-- The nodes made so far are read by nothing else. -/
theorem Sound.apart_between (sound : w.Sound facts exits c) :
    c.graph.Apart fun i => w.start.graph.nodes.size ≤ i ∧ i < c.graph.nodes.size := by
  intro m n reads inside
  refine ⟨sound.apart m n reads inside.1, ?_⟩
  obtain ⟨_, _, _, _, found, _⟩ := reads
  exact (Array.getElem?_eq_some_iff.1 found).1

theorem Sound.weaken (sound : w.Sound facts exits c) (within : ∀ f ∈ facts', f ∈ facts)
    (some : ∃ order, exits'.Sublist order ∧ order.Perm exits) : w.Sound facts' exits' c := by
  obtain ⟨order, sub, perm⟩ := some
  have old (f : FlowOut) (member : f ∈ exits') : f ∈ exits := perm.mem_iff.1 (sub.subset member)
  exact
    { sound with
      holds := fun f member => sound.holds f (within f member)
      free := fun f member => sound.free f (old f member)
      nodup := sub.nodup (perm.nodup_iff.2 sound.nodup)
      keeps := fun f kept => ⟨fun member => (sound.keeps f kept).1 (old f member),
        (sound.keeps f kept).2⟩ }

end Scope

/-- Inputs of old nodes stay as they are. -/
theorem Context.Run.at_input {c c' : Context} {cls : ScriptClass} {sources : Nat → Prop} {base i : Nat}
    {property : Node → Prop}
    (run : Context.Run cls sources base c c') (identified : c.graph.Identified) (old : i < base)
    (here : c.graph.At i property)
    (settled : ∀ n n' : Node, n.Evolves True n' → property n → property n') :
    c'.graph.At i property := by
  obtain ⟨n, found, holds⟩ := here
  obtain ⟨n', found', evolves⟩ := run.evolves identified found
  exact ⟨n', found', settled n n' (evolves.mono fun _ => old) holds⟩

/-- What a fact says of old nodes is not touched in a scope. -/
theorem Fact.Holds.outlives {w : Scope} {c c' : Context} {fact : Fact} {sources : Nat → Prop}
    (holds : fact.Holds w c) (identified : c.graph.Identified)
    (run : Context.Run w.cls sources c.graph.nodes.size c c') : fact.Holds w c' := by
  have advances := run.advances identified
  cases fact with
  | out v => exact holds.imp_left (advances.offers run.tables)
  | arg v => exact holds.imp_left (And.imp_left (advances.offers run.tables))
  | input a =>
    exact ⟨holds.1, run.at_input identified holds.2.lt holds.2 fun _ _ evolves unset =>
      unset.settled evolves⟩
  | blank a =>
    exact ⟨holds.1, run.at_input identified holds.2.lt holds.2 fun _ _ evolves blank =>
      blank.settled evolves⟩
  | entry t =>
    refine advances.at holds fun n n' evolves admits => ?_
    rw [Node.Admits, Validation.takesFlowInput, evolves.op]
    exact admits
  | row id => exact Nat.lt_of_lt_of_le holds run.tables.vars_le
  | node id op => exact advances.at holds fun n n' evolves same => evolves.op.trans same
  | port f => exact advances.at holds fun n n' evolves => evolves.flowsOut _
  | parameter id name value => exact advances.at holds fun n n' evolves => evolves.isSet

namespace Known

variable {w w' : Scope} {facts facts' inner : List Fact} {exits exits' : List FlowOut} {c c' : Context}

theorem weaken (known : Known w facts exits c)
    (within : ∀ f ∈ facts', f ∈ facts) : Known w facts' exits c :=
  { known with sound := fun inRange =>
      (known.sound inRange).weaken within ⟨_, .refl _, .refl _⟩ }

/-- Forgets exits, or lists them in another order. -/
theorem drop (known : Known w facts exits c) {order : List FlowOut} (sub : exits'.Sublist order)
    (perm : order.Perm exits) : Known w facts exits' c :=
  { known with sound := fun inRange =>
      (known.sound inRange).weaken (fun _ member => member) ⟨order, sub, perm⟩ }

theorem enter (known : Known w facts exits c) : Known (w.enter c) (enter facts) exits c where
  nodes_le := Nat.le_refl _
  placeholders_le := Nat.le_refl _
  sound inRange :=
    have sound := known.sound inRange
    { sound with
      wired := sound.wiredNow
      run := .refl
      fresh := fun i new => sound.fresh i (Nat.le_trans known.nodes_le new)
      finished := fun i n new found _ =>
        absurd (Array.getElem?_eq_some_iff.1 found).1 (Nat.not_lt.2 new)
      holds := fun fact member => by
        obtain ⟨f, old, kind⟩ := mem_enter.1 member
        have holds := sound.holds f old
        cases f with
        | out v =>
          simp only [Fact.entering, List.mem_cons, List.not_mem_nil, or_false] at kind
          rcases kind with rfl | rfl
          · exact holds
          · exact ⟨holds, holds.1.among⟩
        | arg | input | blank => cases kind
        | entry | row | node | port | parameter => exact List.mem_singleton.1 kind ▸ holds }

theorem fence (known : Known w facts exits c) : Known (w.fence c) (fence facts) exits c where
  nodes_le := Nat.le_refl _
  placeholders_le := Nat.le_refl _
  sound inRange := by
    have sound := known.sound inRange
    exact
      { sound with
        wired := sound.wiredNow
        run := .refl
        fresh := fun i new =>
          ⟨sound.fresh i (Nat.le_trans known.nodes_le new), fun inside => Nat.not_lt.2 new inside.2⟩
        finished := fun i n new found _ =>
          absurd (Array.getElem?_eq_some_iff.1 found).1 (Nat.not_lt.2 new)
        holds := fun fact member => by
          obtain ⟨f, old, kind⟩ := mem_fence.1 member
          have holds := sound.holds f old
          cases f with
          | arg v =>
            obtain ⟨⟨offers, among⟩, before⟩ := holds
            have outside : v.address.Among (w.fence c).sources := by
              rcases among with placeholder | source
              · exact .inl placeholder
              · exact before.imp_right fun old => ⟨source, fun inside => Nat.not_le.2 old inside.1⟩
            simp only [Fact.fencing, List.mem_cons, List.not_mem_nil, or_false] at kind
            rcases kind with rfl | rfl
            · exact ⟨offers, outside⟩
            · exact ⟨⟨offers, outside⟩, offers.among⟩
          | out | input | blank => cases kind
          | entry | row | node | port | parameter => exact List.mem_singleton.1 kind ▸ holds }

/-- Leaves a scope, perhaps a fenced one. -/
theorem leaveWith (known : Known w facts exits c) (inside : Known w' inner exits' c')
    (cls : w'.cls = w.cls) (start : w'.start = c) (narrower : ∀ i, w'.sources i → w.sources i)
    (done : w'.pending = [])
    (within : ∀ f ∈ facts', f ∈ facts ∨ (f ∈ inner ∧ f.lasts = true)) :
    Known { w with kept := w'.kept } facts' exits' c' where
  nodes_le := Nat.le_trans known.nodes_le (start ▸ inside.nodes_le)
  placeholders_le := Nat.le_trans known.placeholders_le (start ▸ inside.placeholders_le)
  sound inRange := by
    have outer := known.sound (start ▸ inside.inRange inRange)
    have now := inside.sound inRange
    have identified := outer.wiredNow.identified
    have run : Context.Run w.cls w'.sources c.graph.nodes.size c c' := by
      have run := now.run
      rwa [cls, start] at run
    have advances := run.advances identified
    exact
      { wired := outer.wired
        run := outer.run.trans (run.mono narrower known.nodes_le)
        fresh := outer.fresh
        finished := fun i n new found settled => by
          by_cases old : i < c.graph.nodes.size
          · obtain ⟨m, found', evolves⟩ := advances i _ (Array.getElem?_eq_getElem old)
            obtain rfl := Option.some.inj (found.symm.trans found')
            have finished := outer.finished i _ new (Array.getElem?_eq_getElem old)
              (evolves.index ▸ settled)
            obtain ⟨l, found'', done⟩ :=
              run.finished identified (Array.getElem?_eq_getElem old) finished
            obtain rfl := Option.some.inj (found.symm.trans found'')
            exact done
          · exact now.finished i n (start ▸ Nat.le_of_not_lt old) found (by simp [done])
        holds := fun f member => by
          rcases within f member with old | ⟨new, lasts⟩
          · exact Fact.Holds.outlives (outer.holds f old) identified run
          · have holds := now.holds f new
            cases f with
            | out v => exact ⟨cls ▸ holds.1, holds.2.mono narrower⟩
            | arg v => cases lasts
            | input a => exact ⟨Nat.le_trans known.nodes_le (start ▸ holds.1), holds.2⟩
            | blank a => exact ⟨Nat.le_trans known.nodes_le (start ▸ holds.1), holds.2⟩
            | entry t => exact holds
            | row id => exact holds
            | node id op => exact holds
            | port f => exact holds
            | parameter id name value => exact holds
        free := now.free
        nodup := now.nodup
        keeps := now.keeps }

/-- Leaves a scope of its own. -/
theorem leave (known : Known w facts exits c) (inside : Known (w.enter c) inner exits' c')
    (within : ∀ f ∈ facts', f ∈ facts ∨ (f ∈ inner ∧ f.lasts = true)) : Known w facts' exits' c' :=
  have left := known.leaveWith inside rfl rfl (fun _ source => source) rfl within
  left

/-- Leaves a scope of its own with some new facts. -/
theorem leaveAdding (new : List Fact) (known : Known w facts exits c)
    (inside : Known (w.enter c) inner exits' c')
    (within : ∀ f ∈ new, f ∈ inner ∧ f.lasts = true) :
    Known w (new ++ facts) exits' c' :=
  known.leave inside fun f member => (List.mem_append.1 member).symm.imp_right (within f)

end Known

end ScriptGraph
