import ScriptGraph.Proofs.Construction.Knowledge

/-!
What is known after the primitive steps of construction.
-/

namespace ScriptGraph

/-- An operation without value outputs, so that nothing reads its nodes. -/
def Op.isSink (op : Op) : Bool :=
  op.schema.valuesOut.isEmpty && op.schema.dynamic ≠ .eventValueOutputs

namespace Node

theorem isUnset_feed {n : Node} {name socket : String} {source : SocketAddress}
    (unset : n.IsUnset socket) : (n.changeInput name (·.fedBy source)).IsUnset socket := by
  refine ⟨takes_congr rfl rfl unset.1, fun input atSocket => ?_⟩
  rw [valueIn?_changeInput] at atSocket
  split at atSocket
  · next same =>
    subst same
    obtain rfl := Option.some.inj atSocket
    rcases before : n.valueIn? socket with _ | earlier
    · rfl
    · exact unset.2 earlier before
  · exact unset.2 input atSocket

theorem isUnset_changeInput {n : Node} {name socket : String} {f : ValueInput → ValueInput}
    (unset : n.IsUnset socket) (other : socket ≠ name) : (n.changeInput name f).IsUnset socket := by
  refine ⟨takes_congr rfl rfl unset.1, fun input atSocket => unset.2 input ?_⟩
  rwa [valueIn?_changeInput, if_neg other] at atSocket

theorem isBlank_changeInput {n : Node} {name socket : String} {f : ValueInput → ValueInput}
    (blank : n.IsBlank socket) (other : socket ≠ name) : (n.changeInput name f).IsBlank socket := by
  refine ⟨takes_congr rfl rfl blank.1, fun input atSocket => blank.2 input ?_⟩
  rwa [valueIn?_changeInput, if_neg other] at atSocket

theorem isFree_addTarget {n : Node} {name socket : String} {target : SocketAddress}
    (free : n.IsFree socket) (other : socket ≠ name) : (n.addTarget name target).IsFree socket := by
  refine ⟨free.1, ?_⟩
  rw [targets_addTarget, if_neg other]
  exact free.2

end Node

namespace Graph

theorem apart_feed {g : Graph} (identified : g.Identified) {a : SocketAddress} {source : SocketAddress}
    {block : Nat → Prop} (apart : g.Apart block) (outside : source.Among (¬ block ·)) :
    (g.modifyNode a.node (·.changeInput a.socket (·.fedBy source))).Apart block := by
  rintro m n ⟨node, socket, input, origin, found, atSocket, fed, real, rfl⟩ inside
  rcases identified.of_modifyNode found with ⟨_, old, atOld, rfl⟩ | ⟨_, atOld⟩
  · rw [Node.valueIn?_changeInput] at atSocket
    split at atSocket
    · obtain rfl := Option.some.inj atSocket
      obtain rfl := Option.some.inj fed
      exact absurd inside (outside.resolve_left (by simp [real]))
    · exact apart m _ ⟨old, socket, input, origin, atOld, atSocket, fed, real, rfl⟩ inside
  · exact apart m _ ⟨node, socket, input, origin, atOld, atSocket, fed, real, rfl⟩ inside

theorem size_changeInput (g : Graph) (t : ValueIn) (f : ValueInput → ValueInput) :
    (g.changeInput t f).nodes.size = g.nodes.size := by
  rw [Graph.changeInput]
  induction t.sockets generalizing g with
  | nil => rfl
  | cons a rest ih => rw [List.foldl_cons, ih, Graph.size_modifyNode]

end Graph

/-- The facts after some sockets were fed. -/
def fed (facts : List Fact) (sockets : List SocketAddress) : List Fact :=
  facts.filter fun f => !(sockets.map Fact.blank).contains f

/-- The facts after a constant was put on a socket. -/
def fixed (facts : List Fact) (a : SocketAddress) : List Fact :=
  facts.filter fun f => f ≠ .input a && f ≠ .blank a

@[simp] theorem mem_fed {facts : List Fact} {sockets : List SocketAddress} {f : Fact} :
    f ∈ fed facts sockets ↔ f ∈ facts ∧ ∀ a ∈ sockets, f ≠ .blank a := by
  simp only [fed, List.mem_filter, Bool.not_eq_true', List.contains_eq_mem, List.mem_map,
    decide_eq_false_iff_not, not_exists, not_and]
  exact and_congr_right fun _ => forall_congr' fun a => ⟨fun h here same => h here same.symm,
    fun h here same => h here same.symm⟩

theorem mem_fed_of_isShared {facts : List Fact} {sockets : List SocketAddress} {f : Fact}
    (shared : f.isShared = true) (member : f ∈ facts) : f ∈ fed facts sockets := by
  refine mem_fed.2 ⟨member, fun a _ same => ?_⟩
  rw [same] at shared
  cases shared

@[simp] theorem mem_fixed {facts : List Fact} {a : SocketAddress} {f : Fact} :
    f ∈ fixed facts a ↔ f ∈ facts ∧ f ≠ .input a ∧ f ≠ .blank a := by
  simp [fixed]

namespace Scope

variable {w : Scope} {facts : List Fact} {exits : List FlowOut} {c c' : Context}

theorem Sound.mine (sound : w.Sound facts exits c) (f : FlowOut) (mine : f ∈ exits ∨ w.kept f) :
    c.graph.At f.address.node.toNat (·.IsFree f.address.socket) :=
  mine.elim (sound.free f) fun kept => (sound.keeps f kept).2

/-- What holds after further steps; what may change at inputs and flows is to be shown. -/
theorem Sound.advance (sound : w.Sound facts exits c)
    (run : Context.Run w.cls w.sources w.start.graph.nodes.size c c')
    (finished : ∀ (i : Nat) (n : Node), c.graph.nodes.size ≤ i → c'.graph.nodes[i]? = some n →
      n.index ∉ w.pending → c'.graph.Finished n)
    (input : ∀ a, .input a ∈ facts → c'.graph.At a.node.toNat (·.IsUnset a.socket))
    (blank : ∀ a, .blank a ∈ facts → c'.graph.At a.node.toNat (·.IsBlank a.socket))
    (free : ∀ f : FlowOut, f ∈ exits ∨ w.kept f →
      c'.graph.At f.address.node.toNat (·.IsFree f.address.socket)) : w.Sound facts exits c' := by
  have identified := sound.wiredNow.identified
  have advances := run.advances identified
  exact
    { sound with
      run := sound.run.trans run
      finished := fun i n new found settled => by
        by_cases old : i < c.graph.nodes.size
        · obtain ⟨m, found', evolves⟩ := advances i _ (Array.getElem?_eq_getElem old)
          obtain rfl := Option.some.inj (found.symm.trans found')
          have before := sound.finished i _ new (Array.getElem?_eq_getElem old)
            (evolves.index ▸ settled)
          obtain ⟨l, found'', done⟩ := run.finished identified (Array.getElem?_eq_getElem old) before
          obtain rfl := Option.some.inj (found.symm.trans found'')
          exact done
        · exact finished i n (Nat.le_of_not_lt old) found settled
      holds := fun fact member => by
        have holds := sound.holds fact member
        cases fact with
        | out v => exact holds.imp_left (advances.offers run.tables)
        | arg v => exact holds.imp_left (And.imp_left (advances.offers run.tables))
        | input a => exact ⟨holds.1, input a member⟩
        | blank a => exact ⟨holds.1, blank a member⟩
        | entry t =>
          refine advances.at holds fun n n' evolves admits => ?_
          rw [Node.Admits, Validation.takesFlowInput, evolves.op]
          exact admits
        | row id => exact Nat.lt_of_lt_of_le holds run.tables.vars_le
        | node id op => exact advances.at holds fun n n' evolves same => evolves.op.trans same
        | port f => exact advances.at holds fun n n' evolves => evolves.flowsOut _
        | parameter id name value => exact advances.at holds fun n n' evolves => evolves.isSet
      free := fun f member => free f (.inl member)
      keeps := fun f kept => ⟨(sound.keeps f kept).1, free f (.inr kept)⟩ }

/-- A step that changes a node in place leaves no new node to finish. -/
theorem Sound.edit (sound : w.Sound facts exits c)
    (step : Context.Step w.cls w.sources w.start.graph.nodes.size c c')
    (size : c'.graph.nodes.size = c.graph.nodes.size)
    (input : ∀ a, .input a ∈ facts → c'.graph.At a.node.toNat (·.IsUnset a.socket))
    (blank : ∀ a, .blank a ∈ facts → c'.graph.At a.node.toNat (·.IsBlank a.socket))
    (free : ∀ f : FlowOut, f ∈ exits ∨ w.kept f →
      c'.graph.At f.address.node.toNat (·.IsFree f.address.socket)) : w.Sound facts exits c' := by
  refine sound.advance (.one step) (fun i n new found => ?_) input blank free
  have inside := (Array.getElem?_eq_some_iff.1 found).1
  omega

theorem Sound.place {n : Node} (sound : w.Sound facts exits c) (draft : c.Draft w.cls w.sources n)
    (finished : n.index ∈ w.pending ∨ c.graph.Finished n) : w.Sound facts exits (c.place n) := by
  refine sound.advance (.one (.place draft)) ?_ (fun a member => (sound.holds _ member).2.place n)
    (fun a member => (sound.holds _ member).2.place n) (fun f mine => (sound.mine f mine).place n)
  intro i m new found settled
  rcases Graph.of_place found with ⟨_, rfl⟩ | ⟨old, _⟩
  · have done := finished.resolve_left settled
    exact done.evolves (.refl _ _) rfl (Nat.le_refl _) (Nat.le_refl _) done.message
  · omega

/-- Tables and placeholders grow; the nodes stay. -/
theorem Sound.book (sound : w.Sound facts exits c) (same : c'.graph.nodes = c.graph.nodes)
    (tables : c.TablesGrow c')
    (announced : ∀ (i : Nat) (e : CustomEvent), c'.graph.events[i]? = some e →
      c.graph.events[i]? = some e ∨ w.cls.Announces e) : w.Sound facts exits c' := by
  have still {i : Nat} {property : Node → Prop} (here : c.graph.At i property) :
      c'.graph.At i property := by
    rwa [Graph.At, same]
  exact sound.edit (.book same tables announced) (by rw [same]) (fun a member => still (sound.holds _ member).2)
    (fun a member => still (sound.holds _ member).2) (fun f mine => still (sound.mine f mine))

theorem Sound.restrict {facts' : List Fact} (sound : w.Sound facts exits c)
    (within : ∀ f ∈ facts', f ∈ facts) : w.Sound facts' exits c :=
  { sound with holds := fun f member => sound.holds f (within f member) }

/-- Feeds one socket. -/
theorem Sound.feed {facts' : List Fact} {a : SocketAddress} {v : ValueOut}
    (sound : w.Sound facts exits c) (into : .input a ∈ facts)
    (offered : c.graph.Offers w.cls v.address ∧ v.address.Among w.sources)
    (severed : c.graph.Severed a.node.toNat v.address)
    (within : ∀ f ∈ facts', f ∈ facts ∧ f ≠ .blank a) :
    w.Sound facts' exits (c.modifyNode a.node (·.changeInput a.socket (·.fedBy v.address))) := by
  have identified := sound.wiredNow.identified
  obtain ⟨recent, n, found, unset⟩ := sound.holds _ into
  refine (sound.restrict fun f member => (within f member).1).edit
    (.feed recent found (.inl unset.1) unset.2 offered.1 offered.2 severed)
    (Graph.size_modifyNode ..) (fun b member => ?_) (fun b member => ?_) (fun f mine => ?_)
  · exact (sound.holds _ (within _ member).1).2.modifyNode identified fun n _ unset =>
      Node.isUnset_feed unset
  · obtain ⟨old, different⟩ := within _ member
    refine (sound.holds _ old).2.modifyNode identified fun n same blank => ?_
    refine Node.isBlank_changeInput blank fun socket => different ?_
    cases a; cases b
    cases NodeId.toNat_inj same
    cases socket
    rfl
  · exact (sound.mine f mine).modifyNode identified fun n _ free => free

/-- Feeds several sockets, all of them inside a set that nothing outside reads. -/
theorem Sound.feedAll {v : ValueOut} {block : Nat → Prop} (sockets : List SocketAddress)
    {facts' : List Fact} (sound : w.Sound facts exits c) (into : ∀ a ∈ sockets, .input a ∈ facts)
    (offered : c.graph.Offers w.cls v.address ∧ v.address.Among w.sources)
    (apart : c.graph.Apart block) (inside : ∀ a ∈ sockets, block a.node.toNat)
    (outside : v.address.Among (¬ block ·))
    (within : ∀ f ∈ facts', f ∈ facts ∧ ∀ a ∈ sockets, f ≠ .blank a) :
    w.Sound facts' exits { c with graph := c.graph.connect ⟨sockets⟩ v } := by
  induction sockets generalizing c facts with
  | nil => exact sound.restrict fun f member => (within f member).1
  | cons a rest ih =>
    have identified := sound.wiredNow.identified
    have mine := into a List.mem_cons_self
    obtain ⟨recent, n, found, unset⟩ := sound.holds _ mine
    have severed : c.graph.Severed a.node.toNat v.address :=
      ⟨block, apart, inside a List.mem_cons_self, outside⟩
    have fed := sound.feed mine offered severed
      (fun f member => by simpa using member : ∀ f ∈ facts.filter (· ≠ .blank a), _)
    have step : Context.Step w.cls w.sources w.start.graph.nodes.size c
        (c.modifyNode a.node (·.changeInput a.socket (·.fedBy v.address))) :=
      .feed recent found (.inl unset.1) unset.2 offered.1 offered.2 severed
    refine ih fed (fun b member => ?_) (offered.imp_left ((step.advances identified).offers step.tables))
      (Graph.apart_feed identified apart outside)
      (fun b member => inside b (List.mem_cons_of_mem _ member)) (fun f member => ?_)
    · simpa using into b (List.mem_cons_of_mem _ member)
    · obtain ⟨old, others⟩ := within f member
      refine ⟨List.mem_filter.2 ⟨old, ?_⟩, fun b later => others b (List.mem_cons_of_mem _ later)⟩
      simpa using others a List.mem_cons_self

/-- Leads a flow on. -/
theorem Sound.lead {f : FlowOut} {t : FlowIn} {rest : List FlowOut} (sound : w.Sound facts exits c)
    (mine : exits.Perm (f :: rest)) (into : .entry t ∈ facts) :
    w.Sound facts rest
      ((c.modifyNode f.address.node (·.addTarget f.address.socket t.address)).modifyNode
        t.address.node (·.addFlowIn t.address.socket)) := by
  have identified := sound.wiredNow.identified
  have nodup := mine.nodup_iff.1 sound.nodup
  obtain ⟨n, found, free⟩ := sound.free f (mine.mem_iff.2 List.mem_cons_self)
  obtain ⟨m, entered, admits⟩ := sound.holds _ into
  have still {g : FlowOut} (here : g ∈ rest ∨ w.kept g) : g ≠ f ∧ (g ∈ exits ∨ w.kept g) := by
    rcases here with later | kept
    · refine ⟨?_, .inl (mine.mem_iff.2 (List.mem_cons_of_mem _ later))⟩
      rintro rfl
      exact (List.nodup_cons.1 nodup).1 later
    · refine ⟨?_, .inr kept⟩
      rintro rfl
      exact (sound.keeps g kept).1 (mine.mem_iff.2 List.mem_cons_self)
  have narrowed : w.Sound facts rest c :=
    { sound with
      free := fun g member => sound.mine g (still (.inl member)).2
      nodup := (List.nodup_cons.1 nodup).2
      keeps := fun g kept => ⟨fun late => (sound.keeps g kept).1
        (mine.mem_iff.2 (List.mem_cons_of_mem _ late)), (sound.keeps g kept).2⟩ }
  have led := identified.modifyNode f.address.node
    fun n => n.index_addTarget f.address.socket t.address
  have same {i : Nat} {property : Node → Prop} (here : c.graph.At i property)
      (target : ∀ n, i = f.address.node.toNat → property n →
        property (n.addTarget f.address.socket t.address))
      (entry : ∀ n, property n → property (n.addFlowIn t.address.socket)) :
      ((c.graph.modifyNode f.address.node (·.addTarget f.address.socket t.address)).modifyNode
        t.address.node (·.addFlowIn t.address.socket)).At i property :=
    (here.modifyNode identified target).modifyNode led fun n _ => entry n
  refine narrowed.edit (.lead found free.1 free.2 entered admits) ?_ (fun a member => ?_)
    (fun a member => ?_) (fun g here => ?_)
  · exact (Graph.size_modifyNode ..).trans (Graph.size_modifyNode ..)
  · exact same (sound.holds _ member).2 (fun n _ h => h) (fun n h => h)
  · exact same (sound.holds _ member).2 (fun n _ h => h) (fun n h => h)
  · obtain ⟨other, old⟩ := still here
    refine same (sound.mine g old) (fun n node free => ?_) (fun n h => h)
    refine Node.isFree_addTarget free fun socket => other ?_
    obtain ⟨⟨_, _⟩⟩ := g
    obtain ⟨⟨_, _⟩⟩ := f
    cases NodeId.toNat_inj node
    cases socket
    rfl

/-- Nothing is offered by a node without outputs. -/
theorem Sound.among_sink (sound : w.Sound facts exits c) {i : Nat}
    (sink : c.graph.At i (·.op.isSink = true)) {a : SocketAddress} (offers : c.graph.Offers w.cls a) :
    a.Among (· ≠ i) := by
  obtain ⟨n, here, noOutputs⟩ := sink
  simp only [Op.isSink, Bool.and_eq_true, List.isEmpty_iff, decide_not, Bool.not_eq_true',
    decide_eq_false_iff_not] at noOutputs
  refine offers.imp_right ?_
  rintro ⟨n', here', output | stray⟩ rfl
  · obtain rfl := Option.some.inj (here.symm.trans here')
    rcases sound.wiredNow.exact _ _ _ here output with declared | ⟨received, _⟩
    · simp [noOutputs.1] at declared
    · rw [received] at noOutputs
      exact absurd rfl noOutputs.2
  · obtain rfl := Option.some.inj (here.symm.trans here')
    rw [stray.1] at noOutputs
    exact absurd rfl noOutputs.2

theorem Sound.apart_sink (sound : w.Sound facts exits c) {i : Nat}
    (sink : c.graph.At i (·.op.isSink = true)) : c.graph.Apart (· = i) := by
  rintro m _ ⟨node, socket, input, source, found, atSocket, fed, real, rfl⟩ rfl
  have offers := sound.wiredNow.supplied m node socket input source found atSocket fed
  exact absurd rfl ((sound.among_sink sink offers).resolve_left (by simp [real]))

end Scope

namespace Known

variable {w : Scope} {facts inner : List Fact} {exits exits' rest : List FlowOut} {c c' : Context}
  {t : ValueIn} {v : ValueOut} {id : NodeId} {socket : String}

theorem book (known : Known w facts exits c) (same : c'.graph.nodes = c.graph.nodes)
    (placeholders : c.placeholders.size ≤ c'.placeholders.size) (tables : c.TablesGrow c')
    (announced : ∀ (i : Nat) (e : CustomEvent), c'.graph.events[i]? = some e →
      c.graph.events[i]? = some e ∨ w.cls.Announces e) : Known w facts exits c' where
  nodes_le := same ▸ known.nodes_le
  placeholders_le := Nat.le_trans known.placeholders_le placeholders
  sound inRange := by
    have before : c.InRange :=
      ⟨same ▸ inRange.1, Nat.le_trans (Nat.add_le_add_left placeholders _) inRange.2⟩
    exact (known.sound before).book same tables announced

/-- Feeds an input from an output that is known not to depend on it. -/
theorem connectClear {facts' : List Fact} (known : Known w facts exits c)
    (into : ∀ a ∈ t.sockets, .input a ∈ facts) (given : .out v ∈ facts ∨ .arg v ∈ facts)
    (clears : c.InRange → c.graph.Clears t.sockets v.address)
    (within : c.InRange → ∀ f ∈ facts', f ∈ facts ∧ ∀ a ∈ t.sockets, f ≠ .blank a) :
    Ensures (Build.connect t v) c fun _ c' => Known w facts' exits c' where
  nodes_le := Nat.le_trans known.nodes_le (Nat.le_of_eq (Graph.size_changeInput ..).symm)
  placeholders_le := known.placeholders_le
  sound inRange := by
    have before : c.InRange :=
      ⟨Nat.le_trans (Nat.le_of_eq (Graph.size_changeInput ..).symm) inRange.1, inRange.2⟩
    obtain ⟨block, apart, inside, outside⟩ := clears before
    have sound := known.sound before
    have offered := given.elim (sound.holds _) fun arg => (sound.holds _ arg).1
    exact sound.feedAll t.sockets into offered apart inside outside (within before)

theorem clears_arg (known : Known w facts exits c) (into : ∀ a ∈ t.sockets, .input a ∈ facts)
    (given : .arg v ∈ facts) (inRange : c.InRange) : c.graph.Clears t.sockets v.address := by
  have sound := known.sound inRange
  exact ⟨_, sound.apart, fun a member => (sound.holds _ (into a member)).1,
    (sound.holds _ given).2.mono fun _ => Nat.not_le.2⟩

/-- Feeds an input of a new node from an output that was there before. -/
theorem connect (known : Known w facts exits c) (into : ∀ a ∈ t.sockets, .input a ∈ facts)
    (given : .arg v ∈ facts) :
    Ensures (Build.connect t v) c fun _ c' => Known w (fed facts t.sockets) exits c' :=
  known.connectClear into (.inr given) (known.clears_arg into given) fun _ _ => mem_fed.1

/-- Nodes of different operations are different. -/
theorem ne_of_op {id' : NodeId} {op op' : Op} (known : Known w facts exits c) (inRange : c.InRange)
    (has : .node id op ∈ facts) (has' : .node id' op' ∈ facts) (different : op ≠ op') : id ≠ id' := by
  rintro rfl
  obtain ⟨n, found, rfl⟩ := (known.sound inRange).holds _ has
  obtain ⟨n', found', rfl⟩ := (known.sound inRange).holds _ has'
  obtain rfl := Option.some.inj (found.symm.trans found')
  exact different rfl

/-- Feeds inputs of other nodes; an input that is blank stays so. -/
theorem connectBeside (op : Op) (known : Known w facts exits c)
    (into : ∀ a ∈ t.sockets, .input a ∈ facts) (given : .arg v ∈ facts)
    (blank : .blank ⟨id, socket⟩ ∈ facts) (has : .node id op ∈ facts)
    (others : ∀ a ∈ t.sockets, ∃ op', .node a.node op' ∈ facts ∧ op' ≠ op) :
    Ensures (Build.connect t v) c fun _ c' =>
      Known w (.blank ⟨id, socket⟩ :: fed facts t.sockets) exits c' := by
  refine known.connectClear into (.inr given) (known.clears_arg into given) fun inRange f member => ?_
  rcases List.mem_cons.1 member with rfl | old
  · refine ⟨blank, fun a fed same => ?_⟩
    cases same
    obtain ⟨op', has', different⟩ := others _ fed
    exact known.ne_of_op inRange has' has different rfl
  · exact mem_fed.1 old

/-- Feeds an input of a node that nothing reads. -/
theorem connectSink (op : Op) (known : Known w facts exits c) (has : .node id op ∈ facts)
    (sink : op.isSink = true) (into : .input ⟨id, socket⟩ ∈ facts) (given : .out v ∈ facts) :
    Ensures (Build.connect (id.valueIn socket) v) c fun _ c' =>
      Known w (fed facts [⟨id, socket⟩]) exits c' := by
  refine known.connectClear (t := id.valueIn socket) (by simpa [NodeId.valueIn]) (.inl given)
    (fun inRange => ?_) fun _ _ => mem_fed.1
  have sound := known.sound inRange
  have here : c.graph.At id.toNat (·.op.isSink = true) :=
    (sound.holds _ has).mono fun n same => by rw [same]; exact sink
  exact ⟨_, sound.apart_sink here, by simp [NodeId.valueIn],
    sound.among_sink here (sound.holds _ given).1⟩

/-- Feeds an input of a new node from a result that was made behind a fence around it, where other flows
may have come to be kept. -/
theorem connectFencedKeeping (new : List Fact) {kept : FlowOut → Prop} (known : Known w facts exits c)
    (inside : Known { w.fence c with kept } inner exits' c') (into : ∀ a ∈ t.sockets, .input a ∈ facts)
    (given : .out v ∈ inner)
    (within : ∀ f ∈ new, f ∈ inner ∧ f.lasts = true) :
    Ensures (Build.connect t v) c' fun _ c'' =>
      Known { w with kept } (fed (new ++ facts) t.sockets) exits' c'' := by
  have left : Known { w with kept } (.out v :: (new ++ facts)) exits' c' := by
    refine known.leaveWith inside rfl rfl (fun _ source => source.1) rfl fun f member => ?_
    rcases List.mem_cons.1 member with rfl | member
    · exact .inr ⟨given, rfl⟩
    · exact (List.mem_append.1 member).symm.imp_right (within f)
  refine left.connectClear (fun a member => ?_) (.inl List.mem_cons_self) (fun inRange => ?_)
    fun _ f member => ?_
  · simp [into a member]
  · have outer := known.sound (inside.inRange inRange)
    have now := inside.sound inRange
    refine ⟨_, now.run.apart outer.wiredNow.identified (fun i source => source.2) outer.apart_between,
      fun a member => ?_, (now.holds _ given).2.mono fun _ source => source.2⟩
    obtain ⟨recent, here⟩ := outer.holds _ (into a member)
    exact ⟨recent, here.lt⟩
  · exact (mem_fed.1 member).imp_left (List.mem_cons_of_mem _)

/-- Feeds an input of a new node from a result that was made behind a fence around it. -/
theorem connectFenced (new : List Fact) (known : Known w facts exits c)
    (inside : Known (w.fence c) inner exits' c') (into : ∀ a ∈ t.sockets, .input a ∈ facts)
    (given : .out v ∈ inner)
    (within : ∀ f ∈ new, f ∈ inner ∧ f.lasts = true) :
    Ensures (Build.connect t v) c' fun _ c'' => Known w (fed (new ++ facts) t.sockets) exits' c'' :=
  known.connectFencedKeeping new inside into given within

/-- Puts a constant on an input. -/
theorem setLiteral {value : Literal} (known : Known w facts exits c)
    (into : .blank ⟨id, socket⟩ ∈ facts) :
    Ensures (Build.setLiteral (id.valueIn socket) value) c fun _ c' =>
      Known w (fixed facts ⟨id, socket⟩) exits c' where
  nodes_le := Nat.le_trans known.nodes_le (Nat.le_of_eq (Graph.size_changeInput ..).symm)
  placeholders_le := known.placeholders_le
  sound inRange := by
    have before : c.InRange :=
      ⟨Nat.le_trans (Nat.le_of_eq (Graph.size_changeInput ..).symm) inRange.1, inRange.2⟩
    have sound := known.sound before
    have identified := sound.wiredNow.identified
    obtain ⟨recent, n, found, blank⟩ := sound.holds _ into
    have apartFrom {a : SocketAddress} (same : a.node.toNat = id.toNat) (other : a ≠ ⟨id, socket⟩) :
        a.socket ≠ socket := by
      intro socket
      cases a
      cases NodeId.toNat_inj same
      cases socket
      exact other rfl
    refine (sound.restrict fun f member => (List.mem_filter.1 member).1).edit
      (.put recent found blank.1 fun input atSocket => (blank.2 input atSocket).2)
      (Graph.size_changeInput ..) (fun a member => ?_) (fun a member => ?_) (fun f mine => ?_)
    · obtain ⟨old, other⟩ := List.mem_filter.1 member
      exact (sound.holds _ old).2.modifyNode identified fun n same unset =>
        Node.isUnset_changeInput unset (apartFrom same (by simpa using other))
    · obtain ⟨old, other⟩ := List.mem_filter.1 member
      exact (sound.holds _ old).2.modifyNode identified fun n same blank =>
        Node.isBlank_changeInput blank (apartFrom same (by simpa using other))
    · exact (sound.mine f mine).modifyNode identified fun n _ free => free

/-- Leads a flow on. -/
theorem connectFlow {f : FlowOut} {t : FlowIn} (known : Known w facts exits c)
    (mine : exits.Perm (f :: rest)) (into : .entry t ∈ facts) :
    Ensures (Build.connectFlow f t) c fun _ c' => Known w facts rest c' := by
  have sizes : (Build.connectFlow f t c).2.graph.nodes.size = c.graph.nodes.size :=
    (Graph.size_modifyNode ..).trans (Graph.size_modifyNode ..)
  refine ⟨Nat.le_trans known.nodes_le (Nat.le_of_eq sizes.symm), known.placeholders_le, ?_⟩
  intro inRange
  have before : c.InRange := ⟨Nat.le_trans (Nat.le_of_eq sizes.symm) inRange.1, inRange.2⟩
  exact (known.sound before).lead mine into

/-- One more fact. -/
theorem learn {f : Fact} (known : Known w facts exits c) (holds : c.InRange → f.Holds w c) :
    Known w (f :: facts) exits c :=
  { known with
    sound := fun inRange =>
      { known.sound inRange with
        holds := fun fact member => by
          rcases List.mem_cons.1 member with rfl | old
          · exact holds inRange
          · exact (known.sound inRange).holds fact old } }

/-- Leads a flow on, and tells that its output is there. -/
theorem connectPort {f : FlowOut} {t : FlowIn} (known : Known w facts exits c)
    (mine : exits.Perm (f :: rest)) (into : .entry t ∈ facts) :
    Ensures (Build.connectFlow f t) c fun _ c' => Known w (.port f :: facts) rest c' := by
  have after : Known w facts rest (Build.connectFlow f t c).2 := known.connectFlow mine into
  refine after.learn fun inRange => ?_
  have sizes : (Build.connectFlow f t c).2.graph.nodes.size = c.graph.nodes.size :=
    (Graph.size_modifyNode ..).trans (Graph.size_modifyNode ..)
  have sound := known.sound ⟨Nat.le_trans (Nat.le_of_eq sizes.symm) inRange.1, inRange.2⟩
  have identified := sound.wiredNow.identified
  obtain ⟨n, found, _⟩ := sound.free f (mine.mem_iff.2 List.mem_cons_self)
  have led : (c.graph.modifyNode f.address.node (·.addTarget f.address.socket t.address)).At
      f.address.node.toNat (·.flowsOut.contains f.address.socket = true) := by
    refine ⟨n.addTarget f.address.socket t.address, ?_, ?_⟩
    · rw [identified.nodes_modifyNode, if_pos rfl, found, Option.map_some]
    · simp [Node.addTarget, Dict.contains, Dict.find?_update]
  exact led.modifyNode (identified.modifyNode _ fun n => n.index_addTarget ..) fun n _ port => port

/-- Allows a new node to be unfinished. -/
theorem await (known : Known w facts exits c) (id : NodeId) :
    Known { w with pending := id :: w.pending } facts exits c where
  nodes_le := known.nodes_le
  placeholders_le := known.placeholders_le
  sound inRange :=
    have sound := known.sound inRange
    ⟨sound.wired, sound.run, sound.fresh,
      fun i n new found settled => sound.finished i n new found fun member =>
        settled (List.mem_cons_of_mem _ member),
      sound.holds, sound.free, sound.nodup, sound.keeps⟩

/-- Tells that a new node is finished. -/
theorem settle {id : NodeId} {ids : List NodeId}
    (known : Known { w with pending := id :: ids } facts exits c)
    (done : c.InRange → c.graph.At id.toNat c.graph.Finished) :
    Known { w with pending := ids } facts exits c where
  nodes_le := known.nodes_le
  placeholders_le := known.placeholders_le
  sound inRange := by
    have sound := known.sound inRange
    refine ⟨sound.wired, sound.run, sound.fresh, fun i n new found settled => ?_, sound.holds, sound.free,
      sound.nodup, sound.keeps⟩
    by_cases here : n.index = id
    · obtain ⟨m, found', finished⟩ := done inRange
      have place : n.index = .ofNat i := sound.wiredNow.identified i n found
      have small := (Array.getElem?_eq_some_iff.1 found).1
      have same : id.toNat = i := by
        rw [← here, place]
        exact NodeId.toNat_ofNat (Nat.lt_of_lt_of_le small inRange.1)
      rw [same, found] at found'
      exact Option.some.inj found' ▸ finished
    · refine sound.finished i n new found fun member => ?_
      rcases List.mem_cons.1 member with same | later
      · exact here same
      · exact settled later

/-- Takes a flow out of those that are kept. -/
theorem release {f : FlowOut} (known : Known w facts exits c) (mine : w.kept f) :
    Known { w with kept := fun g => w.kept g ∧ g ≠ f } facts (f :: exits) c where
  nodes_le := known.nodes_le
  placeholders_le := known.placeholders_le
  sound inRange := by
    have sound := known.sound inRange
    refine ⟨sound.wired, sound.run, sound.fresh, sound.finished, fun fact member => ?_,
      fun g member => ?_, List.nodup_cons.2 ⟨(sound.keeps f mine).1, sound.nodup⟩, fun g kept => ?_⟩
    · exact sound.holds fact member
    · rcases List.mem_cons.1 member with rfl | old
      · exact (sound.keeps g mine).2
      · exact sound.free g old
    · refine ⟨fun member => ?_, (sound.keeps g kept.1).2⟩
      rcases List.mem_cons.1 member with same | old
      · exact kept.2 same
      · exact (sound.keeps g kept.1).1 old

/-- Keeps fewer flows. -/
theorem keepOnly {kept : FlowOut → Prop} (known : Known w facts exits c)
    (fewer : ∀ f, kept f → w.kept f) : Known { w with kept } facts exits c where
  nodes_le := known.nodes_le
  placeholders_le := known.placeholders_le
  sound inRange :=
    have sound := known.sound inRange
    ⟨sound.wired, sound.run, sound.fresh, sound.finished, sound.holds, sound.free, sound.nodup,
      fun f keep => sound.keeps f (fewer f keep)⟩

end Known

end ScriptGraph
