import ScriptGraph.Compile
import ScriptGraph.Proofs.Lower.Statements

/-!
What is known after a class was lowered: its graph was made by legal steps, and every node is finished.
-/

namespace ScriptGraph

open Pattern (BoundedList)

/-- A node that receives the event of a number, with outputs for those of the parameters that have a
type. -/
structure Node.Receives (event : Nat) (parameters : List Parameter) (n : Node) : Prop where
  op : n.op = .eventReceive
  config : n.config? "event" = some (.int (.ofNat event))
  lacks : n.Lacks []
  inputs : ∀ socket, n.valueIn? socket = none
  flowsIn : ∀ socket, n.flowsIn.contains socket = false
  flowsOut : n.flowsOut = (Node.new n.index .eventReceive).flowsOut
  typed : ∀ socket output, n.valuesOut.find? socket = some output → output.expected ≠ none ∧
    ∃ p ∈ parameters, p.name = socket ∧ p.paramType.storageType? ≠ none
  has : n.index.isPlaceholder = false → ∀ p ∈ parameters, p.paramType.storageType? ≠ none →
    n.valuesOut.contains p.name = true

namespace Node

theorem receives_new (index : NodeId) (event : Nat) :
    ((new index .eventReceive).configure "event" (.int (.ofNat event))).Receives event [] where
  op := rfl
  config := by rw [config?_configure, if_pos rfl]
  lacks := (lacks_new index .eventReceive).configure "event" _
  inputs _ := rfl
  flowsIn _ := rfl
  flowsOut := rfl
  typed _ _ found := by cases found
  has _ _ member := by cases member

theorem Receives.skip {event : Nat} {parameters : List Parameter} {n : Node}
    (receives : n.Receives event parameters) {p : Parameter} (untyped : p.paramType.storageType? = none) :
    n.Receives event (p :: parameters) :=
  { receives with
    typed := fun socket output found => by
      obtain ⟨type, q, member, rest⟩ := receives.typed socket output found
      exact ⟨type, q, List.mem_cons_of_mem _ member, rest⟩
    has := fun real q member type => by
      rcases List.mem_cons.1 member with rfl | old
      · exact absurd untyped type
      · exact receives.has real q old type }

theorem Receives.expect {event : Nat} {parameters : List Parameter} {n : Node}
    (receives : n.Receives event parameters) {p : Parameter} {type : ValueType}
    (typed : p.paramType.storageType? = some type) :
    (n.expectReal p.name (.exact type)).Receives event (p :: parameters) := by
  have known : p.paramType.storageType? ≠ none := by simp [typed]
  unfold expectReal
  split
  · next placeholder =>
    exact { receives with
      typed := fun socket output found => by
        obtain ⟨type, q, member, rest⟩ := receives.typed socket output found
        exact ⟨type, q, List.mem_cons_of_mem _ member, rest⟩
      has := fun real => by rw [placeholder] at real; cases real }
  · exact { receives with
      typed := fun socket output found => by
        rw [Node.expect, Dict.find?_insert] at found
        split at found
        · next same =>
          cases found
          exact ⟨by simp, p, List.mem_cons_self, same.symm, known⟩
        · obtain ⟨type, q, member, rest⟩ := receives.typed socket output found
          exact ⟨type, q, List.mem_cons_of_mem _ member, rest⟩
      has := fun real q member type => by
        rw [Node.expect, Dict.contains, Dict.find?_insert]
        split
        · rfl
        · next other =>
          rcases List.mem_cons.1 member with rfl | old
          · exact absurd rfl other
          · exact receives.has real q old type }

theorem Receives.of_mem {event : Nat} {parameters others : List Parameter} {n : Node}
    (receives : n.Receives event parameters) (same : ∀ p, p ∈ others ↔ p ∈ parameters) :
    n.Receives event others :=
  { receives with
    typed := fun socket output found => by
      obtain ⟨type, p, member, rest⟩ := receives.typed socket output found
      exact ⟨type, p, (same p).2 member, rest⟩
    has := fun real p member => receives.has real p ((same p).1 member) }

theorem Receives.finished {g : Graph} {event : Nat} {parameters : List Parameter} {n : Node}
    (receives : n.Receives event parameters) (inside : event < g.events.size) : g.Finished n where
  configured name found := by simpa using receives.lacks name found
  typed _ socket output found := (receives.typed socket output found).1
  variableRow op := by rcases op with op | op <;> cases receives.op.symm.trans op
  eventRow _ := ⟨event, receives.config, inside⟩
  notSent op := by cases receives.op.symm.trans op
  cases op := by rcases op with op | op <;> cases receives.op.symm.trans op
  message op := by cases receives.op.symm.trans op

theorem Receives.draft {cls : ScriptClass} {sources : Nat → Prop} {c : Context} {event : Nat}
    {method : Method} {e : CustomEvent} {n : Node} (receives : n.Receives event method.parameters)
    (row : c.graph.events[event]? = some e)
    (carries : ∀ p ∈ method.parameters, p.paramType.storageType? ≠ none → p.name ∈ e.values.map (·.name))
    (index : n.index = .ofNat c.graph.nodes.size) (small : c.graph.nodes.size < 0x100000000) :
    c.Draft cls sources n where
  index := index
  small := small
  takes socket input found := by cases (receives.inputs socket).symm.trans found
  single socket input found := by cases (receives.inputs socket).symm.trans found
  offered socket input source found := by cases (receives.inputs socket).symm.trans found
  outputs socket output := by
    obtain ⟨value, found⟩ := Option.isSome_iff_exists.1 output
    obtain ⟨_, p, member, rfl, type⟩ := receives.typed socket value found
    exact .inr ⟨receives.op, event, e, receives.config, row, carries p member type⟩
  declares socket schema := by
    rw [receives.op] at schema
    cases schema
  flowsIn socket enters := by simp [receives.flowsIn] at enters
  flowsOut socket leads := by
    rw [receives.flowsOut] at leads
    rw [Validation.hasFlowOutput, receives.op]
    exact (unwired_new n.index .eventReceive).flowsOut socket leads
  idle socket := by
    rw [targets, receives.flowsOut]
    exact (unwired_new n.index .eventReceive).idle socket

end Node

/-- The event of a method is in the table. -/
theorem Known.declareEvent {w : Scope} {facts : List Fact} {exits : List FlowOut} {c : Context}
    {name : String} {values : List EventValue} (known : Known w facts exits c)
    (announces : w.cls.Announces ⟨name, values⟩) :
    Ensures (Build.declareEvent name values) c fun event c' =>
      (∃ e, c'.graph.events[event]? = some e ∧ e.name = name) ∧ Known w facts exits c' := by
  rcases found : c.eventId? name with _ | event
  · have ends : Build.declareEvent name values c =
        (c.graph.events.size,
          { c with graph := { c.graph with events := c.graph.events.push ⟨name, values⟩ } }) := by
      simp only [Build.declareEvent, modifyGet, MonadStateOf.modifyGet, StateT.modifyGet, found]
      rfl
    rw [Ensures, ends]
    refine ⟨⟨_, Array.getElem?_push_size, rfl⟩, known.book rfl (Nat.le_refl _) ⟨fun _ v h => ⟨v, h, rfl, rfl⟩,
      fun _ _ h => getElem?_push_of_some h, fun _ _ h => h, id⟩ fun i e row => ?_⟩
    rw [Array.getElem?_push] at row
    split at row
    · cases row
      exact .inr announces
    · exact .inl row
  · have ends : Build.declareEvent name values c = (event, c) := by
      simp only [Build.declareEvent, modifyGet, MonadStateOf.modifyGet, StateT.modifyGet, found]
      rfl
    rw [Ensures, ends]
    obtain ⟨inside, named, _⟩ := Array.findIdx?_eq_some_iff_getElem.1 found
    exact ⟨⟨_, Array.getElem?_eq_getElem inside, by simpa using named⟩, known⟩

namespace Lowering.Knows

variable {w : Scope} {facts : List Fact} {exits : List FlowOut} {s : Lowering} {name : String}

/-- A field comes to stand for a list that is known. -/
theorem insertList {l : BoundedList} (knows : s.Knows w (l.facts ++ facts) exits) (even : l.Even) :
    ({ s with lists := s.lists.insert name l } : Lowering).Knows w facts exits := by
  have inserted : ({ s with lists := s.lists.insert name l } : Lowering).Knows w (l.facts ++ facts) exits := by
    refine knows.rename rfl rfl (fun f member => ?_) fun other place => ?_
    · exact (mem_facts_lists member).symm.imp_right (List.mem_append_left _)
    · exact (Dict.mem_values_insert place).elim (fun same => same ▸ even) (knows.even other)
  exact inserted.weaken (by simp +contextual)

/-- A field comes to stand for a variable that is known. -/
theorem insertField {id : Nat} (knows : s.Knows w (.row id :: facts) exits) :
    ({ s with fields := s.fields.insert name id } : Lowering).Knows w facts exits := by
  have inserted : ({ s with fields := s.fields.insert name id } : Lowering).Knows w (.row id :: facts) exits := by
    refine knows.rename rfl rfl (fun f member => ?_) knows.even
    exact (mem_facts_fields member).symm.imp_right fun new => by simp [new]
  exact inserted.weaken (by simp +contextual)

end Lowering.Knows

namespace Lower

variable {cls : ScriptClass} {w : Scope} {facts : List Fact} {exits : List FlowOut} {s : Lowering}

theorem announces_eventValues {method : Method} (found : cls.method? method.name = some method) :
    cls.Announces ⟨method.name, eventValues method⟩ := by
  refine ⟨method, found, fun p member typed => ?_⟩
  obtain ⟨type, known⟩ := Option.ne_none_iff_exists'.1 typed
  refine List.mem_map.2 ⟨⟨p.name, type⟩, List.mem_filterMap.2 ⟨p, member, ?_⟩, rfl⟩
  rw [known]
  rfl

/-- The parameters of a method are bound to outputs of the node that receives its event. -/
theorem ensures_bindParameters {c : Context} {receive : NodeId} {event : Nat} {done : List Parameter}
    {n : Node} (parameters : List Parameter) (bindings : Dict ValueOut) (drafts : c.Drafts receive n s.context)
    (receives : n.Receives event done) :
    Ensures (bindParameters receive parameters bindings) s fun bindings' s' =>
      ∃ c' n', s' = { s with context := c' } ∧ c.Drafts receive n' c' ∧
        n'.Receives event (parameters.reverse ++ done) ∧
        ∀ v ∈ bindings'.values, v ∈ bindings.values ∨ ∃ p ∈ parameters, v = receive.valueOut p.name := by
  induction parameters generalizing s n done bindings with
  | nil => exact .pure ⟨s.context, n, rfl, drafts, receives, fun _ => .inl⟩
  | cons p parameters ih =>
    have rest {n : Node} {s' : Lowering} (drafts : c.Drafts receive n s'.context)
        (receives : n.Receives event (p :: done)) :
        Ensures (bindParameters receive parameters (bindings.insert p.name (receive.valueOut p.name))) s'
          fun bindings' s'' => ∃ c' n', s'' = { s' with context := c' } ∧ c.Drafts receive n' c' ∧
            n'.Receives event ((p :: parameters).reverse ++ done) ∧ ∀ v ∈ bindings'.values,
              v ∈ bindings.values ∨ ∃ q ∈ p :: parameters, v = receive.valueOut q.name := by
      refine (ih _ drafts receives).mono ?_
      rintro bindings' _ ⟨c', n', rfl, drafts, receives, values⟩
      refine ⟨c', n', rfl, drafts, by simpa using receives, fun v member => ?_⟩
      rcases values v member with before | ⟨q, later, rfl⟩
      · rcases Dict.mem_values_insert before with rfl | old
        · exact .inr ⟨p, List.mem_cons_self, rfl⟩
        · exact .inl old
      · exact .inr ⟨q, List.mem_cons_of_mem _ later, rfl⟩
    unfold bindParameters
    dsimp only
    split
    · next type typed =>
      refine .liftBind (drafts.expect p.name (.exact type)) fun _ c' drafts => ?_
      exact @rest _ { s with context := c' } drafts (receives.expect typed)
    · next untyped => exact rest drafts (receives.skip (Option.eq_none_iff_forall_ne_some.2 untyped))

/-- The flow of an entry point leads nowhere yet, and its parameters are known. -/
theorem ensures_openEntryPoint {method : Method} (found : w.cls.method? method.name = some method)
    (knows : s.Knows w facts exits) :
    Ensures (openEntryPoint method) s fun opened s' =>
      s'.Knows w (opened.2.values.map .out ++ facts) (opened.1 :: exits) := by
  unfold openEntryPoint
  split
  · refine .liftBind (knows.known.createNode (by decide : Op.eventOnStart.Has [] [] [] ["out"]))
      fun start _ k => .pure (knows.advance (k.weaken (by simp +contextual)))
  · exact (ensures_tickFlow knows).bind fun flow _ k => .pure k
  · refine .liftBind (knows.known.declareEvent (announces_eventValues found))
      fun event c ⟨⟨e, row, named⟩, k⟩ => ?_
    refine .liftBind (Context.drafts_createNode c .eventReceive) fun receive _ drafts => ?_
    refine .liftBind (drafts.configure "event" (.int (.ofNat event))) fun _ _ drafts => ?_
    refine (ensures_bindParameters method.parameters Dict.empty drafts
      (Node.receives_new receive event)).bind ?_
    rintro bindings _ ⟨c', n, rfl, drafts, receives, values⟩
    have receives : n.Receives event method.parameters := receives.of_mem (by simp)
    have placed := k.placedDraft drafts (fun inRange => ?_)
      (.inr fun inRange => receives.finished (Array.getElem?_eq_some_iff.1 row).1)
      (?_ : _ → _ → _ → ∀ f ∈ bindings.values.map Fact.out, _) (by decide : List.Nodup ["out"])
      (?_ : ∀ socket ∈ ["out"], _) (fun _ => False) (by simp)
    · exact .pure (knows.advance ((placed.keepOnly fun f keep => .inr keep).weaken (by simp +contextual [or_imp])))
    · obtain ⟨method', found', carries⟩ := (k.sound inRange).wiredNow.announced event e row
      rw [named] at found'
      obtain rfl := Option.some.inj (found.symm.trans found')
      exact receives.draft row carries
    · intro _ fresh place f member
      obtain ⟨v, bound, rfl⟩ := List.mem_map.1 member
      obtain ⟨p, parameter, rfl⟩ := (values v bound).resolve_left (by simp)
      refine ⟨?_, .inr fresh⟩
      by_cases placeholder : receive.isPlaceholder = true
      · exact .inl placeholder
      · refine .inr ⟨n, place, ?_⟩
        rcases type : p.paramType.storageType? with _ | type
        · exact .inr ⟨receives.op, event, e, method, p, receives.config, drafts.events ▸ row, named ▸ found,
            parameter, rfl, type⟩
        · refine .inl (receives.has ?_ p parameter (by simp [type]))
          rw [drafts.index]
          simpa using placeholder
    · simp only [List.mem_singleton, forall_eq, Validation.hasFlowOutput, receives.op]
      decide

theorem ensures_fillList {field : String} {list : BoundedList} (items : List Expression)
    (knows : s.Knows w facts exits) :
    Ensures (fillList field list items) s fun _ s' => s'.Knows w facts exits := by
  induction items generalizing s with
  | nil => exact .pure knows
  | cons item items ih =>
    unfold fillList
    split
    · exact .liftBind (knows_note knows) fun _ _ k => ih k
    · refine .liftBind knows.known.addInitial fun result _ k => ?_
      cases result with
      | ok _ => exact ih (knows.advance k)
      | error problem => exact .lift (knows_note (knows.advance k))

theorem ensures_declareField (field : Field) (knows : s.Knows w facts exits) :
    Ensures (declareField field) s fun _ s' => s'.Knows w facts exits := by
  unfold declareField
  split
  · next element _ =>
    unfold declareList
    split
    · exact .lift (knows_note knows)
    · refine .getBind (.liftBind knows.known.newList fun list _ ⟨k, even⟩ => ?_)
      refine (ensures_fillList _ (knows.advance (k.weaken (by simp +contextual [or_imp]) :
        Known _ (s.facts ++ (list.facts ++ facts)) _ _))).bind fun _ s k => ?_
      exact k.insertList even
  · split
    · exact .pure knows
    · split
      · exact .lift (knows_note knows)
      · refine .liftBind knows.known.declareVariable fun id _ k => ?_
        exact (knows.add k).insertField

theorem ensures_declareAll (fields : List Field) (knows : s.Knows w facts exits) :
    Ensures (declareAll fields) s fun _ s' => s'.Knows w facts exits := by
  induction fields generalizing s with
  | nil => exact .pure knows
  | cons field fields ih => exact (ensures_declareField field knows).bind fun _ _ k => ih k

theorem ensures_declareFields (cls : ScriptClass) (knows : s.Knows w facts exits) :
    Ensures (declareFields cls) s fun _ s' => s'.Knows w facts exits :=
  .liftBind (knows_setMethod knows) fun _ _ k => ensures_declareAll cls.fields k

/-- An entry point leaves nothing to go on with: what its body does not lead on ends there. -/
theorem ensures_lowerEntryPoint {method : Method} (found : w.cls.method? method.name = some method)
    (knows : s.Knows w facts exits) :
    Ensures (lowerEntryPoint w.cls method) s fun _ s' => s'.Knows w [] [] := by
  refine .liftBind (knows_setMethod knows) fun _ _ k => ?_
  refine (ensures_openEntryPoint found k).bind fun opened s k => .getBind ?_
  refine (ensures_withFrame k (by simp +contextual [Frame.facts]) (fun s k =>
    ((passes_copyParameters _ false method.parameters _ k).bind fun entry s k =>
      ensures_lowerBlock (reliable_inliner w.cls _) method.body (.one entry) k :
        Ensures _ s fun (ends : Exits) s' => s'.Knows w
          (opened.2.values.map .out ++ facts) (ends.tails ++ exits)))).mono fun ends s k => ?_
  exact (k.weaken (by simp)).drop (List.nil_sublist _) (.refl _)

theorem ensures_lowerEntryPoints (names : List String) (knows : s.Knows w [] []) :
    Ensures (lowerEntryPoints w.cls names) s fun _ s' => s'.Knows w [] [] := by
  induction names generalizing s with
  | nil => exact .pure knows
  | cons name names ih =>
    unfold lowerEntryPoints
    split
    · exact ih knows
    · next method found =>
      have named : method.name = name := by simpa using List.find?_some found
      refine (ensures_lowerEntryPoint (named ▸ found) knows).bind fun _ s k => ?_
      exact (ih k).bind fun _ _ k => .pure k

/-- A whole class. -/
theorem ensures_lowerClass (knows : s.Knows w [] []) :
    Ensures (lowerClass w.cls) s fun _ s' => s'.Knows w [] [] := by
  refine (ensures_declareFields w.cls knows).bind fun _ s k => .getBind ?_
  refine (ensures_lowerEntryPoints _ k).bind fun wired s k => ?_
  split <;> exact .pure k

end Lower

/-- The scope of a whole class: it starts from nothing and may use all that it makes. -/
def ScriptClass.scope (cls : ScriptClass) (options : Options) (targets : Targets) : Scope where
  cls := cls
  sources _ := True
  start := (startOfLowering options targets).context
  pending := []
  kept _ := False

theorem ScriptClass.knows_start (cls : ScriptClass) (options : Options) (targets : Targets) :
    (startOfLowering options targets).Knows (cls.scope options targets) [] [] := by
  refine ⟨⟨Nat.le_refl _, Nat.le_refl _, fun _ => ?_⟩, fun l member => by cases member⟩
  have wired : (startOfLowering options targets).context.Wired cls := by
    refine ⟨fun i n found => ?_, fun i n _ _ _ found => ?_, fun i n _ found => ?_, fun i n _ found => ?_,
      fun i e found => ?_⟩ <;> cases found
  exact
    { wired
      run := .refl
      fresh := fun _ _ => trivial
      finished := fun i n _ found => by cases found
      holds := fun f member => by cases member
      free := fun f member => by cases member
      nodup := List.nodup_nil
      keeps := fun f ⟨t, there, _⟩ => by cases there }

/-- The context after a class was lowered, before constants are put in place. -/
def ScriptClass.lowered (cls : ScriptClass) (options : Options) (targets : Targets) : Context :=
  (Lower.lowerClass cls (startOfLowering options targets)).2.context

/-- Lowering a class is a run of legal steps that leaves every node finished. -/
theorem ScriptClass.sound_lowered (cls : ScriptClass) (options : Options) (targets : Targets)
    (inRange : (cls.lowered options targets).InRange) :
    ∃ w : Scope, w.cls = cls ∧ w.start = (startOfLowering options targets).context ∧ w.pending = [] ∧
      w.Sound [] [] (cls.lowered options targets) := by
  have knows : Ensures (Lower.lowerClass cls) (startOfLowering options targets) fun _ s' =>
      s'.Knows (cls.scope options targets) [] [] :=
    Lower.ensures_lowerClass (cls.knows_start options targets)
  exact ⟨_, rfl, rfl, rfl, (knows.known.sound inRange).weaken (by simp) ⟨[], .refl _, .refl _⟩⟩

end ScriptGraph
