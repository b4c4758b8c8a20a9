import ScriptGraph.Proofs.Pattern.Lists
import ScriptGraph.Proofs.Pattern.Objects

/-!
What the names of a class stand for while it is lowered.

Names stand for outputs and variables that are known, lists for variables and shared nodes. A step of
lowering may be used in any scope (`Lower.Gives`): it keeps what was known and adds what it tells of its
result.
-/

namespace ScriptGraph

open Pattern (BoundedList)

namespace Dict

variable {α : Type}

/-- The values in the order of their keys. -/
def values (d : Dict α) : List α := d.entries.map (·.2)

@[simp] theorem values_empty : (empty : Dict α).values = [] := rfl

theorem mem_values_of_find? {d : Dict α} {key : String} {value : α} (found : d.find? key = some value) :
    value ∈ d.values := by
  suffices general : ∀ entries : List (String × α), lookup key entries = some value →
      value ∈ entries.map (·.2) from general d.entries found
  intro entries
  induction entries with
  | nil => exact fun found => by cases found
  | cons head rest ih =>
    intro found
    rw [lookup] at found
    split at found
    · exact Option.some.inj found ▸ List.mem_cons_self
    · exact List.mem_cons_of_mem _ (ih found)

theorem mem_values_insert {d : Dict α} {key : String} {value other : α}
    (member : other ∈ (d.insert key value).values) : other = value ∨ other ∈ d.values := by
  suffices general : ∀ entries : List (String × α),
      other ∈ (updateEntries key (fun _ => value) entries).map (·.2) →
        other = value ∨ other ∈ entries.map (·.2) from general d.entries member
  intro entries
  induction entries with
  | nil => simp [updateEntries]
  | cons head rest ih =>
    intro member
    rw [updateEntries] at member
    split at member
    · exact List.mem_cons.1 member
    · split at member
      · exact (List.mem_cons.1 member).imp_right (List.mem_cons_of_mem _)
      · rcases List.mem_cons.1 member with first | later
        · exact .inr (first ▸ List.mem_cons_self)
        · exact (ih later).imp_right (List.mem_cons_of_mem _)

theorem mem_values_erase {d : Dict α} {key : String} {value : α} (member : value ∈ (d.erase key).values) :
    value ∈ d.values := by
  obtain ⟨entry, kept, rfl⟩ := List.mem_map.1 member
  exact List.mem_map.2 ⟨entry, (List.mem_filter.1 kept).1, rfl⟩

end Dict

/-- What is known of the names of a frame. -/
def Frame.facts (frame : Frame) : List Fact :=
  frame.bindings.values.map .out ++ (frame.locals.values ++ frame.returnVariable.toList).map .row

namespace Lowering

/-- What is known of the names of a state. -/
def facts (s : Lowering) : List Fact :=
  s.fields.values.map .row ++ s.lists.values.flatMap BoundedList.facts ++
    s.frames.flatMap Frame.facts ++ s.tick.toList.flatMap Pattern.TickChain.times

/-- In every list the slots are read together. -/
def Even (s : Lowering) : Prop := ∀ l ∈ s.lists.values, l.Even

theorem isShared_of_mem {s : Lowering} {f : Fact} (member : f ∈ s.facts) : f.isShared = true := by
  simp only [facts, Frame.facts, List.mem_append, List.mem_flatMap, List.mem_map] at member
  rcases member with
    ((⟨_, _, rfl⟩ | ⟨l, _, own⟩) | ⟨frame, _, ⟨_, _, rfl⟩ | ⟨_, _, rfl⟩⟩) | ⟨t, _, time⟩
  · rfl
  · exact BoundedList.isShared_of_mem own
  · rfl
  · rfl
  · simp only [Pattern.TickChain.times, List.mem_cons, List.not_mem_nil, or_false] at time
    rcases time with rfl | rfl <;> rfl

/-- The context of a state is known in a scope, with all that its names stand for. -/
structure Knows (w : Scope) (facts : List Fact) (exits : List FlowOut) (s : Lowering) : Prop where
  known : Known (w.ticking s.tick) (s.facts ++ facts) exits s.context
  even : s.Even

namespace Knows

variable {w : Scope} {facts facts' inner : List Fact} {exits exits' : List FlowOut} {s s' : Lowering}
  {c' : Context}

theorem weaken (knows : s.Knows w facts exits)
    (within : ∀ f ∈ facts', f ∈ facts) : s.Knows w facts' exits :=
  ⟨knows.known.weaken fun f member => List.mem_append.2
    ((List.mem_append.1 member).imp_right (within f)), knows.even⟩

/-- What is known of a name is a fact of its own, whatever the name comes to stand for. -/
theorem remembered {f : Fact} (knows : s.Knows w facts exits) (member : f ∈ s.facts) :
    s.Knows w (f :: facts) exits :=
  ⟨knows.known.weaken (by simp +contextual [or_imp, member]), knows.even⟩

/-- Flows may be given up. -/
theorem drop (knows : s.Knows w facts exits) {order : List FlowOut} (sub : exits'.Sublist order)
    (perm : order.Perm exits) : s.Knows w facts exits' :=
  ⟨knows.known.drop sub perm, knows.even⟩

/-- Takes over what is known after steps of construction. -/
theorem advance (knows : s.Knows w facts exits)
    (known : Known (w.ticking s.tick) (s.facts ++ facts') exits' c') :
    ({ s with context := c' } : Lowering).Knows w facts' exits' :=
  ⟨known, knows.even⟩

/-- Takes over one new fact after a step of construction. -/
theorem add {f : Fact} (knows : s.Knows w facts exits)
    (known : Known (w.ticking s.tick) (f :: (s.facts ++ facts)) exits' c') :
    ({ s with context := c' } : Lowering).Knows w (f :: facts) exits' :=
  knows.advance (known.weaken fun _ member => List.perm_middle.mem_iff.1 member)

/-- Takes over a new fact in place of the one it came from. -/
theorem replace {f g : Fact} (knows : s.Knows w (g :: facts) exits)
    (known : Known (w.ticking s.tick) (f :: (s.facts ++ g :: facts)) exits' c') :
    ({ s with context := c' } : Lowering).Knows w (f :: facts) exits' :=
  (knows.add known).weaken (by simp +contextual)

/-- Takes over new facts after steps of construction. -/
theorem gain (new : List Fact) (knows : s.Knows w facts exits)
    (known : Known (w.ticking s.tick) inner exits' c')
    (within : ∀ f ∈ s.facts ++ (new ++ facts), f ∈ inner) :
    ({ s with context := c' } : Lowering).Knows w (new ++ facts) exits' :=
  knows.advance (known.weaken within)

theorem enter (knows : s.Knows w facts exits) : s.Knows (w.enter s.context) (enter facts) exits := by
  have entered : Known ((w.enter s.context).ticking s.tick) (ScriptGraph.enter (s.facts ++ facts)) exits
      s.context := knows.known.enter
  refine ⟨entered.weaken fun f member => ?_, knows.even⟩
  rcases List.mem_append.1 member with own | old
  · exact mem_enter_of_isShared (isShared_of_mem own) (List.mem_append_left _ own)
  · obtain ⟨g, there, kind⟩ := mem_enter.1 old
    exact mem_enter.2 ⟨g, List.mem_append_right _ there, kind⟩

/-- Leaves a scope of its own. -/
theorem leave (knows : s.Knows w facts exits) (inside : s'.Knows (w.enter s.context) inner exits')
    (within : ∀ f ∈ facts', f ∈ facts ∨ (f ∈ inner ∧ f.lasts = true)) : s'.Knows w facts' exits' := by
  refine ⟨knows.known.leaveTicking inside.known fun f member => ?_, inside.even⟩
  rcases List.mem_append.1 member with own | new
  · exact .inr ⟨List.mem_append_left _ own, Fact.lasts_of_isShared (isShared_of_mem own)⟩
  · exact (within f new).imp (List.mem_append_right _) (And.imp_left (List.mem_append_right _))

/-- Names may come to stand for other things that are known. -/
theorem rename (knows : s.Knows w facts exits) (context : s'.context = s.context)
    (tick : s'.tick = s.tick) (names : ∀ f ∈ s'.facts, f ∈ s.facts ∨ f ∈ facts) (even : s'.Even) :
    s'.Knows w facts exits := by
  refine ⟨?_, even⟩
  rw [context, tick]
  refine knows.known.weaken fun f member => ?_
  rcases List.mem_append.1 member with own | old
  · exact List.mem_append.2 (names f own)
  · exact List.mem_append_right _ old

/-- Names still stand for what they stood for behind a fence around work that began here. -/
theorem fence (knows : s.Knows w facts exits)
    (inside : Known ((w.enter s.context).ticking s.tick) inner exits' c')
    (within : ∀ f ∈ ScriptGraph.enter (s.facts ++ facts), f ∈ inner) :
    ({ s with context := c' } : Lowering).Knows ((w.enter s.context).fence c') (fence inner) exits' := by
  have fenced : Known (((w.enter s.context).fence c').ticking s.tick) (ScriptGraph.fence inner) exits' c' :=
    inside.fence
  refine ⟨fenced.weaken fun f member => ?_, knows.even⟩
  rcases List.mem_append.1 member with own | old
  · exact mem_fence_of_isShared (isShared_of_mem own) (List.mem_append_left facts own) within
  · exact old

end Knows

section Names

variable {s : Lowering} {name : String} {f : Fact}

theorem mem_facts : f ∈ s.facts ↔
    (∃ id ∈ s.fields.values, .row id = f) ∨ (∃ l ∈ s.lists.values, f ∈ l.facts) ∨
      (∃ frame ∈ s.frames, f ∈ frame.facts) ∨ ∃ t, s.tick = some t ∧ f ∈ t.times := by
  simp only [facts, List.mem_append, List.mem_flatMap, List.mem_map, Option.mem_toList, or_assoc]

theorem row_mem_facts {id : Nat} (found : s.fields.find? name = some id) : .row id ∈ s.facts :=
  mem_facts.2 (.inl ⟨id, Dict.mem_values_of_find? found, rfl⟩)

theorem mem_facts_of_list {l : BoundedList} (found : s.lists.find? name = some l) (own : f ∈ l.facts) :
    f ∈ s.facts :=
  mem_facts.2 (.inr (.inl ⟨l, Dict.mem_values_of_find? found, own⟩))

theorem mem_facts_of_frame {frame : Frame} (top : s.frames.head? = some frame) (own : f ∈ frame.facts) :
    f ∈ s.facts :=
  mem_facts.2 (.inr (.inr (.inl ⟨frame, List.mem_of_mem_head? top, own⟩)))

theorem out_mem_facts {frame : Frame} {v : ValueOut} (top : s.frames.head? = some frame)
    (found : frame.bindings.find? name = some v) : .out v ∈ s.facts := by
  refine mem_facts_of_frame top (List.mem_append_left _ ?_)
  exact List.mem_map_of_mem (Dict.mem_values_of_find? found)

theorem local_mem_facts {frame : Frame} {id : Nat} (top : s.frames.head? = some frame)
    (found : frame.locals.find? name = some id) : .row id ∈ s.facts := by
  refine mem_facts_of_frame top (List.mem_append_right _ ?_)
  exact List.mem_map_of_mem (List.mem_append_left _ (Dict.mem_values_of_find? found))

theorem result_mem_facts {frame : Frame} {id : Nat} (top : s.frames.head? = some frame)
    (found : frame.returnVariable = some id) : .row id ∈ s.facts := by
  refine mem_facts_of_frame top (List.mem_append_right _ ?_)
  exact List.mem_map_of_mem (List.mem_append_right _ (by simp [found]))

theorem timed_facts (s : Lowering) : Pattern.TickChain.Timed s.tick s.facts :=
  fun t same _ member => mem_facts.2 (.inr (.inr (.inr ⟨t, same, member⟩)))

theorem ready_of_find? {w : Scope} {facts : List Fact} {exits : List FlowOut} {l : BoundedList}
    (knows : s.Knows w facts exits) (found : s.lists.find? name = some l) : l.Ready (s.facts ++ facts) :=
  ⟨fun _ own => List.mem_append_left _ (mem_facts_of_list found own),
    knows.even l (Dict.mem_values_of_find? found)⟩

theorem mem_facts_frames {frames : List Frame} (member : f ∈ ({ s with frames } : Lowering).facts) :
    (∃ frame ∈ frames, f ∈ frame.facts) ∨ f ∈ s.facts := by
  rw [mem_facts] at member ⊢
  rcases member with field | list | frame | tick
  · exact .inr (.inl field)
  · exact .inr (.inr (.inl list))
  · exact .inl frame
  · exact .inr (.inr (.inr (.inr tick)))

theorem mem_facts_lists {l : BoundedList}
    (member : f ∈ ({ s with lists := s.lists.insert name l } : Lowering).facts) :
    f ∈ l.facts ∨ f ∈ s.facts := by
  rw [mem_facts] at member ⊢
  rcases member with field | ⟨other, place, own⟩ | frame | tick
  · exact .inr (.inl field)
  · rcases Dict.mem_values_insert place with rfl | old
    · exact .inl own
    · exact .inr (.inr (.inl ⟨other, old, own⟩))
  · exact .inr (.inr (.inr (.inl frame)))
  · exact .inr (.inr (.inr (.inr tick)))

theorem mem_facts_fields {id : Nat}
    (member : f ∈ ({ s with fields := s.fields.insert name id } : Lowering).facts) :
    f = .row id ∨ f ∈ s.facts := by
  rw [mem_facts] at member ⊢
  rcases member with ⟨other, place, rfl⟩ | list | frame | tick
  · rcases Dict.mem_values_insert place with rfl | old
    · exact .inl rfl
    · exact .inr (.inl ⟨other, old, rfl⟩)
  · exact .inr (.inr (.inl list))
  · exact .inr (.inr (.inr (.inl frame)))
  · exact .inr (.inr (.inr (.inr tick)))

theorem mem_facts_tick {t : Pattern.TickChain}
    (member : f ∈ ({ s with tick := some t } : Lowering).facts) : f ∈ t.times ∨ f ∈ s.facts := by
  rw [mem_facts] at member ⊢
  rcases member with field | list | frame | ⟨other, same, time⟩
  · exact .inr (.inl field)
  · exact .inr (.inr (.inl list))
  · exact .inr (.inr (.inr (.inl frame)))
  · exact .inl (Option.some.inj same ▸ time)

end Names

end Lowering

namespace Lower

variable {α : Type}

/-- In any scope, the step keeps what is known and tells something about its result. -/
def Gives (step : Lower α) (tells : α → List Fact) : Prop :=
  ∀ ⦃w : Scope⦄ ⦃facts : List Fact⦄ ⦃exits : List FlowOut⦄ ⦃s : Lowering⦄, s.Knows w facts exits →
    Ensures step s fun a s' => s'.Knows w (tells a ++ facts) exits

/-- The step gives a value, or none. -/
abbrev Values (step : Lower (Option ValueOut)) : Prop := Gives step fun v? => v?.toList.map .out

/-- In any scope, the step goes on with a flow that leads nowhere yet and leaves others. -/
def Continues (step : FlowOut → Lower α) (tells : α → List Fact) (leaves : α → List FlowOut) : Prop :=
  ∀ ⦃w : Scope⦄ ⦃facts : List Fact⦄ ⦃exits : List FlowOut⦄ ⦃s : Lowering⦄ (flow : FlowOut),
    s.Knows w facts (flow :: exits) →
      Ensures (step flow) s fun a s' => s'.Knows w (tells a ++ facts) (leaves a ++ exits)

/-- The step goes on with one flow and leaves one. -/
abbrev Passes (step : FlowOut → Lower FlowOut) : Prop := Continues step (fun _ => []) ([·])

section States

variable {w : Scope} {facts : List Fact} {exits : List FlowOut} {s : Lowering}

theorem ensures_frame? : Ensures frame? s fun frame s' => frame = s.frames.head? ∧ s = s' := ⟨rfl, rfl⟩

/-- A note changes nothing that is known. -/
theorem knows_note {kind : DiagnosticKind} {message : String} (knows : s.Knows w facts exits) :
    Ensures (Build.report kind message) s.context fun _ c =>
      ({ s with context := c } : Lowering).Knows w facts exits :=
  knows.advance knows.known.report

theorem knows_setMethod {name : String} (knows : s.Knows w facts exits) :
    Ensures (Build.setMethod name) s.context fun _ c =>
      ({ s with context := c } : Lowering).Knows w facts exits :=
  knows.advance knows.known.setMethod

/-- Feeds an input of a new node from an argument. -/
theorem knows_connect {t : ValueIn} {v : ValueOut} (knows : s.Knows w facts exits)
    (into : ∀ a ∈ t.sockets, .input a ∈ facts) (given : .arg v ∈ facts) :
    Ensures (Build.connect t v) s.context fun _ c =>
      ({ s with context := c } : Lowering).Knows w (fed facts t.sockets) exits := by
  refine (knows.known.connect (fun a member => List.mem_append_right _ (into a member))
    (List.mem_append_right _ given)).mono fun _ _ k => knows.advance (k.weaken fun f member => ?_)
  rcases List.mem_append.1 member with own | old
  · exact mem_fed_of_isShared (Lowering.isShared_of_mem own) (List.mem_append_left _ own)
  · exact mem_fed.2 ⟨List.mem_append_right _ (mem_fed.1 old).1, (mem_fed.1 old).2⟩

/-- Leads a flow on. -/
theorem knows_connectFlow {f : FlowOut} {t : FlowIn} {rest : List FlowOut} (knows : s.Knows w facts exits)
    (mine : exits.Perm (f :: rest)) (into : .entry t ∈ facts) :
    Ensures (Build.connectFlow f t) s.context fun _ c =>
      ({ s with context := c } : Lowering).Knows w facts rest :=
  (knows.known.connectFlow mine (List.mem_append_right _ into)).mono fun _ _ k => knows.advance k

/-- A step in a frame of its own. -/
theorem knows_push {frame : Frame} (knows : s.Knows w facts exits)
    (names : ∀ f ∈ frame.facts, f ∈ s.facts ∨ f ∈ facts) :
    ({ s with frames := frame :: s.frames } : Lowering).Knows w facts exits := by
  refine knows.rename rfl rfl (fun f member => ?_) knows.even
  rcases Lowering.mem_facts_frames member with ⟨top, place, own⟩ | old
  · rcases List.mem_cons.1 place with rfl | older
    · exact names f own
    · exact .inl (Lowering.mem_facts.2 (.inr (.inr (.inl ⟨top, older, own⟩))))
  · exact .inl old

theorem ensures_withFrame {frame : Frame} {step : Lower α} {tells : α → List Fact}
    {exits' : α → List FlowOut} (knows : s.Knows w facts exits)
    (names : ∀ f ∈ frame.facts, f ∈ s.facts ∨ f ∈ facts)
    (inside : ∀ s', s'.Knows w facts exits → Ensures step s' fun a s'' => s''.Knows w (tells a) (exits' a)) :
    Ensures (withFrame frame step) s fun a s' => s'.Knows w (tells a) (exits' a) := by
  refine .modifyBind ((inside _ (knows_push knows names)).bind fun a s' k => .modifyBind (.pure ?_))
  refine k.rename rfl rfl (fun f member => .inl ?_) k.even
  rcases Lowering.mem_facts_frames member with ⟨top, place, own⟩ | old
  · exact Lowering.mem_facts.2 (.inr (.inr (.inl ⟨top, List.mem_of_mem_tail place, own⟩)))
  · exact old

theorem ensures_currentMethod : Ensures currentMethod s fun _ s' => s = s' := rfl

/-- A step in the frame of a callee. -/
theorem ensures_inCallee {frame : Frame} {step : Lower α} {tells : α → List Fact}
    {exits' : α → List FlowOut} (knows : s.Knows w facts exits)
    (names : ∀ f ∈ frame.facts, f ∈ s.facts ∨ f ∈ facts)
    (inside : ∀ s', s'.Knows w facts exits → Ensures step s' fun a s'' => s''.Knows w (tells a) (exits' a)) :
    Ensures (inCallee frame step) s fun a s' => s'.Knows w (tells a) (exits' a) := by
  refine ensures_currentMethod.bind ?_
  rintro caller _ rfl
  refine .liftBind (knows_setMethod knows) fun _ _ k => ?_
  refine (ensures_withFrame k names inside).bind fun a s' k => ?_
  exact .liftBind (knows_setMethod k) fun _ _ k => .pure k

/-- A step on a list. -/
theorem ensures_onList? {name : String} {step : Pattern.ListBuild α} (tells : α → List Fact)
    (opens : α → List FlowOut) (knows : s.Knows w facts exits)
    (spec : ∀ l : BoundedList, l.Ready (s.facts ++ facts) → Ensures (step.run l) s.context fun r c =>
      Known (w.ticking s.tick) (tells r.1 ++ (r.2.facts ++ (s.facts ++ facts))) (opens r.1 ++ exits) c ∧
        r.2.Even) :
    Ensures (onList? name step) s fun r? s' =>
      s'.Knows w ((r?.map tells).getD [] ++ facts) ((r?.map opens).getD [] ++ exits) := by
  unfold onList?
  refine .getBind ?_
  rcases found : s.lists.find? name with _ | l
  · exact .pure knows
  · refine .liftBind (spec l (Lowering.ready_of_find? knows found)) fun ⟨a, l'⟩ c ⟨k, even⟩ => ?_
    refine .modifyBind (.pure ⟨k.weaken fun f member => ?_, fun other place => ?_⟩)
    · rcases List.mem_append.1 member with own | rest
      · rcases Lowering.mem_facts_lists own with shared | old
        · exact List.mem_append_right _ (List.mem_append_left _ shared)
        · exact List.mem_append_right _ (List.mem_append_right _ (List.mem_append_left _ old))
      · rcases List.mem_append.1 rest with new | old
        · exact List.mem_append_left _ new
        · exact List.mem_append_right _ (List.mem_append_right _ (List.mem_append_right _ old))
    · rcases Dict.mem_values_insert place with rfl | old
      · exact even
      · exact knows.even other old

/-- A step on a list that gives a value. -/
theorem ensures_onListValue {name : String} {step : Pattern.ListBuild ValueOut} (knows : s.Knows w facts exits)
    (spec : ∀ l : BoundedList, l.Ready (s.facts ++ facts) → Ensures (step.run l) s.context fun r c =>
      Known (w.ticking s.tick) (.out r.1 :: (r.2.facts ++ (s.facts ++ facts))) exits c ∧ r.2.Even) :
    Ensures (onList? name step) s fun v? s' => s'.Knows w (v?.toList.map .out ++ facts) exits := by
  refine (ensures_onList? (fun v => [.out v]) (fun _ => []) knows spec).mono fun v? _ k => ?_
  cases v? with
  | none => exact k
  | some v => exact k

/-- The times of the tick event. -/
theorem ensures_tickNode (knows : s.Knows w facts exits) :
    Ensures tickNode s fun event s' =>
      s'.Knows w (.out (event.valueOut "timeSinceStart") :: .out (event.valueOut "timeSinceLastTick") ::
        facts) exits := by
  refine .getBind (.liftBind (knows.known.getOrNew (s.timed_facts.mono (by simp +contextual)))
    fun chain c k => .modifyBind (.pure ⟨k.weaken fun f member => ?_, knows.even⟩))
  rcases List.mem_append.1 member with own | rest
  · rcases Lowering.mem_facts_tick own with time | old
    · exact List.mem_append_left _ time
    · exact List.mem_append_right _ (List.mem_append_left _ old)
  · revert rest
    simp +contextual [or_imp]

/-- A flow of its own behind the tick event. -/
theorem ensures_tickFlow (knows : s.Knows w facts exits) :
    Ensures tickFlow s fun flow s' => s'.Knows w facts (flow :: exits) := by
  refine .getBind (.liftBind (knows.known.getOrNew (s.timed_facts.mono (by simp +contextual)))
    fun chain c k => ?_)
  refine .liftBind k.nextFlow fun ⟨flow, chain'⟩ c ⟨event, k⟩ =>
    .modifyBind (.pure ⟨k.weaken fun f member => ?_, knows.even⟩)
  rcases List.mem_append.1 member with own | old
  · rcases Lowering.mem_facts_tick own with time | old
    · have same : chain'.times = chain.times := by rw [Pattern.TickChain.times, event]; rfl
      exact List.mem_append_left _ (same ▸ time)
    · exact List.mem_append_right _ (List.mem_append_left _ old)
  · exact List.mem_append_right _ (List.mem_append_right _ old)

theorem gives_objectLiteral (object : ObjectRef) : Gives (objectLiteral object) fun v => [.out v] := by
  intro w facts exits s knows
  have reads : Ensures (Build.targetOf? object) s.context fun _ c => s.context = c := rfl
  refine .liftBind reads fun target? c same => ?_
  subst same
  cases target? with
  | some id => exact .lift (knows.known.createLiteral.mono fun _ _ k => knows.add k)
  | none =>
    refine .liftBind (knows_note knows) fun _ _ k => ?_
    exact .lift (k.known.createUnknownLiteral.mono fun _ _ k' => k.add k')

/-- Several flows come together. -/
theorem ensures_connectFlows (flows : List FlowOut) {target : FlowIn}
    (knows : s.Knows w facts (flows ++ exits)) (into : .entry target ∈ facts) :
    Ensures (connectFlows flows target) s fun _ s' => s'.Knows w facts exits := by
  induction flows generalizing s with
  | nil => exact .pure knows
  | cons flow rest ih =>
    refine .liftBind (knows.known.connectFlow (.refl _) (by simp [into])) fun _ _ k => ?_
    exact ih (knows.advance k)

theorem ensures_join (flows : List FlowOut) (knows : s.Knows w facts (flows ++ exits)) :
    Ensures (join flows) s fun flow s' => s'.Knows w facts (flow :: exits) := by
  refine .liftBind (knows.known.createNode (by decide : Op.flowSequence.Has [] [] ["in"] ["0"]))
    fun sequence c k => ?_
  have entered : ({ s with context := c } : Lowering).Knows w (.entry (sequence.flowIn "in") :: facts)
      (flows ++ sequence.flowOut "0" :: exits) :=
    knows.advance ((k.weaken (by simp +contextual [or_imp])).drop (.refl _) (List.perm_middle))
  refine (ensures_connectFlows flows entered (by simp)).bind fun _ _ k => .pure (k.weaken (by simp +contextual))

/-- Writes a variable as the next step of a flow. -/
theorem ensures_storeVariable {id : Nat} {value : ValueOut} {flow : FlowOut}
    (knows : s.Knows w facts (flow :: exits)) (declared : .row id ∈ s.facts ++ facts)
    (given : .out value ∈ s.facts ++ facts) :
    Ensures (storeVariable id value flow) s fun next s' => s'.Knows w facts (next :: exits) := by
  refine .liftBind (knows.known.setVariableFrom declared given) fun write _ k => ?_
  refine .liftBind (k.connectFlow (.swap ..) (by simp)) fun _ _ k => .pure ?_
  exact knows.advance (k.weaken (by simp +contextual))

theorem ensures_modifyFrame {change : Frame → Frame} (knows : s.Knows w facts exits)
    (names : ∀ frame, s.frames.head? = some frame → ∀ f ∈ (change frame).facts,
      f ∈ frame.facts ∨ f ∈ facts) :
    Ensures (modifyFrame change) s fun _ s' => s'.Knows w facts exits := by
  refine knows.rename rfl rfl (fun f member => ?_) knows.even
  rcases Lowering.mem_facts_frames member with ⟨frame, place, own⟩ | old
  · rcases frames : s.frames with _ | ⟨top, rest⟩
    · simp [frames] at place
    · rw [frames] at place
      rcases List.mem_cons.1 place with rfl | older
      · have head : s.frames.head? = some top := by rw [frames]; rfl
        exact (names top head f own).imp_left (Lowering.mem_facts_of_frame head)
      · refine .inl (Lowering.mem_facts.2 (.inr (.inr (.inl ⟨frame, ?_, own⟩))))
        rw [frames]
        exact List.mem_cons_of_mem _ older
  · exact .inl old

/-- A new local stands for its variable. -/
theorem ensures_declareLocal {name : String} {type : ValueType} (knows : s.Knows w facts exits) :
    Ensures (declareLocal name type) s fun id s' => s'.Knows w (.row id :: facts) exits := by
  refine ensures_frame?.bind ?_
  rintro frame _ ⟨rfl, rfl⟩
  refine .liftBind knows.known.declareVariable fun id c k => ?_
  have k : ({ s with context := c } : Lowering).Knows w (.row id :: facts) exits := knows.add k
  refine (ensures_modifyFrame k fun frame _ f member => ?_).bind fun _ _ k => .pure k
  simp only [Frame.facts, List.mem_append, List.mem_map] at member ⊢
  rcases member with ⟨v, kept, rfl⟩ | ⟨other, local' | result, rfl⟩
  · exact .inl (.inl ⟨v, Dict.mem_values_erase kept, rfl⟩)
  · rcases Dict.mem_values_insert local' with rfl | old
    · exact .inr List.mem_cons_self
    · exact .inl (.inr ⟨other, .inl old, rfl⟩)
  · exact .inl (.inr ⟨other, .inr result, rfl⟩)

/-- A plain name is written to a variable that is known. -/
theorem ensures_variableOf? {name : String} :
    Ensures (variableOf? name) s fun id? s' => s = s' ∧ ∀ id, id? = some id → .row id ∈ s.facts := by
  refine ensures_frame?.bind ?_
  rintro frame _ ⟨rfl, rfl⟩
  refine .getBind (.pure ⟨rfl, fun id found => ?_⟩)
  rcases Option.or_eq_some_iff.1 found with own | ⟨_, field⟩
  · obtain ⟨frame, top, found⟩ := Option.bind_eq_some_iff.1 own
    exact Lowering.local_mem_facts top found
  · exact Lowering.row_mem_facts field

theorem ensures_listName? {e : Expression} : Ensures (listName? e) s fun _ s' => s = s' := rfl

/-- A value in the shape of another; only the context changes. -/
theorem ensures_coerce {value : ValueOut} {own other : Option ValueType}
    (known : Known w facts exits s.context) (given : .out value ∈ facts) :
    Ensures (coerce value own other) s fun v s' =>
      ∃ c, s' = { s with context := c } ∧ Known w (.out v :: facts) exits c := by
  unfold coerce
  split
  · next own other =>
    have filled (v : ValueOut) (c : Context) (k : Known w (.out v :: facts) exits c) :
        Ensures (if (own = .int || own = .float) && (other = .float2 || other = .float3 || other = .float4)
            then do return (← liftM (Pattern.combine? (List.replicate other.componentCount v))).getD v
            else pure v : Lower ValueOut) { s with context := c } fun v s' =>
          ∃ c, s' = { s with context := c } ∧ Known w (.out v :: facts) exits c := by
      split
      · refine .liftBind (k.combine? (fun u member => ?_)) fun v? c' k' => .pure ⟨c', rfl, ?_⟩
        · simp [List.eq_of_mem_replicate member]
        · cases v? with
          | none => exact k'
          | some combined => exact k'.weaken (by simp +contextual)
      · exact .pure ⟨c, rfl, k⟩
    dsimp only
    split
    · exact .liftBind (known.unary (by decide) given) fun v c k => filled v c k
    · exact filled value s.context (known.weaken (by simp [given]))
  · exact .pure ⟨s.context, rfl, known.weaken (by simp [given])⟩

theorem gives_coerce {value : ValueOut} {own other : Option ValueType} (knows : s.Knows w facts exits)
    (given : .out value ∈ s.facts ++ facts) :
    Ensures (coerce value own other) s fun v s' => s'.Knows w (.out v :: facts) exits := by
  refine (ensures_coerce knows.known given).mono ?_
  rintro v _ ⟨c, rfl, k⟩
  exact knows.add k

end States

end Lower

end ScriptGraph
