import Mathlib
import ScriptGraph.Proofs.Compile.Wiring
import ScriptGraph.Proofs.Meaning.Fields
import ScriptGraph.Proofs.Meaning.Loops
import ScriptGraph.Proofs.Runtime.Growth

/-!
Plain classes do in the running graph what they say.

Plain work is realized by lowering it, one case for each thing to do (`fulfills_plain`). The method of a plain class
stands behind the event that starts the graph, and ends with the fields that interpreting it leaves.
-/

namespace ScriptGraph

open Pattern Build

/-- A class with plain fields and one method, which starts it and is plain. -/
structure ScriptClass.IsPlain (cls : ScriptClass) (start : Method) : Prop where
  distinct : (cls.fields.map (·.name)).Nodup
  fields : ∀ f ∈ cls.fields, ∃ t, f.IsPlain t
  methods : cls.methods = [start]
  starts : start.name = "Start"
  takesNothing : start.parameters = []
  body : (Work.block start.body).Plain "Start" cls.fieldRoles true

theorem Exits.mem_tails {exit : FlowOut} {e : Exits} {ending : Ending} (listed : exit ∈ e.at ending) :
    exit ∈ e.tails := by
  cases ending with
  | onward => exact List.mem_append_left _ listed
  | returned => exact List.mem_append_right _ listed

namespace Lower

section Work

variable {cls : ScriptClass} {inliner : Inliner} {active : List String} {method : String} {roles : Roles}
  {returns : Bool}

/-- The work is realized by lowering it. -/
def Fulfills (cls : ScriptClass) (inliner : Inliner) (active : List String) (method : String) (roles : Roles)
    (returns : Bool) : Work → Prop
  | .block body => Realizes method roles returns (.block body) (Statement.changedNames body)
      fun flow => lowerBlock cls inliner active body (.one flow)
  | .order order => ∀ statement : Statement, statement.Tells order →
      Realizes method roles returns (.order order) statement.changes (lowerStatement cls inliner active statement)
  | .passes .. => True

theorem fulfills_plain {work : Work} (plain : work.Plain method roles returns) :
    Fulfills cls inliner active method roles returns work := by
  induction plain with
  | done => exact realizes_done
  | declare tells value typed admits _ ih => exact realizes_declare tells value typed admits ih
  | next tells _ _ ihFirst ihOthers => exact realizes_next tells (ihFirst _ tells) ihOthers
  | assign known writable typed assigns value =>
    exact fun statement tells => realizes_assign tells known writable typed assigns value
  | increment known writable number typed =>
    exact fun statement tells => realizes_increment tells known writable number typed
  | block _ ih => exact fun statement tells => realizes_block tells ih
  | branch decides _ _ ihYes ihNo => exact fun statement tells => realizes_branch tells decides ihYes ihNo
  | leave => exact fun statement tells => realizes_leave tells
  | count fresh first last inside kept ih =>
    exact fun statement tells =>
      realizes_count tells fresh first last inside.dropWhile_isHeader inside.waitless kept ih

end Work

/-- Behind the event that starts the graph, the work is done. -/
structure Starts (roles : Roles) (layout : Layout) (body : List Statement) (p : Program) (event : NodeId) : Prop where
  op : p.op? event = some .eventOnStart
  ends : ∀ m σ, layout.Holds roles m σ → ∃ m' τ ending, Executes (.block body) m m' ending ∧
    layout.Holds roles m' τ ∧ p.Ends (p.next? ⟨event, "out"⟩) σ τ

variable {cls : ScriptClass} {start : Method} {s : Lowering}

/-- The method that starts a plain class is lowered behind the event. -/
theorem lowerEntryPoint_plain (plain : cls.IsPlain start) :
    lowerEntryPoint cls start = (do
      setMethod "Start"
      let event ← createNode .eventOnStart
      let inliner ← fullInliner cls
      withFrame { method := "Start" } (lowerBlock cls inliner [] start.body (.one (event.flowOut "out")))) := by
  rw [lowerEntryPoint, openEntryPoint, plain.takesNothing, plain.starts]
  rfl

theorem ensures_lowerEntryPoint_plain (plain : cls.IsPlain start) (declares : s.Declares cls.fields) :
    Ensures (lowerEntryPoint cls start) s fun _ s' => s.context.KeepsRows s'.context ∧
      (s'.context.Small → s'.context.Roomy → ∃ event,
        Starts cls.fieldRoles (Lowering.Declares.layout s) start.body s'.context.program event) := by
  have identified : s.context.graph.Identified := fun i n found => by
    rw [declares.unmade] at found
    cases found
  rw [lowerEntryPoint_plain plain]
  have bare := Plan.bare identified
  have named : Ensures (setMethod "Start") s.context fun _ c => s.context.KeepsRows c ∧ Plan s.context [] [] _ c :=
    ⟨.refl _, bare.aside rfl rfl⟩
  refine .liftBind named fun _ c ⟨rows, plan⟩ => ?_
  refine .liftBind ((plan.createNode [] ["out"] (by decide)).keeping (goesOn_createNode .eventOnStart))
    fun event c ⟨⟨plan, _⟩, rows'⟩ => ?_
  have rows := rows.trans rows'
  have inliner : Ensures (fullInliner cls) _ fun _ s' => { s with context := c } = s' := rfl
  refine inliner.bind ?_
  rintro inliner _ rfl
  refine .modifyBind ?_
  dsimp only
  rw [declares.outside]
  have body : Realizes "Start" cls.fieldRoles true (.block start.body) (Statement.changedNames start.body)
      fun flow => lowerBlock cls inliner [] start.body (.one flow) := fulfills_plain plain.body
  refine (body (event.flowOut "out") (declares.houses "Start" c rows) ?_ plan).bind
    fun exits s' realized => .modifyBind (.pure ?_)
  · intro q _ name output known
    obtain ⟨_, _, _, _, _, same⟩ := ScriptClass.mem_of_fieldRoles known
    cases same
  · refine ⟨rows.trans realized.rows, fun small roomy => ⟨event, ?_⟩⟩
    obtain ⟨closed, performs, stands, _⟩ := ((plan_closeAll exits.tails realized.plan).sound small).2.now
    refine ⟨stands.op, fun m σ holds => ?_⟩
    obtain ⟨m', τ, ending, executes, holds', _, exit, listed, leads⟩ := performs roomy m σ holds
    have rests : s'.context.program.Ends (s'.context.program.next? exit.address) τ τ :=
      closed exit (Exits.mem_tails listed) ▸ Program.ends_none
    exact ⟨m', τ, ending, executes, holds', fun τ' => (leads τ').trans (rests τ')⟩

/-- The other entry points are methods that a plain class does not have. -/
theorem lowerEntryPoints_of_absent (plain : cls.IsPlain start) {names : List String} (absent : names.count "Start" = 0) :
    lowerEntryPoints cls names = pure 0 := by
  induction names with
  | nil => rfl
  | cons name names ih =>
    have other : name ≠ "Start" := fun same => List.count_eq_zero.1 absent (same ▸ List.mem_cons_self)
    rw [List.count_cons_of_ne other] at absent
    rw [lowerEntryPoints, ScriptClass.method?, plain.methods, List.find?_singleton, plain.starts,
      if_neg (by simpa using other.symm)]
    exact ih absent

theorem lowerEntryPoints_of_once (plain : cls.IsPlain start) {names : List String} (once : names.count "Start" = 1) :
    lowerEntryPoints cls names = (fun _ => 1) <$> lowerEntryPoint cls start := by
  induction names with
  | nil => exact absurd once (by decide)
  | cons name names ih =>
    rw [lowerEntryPoints, ScriptClass.method?, plain.methods, List.find?_singleton, plain.starts]
    by_cases own : name = "Start"
    · subst own
      rw [List.count_cons_self] at once
      rw [lowerEntryPoints_of_absent plain (Nat.succ.inj once)]
      rfl
    · rw [List.count_cons_of_ne own] at once
      rw [if_neg (by simpa using Ne.symm own)]
      exact ih once

/-- A plain class is lowered, with the method that starts it behind the fields. -/
theorem ensures_lowerClass_plain (plain : cls.IsPlain start) {options : Options} (targets : Targets)
    (once : options.entryPoints.count "Start" = 1) :
    Ensures (lowerClass cls) (ScriptClass.startOfLowering options targets) fun result s' => result = .ok () ∧
      ∃ s : Lowering, s.Declares cls.fields ∧ s.context.KeepsRows s'.context ∧
        (s'.context.Small → s'.context.Roomy → ∃ event,
          Starts cls.fieldRoles (Lowering.Declares.layout s) start.body s'.context.program event) := by
  have fields : Ensures (declareFields cls) (ScriptClass.startOfLowering options targets) fun _ s =>
      s.Declares cls.fields ∧ s.context.options = options := by
    have named : Ensures (setMethod cls.name) (ScriptClass.startOfLowering options targets).context fun _ c =>
        c.graph = {} ∧ c.options = options := ⟨rfl, rfl⟩
    refine .liftBind named fun _ c ⟨empty, same⟩ => ?_
    have nothing : ({ ScriptClass.startOfLowering options targets with context := c } : Lowering).Declares [] :=
      ⟨fun v member => by simp [empty] at member, nofun, by simp [empty], rfl⟩
    have declared := ensures_declareAll_plain cls.fields nothing plain.fields plain.distinct
    exact declared.mono fun _ s ⟨declares, same'⟩ => ⟨declares, same'.trans same⟩
  refine fields.bind fun _ s ⟨declares, same⟩ => .getBind ?_
  dsimp only
  rw [same, lowerEntryPoints_of_once plain once, bind_map_left]
  refine (ensures_lowerEntryPoint_plain plain declares).bind fun _ s' ⟨rows, starts⟩ => ?_
  exact .pure ⟨rfl, s, declares, rows, starts⟩

end Lower

/-- Putting constants in place does not change where a flow comes to rest. -/
theorem Context.ends_resolved {c : Context} {a? : Option SocketAddress} {σ τ : Store} (ends : c.program.Ends a? σ τ) :
    c.resolved.program.Ends a? σ τ := by
  have runs : c.resolved.program.Runs (.follow a?) σ τ :=
    .transfer c.op?_resolved c.parameter?_resolved c.next?_resolved takes_resolved ((ends τ).2 rfl)
  intro τ'
  refine ⟨fun other => other.unique runs, ?_⟩
  rintro rfl
  exact runs

namespace ScriptClass

variable {cls : ScriptClass} {start : Method} {options : Options} {targets : Targets}

/-- A class that is lowered with valid options is compiled. -/
theorem exists_compile_of_lowered (valid : options.problem? = none)
    (lowers : (Lower.lowerClass cls (startOfLowering options targets)).1 = .ok ()) :
    ∃ a, cls.compile options targets = .ok a := by
  unfold compile
  rw [valid]
  dsimp only
  split
  · next problem s result =>
    rw [result] at lowers
    cases lowers
  · exact ⟨_, rfl⟩

/-- A plain class is compiled. The method that starts it has a meaning, and when the graph starts, the fields end with
what that meaning is, each with a value of its type. -/
theorem compile_executes (plain : cls.IsPlain start) (valid : options.problem? = none)
    (once : options.entryPoints.count "Start" = 1) (small : (cls.lowered options targets).Small)
    (roomy : (cls.lowered options targets).Roomy) :
    ∃ a, cls.compile options targets = .ok a ∧ ∃ event, a.graph.program.op? event = some .eventOnStart ∧
      ∃ m' ending, Executes (.block start.body) cls.memory m' ending ∧ ∀ σ, a.graph.Starts σ →
        ∃ τ, a.graph.program.Ends (a.graph.program.next? ⟨event, "out"⟩) σ τ ∧
          ∀ f ∈ cls.fields, ∃ (id : Nat) (v : Variable), a.graph.vars[id]? = some v ∧ v.name = f.name ∧
            m' f.name = some (τ.vars (.ofNat id)) ∧ (τ.vars (.ofNat id)).valueType = v.valueType := by
  obtain ⟨lowers, s, declares, rows, starts⟩ := Lower.ensures_lowerClass_plain plain targets once
  obtain ⟨event, isStart, ends⟩ := starts small roomy
  obtain ⟨a, success⟩ := exists_compile_of_lowered valid lowers
  refine ⟨a, success, event, ?_⟩
  rw [(compile_eq_ok success).1]
  -- Some state is one in which the graph starts, and interpretation leaves no choice.
  obtain ⟨σ₀, begins⟩ := Graph.exists_starts roomy
  obtain ⟨m', _, ending, executes, _⟩ :=
    ends cls.memory σ₀ (declares.holds plain.distinct plain.fields rows begins)
  refine ⟨(Context.op?_resolved _ event).trans isStart, m', ending, executes, fun σ begins => ?_⟩
  obtain ⟨_, τ, _, executes', holds, ends⟩ :=
    ends cls.memory σ (declares.holds plain.distinct plain.fields rows begins)
  obtain ⟨rfl, rfl⟩ := executes.unique executes'
  refine ⟨τ, ?_, fun f member => ?_⟩
  · rw [Context.next?_resolved]
    exact Context.ends_resolved ends
  · obtain ⟨t, isPlain⟩ := plain.fields f member
    obtain ⟨id, v, known, there, named, typed, _⟩ := declares.stored f member
    obtain rfl : v.valueType = t := Option.some.inj (typed.symm.trans isPlain.typed)
    have role : cls.fieldRoles f.name = some (.field v.valueType) := by
      rw [fieldRoles, field?_of_mem plain.distinct member, Option.bind_some, isPlain.typed, Option.map_some]
    obtain ⟨value, held, is, found⟩ := holds f.name _ role
    rw [Lowering.Declares.layout, known, Option.getD_some] at found
    obtain rfl : τ.vars (.ofNat id) = value := found
    exact ⟨id, v, rows id v there, named, held, is⟩

/-- The class that counts upwards or downwards is plain. -/
theorem counting_isPlain : ∃ start ∈ counting.methods, counting.IsPlain start := by
  have count : counting.fieldRoles "count" = some (.field .int) := by decide
  have upwards : counting.fieldRoles "upwards" = some (.field .bool) := by decide
  have step (up : Bool) : (Work.order (.increment "count" (some { name := "int" }) up)).Plain "Start"
      counting.fieldRoles true := .increment count nofun rfl rfl
  have upward := Statement.Tells.increment (.inl rfl) "count" (some { name := "int" }) none true rfl
  have downward := Statement.Tells.increment (.inl rfl) "count" (some { name := "int" }) none false rfl
  refine ⟨_, List.mem_singleton_self _, by decide, fun f member => ?_, rfl, rfl, rfl, ?_⟩
  · rcases List.mem_pair.1 member with rfl | rfl
    · exact ⟨.int, rfl, nofun⟩
    · exact ⟨.bool, rfl, nofun⟩
  · refine .next (.branchElse ..) (.branch (.name upwards rfl rfl) ?_ ?_) (.next upward (step true) .done)
    · exact .next upward (step true) .done
    · exact .next downward (step false) .done

theorem counting_executes : ∃ a, counting.compile {} {} = .ok a ∧ ∃ event,
    a.graph.program.op? event = some .eventOnStart ∧ ∃ start ∈ counting.methods, ∃ m' ending,
      Executes (.block start.body) counting.memory m' ending ∧ ∀ σ, a.graph.Starts σ →
        ∃ τ, a.graph.program.Ends (a.graph.program.next? ⟨event, "out"⟩) σ τ ∧
          ∀ f ∈ counting.fields, ∃ (id : Nat) (v : Variable), a.graph.vars[id]? = some v ∧ v.name = f.name ∧
            m' f.name = some (τ.vars (.ofNat id)) ∧ (τ.vars (.ofNat id)).valueType = v.valueType := by
  obtain ⟨start, member, plain⟩ := counting_isPlain
  obtain ⟨_, _, nodes, placeholders, rows, _⟩ := exists_compile_of_extent rfl extent_counting
  have small : (counting.lowered {} {}).Small := by
    rw [Context.Small, nodes, placeholders]
    decide
  have roomy : (counting.lowered {} {}).Roomy := by
    rw [Context.Roomy, rows]
    decide
  obtain ⟨a, success, event, isStart, meaning⟩ := compile_executes plain rfl (by decide) small roomy
  exact ⟨a, success, event, isStart, start, member, meaning⟩

end ScriptClass

end ScriptGraph
