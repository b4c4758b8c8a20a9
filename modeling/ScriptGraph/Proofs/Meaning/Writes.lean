import Mathlib
import ScriptGraph.Proofs.Lower.Exits
import ScriptGraph.Proofs.Meaning.Values

/-!
Statements that write, as the running graph sees them.

A step of lowering realizes work: whoever is on its flow, in a state that agrees with a memory, comes to one of its
exits in a state that agrees with the memory that the work leaves (`Realizes`). Here are the steps that end in one
write: assignments, increments and declarations.
-/

namespace ScriptGraph

open Pattern Build

/-- The flows on which control leaves in a way. -/
def Exits.at (e : Exits) : Ending → List FlowOut
  | .onward => e.open
  | .returned => e.returned

namespace Program

variable {p : Program} {a b c : FlowOut} {σ μ τ : Store}

/-- Being on a flow in a state is being on another one in another state, whatever comes then. -/
def Leads (p : Program) (a b : FlowOut) (σ σ' : Store) : Prop :=
  ∀ τ, p.Runs (.follow (p.next? a.address)) σ τ ↔ p.Runs (.follow (p.next? b.address)) σ' τ

theorem Leads.trans (first : p.Leads a b σ μ) (second : p.Leads b c μ τ) : p.Leads a c σ τ :=
  fun end' => (first end').trans (second end')

/-- The graph does between a flow and exits what the work does, and changes no names in scope but the given ones. -/
def Performs (p : Program) (roles : Roles) (layout : Layout) (work : Work) (changes : List String) (flow : FlowOut)
    (exits : Exits) : Prop :=
  ∀ m σ, layout.Holds roles m σ → ∃ m' σ' ending, Executes work m m' ending ∧ layout.Holds roles m' σ' ∧
    (∀ x, roles x ≠ none → x ∉ changes → m' x = m x) ∧ ∃ exit ∈ exits.at ending, p.Leads flow exit σ σ'

end Program

namespace Lower

/-- What a step leaves behind that realizes work on a flow. -/
structure Realized (method : String) (roles : Roles) (layout : Layout) (returns : Bool) (work : Work)
    (changes : List String) (start : Context) (blanks idles : List SocketAddress) (holding : Program → Prop)
    (s : Lowering) (flow : FlowOut) (exits : Exits) (s' : Lowering) : Prop where
  houses : s'.Houses method roles layout
  rows : s.context.KeepsRows s'.context
  unreturned : returns = false → exits.returned = []
  plan : Plan start blanks (exits.tails.map (·.address) ++ idles)
    (fun q => (s'.context.Roomy → q.Performs roles layout work changes flow exits) ∧ holding q) s'.context

/-- The step realizes the work on any flow. -/
def Realizes (method : String) (roles : Roles) (returns : Bool) (work : Work) (changes : List String)
    (step : FlowOut → Lower Exits) : Prop :=
  ∀ ⦃layout : Layout⦄ ⦃start : Context⦄ ⦃blanks idles : List SocketAddress⦄ ⦃holding : Program → Prop⦄ ⦃s : Lowering⦄
    (flow : FlowOut), s.Houses method roles layout → (∀ q, holding q → q.Counters roles layout) →
      Plan start blanks (flow.address :: idles) holding s.context →
        Ensures (step flow) s (Realized method roles layout returns work changes start blanks idles holding s flow)

variable {cls : ScriptClass} {inliner : Inliner} {active : List String} {start : Context}
  {blanks idles : List SocketAddress} {holding : Program → Prop} {method : String} {roles : Roles} {layout : Layout}
  {s : Lowering}

section Stores

/-- The write of a variable as the next step of a flow. Nothing but the context changes. -/
theorem plan_write {flow : FlowOut} (plan : Plan start blanks (flow.address :: idles) holding s.context) (id : Nat)
    (value : ValueOut) :
    Ensures (storeVariable id value flow) s fun next s' => ∃ c, s' = { s with context := c } ∧
      s.context.KeepsRows c ∧ Plan start blanks (next.address :: idles)
        (fun q => (∀ σ z, q.Gives σ (.output value.address) z → q.Leads flow next σ (σ.write (.ofNat id) z)) ∧
          holding q) c := by
  refine .liftBind ((plan.setVariableFrom id value).keeping (goesOn_setVariableFrom id value))
    fun set c ⟨plan, rows⟩ => ?_
  refine .liftBind ((plan.connectFlow set.flowIn (.swap _ _ _)).keeping (goesOn_connectFlow flow set.flowIn))
    fun _ c ⟨plan, rows'⟩ => .pure ⟨c, rfl, rows.trans rows', plan.mono ?_⟩
  intro q ⟨leads, ⟨feeds, writes⟩, old⟩
  refine ⟨fun σ z gives τ => ?_, old⟩
  rw [leads]
  exact writes.passes (feeds.accepts gives) τ

/-- A plain name in scope is written where it is read. -/
theorem store_of_written? {name : String} {type : Option HostType} {id : Nat} (written : s.written? name = some id)
    (value : ValueOut) (flow : FlowOut) :
    store cls inliner active { kind := .identifier, name := some name, resultType := type } value flow s =
      storeVariable id value flow s := by
  have run : variableOf? name s = (some id, s) := by rw [variableOf?_eq, written]
  exact bind_of_run run _

theorem plan_storeName {flow : FlowOut} {name : String} {role : NameRole} {type : Option HostType} {value : ValueOut}
    (houses : s.Houses method roles layout) (known : roles name = some role) (writable : role ≠ .counter)
    (plan : Plan start blanks (flow.address :: idles) holding s.context) :
    Ensures (store cls inliner active { kind := .identifier, name := some name, resultType := type } value flow) s
      fun next s' => ∃ id c, layout name = .variable id ∧ s' = { s with context := c } ∧ s.context.KeepsRows c ∧
        Plan start blanks (next.address :: idles)
          (fun q => (∀ σ z, q.Gives σ (.output value.address) z → q.Leads flow next σ (σ.write (.ofNat id) z)) ∧
            holding q) c := by
  obtain ⟨id, place, meaning, _⟩ := houses.cell known writable
  have reads := houses.reads name role known
  rw [meaning] at reads
  rw [Ensures, store_of_written? (Lowering.written?_of_reading? reads).2]
  obtain ⟨c, same, rows, plan⟩ := plan_write plan id value
  exact ⟨id, c, meaning, same, rows, plan⟩

end Stores

/-- A step that ends in one write realizes an order that writes the same. -/
theorem realized_of_write {s' : Lowering} {name : String} {role : NameRole} {id : Nat} {order : Order} {returns : Bool}
    {changes : List String} {flow next : FlowOut} (value : ValueOut)
    (houses : s.Houses method roles layout) (known : roles name = some role) (meaning : layout name = .variable id)
    (listed : name ∈ changes) (frames : s'.frames = s.frames) (fields : s'.fields = s.fields)
    (rows : s.context.KeepsRows s'.context)
    (plan : Plan start blanks (next.address :: idles) (fun q =>
      (∀ σ z, q.Gives σ (.output value.address) z → q.Leads flow next σ (σ.write (.ofNat id) z)) ∧
      (∀ m σ, layout.Holds roles m σ → ∃ z, q.Gives σ (.output value.address) z ∧ z.valueType = role.type ∧
        Executes (.order order) m (m.put name z) .onward) ∧ holding q) s'.context) :
    Realized method roles layout returns (.order order) changes start blanks idles holding s flow (.one next) s' where
  houses := houses.grow frames fields rows
  rows := rows
  unreturned _ := rfl
  plan := plan.mono fun q ⟨writes, computes, old⟩ => by
    refine ⟨fun roomy m σ holds => ?_, old⟩
    obtain ⟨z, gives, typed, executes⟩ := computes m σ holds
    refine ⟨_, σ.write (.ofNat id) z, .onward, executes, ?_, fun x there unchanged => ?_, next, List.mem_cons_self,
      writes σ z gives⟩
    · exact .write houses (rows.roomy roomy) known meaning typed fun other role' known' _ => holds other role' known'
    · exact m.put_of_ne name z fun same => unchanged (same ▸ listed)

section Assignments

/-- The target of an assignment is a plain expression. -/
theorem plain_target {name : String} {type : Option HostType} {role : NameRole} (known : roles name = some role)
    (typed : type.bind HostType.valueType? = some role.type) :
    Expression.Plain roles { kind := .identifier, name := some name, resultType := type } role.type := by
  obtain ⟨type, rfl, typed⟩ := Option.bind_eq_some_iff.1 typed
  exact .name known rfl typed

/-- A plain value takes no flow. -/
theorem lowerWithFlow_plain {e : Expression} {t : ValueType} (plain : e.Plain roles t) (flow : FlowOut) :
    lowerWithFlow cls inliner active e flow = do return (← lowerExpression cls inliner active e, flow) := by
  obtain ⟨calls, waits⟩ := plain.unwrapped.1.kind_ne
  unfold lowerWithFlow
  dsimp only
  rw [if_neg waits]
  simp only [calls, decide_false, Bool.false_and, Bool.false_eq_true, if_false]

/-- A statement that assigns lowers its value, and stores it or what an operator makes of the two. -/
theorem lowerStatement_of_assign {s : Statement} {name operator : String} {type : Option HostType} {e : Expression}
    {t : ValueType} (tells : s.Tells (.assign name type operator e)) (plain : e.Plain roles t) (flow : FlowOut)
    {target : Expression} (is : target = { kind := .identifier, name := some name, resultType := type }) :
    lowerStatement cls inliner active s flow = Exits.one <$> (do
      let some value ← lowerExpression cls inliner active e | return flow
      match compoundOperator? operator with
      | none => store cls inliner active target value flow
      | some op => do
        let some current ← lowerExpression cls inliner active target | return flow
        let value ← coerce value e.valueType? target.valueType?
        let value ← binary op current value
        store cls inliner active target value flow) := by
  subst is
  have assigned (resultType : Option HostType) := lowerAssignment.eq_def cls inliner active
    { kind := .assignment, operator := some operator, resultType
      children := [{ kind := .identifier, name := some name, resultType := type }, e] } flow
  dsimp only at assigned
  rw [lowerWithFlow_plain plain] at assigned
  simp only [bind_assoc, pure_bind] at assigned
  cases tells
  all_goals
    rw [lowerStatement, statementStep]
    exact congrArg (Exits.one <$> ·) (assigned _)

/-- A statement that increments lowers its target, and stores what comes from adding to it. -/
theorem lowerStatement_of_increment {s : Statement} {name : String} {type : Option HostType} {up : Bool}
    (tells : s.Tells (.increment name type up)) (number : type.bind HostType.valueType? = some .int) (flow : FlowOut)
    {target : Expression} (is : target = { kind := .identifier, name := some name, resultType := type }) :
    lowerStatement cls inliner active s flow = Exits.one <$> (do
      let some current ← lowerExpression cls inliner active target | return flow
      let value ← binaryLiteral .mathAdd current (.int (if up then 1 else -1))
      store cls inliner active target value flow) := by
  subst is
  obtain ⟨type, rfl, typed⟩ := Option.bind_eq_some_iff.1 number
  have whole : (some type).bind HostType.storageType? ≠ some .float := by
    rw [Option.bind_some, HostType.storageType?, typed, Option.some_or]
    decide
  have step : (if (some type).bind HostType.storageType? = some .float
      then Literal.float (.ofInt (if up then 1 else -1 : Int32).toInt) else .int (if up then 1 else -1)) =
        .int (if up then 1 else -1) := if_neg whole
  have incremented (kind : ExpressionKind) (resultType : Option HostType) :
      lowerIncrement cls inliner active
        { kind, operator := some (if up then "++" else "--"), resultType
          children := [{ kind := .identifier, name := some name, resultType := some type }] } flow = (do
        let some current ← lowerExpression cls inliner active
          { kind := .identifier, name := some name, resultType := some type } | return flow
        let value ← binaryLiteral .mathAdd current (.int (if up then 1 else -1))
        store cls inliner active { kind := .identifier, name := some name, resultType := some type } value flow) := by
    rw [← step]
    cases up <;> rfl
  cases tells with
  | @increment kind operator isIncrement _ _ resultType _ token =>
    subst token
    rw [← incremented kind resultType, lowerStatement, statementStep]
    rcases isIncrement with rfl | rfl <;> rfl

/-- An operator that computes has a node for what it makes of two numbers. -/
theorem exists_compound {operator : String} (compound : Literal.IsCompound operator) :
    ∃ op, compoundOperator? operator = some op ∧ op.schema.valuesIn = ["a", "b"] ∧ ∀ i j : Int32, ∃ k : Int32,
      op.compute? [.int i, .int j] = some (.int k) ∧ Literal.assigned? operator (.int i) (.int j) = some (.int k) := by
  rcases compound with rfl | rfl | rfl
  all_goals exact ⟨_, rfl, rfl, fun i j => ⟨_, rfl, rfl⟩⟩

theorem realizes_assign {statement : Statement} {returns : Bool} {name operator : String} {type : Option HostType}
    {e : Expression} {role : NameRole} (tells : statement.Tells (.assign name type operator e))
    (known : roles name = some role) (writable : role ≠ .counter)
    (typed : type.bind HostType.valueType? = some role.type)
    (assigns : operator = "=" ∨ role.type = .int ∧ Literal.IsCompound operator) (value : e.Plain roles role.type) :
    Realizes method roles returns (.order (.assign name type operator e)) statement.changes
      (lowerStatement cls inliner active statement) := by
  intro layout start blanks idles holding s flow houses counters plan
  let target : Expression := { kind := .identifier, name := some name, resultType := type }
  have plainTarget : target.Plain roles role.type := plain_target known typed
  rw [lowerStatement_of_assign tells value flow (rfl : target = _)]
  refine .map ?_
  refine (plan_lowerExpression value houses counters plan).bind ?_
  rintro _ _ ⟨v, c, rfl, rfl, rows, plan⟩
  have houses' := houses.advance rows
  rcases assigns with rfl | ⟨number, compound⟩
  · refine (plan_storeName houses' known writable plan).mono ?_
    rintro next _ ⟨id, c, meaning, rfl, rows', plan⟩
    refine realized_of_write v houses known meaning tells.assign_mem rfl rfl (rows.trans rows') ?_
    refine plan.mono fun q ⟨writes, computes, old⟩ => ⟨writes, fun m σ holds => ?_, old⟩
    obtain ⟨before, held, _⟩ := holds.fits name role known
    obtain ⟨z, evaluates, is⟩ := value.evaluates holds.fits
    exact ⟨z, computes m σ z holds evaluates, is, .assign held evaluates rfl⟩
  · obtain ⟨op, token, inputs, made⟩ := exists_compound compound
    rw [token]
    have counters' (q : Program) (both : q.Computes roles layout e v ∧ holding q) : q.Counters roles layout :=
      counters q both.2
    refine (plan_lowerExpression plainTarget houses' counters' plan).bind ?_
    rintro _ _ ⟨current, c, rfl, rfl, rows', plan⟩
    dsimp only
    rw [value.valueType?, plainTarget.valueType?, coerce_same, pure_bind]
    refine .liftBind ((plan.binary current v inputs).keeping (goesOn_binary op current v)) fun w c ⟨plan, rows''⟩ => ?_
    have rows := (rows.trans rows').trans rows''
    refine (plan_storeName (houses.advance rows) known writable plan).mono ?_
    rintro next _ ⟨id, c, meaning, rfl, rows', plan⟩
    refine realized_of_write w houses known meaning tells.assign_mem rfl rfl (rows.trans rows') ?_
    refine plan.mono fun q ⟨writes, combines, reads, computes, old⟩ => ⟨writes, fun m σ holds => ?_, old⟩
    obtain ⟨x, evaluatesX, isX⟩ := plainTarget.evaluates holds.fits
    obtain ⟨y, evaluatesY, isY⟩ := value.evaluates holds.fits
    obtain ⟨i, rfl⟩ := Literal.exists_int (isX.trans number)
    obtain ⟨j, rfl⟩ := Literal.exists_int (isY.trans number)
    obtain ⟨k, computed, assigned⟩ := made i j
    refine ⟨.int k, ?_, number.symm, .assign evaluatesX evaluatesY assigned⟩
    exact combines σ _ _ _ (reads m σ _ holds evaluatesX) (computes m σ _ holds evaluatesY) computed

theorem realizes_increment {statement : Statement} {returns : Bool} {name : String} {type : Option HostType} {up : Bool}
    {role : NameRole} (tells : statement.Tells (.increment name type up)) (known : roles name = some role)
    (writable : role ≠ .counter) (number : role.type = .int) (typed : type.bind HostType.valueType? = some .int) :
    Realizes method roles returns (.order (.increment name type up)) statement.changes
      (lowerStatement cls inliner active statement) := by
  intro layout start blanks idles holding s flow houses counters plan
  let target : Expression := { kind := .identifier, name := some name, resultType := type }
  have plainTarget : target.Plain roles role.type := plain_target known (number ▸ typed)
  rw [lowerStatement_of_increment tells typed flow (rfl : target = _)]
  refine .map ?_
  refine (plan_lowerExpression plainTarget houses counters plan).bind ?_
  rintro _ _ ⟨current, c, rfl, rfl, rows, plan⟩
  let step : Int32 := if up then 1 else -1
  have steps : Ensures (binaryLiteral .mathAdd current (.int step)) c _ :=
    (plan.binaryLiteral current (.int step) rfl).keeping (goesOn_binaryLiteral _ _ _)
  refine .liftBind steps fun w c ⟨plan, rows'⟩ => ?_
  have rows := rows.trans rows'
  refine (plan_storeName (houses.advance rows) known writable plan).mono ?_
  rintro next _ ⟨id, c, meaning, rfl, rows', plan⟩
  refine realized_of_write w houses known meaning tells.increment_mem rfl rfl (rows.trans rows') ?_
  refine plan.mono fun q ⟨writes, adjusts, reads, old⟩ => ⟨writes, fun m σ holds => ?_, old⟩
  obtain ⟨x, evaluates, is⟩ := plainTarget.evaluates holds.fits
  obtain ⟨i, rfl⟩ := Literal.exists_int (is.trans number)
  exact ⟨.int (i + step), adjusts σ _ _ (reads m σ _ holds evaluates) rfl, number.symm, .increment evaluates⟩

end Assignments

section Declarations

theorem ensures_modifyFrame_eq (change : Frame → Frame) (s : Lowering) :
    Ensures (modifyFrame change) s fun _ s' => s' = { s with frames := s.frames.modifyHead change } := by
  obtain ⟨context, fields, lists, frames, tick⟩ := s
  cases frames <;> rfl

/-- A local comes into scope. -/
theorem plan_declareLocal {name : String} (houses : s.Houses method roles layout) (admits : roles.Admits method name)
    (plan : Plan start blanks idles holding s.context) (t : ValueType) :
    Ensures (declareLocal name t) s fun id s' =>
      s'.Houses method (roles.having name (.local t)) (layout.having name (.variable id)) ∧
        s.context.KeepsRows s'.context ∧ Plan start blanks idles holding s'.context := by
  obtain ⟨frame, outer, frames, own⟩ := houses.opened
  refine ensures_frame?.bind ?_
  rintro _ _ ⟨rfl, rfl⟩
  have place : ((s.frames.head?.map (·.method)).getD "") ++ "_" ++ name = method ++ "_" ++ name := by
    rw [frames, List.head?_cons, Option.map_some, Option.getD_some, own]
  dsimp only
  rw [place]
  have declared := s.context.rows_declareVariable (method ++ "_" ++ name) (some t.default) t
  refine .liftBind ((plan.declareVariable _ _ _).and declared) fun id c ⟨plan, named, rows⟩ => ?_
  refine (ensures_modifyFrame_eq _ _).bind ?_
  rintro _ _ rfl
  refine .pure ⟨?_, rows, plan⟩
  rw [frames]
  refine houses.widen (houses.separate.declare admits) ⟨_, outer, rfl, own⟩ rows ?_ (fun other different => ?_) ?_ nofun
  · refine Lowering.reading?_of_written? ?_ ?_
    · simp [Lowering.bound?, Dict.find?_erase]
    · simp [Lowering.written?, Dict.find?_insert]
  · simp [Lowering.reading?, Lowering.bound?, Lowering.written?, frames, Dict.find?_erase, Dict.find?_insert, different]
  · rintro place stored
    exact ⟨id, rfl, Option.some.inj stored ▸ named⟩

/-- A statement that declares makes the local, lowers the value and writes it. -/
theorem lowerStatement_of_declare {statement : Statement} {name : String} {type : Option HostType} {e : Expression}
    {t : ValueType} (tells : statement.Tells (.declare name type e)) (value : e.Plain roles t)
    (typed : (type.or e.resultType).bind HostType.valueType? = some t) (flow : FlowOut) :
    lowerStatement cls inliner active statement flow = Exits.one <$> (do
      let id ← declareLocal name t
      match ← lowerExpression cls inliner active e with
      | none => return flow
      | some value => storeVariable id value flow) := by
  have storage : (type.or e.resultType).bind HostType.storageType? = some t := by
    obtain ⟨type, declared, typed⟩ := Option.bind_eq_some_iff.1 typed
    rw [declared, Option.bind_some, HostType.storageType?, typed, Option.some_or]
  let declared : Expression := { kind := .identifier, name := some name, resultType := type }
  let declarator : Statement :=
    { kind := .variableDeclarator
      expressions := [declared]
      children := [{ kind := .initializer, expressions := [e] }] }
  have step : lowerStatement cls inliner active statement flow =
      Exits.one <$> lowerDeclarators cls inliner active [declarator] flow := by
    cases tells
    rw [lowerStatement, statementStep]
    rfl
  have named : (declarator.expression?.bind fun e => e.name.map (e, ·)) = some (declared, name) := rfl
  have initial : (declarator.child? .initializer).bind (·.expression?) = some e := rfl
  rw [step, lowerDeclarators, named]
  dsimp only
  rw [initial, Option.bind_some, storage]
  dsimp only
  rw [lowerWithFlow_plain value]
  have done (flow : FlowOut) : lowerDeclarators cls inliner active [] flow = pure flow := by rw [lowerDeclarators]
  refine congrArg (Exits.one <$> ·) (bind_congr fun id => ?_)
  rw [bind_assoc]
  refine bind_congr fun value? => ?_
  rw [pure_bind]
  cases value? with
  | none => exact done flow
  | some value => exact (bind_congr done).trans (bind_pure _)

/-- A block that begins with a declaration realizes what it says, if the rest does with the local in scope. -/
theorem realizes_declare {statement : Statement} {rest : List Statement} {returns : Bool} {name : String}
    {type : Option HostType} {e : Expression} {t : ValueType} (tells : statement.Tells (.declare name type e))
    (value : e.Plain roles t) (typed : (type.or e.resultType).bind HostType.valueType? = some t)
    (admits : roles.Admits method name)
    (others : Realizes method (roles.having name (.local t)) returns (.block rest) (Statement.changedNames rest)
      fun flow => lowerBlock cls inliner active rest (.one flow)) :
    Realizes method roles returns (.block (statement :: rest)) (Statement.changedNames (statement :: rest))
      fun flow => lowerBlock cls inliner active (statement :: rest) (.one flow) := by
  intro layout start blanks idles holding s flow houses counters plan
  dsimp only
  rw [lowerBlock_cons_one, lowerStatement_of_declare tells value typed, bind_map_left, bind_assoc]
  refine (plan_declareLocal houses admits plan t).bind fun id s₁ ⟨wide, rows, plan⟩ => ?_
  rw [bind_assoc]
  -- The value is lowered when the local is there already, but does not read it.
  refine (plan_lowerExpression value (wide.narrow admits.fresh) counters plan).bind ?_
  rintro _ _ ⟨v, c, rfl, rfl, rows', plan⟩
  refine (plan_write plan id v).bind ?_
  rintro next _ ⟨c', rfl, rows'', plan⟩
  have rows := (rows.trans rows').trans rows''
  have counters' (q : Program) (all : (∀ σ z, q.Gives σ (.output v.address) z →
      q.Leads flow next σ (σ.write (.ofNat id) z)) ∧ q.Computes roles layout e v ∧ holding q) :
      q.Counters (roles.having name (.local t)) (layout.having name (.variable id)) :=
    (counters q all.2.2).store (nofun : NameRole.local t ≠ .counter) _
  refine (others next (wide.advance (rows'.trans rows'')) counters' plan).mono fun exits s' realized => ?_
  have outer {x : String} (there : roles x ≠ none) : x ≠ name := fun same => there (same ▸ admits.fresh)
  refine ⟨realized.houses.narrow admits.fresh, rows.trans realized.rows, realized.unreturned, ?_⟩
  refine realized.plan.mono fun q ⟨performs, writes, computes, old⟩ => ⟨fun roomy m σ holds => ?_, old⟩
  obtain ⟨z, evaluates, is⟩ := value.evaluates holds.fits
  have roomy' : s₁.context.Roomy := ((rows'.trans rows'').trans realized.rows).roomy roomy
  obtain ⟨m', σ', ending, executes, holds', same, exit, listed, leads⟩ :=
    performs roomy (m.put name z) (σ.write (.ofNat id) z) (holds.declare wide roomy' is)
  refine ⟨m', σ', ending, .next tells (.declare evaluates) executes, holds'.narrow admits.fresh, ?_, exit, listed,
    (writes σ z (computes m σ z holds evaluates)).trans leads⟩
  intro x there unchanged
  rw [Statement.changedNames_cons] at unchanged
  have here : roles.having name (.local t) x ≠ none := by rwa [Roles.having_of_ne (outer there)]
  rw [same x here fun changed => unchanged (List.mem_append_right _ changed), m.put_of_ne name z (outer there)]

end Declarations

end Lower

end ScriptGraph
