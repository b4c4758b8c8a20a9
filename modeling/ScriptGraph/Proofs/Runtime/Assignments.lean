import Mathlib
import ScriptGraph.Proofs.Runtime.Loops

/-!
What assignments write when they run.

An assignment to a plain name writes a variable. Where the operator is one that computes, the variable gets what
the operation makes of its current value and the operand; under any other operator, known or not, it gets the
operand itself.
-/

namespace ScriptGraph

open Pattern

/-- What an operator makes of a variable and an operand, at the output that carries it. -/
def Store.assigned? (σ : Store) (id : Int32) (place : SocketAddress) : Option Op → Literal → Option Literal
  | none, operand => some operand
  | some op, operand => σ.compute? place op [σ.vars id, operand]

/-- The operand of an assignment: the value as it is, or in the shape of the target if the operator computes. -/
def Lower.IsOperand (own target : Option ValueType) (value : ValueOut) : Option Op → ValueOut → Prop
  | none, operand => operand = value
  | some _, operand => ∃ s, operand = (coerce value own target s).1

/-- An operator that computes takes two inputs, as operations on two values do. -/
theorem Lower.compoundOperator?_binary {token : String} {op : Op} (compound : compoundOperator? token = some op) :
    op.schema.valuesIn = ["a", "b"] ∧ op.isSpecial = false := by
  unfold compoundOperator? at compound
  split at compound <;> cases compound
  all_goals exact ⟨rfl, rfl⟩

namespace Program

variable {p q : Program} {op : Op} {a b v value : ValueOut} {flow next : FlowOut} {id : Int32} {set : NodeId}
  {σ τ : Store}

/-- A flow leads to the write of an output into a variable, and another flow leaves it. -/
structure Assigns (p : Program) (flow next : FlowOut) (id : Int32) (value : ValueOut) (set : NodeId) : Prop where
  entry : p.next? flow.address = some ⟨set, "in"⟩
  sets : p.op? set = some .variableSet
  parameter : p.parameter? set "variable" = some (.int id)
  fed : p.feed? ⟨set, "value"⟩ = some (.output value.address)
  exit : next.address = ⟨set, "out"⟩

/-- An output carries what an operator makes of a variable and an operand. -/
def Carries (p : Program) (id : Int32) (operand stored : ValueOut) : Option Op → Prop
  | none => stored = operand
  | some op => ∃ current, p.Reads current id ∧ p.Applies op current operand stored

theorem Assigns.extends (assigns : p.Assigns flow next id value set) (larger : p.Extends q) :
    q.Assigns flow next id value set :=
  ⟨larger.next _ _ assigns.entry, larger.op _ _ assigns.sets, larger.parameter _ _ _ assigns.parameter,
    larger.feed _ _ assigns.fed, assigns.exit⟩

theorem Applies.extends (applies : p.Applies op a b v) (larger : p.Extends q) : q.Applies op a b v :=
  ⟨applies.real, larger.op _ _ applies.op, larger.feed _ _ applies.first, larger.feed _ _ applies.second⟩

theorem Carries.extends {operand : ValueOut} {op? : Option Op} (carries : p.Carries id operand v op?)
    (larger : p.Extends q) : q.Carries id operand v op? := by
  cases op? with
  | none => exact carries
  | some op =>
    obtain ⟨current, reads, applies⟩ := carries
    exact ⟨current, fun σ => (reads σ).extends larger, applies.extends larger⟩

/-- Entering the write is leaving it with the variable written. -/
theorem Assigns.runs (assigns : p.Assigns flow next id value set) {z : Literal}
    (gives : p.Gives σ (.output value.address) z) :
    p.Runs (.follow (p.next? flow.address)) σ τ ↔ p.Runs (.follow (p.next? next.address)) (σ.write id z) τ := by
  rw [assigns.entry, assigns.exit]
  exact runs_set assigns.sets assigns.parameter ⟨_, assigns.fed, gives⟩

/-- An operation on two values gives what the runtime computes from them. -/
theorem Applies.gives (applies : p.Applies op a b v) (inputs : op.schema.valuesIn = ["a", "b"])
    (plain : op.isSpecial = false) {x y z : Literal} (first : p.Gives σ (.output a.address) x)
    (second : p.Gives σ (.output b.address) y) (result : σ.compute? v.address op [x, y] = some z) :
    p.Gives σ (.output v.address) z := by
  let values (name : String) : Literal := if name = "a" then x else y
  have takes : ∀ name ∈ op.schema.valuesIn, p.Takes σ ⟨v.address.node, name⟩ (values name) := by
    rw [inputs]
    simpa [values] using ⟨⟨_, applies.first, first⟩, ⟨_, applies.second, second⟩⟩
  exact .plain applies.real applies.op plain takes (by rw [inputs]; exact result)

/-- What an operator makes of the current value of the variable and of the operand. -/
theorem Carries.gives {token : String} {operand : ValueOut}
    (carries : p.Carries id operand v (Lower.compoundOperator? token)) {y z : Literal}
    (second : p.Gives σ (.output operand.address) y)
    (result : σ.assigned? id v.address (Lower.compoundOperator? token) y = some z) :
    p.Gives σ (.output v.address) z := by
  cases compound : Lower.compoundOperator? token with
  | none =>
    rw [compound] at carries result
    obtain rfl : v = operand := carries
    exact Option.some.inj result ▸ second
  | some op =>
    rw [compound] at carries result
    obtain ⟨current, reads, applies⟩ := carries
    obtain ⟨inputs, plain⟩ := Lower.compoundOperator?_binary compound
    exact applies.gives inputs plain (reads σ) second result

end Program

namespace Plan

variable {start c : Context} {blanks idles : List SocketAddress} {holding : Program → Prop}

theorem connectAll (node : NodeId) : ∀ (sockets : List String) (parts : List ValueOut) {c : Context}
    (_ : Plan start (sockets.map (⟨node, ·⟩) ++ blanks) idles holding c),
    Ensures (Pattern.connectAll node sockets parts) c fun _ c' => Plan start blanks idles holding c'
  | [], _, _, plan => .pure plan
  | _ :: _, [], _, plan => .pure (plan.drop ⟨_, List.sublist_append_right _ _, .refl _⟩ ⟨_, .refl _, .refl _⟩)
  | socket :: sockets, part :: parts, _, plan =>
    (plan.connect (t := node.valueIn socket) part (.refl _)).bind fun _ _ plan =>
      connectAll node sockets parts (plan.mono fun _ ⟨_, old⟩ => old)

theorem combine? (plan : Plan start blanks idles holding c) (parts : List ValueOut) :
    Ensures (Pattern.combine? parts) c fun _ c' => Plan start blanks idles holding c' := by
  unfold Pattern.combine?
  dsimp only
  split
  · exact .pure plan
  · refine (plan.createNode componentSockets [] (by decide)).bind fun node _ ⟨plan, _⟩ => ?_
    refine (connectAll node _ parts plan).bind fun _ _ plan => .pure ?_
    exact plan.mono fun q ⟨_, old⟩ => old

end Plan

namespace Lower

section Plans

variable {start : Context} {blanks idles : List SocketAddress} {holding : Program → Prop} {s : Lowering}

theorem plan_storeVariable {flow : FlowOut} (plan : Plan start blanks (flow.address :: idles) holding s.context)
    (id : Nat) (value : ValueOut) :
    Ensures (storeVariable id value flow) s fun next s' => ∃ set,
      Plan start blanks (next.address :: idles) (fun q => q.Assigns flow next (.ofNat id) value set ∧ holding q)
        s'.context := by
  refine .liftBind (plan.setVariableFrom id value) fun set c plan => ?_
  refine .liftBind (plan.connectFlow set.flowIn (.swap _ _ _)) fun _ c plan => .pure ⟨set.node, ?_⟩
  refine plan.mono fun q ⟨leads, ⟨feeds, writes⟩, old⟩ => ⟨?_, old⟩
  refine ⟨?_, writes.stands.op, writes.parameter, feeds _ (by simp [writes.value]), by rw [writes.flowOut]; rfl⟩
  rw [leads, writes.flowIn]
  rfl

/-- Bringing a value to the shape of another operand is a matter of new nodes. -/
theorem plan_coerce (plan : Plan start blanks idles holding s.context) (value : ValueOut)
    (own other : Option ValueType) :
    Ensures (coerce value own other) s fun operand s' => operand = (coerce value own other s).1 ∧
      ∃ c, s' = { s with context := c } ∧ Plan start blanks idles holding c := by
  refine ⟨rfl, ?_⟩
  change Ensures (coerce value own other) s fun _ s' =>
    ∃ c, s' = { s with context := c } ∧ Plan start blanks idles holding c
  unfold coerce
  split
  · next own other =>
    have filled (value : ValueOut) {c : Context} (plan : Plan start blanks idles holding c) :
        Ensures (if (own = .int || own = .float) && (other = .float2 || other = .float3 || other = .float4)
            then do return (← liftM (combine? (List.replicate other.componentCount value))).getD value
            else pure value : Lower ValueOut) { s with context := c } fun _ s' =>
          ∃ c', s' = { s with context := c' } ∧ Plan start blanks idles holding c' := by
      split
      · exact .liftBind (plan.combine? _) fun _ c' plan => .pure ⟨c', rfl, plan⟩
      · exact .pure ⟨c, rfl, plan⟩
    dsimp only
    split
    · refine .liftBind (plan.unary value rfl) fun value c plan => ?_
      exact filled value (plan.mono fun _ ⟨_, old⟩ => old)
    · exact filled value plan
  · exact .pure ⟨s.context, rfl, plan⟩

/-- A name that no value is bound to reads the variable that it writes. -/
theorem plan_lowerIdentifier {cls : ScriptClass} (plan : Plan start blanks idles holding s.context) {e : Expression}
    {id : Nat} (resolved : (variableOf? (e.name.getD "") s).1 = some id)
    (unbound : s.frames.head?.bind (·.bindings.find? (e.name.getD "")) = none) :
    Ensures (lowerIdentifier cls e) s fun current? s' => ∃ current c, current? = some current ∧
      s' = { s with context := c } ∧ Plan start blanks idles (fun q => q.Reads current (.ofNat id) ∧ holding q) c := by
  have framed : Ensures frame? s fun frame s' => frame = s.frames.head? ∧ s' = s := ⟨rfl, rfl⟩
  unfold lowerIdentifier
  refine framed.bind ?_
  rintro _ _ ⟨rfl, rfl⟩
  split
  · next bound found => cases found.symm.trans unbound
  · refine .getBind ?_
    split
    · next _ found =>
      obtain rfl := Option.some.inj (found.symm.trans resolved)
      exact .liftBind (plan.getVariable _) fun current c plan => .pure ⟨current, c, rfl, rfl, plan⟩
    · next found => cases found.symm.trans resolved

theorem lowerExpression_identifier {cls : ScriptClass} {inliner : Inliner} {active : List String} {e : Expression}
    (plain : e.kind = .identifier) : lowerExpression cls inliner active e = lowerIdentifier cls e := by
  obtain ⟨kind, name, type, method, member, literal, operator, children⟩ := e
  obtain rfl : kind = .identifier := plain
  rw [lowerExpression]
  rfl

/-- A plain name with a variable is written as the next step of the flow. -/
theorem plan_store {cls : ScriptClass} {inliner : Inliner} {active : List String} {target : Expression}
    {flow : FlowOut} (plain : target.kind = .identifier) {id : Nat}
    (resolved : (variableOf? (target.name.getD "") s).1 = some id)
    (plan : Plan start blanks (flow.address :: idles) holding s.context) (value : ValueOut) :
    Ensures (store cls inliner active target value flow) s fun next s' => ∃ set,
      Plan start blanks (next.address :: idles) (fun q => q.Assigns flow next (.ofNat id) value set ∧ holding q)
        s'.context := by
  have named : Ensures (variableOf? (target.name.getD "")) s fun id? s' => id? = some id ∧ s' = s := ⟨resolved, rfl⟩
  unfold store
  rw [plain]
  refine named.bind ?_
  rintro _ _ ⟨rfl, rfl⟩
  exact plan_storeVariable plan id value

/-- An assignment to a plain name, from the state in which its value is there. -/
theorem plan_lowerAssignment {cls : ScriptClass} {inliner : Inliner} {active : List String}
    {e target source : Expression} {rest : List Expression} {flow flow' : FlowOut} {value : ValueOut}
    {before : Lowering} (children : e.children = target :: source :: rest)
    (plain : target.unwrapped.kind = .identifier)
    (lowered : lowerWithFlow cls inliner active source flow before = ((some value, flow'), s)) {id : Nat}
    (resolved : (variableOf? (target.unwrapped.name.getD "") s).1 = some id)
    (unbound : s.frames.head?.bind (·.bindings.find? (target.unwrapped.name.getD "")) = none)
    (plan : Plan start blanks (flow'.address :: idles) holding s.context) :
    Ensures (lowerAssignment cls inliner active e flow) before fun next s' => ∃ set operand stored,
      IsOperand source.valueType? target.unwrapped.valueType? value (compoundOperator? e.operatorToken) operand ∧
      Plan start blanks (next.address :: idles) (fun q => (q.Assigns flow' next (.ofNat id) stored set ∧
        q.Carries (.ofNat id) operand stored (compoundOperator? e.operatorToken)) ∧ holding q) s'.context := by
  have sourced : Ensures (lowerWithFlow cls inliner active source flow) before fun result s' =>
      result = (some value, flow') ∧ s' = s := by
    rw [Ensures, lowered]
    exact ⟨rfl, rfl⟩
  unfold lowerAssignment
  rw [children]
  refine sourced.bind ?_
  rintro _ s ⟨rfl, rfl⟩
  dsimp only
  generalize compoundOperator? e.operatorToken = op?
  cases op? with
  | none =>
    refine (plan_store plain resolved plan value).mono ?_
    rintro next _ ⟨set, plan⟩
    exact ⟨set, value, value, rfl, plan.mono fun q both => ⟨⟨both.1, rfl⟩, both.2⟩⟩
  | some op =>
    rw [lowerExpression_identifier plain]
    refine (plan_lowerIdentifier plan resolved unbound).bind ?_
    rintro _ _ ⟨current, c, rfl, rfl, plan⟩
    refine (plan_coerce plan value _ _).bind ?_
    rintro operand _ ⟨coerced, c, rfl, plan⟩
    refine .liftBind (plan.binaryNode op current operand) fun stored c plan => ?_
    refine (plan_store (s := { s with context := c }) plain resolved plan stored).mono ?_
    rintro next _ ⟨set, plan⟩
    refine ⟨set, operand, stored, ⟨_, coerced⟩, plan.mono ?_⟩
    rintro q ⟨assigns, applies, reads, old⟩
    exact ⟨⟨assigns, current, reads, applies⟩, old⟩

end Plans

/-- The flow of an assignment to a plain name comes to a write of the variable, in every graph that this one grows
into. What is written is what the operator makes of the variable and the operand. -/
theorem stores_lowerAssignment {cls : ScriptClass} {levels : Nat} {active : List String}
    {e target source : Expression} {rest : List Expression} {flow flow' next : FlowOut} {value : ValueOut}
    {before s s' : Lowering} (awaits : before.Awaits flow) (children : e.children = target :: source :: rest)
    (plain : target.unwrapped.kind = .identifier)
    (sourced : lowerWithFlow cls (inliner cls levels) active source flow before = ((some value, flow'), s)) {id : Nat}
    (resolved : (variableOf? (target.unwrapped.name.getD "") s).1 = some id)
    (unbound : s.frames.head?.bind (·.bindings.find? (target.unwrapped.name.getD "")) = none)
    (assigned : lowerAssignment cls (inliner cls levels) active e flow before = (next, s'))
    (small : s'.context.Small) :
    ∃ operand stored : ValueOut, IsOperand source.valueType? target.unwrapped.valueType? value
        (compoundOperator? e.operatorToken) operand ∧
      ∀ later : Context, s'.context.program.Extends later.program → ∀ (σ τ : Store) (y z : Literal),
        later.program.Gives σ (.output operand.address) y →
        σ.assigned? (.ofNat id) stored.address (compoundOperator? e.operatorToken) y = some z →
          (later.program.Runs (.follow (later.program.next? flow'.address)) σ τ ↔
            later.program.Runs (.follow (later.program.next? next.address)) (σ.write (.ofNat id) z) τ) := by
  obtain ⟨w, facts, exits, knows⟩ := awaits
  have k : Ensures (lowerWithFlow cls (inliner cls levels) active source flow) before _ :=
    continues_lowerWithFlow (reliable_inliner cls levels) source flow knows
  rw [Ensures, sourced] at k
  have plan : Plan s.context [] [flow'.address] _ s.context :=
    .begin k.known.identified (by simp)
      (fun small a member => List.mem_singleton.1 member ▸ k.known.idle (by simp) small) .nil (by simp)
  have writes := plan_lowerAssignment children plain sourced resolved unbound plan
  rw [Ensures, assigned] at writes
  obtain ⟨set, operand, stored, isOperand, plan⟩ := writes
  obtain ⟨⟨assigns, carries⟩, _⟩ := (plan.sound small).2.now
  refine ⟨operand, stored, isOperand, fun later larger σ τ y z gives result => ?_⟩
  exact (assigns.extends larger).runs ((carries.extends larger).gives gives result)

end Lower

end ScriptGraph
