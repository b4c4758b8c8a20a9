import Mathlib
import ScriptGraph.Proofs.Construction.Ensures
import ScriptGraph.Proofs.Lower.Lockstep.Classes

/-!
Lowering with another way to write.

Values are written at the end of an assignment or of an increment. Here that last step is a parameter: with the
real one the lowering is the real lowering, with another one it differs where it writes and nowhere else. Two
inliners cannot be told apart by a statement if they inline the same values and the same bodies.
-/

namespace ScriptGraph

open Pattern Build

namespace Lower

/-- A way to write a value to a target. -/
abbrev Writing := Inliner → List String → Expression → ValueOut → FlowOut → Lower FlowOut

/-- How to lower a statement, given how to lower smaller blocks. -/
abbrev StatementStep := (s : Statement) → BlocksBelow s.size → FlowOut → Lower Exits

section Definitions

variable (c : ScriptClass) (write : Writing) (inliner : Inliner) (active : List String)

/-- An assignment that writes in a given way. -/
def lowerAssignmentWith (e : Expression) (flow : FlowOut) : Lower FlowOut := do
  match e.children with
  | target :: source :: _ =>
    let target := target.unwrapped
    let (value?, flow) ← lowerWithFlow c inliner active source flow
    let some value := value? | return flow
    match compoundOperator? e.operatorToken with
    | none => write inliner active target value flow
    | some op =>
      let some current ← lowerExpression c inliner active target | return flow
      let value ← coerce value source.valueType? target.valueType?
      let value ← binary op current value
      write inliner active target value flow
  | _ =>
    malformed "assignment without both operands"
    return flow

/-- An increment or a decrement that writes in a given way. -/
def lowerIncrementWith (e : Expression) (flow : FlowOut) : Lower FlowOut := do
  let delta? : Option Int32 := match e.operatorToken with
    | "++" => some 1
    | "--" => some (-1)
    | _ => none
  match delta?, e.children with
  | none, _ =>
    unsupported ("unary '" ++ e.operatorToken ++ "' used as a statement")
    return flow
  | some _, [] =>
    malformed "increment without operand"
    return flow
  | some delta, target :: _ =>
    let target := target.unwrapped
    let some current ← lowerExpression c inliner active target | return flow
    let step : Literal :=
      if target.valueType? = some .float then .float (.ofInt delta.toInt) else .int delta
    let value ← binaryLiteral .mathAdd current step
    write inliner active target value flow

/-- A statement that writes in a given way. -/
def statementStepWith : StatementStep := fun s blocks flow =>
  match s.kind, s.expression? with
  | .assignment, some e => return .one (← lowerAssignmentWith c write inliner active e flow)
  | .expression, some e =>
    match e.unwrapped.kind with
    | .assignment => return .one (← lowerAssignmentWith c write inliner active e.unwrapped flow)
    | .postfixUnary | .prefixUnary =>
      return .one (← lowerIncrementWith c write inliner active e.unwrapped flow)
    | _ => statementStep c inliner active s blocks flow
  | _, _ => statementStep c inliner active s blocks flow

end Definitions

mutual

/-- A statement, by a given step. -/
def lowerStatementBy (step : StatementStep) (s : Statement) (flow : FlowOut) : Lower Exits :=
  step s (fun block _ flow => lowerBlockBy step block (.one flow)) flow
termination_by (s.size, 1)
decreasing_by exact Prod.Lex.left _ _ (by assumption)

/-- Statements in order, by a given step. -/
def lowerBlockBy (step : StatementStep) (block : List Statement) (before : Exits) : Lower Exits :=
  match block with
  | [] => return before
  | s :: rest => do
    match ← entering before with
    | none =>
      unsupported (toString (rest.length + 1) ++ " unreachable statement(s) after every path returned")
      return before
    | some entry =>
      let exits ← lowerStatementBy step s entry
      lowerBlockBy step rest { exits with returned := before.returned ++ exits.returned }
termination_by (Statement.sizeAll block, 2 * block.length)
decreasing_by
  · rw [Statement.sizeAll, Prod.lex_def, List.length_cons]
    omega
  · have := Statement.size_pos s
    rw [Statement.sizeAll]
    exact Prod.Lex.left _ _ (by omega)

end

/-- The inliner of bodies that write in a given way. -/
def inlinerWith (c : ScriptClass) (write : Writing) : Nat → Inliner
  | 0 => inliner c 0
  | levels + 1 =>
    { block := fun active block flow =>
        lowerBlockBy (statementStepWith c write (inlinerWith c write levels) active) block (.one flow)
      value := fun active e => lowerExpression c (inlinerWith c write levels) active e }

/-- The body of an entry point that writes in a given way, as do the methods that it calls. -/
def writingBody (c : ScriptClass) (write : Writing) : EntryBody := fun levels method flow =>
  lowerBlockBy (statementStepWith c write (inlinerWith c write levels) []) method.body (.one flow)

section RealStore

variable {c : ScriptClass} {inliner : Inliner} {active : List String}

theorem statementStepWith_store : statementStepWith c (store c) inliner active = statementStep c inliner active := by
  funext s blocks flow
  unfold statementStepWith
  split
  · next e kind found =>
    simp only [statementStep, kind, found]
    rfl
  · next e kind found =>
    have expression : statementStep c inliner active s blocks flow =
        .one <$> lowerExpressionStatement c inliner active s flow := by
      simp only [statementStep, kind]
      rfl
    split
    · next writes =>
      simp only [expression, lowerExpressionStatement, found, writes]
      rfl
    · next writes =>
      simp only [expression, lowerExpressionStatement, found, writes]
      rfl
    · next writes =>
      simp only [expression, lowerExpressionStatement, found, writes]
      rfl
    · rfl
  · rfl

mutual

theorem lowerStatementBy_statementStep (s : Statement) (flow : FlowOut) :
    lowerStatementBy (statementStep c inliner active) s flow = lowerStatement c inliner active s flow := by
  rw [lowerStatementBy, lowerStatement]
  congr 1
  funext block _ flow
  exact lowerBlockBy_statementStep block _
termination_by (s.size, 1)
decreasing_by exact Prod.Lex.left _ _ (by assumption)

theorem lowerBlockBy_statementStep (block : List Statement) (before : Exits) :
    lowerBlockBy (statementStep c inliner active) block before = lowerBlock c inliner active block before := by
  match block with
  | [] => rw [lowerBlockBy, lowerBlock]
  | s :: rest =>
    rw [lowerBlockBy, lowerBlock_cons]
    refine bind_congr fun entering? => ?_
    cases entering? with
    | none => rfl
    | some entry =>
      have first := lowerStatementBy_statementStep s entry
      refine (congrArg (· >>= _) first).trans (bind_congr fun exits => ?_)
      exact lowerBlockBy_statementStep rest _
termination_by (Statement.sizeAll block, 2 * block.length)
decreasing_by
  · rw [Statement.sizeAll, Prod.lex_def, List.length_cons]
    omega
  · have := Statement.size_pos s
    rw [Statement.sizeAll]
    exact Prod.Lex.left _ _ (by omega)

end

theorem inlinerWith_store (c : ScriptClass) : ∀ levels : Nat, inlinerWith c (store c) levels = Lower.inliner c levels
  | 0 => rfl
  | levels + 1 => by
    rw [inlinerWith, Lower.inliner, inlinerWith_store c levels]
    simp only [statementStepWith_store, lowerBlockBy_statementStep]

/-- With the real way to write, bodies are lowered as they are. -/
theorem writingBody_store (c : ScriptClass) : writingBody c (store c) = inlinedBody c := by
  funext levels method flow
  rw [writingBody, inlinedBody, inlinerWith_store, statementStepWith_store, lowerBlockBy_statementStep]

end RealStore

/-- A callee with its parameters bound, which takes its arguments over and runs its body. -/
def runCallee (inliner : Inliner) (active : List String) (callee : Method) (frame : Frame) (flow : FlowOut) :
    Lower Exits :=
  withFrame frame do
    let entry ← copyParameters (Statement.assignedNames callee.body) true callee.parameters flow
    inliner.block (callee.name :: active) callee.body entry

/-- Only parameters are bound to values. -/
def BindsOnly (parameters : List Parameter) (bindings : Dict ValueOut) : Prop :=
  ∀ name, name ∉ parameters.map (·.name) → bindings.find? name = none

/-- Both inliners inline the same values, and bodies that do the same in the frame of their callee. -/
structure InlinesAs (c : ScriptClass) (inliner inliner' : Inliner) : Prop where
  value : inliner'.value = inliner.value
  block : ∀ callee ∈ c.methods, ∀ frame : Frame, BindsOnly callee.parameters frame.bindings → ∀ active flow,
    runCallee inliner' active callee frame flow = runCallee inliner active callee frame flow

section Agreement

variable {α β : Type} {c : ScriptClass} {inliner inliner' : Inliner} {active : List String}

theorem expressionStep_congr (same : inliner'.value = inliner.value) {e : Expression} (low : Below e.size) :
    expressionStep c inliner' active e low = expressionStep c inliner active e low := by
  unfold expressionStep
  split
  · rfl
  · simp only [lowerInvocation, lowerCallee, same]

theorem lowerExpression_congr (same : inliner'.value = inliner.value) (e : Expression) :
    lowerExpression c inliner' active e = lowerExpression c inliner active e := by
  rw [lowerExpression, lowerExpression, expressionStep_congr same]
  congr 1
  funext smaller _
  exact lowerExpression_congr same smaller
termination_by e.size

/-- Arguments are bound to the names of parameters only. -/
theorem bindsOnly_bindArguments {bound : Nat} (low : Below bound) {parameters : List Parameter} {es : List Expression}
    (small : ∀ e ∈ es, e.size < bound) {name : String} (other : name ∉ parameters.map (·.name))
    {bindings : Dict ValueOut} (unbound : bindings.find? name = none) (s : Lowering) :
    Ensures (bindArguments low parameters es small bindings) s fun bindings _ => bindings.find? name = none := by
  induction parameters generalizing es bindings s with
  | nil => exact .pure unbound
  | cons parameter parameters ih =>
    rw [List.map_cons, List.mem_cons, not_or] at other
    cases es with
    | nil => exact .pure unbound
    | cons e es =>
      have lowered : Ensures (low e (small e List.mem_cons_self)) s fun _ _ => True := trivial
      refine lowered.bind fun value? s _ => ?_
      cases value? with
      | none => exact ih _ other.2 unbound s
      | some value =>
        refine ih _ other.2 ?_ s
        rw [Dict.find?_insert, if_neg other.1, unbound]

theorem bind_congr_of {P : α → Prop} {x : Lower α} {f g : α → Lower β} (holds : ∀ s, Ensures x s fun a _ => P a)
    (same : ∀ a, P a → f a = g a) : x >>= f = x >>= g := by
  funext s
  exact congrFun (same _ (holds s)) _

/-- A body in the frame of its callee, and what comes after it. -/
theorem inCallee_bind_congr {frame : Frame} {x y : Lower α} (same : withFrame frame x = withFrame frame y)
    (f : α → Lower β) : inCallee frame x >>= f = inCallee frame y >>= f := by
  rw [inCallee, same, inCallee]

theorem lowerCallee_congr (agrees : InlinesAs c inliner inliner') {e : Expression} (low : Below e.size)
    {callee : Method} (declared : callee ∈ c.methods) (flow : Option FlowOut) :
    lowerCallee inliner' active e low callee flow = lowerCallee inliner active e low callee flow := by
  cases flow with
  | none => simp only [lowerCallee, agrees.value]
  | some flow =>
    unfold lowerCallee
    refine bind_congr fun s => ?_
    dsimp only
    split
    · rfl
    · -- The bodies agree in frames that bind parameters only, as the arguments do.
      refine bind_congr_of (P := BindsOnly callee.parameters) ?_ fun bindings only => ?_
      · exact fun s name other => bindsOnly_bindArguments low size_arguments_lt other rfl s
      · refine bind_congr fun returnVariable => bind_congr fun sequence => bind_congr fun _ => ?_
        exact inCallee_bind_congr (agrees.block callee declared ⟨callee.name, bindings, Dict.empty, _⟩ only active _) _

theorem lowerCall_congr (agrees : InlinesAs c inliner inliner') (e : Expression) (flow : Option FlowOut) :
    lowerCall c inliner' active e flow = lowerCall c inliner active e flow := by
  have below : (fun smaller (_ : smaller.size < e.size) => lowerExpression c inliner' active smaller) =
      fun smaller _ => lowerExpression c inliner active smaller := by
    funext smaller _
    exact lowerExpression_congr agrees.value smaller
  rw [lowerCall, lowerCall, below, lowerInvocation, lowerInvocation]
  split
  · rfl
  · split
    · rfl
    · next found => exact lowerCallee_congr agrees _ (ScriptClass.mem_of_callee? found) flow
    · rfl

theorem lowerWithFlow_congr (agrees : InlinesAs c inliner inliner') (e : Expression) (flow : FlowOut) :
    lowerWithFlow c inliner' active e flow = lowerWithFlow c inliner active e flow := by
  simp only [lowerWithFlow, lowerExpression_congr agrees.value, lowerCall_congr agrees]

theorem store_congr (agrees : InlinesAs c inliner inliner') :
    store c inliner' active = store c inliner active := by
  funext target value flow
  simp only [store, storeMember, storeElement, lowerExpression_congr agrees.value]

theorem lowerDeclarators_congr (agrees : InlinesAs c inliner inliner') (declarators : List Statement)
    (flow : FlowOut) :
    lowerDeclarators c inliner' active declarators flow = lowerDeclarators c inliner active declarators flow := by
  induction declarators generalizing flow with
  | nil => rfl
  | cons declarator rest ih => simp only [lowerDeclarators, lowerWithFlow_congr agrees, ih]

theorem lowerLoop_congr (agrees : InlinesAs c inliner inliner') (s : Statement) (body : Body) (flow : FlowOut) :
    lowerLoop c inliner' active s body flow = lowerLoop c inliner active s body flow := by
  simp only [lowerLoop, lowerCanonicalLoop, lowerSteppedLoop, lowerLoopStep, lowerExpression_congr agrees.value]

/-- A statement cannot tell the inliners apart. -/
theorem statementStep_congr (agrees : InlinesAs c inliner inliner') :
    statementStep c inliner' active = statementStep c inliner active := by
  funext s blocks flow
  simp only [statementStep, lowerExpressionStatement, lowerCallStatement, lowerWait, lowerAssignment, lowerIncrement,
    lowerDeclaration, lowerBranch, lowerReturn, lowerExpression_congr agrees.value, lowerCall_congr agrees,
    lowerWithFlow_congr agrees, store_congr agrees, lowerDeclarators_congr agrees, lowerLoop_congr agrees]

theorem statementStepWith_congr (agrees : InlinesAs c inliner inliner') {write : Writing}
    (same : write inliner' active = write inliner active) :
    statementStepWith c write inliner' active = statementStepWith c write inliner active := by
  funext s blocks flow
  simp only [statementStepWith, lowerAssignmentWith, lowerIncrementWith, same, statementStep_congr agrees,
    lowerExpression_congr agrees.value, lowerWithFlow_congr agrees]

end Agreement

end Lower

end ScriptGraph
