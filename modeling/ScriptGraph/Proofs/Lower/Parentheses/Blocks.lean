import Mathlib
import ScriptGraph.Proofs.Lower.Parentheses.Values

/-!
Parentheses are transparent to the lowering of statements, and of the methods that are inlined.
-/

namespace ScriptGraph

open Pattern Build

namespace Lower

variable {α β : Type} {c c' : ScriptClass} {inliner inliner' : Inliner} {active : List String}

section Statements

variable (wrapped : c.WrappedAs c') (inlined : inliner.Agrees inliner')
include wrapped inlined

theorem lowerCall_wrapped {e e' : Expression} (inside : e.WrappedInside e') (flow : Option FlowOut) :
    lowerCall c' inliner' active e' flow = lowerCall c inliner active e flow :=
  lowerInvocation_wrapped inside (fun _ _ same _ _ => lowerExpression_wrapped wrapped inlined same) inlined wrapped flow

theorem lowerWithFlow_wrapped {e e' : Expression} (same : e.WrappedAs e') (flow : FlowOut) :
    lowerWithFlow c' inliner' active e' flow = lowerWithFlow c inliner active e flow := by
  have outer := same.unwrapped
  have value : lowerExpression c' inliner' active e' = lowerExpression c inliner active e :=
    lowerExpression_wrapped wrapped inlined same
  have call : Option.Rel Expression.WrappedInside
      (if e.unwrapped.kind = .await then (e.unwrapped.child? 0).map (·.unwrapped) else some e.unwrapped)
      (if e'.unwrapped.kind = .await then (e'.unwrapped.child? 0).map (·.unwrapped) else some e'.unwrapped) := by
    rw [outer.kind_eq]
    exact rel_ite (rel_map (outer.child? 0) fun _ _ same => same.unwrapped) (.some outer)
  unfold lowerWithFlow
  dsimp only
  revert call
  generalize (if e.unwrapped.kind = .await then _ else some e.unwrapped) = call?
  generalize (if e'.unwrapped.kind = .await then _ else some e'.unwrapped) = call?'
  intro call
  cases call with
  | none => rfl
  | some call =>
    dsimp only
    rw [call.kind_eq, needsFlow_wrapped wrapped call, lowerCall_wrapped wrapped inlined call, value]

theorem storeMember_wrapped {target target' : Expression} (inside : target.WrappedInside target') (value : ValueOut)
    (flow : FlowOut) :
    storeMember c' inliner' active target' value flow = storeMember c inliner active target value flow := by
  have self := onSelf_wrapped inside
  have member : target'.member = target.member := by obtain ⟨_, rfl, _⟩ := inside; rfl
  have receiver : lowerReceiver target' (fun e _ => lowerExpression c' inliner' active e) =
      lowerReceiver target fun e _ => lowerExpression c inliner active e :=
    lowerReceiver_wrapped inside fun _ _ same _ _ => lowerExpression_wrapped wrapped inlined same
  simp only [storeMember, self, member, receiver]

theorem storeElement_wrapped {target target' : Expression} (inside : target.WrappedInside target') (value : ValueOut)
    (flow : FlowOut) :
    storeElement c' inliner' active target' value flow = storeElement c inliner active target value flow := by
  obtain ⟨children', rfl, parts⟩ := inside
  obtain ⟨kind, name, type, method, member, literal, operator, children⟩ := target
  cases parts with
  | nil => rfl
  | cons collection tail =>
    cases tail with
    | nil => rfl
    | cons index _ =>
      simp only [storeElement, listName?_wrapped collection, lowerExpression_wrapped wrapped inlined index]

theorem store_wrapped {target target' : Expression} (inside : target.WrappedInside target') (value : ValueOut)
    (flow : FlowOut) : store c' inliner' active target' value flow = store c inliner active target value flow := by
  have name : target'.name = target.name := by obtain ⟨_, rfl, _⟩ := inside; rfl
  simp only [store, inside.kind_eq, name, storeMember_wrapped wrapped inlined inside,
    storeElement_wrapped wrapped inlined inside]

theorem lowerAssignment_wrapped {e e' : Expression} (inside : e.WrappedInside e') (flow : FlowOut) :
    lowerAssignment c' inliner' active e' flow = lowerAssignment c inliner active e flow := by
  obtain ⟨children', rfl, parts⟩ := inside
  obtain ⟨kind, name, type, method, member, literal, operator, children⟩ := e
  cases parts with
  | nil => rfl
  | cons target tail =>
    cases tail with
    | nil => rfl
    | cons source _ =>
      have inner := target.unwrapped
      simp only [lowerAssignment, Expression.operatorToken, lowerWithFlow_wrapped wrapped inlined source,
        lowerExpression_wrapped wrapped inlined inner.wrappedAs, store_wrapped wrapped inlined inner,
        source.valueType?_eq, inner.valueType?_eq]

theorem lowerIncrement_wrapped {e e' : Expression} (inside : e.WrappedInside e') (flow : FlowOut) :
    lowerIncrement c' inliner' active e' flow = lowerIncrement c inliner active e flow := by
  have parts := inside.children
  unfold lowerIncrement
  rw [inside.operatorToken_eq]
  revert parts
  generalize e.children = children
  generalize e'.children = children'
  intro parts
  dsimp only
  split
  · next other => simp only [other]
  · next delta => cases parts; simp only [delta]
  · next delta =>
    cases parts with
    | cons target _ =>
      have inner := target.unwrapped
      simp only [delta, lowerExpression_wrapped wrapped inlined inner.wrappedAs, store_wrapped wrapped inlined inner,
        inner.valueType?_eq]

theorem lowerWait_wrapped {e e' : Expression} (inside : e.WrappedInside e') (flow : FlowOut) :
    lowerWait c' inliner' active e' flow = lowerWait c inliner active e flow := by
  have condition := inside.child? 0
  unfold lowerWait
  rw [inside.typeName?_eq]
  revert condition
  generalize e.child? 0 = condition?
  generalize e'.child? 0 = condition?'
  intro condition
  cases condition with
  | none => rfl
  | some condition => simp only [lowerExpression_wrapped wrapped inlined condition]

theorem lowerCallStatement_wrapped {e e' : Expression} (inside : e.WrappedInside e') (flow : FlowOut) :
    lowerCallStatement c' inliner' active e' flow = lowerCallStatement c inliner active e flow := by
  rw [lowerCallStatement, lowerCallStatement, lowerCall_wrapped wrapped inlined inside]

theorem lowerExpressionStatement_wrapped {s s' : Statement} (same : s.WrappedAs s') (flow : FlowOut) :
    lowerExpressionStatement c' inliner' active s' flow = lowerExpressionStatement c inliner active s flow := by
  have first := same.expression?
  unfold lowerExpressionStatement
  revert first
  generalize s.expression? = e?
  generalize s'.expression? = e?'
  intro first
  cases first with
  | none => rfl
  | some outer =>
    have outer := outer.unwrapped
    have inner := rel_map (f := Expression.unwrapped) (outer.child? 0) fun _ _ same => same.unwrapped
    dsimp only
    rw [outer.kind_eq]
    split
    · exact lowerCallStatement_wrapped wrapped inlined outer flow
    · revert inner
      generalize Option.map _ (Expression.child? _ _) = inner?
      generalize Option.map _ (Expression.child? _ _) = inner?'
      intro inner
      cases inner with
      | none => rfl
      | some inner =>
        dsimp only
        rw [inner.kind_eq, lowerCallStatement_wrapped wrapped inlined inner, lowerWait_wrapped wrapped inlined inner]
    · exact lowerAssignment_wrapped wrapped inlined outer flow
    · exact lowerIncrement_wrapped wrapped inlined outer flow
    · exact lowerIncrement_wrapped wrapped inlined outer flow
    · rfl

theorem lowerDeclarators_wrapped {declarators declarators' : List Statement}
    (same : List.Forall₂ Statement.WrappedAs declarators declarators')
    (kinds : ∀ s ∈ declarators, s.kind = .variableDeclarator) (flow : FlowOut) :
    lowerDeclarators c' inliner' active declarators' flow = lowerDeclarators c inliner active declarators flow := by
  induction same generalizing flow with
  | nil => rfl
  | @cons s s' rest rest' head _ ih =>
    have ih := ih fun s member => kinds s (List.mem_cons_of_mem _ member)
    have named : Option.Rel (fun d d' => d.1.WrappedInside d'.1 ∧ d'.2 = d.2)
        (s.expression?.bind fun e => e.name.map (e, ·)) (s'.expression?.bind fun e => e.name.map (e, ·)) := by
      refine rel_bind (head.head (by rw [kinds s List.mem_cons_self]; rfl)) fun e e' inside => ?_
      have name : e'.name = e.name := by obtain ⟨_, rfl, _⟩ := inside; rfl
      rw [name]
      cases e.name with
      | none => exact .none
      | some name => exact .some ⟨inside, rfl⟩
    have initializer : Option.Rel Expression.WrappedAs ((s.child? .initializer).bind (·.expression?))
        ((s'.child? .initializer).bind (·.expression?)) :=
      rel_bind (head.child? .initializer) fun _ _ same => same.expression?
    unfold lowerDeclarators
    revert named initializer
    generalize s.expression?.bind _ = named?
    generalize s'.expression?.bind _ = named?'
    generalize (s.child? .initializer).bind _ = initializer?
    generalize (s'.child? .initializer).bind _ = initializer?'
    intro named initializer
    cases named with
    | none => simp only [ih]
    | @some declared declared' named =>
      obtain ⟨declared, name⟩ := declared
      obtain ⟨declared', name'⟩ := declared'
      obtain ⟨inside, rfl⟩ := named
      have type : (initializer?'.bind (·.resultType)) = initializer?.bind (·.resultType) :=
        bind_eq_of_rel initializer fun _ _ same => same.resultType_eq
      dsimp only
      rw [inside.wrappedAs.resultType_eq, type]
      generalize Option.bind _ HostType.storageType? = type?
      cases initializer with
      | none => cases type? <;> simp only [ih]
      | some same => cases type? <;> simp only [ih, lowerWithFlow_wrapped wrapped inlined same]

theorem lowerDeclaration_wrapped {s s' : Statement} (same : s.WrappedAs s') (flow : FlowOut) :
    lowerDeclaration c' inliner' active s' flow = lowerDeclaration c inliner active s flow := by
  refine lowerDeclarators_wrapped wrapped inlined ?_ (fun s member => by simpa using (List.mem_filter.1 member).2) flow
  exact List.rel_filter (fun _ _ same => by simp only [same.kind_eq]) same.children

theorem lowerReturn_wrapped {s s' : Statement} (same : s.WrappedAs s') (flow : FlowOut) :
    lowerReturn c' inliner' active s' flow = lowerReturn c inliner active s flow := by
  have first := same.expression?
  unfold lowerReturn
  revert first
  generalize s.expression? = e?
  generalize s'.expression? = e?'
  intro first
  refine bind_congr fun frame => ?_
  cases first with
  | none => rfl
  | some same => cases frame.bind (·.returnVariable) <;> simp only [lowerWithFlow_wrapped wrapped inlined same]

theorem lowerCanonicalLoop_wrapped {l l' : CountingLoop} (same : l.WrappedAs l') (body : Body) (flow : FlowOut) :
    lowerCanonicalLoop c' inliner' active l' body flow = lowerCanonicalLoop c inliner active l body flow := by
  simp only [lowerCanonicalLoop, lowerExpression_wrapped wrapped inlined same.start,
    lowerExpression_wrapped wrapped inlined same.bound, same.start.constant?_eq, same.counter]

theorem lowerLoopStep_wrapped {step step' : LoopStep} (same : step.WrappedAs step') (target : ValueIn) :
    lowerLoopStep c' inliner' active target step' = lowerLoopStep c inliner active target step := by
  cases same with
  | constant => rfl
  | computed negate same => simp only [lowerLoopStep, lowerExpression_wrapped wrapped inlined same]

theorem lowerSteppedLoop_wrapped {l l' : CountingLoop} (same : l.WrappedAs l') (body : Body) (flow : FlowOut) :
    lowerSteppedLoop c' inliner' active l' body flow = lowerSteppedLoop c inliner active l body flow := by
  simp only [lowerSteppedLoop, lowerExpression_wrapped wrapped inlined same.start,
    lowerExpression_wrapped wrapped inlined same.bound, lowerLoopStep_wrapped wrapped inlined same.step, same.counter,
    same.declared, same.comparison]

theorem lowerLoop_wrapped {s s' : Statement} (same : s.WrappedAs s') (body : Body) (flow : FlowOut) :
    lowerLoop c' inliner' active s' body flow = lowerLoop c inliner active s body flow := by
  have loop := CountingLoop.ofStatement?_wrapped same
  unfold lowerLoop
  revert loop
  generalize CountingLoop.ofStatement? s = l?
  generalize CountingLoop.ofStatement? s' = l?'
  intro loop
  cases loop with
  | none => rfl
  | some same =>
    simp only [same.start.valueType?_eq, same.counter, CountingLoop.isCanonical_eq same,
      lowerCanonicalLoop_wrapped wrapped inlined same, lowerSteppedLoop_wrapped wrapped inlined same]

theorem lowerBranch_wrapped {s s' : Statement} (same : s.WrappedAs s') (thenArm elseArm : Option Body)
    (flow : FlowOut) :
    lowerBranch c' inliner' active s' thenArm elseArm flow = lowerBranch c inliner active s thenArm elseArm flow := by
  have condition : Option.Rel Expression.WrappedAs ((s.child? .condition).bind (·.expression?))
      ((s'.child? .condition).bind (·.expression?)) :=
    rel_bind (same.child? .condition) fun _ _ same => same.expression?
  unfold lowerBranch
  revert condition
  generalize (s.child? .condition).bind _ = condition?
  generalize (s'.child? .condition).bind _ = condition?'
  intro condition
  cases condition with
  | none => rfl
  | some same => simp only [lowerExpression_wrapped wrapped inlined same]

omit wrapped inlined in
theorem arm?_wrapped {s s' : Statement} (same : s.WrappedAs s') {blocks : BlocksBelow s.size}
    {blocks' : BlocksBelow s'.size}
    (agrees : ∀ block block', List.Forall₂ Statement.WrappedAs block block' → ∀ small small',
      blocks' block' small' = blocks block small) (clause : StatementKind) :
    arm? s' blocks' clause = arm? s blocks clause := by
  have body := same.child? clause
  unfold arm?
  split
  · next found' =>
    rw [found'] at body
    split
    · next found =>
      rw [found] at body
      cases body with
      | some body => exact congrArg some (agrees _ _ body.children _ _)
    · next none =>
      rw [none] at body
      cases body
  · next none =>
    rw [none] at body
    split
    · next found =>
      rw [found] at body
      cases body
    · rfl

theorem statementStep_wrapped {s s' : Statement} (same : s.WrappedAs s') {blocks : BlocksBelow s.size}
    {blocks' : BlocksBelow s'.size}
    (agrees : ∀ block block', List.Forall₂ Statement.WrappedAs block block' → ∀ small small',
      blocks' block' small' = blocks block small) (flow : FlowOut) :
    statementStep c' inliner' active s' blocks' flow = statementStep c inliner active s blocks flow := by
  unfold statementStep
  rw [same.kind_eq]
  split
  · rw [lowerExpressionStatement_wrapped wrapped inlined same]
  · rw [lowerDeclaration_wrapped wrapped inlined same]
  · next kind =>
    have first := same.head (by rw [kind]; rfl)
    revert first
    generalize s.expression? = e?
    generalize s'.expression? = e?'
    intro first
    cases first with
    | none => rfl
    | some inside => simp only [lowerAssignment_wrapped wrapped inlined inside]
  · rw [arm?_wrapped same agrees, arm?_wrapped same agrees, lowerBranch_wrapped wrapped inlined same]
  · exact lowerReturn_wrapped wrapped inlined same flow
  · exact congrFun (agrees _ _ same.children _ _) flow
  · rw [lowerLoop_wrapped wrapped inlined same, agrees _ _ (CountingLoop.forall₂_bodyOf same) _ _]
  · rfl

end Statements

mutual

theorem lowerStatement_wrapped (wrapped : c.WrappedAs c') (inlined : inliner.Agrees inliner') {s s' : Statement}
    (same : s.WrappedAs s') (flow : FlowOut) :
    lowerStatement c' inliner' active s' flow = lowerStatement c inliner active s flow := by
  rw [lowerStatement, lowerStatement]
  refine statementStep_wrapped wrapped inlined same (fun block block' same small _ => ?_) flow
  funext flow
  exact lowerBlock_wrapped wrapped inlined same (.one flow)
termination_by (s.size, 1)
decreasing_by exact Prod.Lex.left _ _ (by assumption)

theorem lowerBlock_wrapped (wrapped : c.WrappedAs c') (inlined : inliner.Agrees inliner')
    {block block' : List Statement} (same : List.Forall₂ Statement.WrappedAs block block') (before : Exits) :
    lowerBlock c' inliner' active block' before = lowerBlock c inliner active block before := by
  match block, block', same with
  | [], [], .nil => rw [lowerBlock, lowerBlock]
  | s :: rest, _ :: _, .cons head tail =>
    rw [lowerBlock_cons, lowerBlock_cons, tail.length_eq]
    refine bind_congr fun entering? => ?_
    cases entering? with
    | none => rfl
    | some entry =>
      refine bind_eq (lowerStatement_wrapped wrapped inlined head entry) fun exits => ?_
      exact lowerBlock_wrapped wrapped inlined tail _
termination_by (Statement.sizeAll block, 2 * block.length)
decreasing_by
  · rw [Statement.sizeAll, Prod.lex_def, List.length_cons]
    omega
  · have := Statement.size_pos s
    rw [Statement.sizeAll]
    exact Prod.Lex.left _ _ (by omega)

end

/-- Methods are inlined the same. -/
theorem agrees_inliner (wrapped : c.WrappedAs c') :
    ∀ levels : Nat, (Lower.inliner c levels).Agrees (Lower.inliner c' levels)
  | 0 => ⟨fun _ _ _ _ _ => rfl, fun _ _ _ _ => rfl⟩
  | levels + 1 =>
    ⟨fun _ _ _ flow same => lowerBlock_wrapped wrapped (agrees_inliner wrapped levels) same (.one flow),
      fun _ _ _ same => lowerExpression_wrapped wrapped (agrees_inliner wrapped levels) same⟩

section Classes

variable (wrapped : c.WrappedAs c')
include wrapped

theorem lowerEntryPoint_wrapped {m m' : Method} (same : m.WrappedAs m') :
    lowerEntryPoint c' m' = lowerEntryPoint c m := by
  obtain ⟨name, parameters, returnType, isAsync, block⟩ := m
  obtain ⟨name', parameters', returnType', isAsync', block'⟩ := m'
  obtain ⟨signature, body⟩ := same
  cases signature
  refine bind_congr fun _ => bind_congr fun start => ?_
  dsimp only [fullInliner]
  simp only [bind_assoc, pure_bind]
  refine bind_congr fun s => congrArg (withFrame _) ?_
  rw [Statement.assignedNames_eq body]
  exact bind_congr fun flow => lowerBlock_wrapped wrapped (agrees_inliner wrapped _) body (.one flow)

theorem lowerEntryPoints_wrapped (names : List String) : lowerEntryPoints c' names = lowerEntryPoints c names := by
  induction names with
  | nil => rfl
  | cons name names ih =>
    have method := method?_wrapped wrapped name
    unfold lowerEntryPoints
    revert method
    generalize c.method? name = method?
    generalize c'.method? name = method?'
    intro method
    cases method with
    | none => exact ih
    | some same => simp only [lowerEntryPoint_wrapped wrapped same, ih]

theorem lowerClass_wrapped : lowerClass c' = lowerClass c := by
  have name : c'.name = c.name := by rw [wrapped.shape]
  have fields : c'.fields = c.fields := by rw [wrapped.shape]
  simp only [lowerClass, declareFields, name, fields, lowerEntryPoints_wrapped wrapped]

end Classes

end Lower

end ScriptGraph
