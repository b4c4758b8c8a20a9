import Mathlib
import ScriptGraph.Proofs.Lower.Noted

/-!
No call that has to be a step is dropped without a word.

A call with effects takes the flow that comes in, or a diagnostic tells why it does not. A returned expression is
treated so where somebody asks for the result; where nobody does, it is not looked at.
-/

namespace ScriptGraph

open Pattern Build

namespace Lower

variable {α β : Type} {P : Premise}

/-- There also is a node that the flow leaves. -/
def Premise.leaving (P : Premise) (flow : FlowOut) : Premise where
  Holds s := P.Holds s ∧ (s.context.graph.node? flow.address.node).isSome
  kept continues holds := by
    obtain ⟨n, found⟩ := Option.isSome_iff_exists.1 holds.2
    obtain ⟨n', found', _⟩ := continues.context.flows.node? found
    exact ⟨P.kept continues holds.1, Option.isSome_iff_exists.2 ⟨n', found'⟩⟩

/-- The flow leads nowhere. -/
abbrev Stalls (flow : FlowOut) (_ : α) (s : Lowering) : Prop := ¬ s.context.graph.LeadsOn flow

/-- The flow leads nowhere, and there is no value that could still be written where it leaves. -/
abbrev Drops (flow : FlowOut) (result : Option ValueOut × FlowOut) (s : Lowering) : Prop :=
  ¬ s.context.graph.LeadsOn flow ∧ (result.1 = none ∨ result.2 ≠ flow)

theorem Below.Tells.leaving {bound : Nat} {low : Below bound} (tells : Below.Tells P low) (flow : FlowOut) :
    Below.Tells (P.leaving flow) low where
  alike := tells.alike
  tells e small complete s holds := tells.tells e small complete s holds.1

/-- Once led on, the flow leads on whatever follows. -/
theorem tells_connectFlow (flow : FlowOut) (target : FlowIn) {f : Unit → Lower α} (steady : Steady (f ())) :
    Tells (P.leaving flow) (Stalls flow)
      (@liftM (StateT Context Id) (StateT Lowering Id) _ Unit (connectFlow flow target) >>= f) := by
  intro s holds stalls
  let led : Lowering := { s with context := (connectFlow flow target s.context).2 }
  have leads : led.context.graph.LeadsOn flow := Graph.leadsOn_connectFlow holds.2 target
  exact absurd ((steady led).context.flows.leadsOn leads) stalls

theorem tells_storeVariable (id : Nat) (value : ValueOut) (flow : FlowOut) :
    Tells (P.leaving flow) (Stalls flow) (do return Exits.ofReturn (← storeVariable id value flow)) := by
  show Tells _ _ (do
    let write ← setVariableFrom id value
    connectFlow flow write.flowIn
    return Exits.ofReturn write.flowOut)
  exact .after (.lift (plain_setVariableFrom id value)) fun _ => tells_connectFlow flow _ (steady_pure _)

section Steps

variable {e : Expression} {low : Below e.size} (tells : Below.Tells P low) (complete : e.complete = true)

include tells

theorem tells_lowerAction {action : Build TransformAction} (plain : Plain action) :
    Tells P Fails (lowerAction e low action) := by
  refine .after (.of_alike fun _ _ => alike_lowerReceiver (tells.alike _ _)) fun object => ?_
  exact .after (.lift plain) fun action => .after (.lift (plain_connect _ _)) fun _ => .value _

include complete

theorem tells_lowerDelay : Tells P Fails (lowerDelay e low) := by
  unfold lowerDelay
  split
  · exact .note _ _ none
  · next argument _ given =>
    have inside : argument.complete = true := complete_of_argument complete (by simp [given])
    refine tells.bind _ inside (steady_pure none) fun duration => ?_
    refine .after (.lift (plain_delayMilliseconds _)) fun delay => ?_
    exact .after (.lift (plain_connect _ _)) fun _ => .value _

theorem tells_lowerSetActive (enough : 2 ≤ e.children.length) : Tells P Fails (lowerSetActive e low) := by
  refine .bind (tells_lowerFirst tells complete enough) (.of_alike fun _ _ => alike_lowerFirst (tells.alike _ _))
    (steady_pure none) fun value => ?_
  refine .after (.of_alike fun _ _ => alike_lowerReceiver (tells.alike _ _)) fun object => ?_
  refine .after (.lift plain_activeSet) fun write => .after (.lift (plain_connect _ _)) fun _ => ?_
  exact .after (.lift (plain_connect _ _)) fun _ => .value _

theorem tells_lowerLookTarget (enough : 2 ≤ e.children.length) : Tells P Fails (lowerLookTarget e low) := by
  unfold lowerLookTarget
  split
  · next given => exact absurd given (arguments_ne_nil enough)
  · next argument _ given =>
    dsimp only
    split
    · refine .after (.of_alike fun _ _ => alike_lowerObject (tells.alike _ _) argument _) fun object => ?_
      refine .after (.lift plain_worldPositionGet) fun position => ?_
      exact .after (.lift (plain_connect _ _)) fun _ => .value _
    · exact tells.tells argument _ (complete_of_argument complete (by simp [given]))

theorem tells_lowerSecond (enough : 3 ≤ e.children.length) : Tells P Fails (lowerSecond e low) := by
  unfold lowerSecond
  split
  · next given => exact tells.tells _ _ (complete_of_argument complete (by simp [given]))
  · next few =>
    have drop : (arguments e).length = e.children.length - 1 := List.length_drop
    match given : arguments e with
    | first :: second :: rest => exact absurd given (few first second rest)
    | [_] | [] =>
      rw [given] at drop
      simp only [List.length_cons, List.length_nil] at drop
      omega

theorem tells_lowerSetPositionAndRotation (enough : 3 ≤ e.children.length) :
    Tells P Fails (lowerSetPositionAndRotation e low) := by
  have second : Steady (lowerSecond e low) := .of_alike fun _ _ => alike_lowerSecond (tells.alike _ _)
  refine .bind (tells_lowerFirst tells complete (by omega)) (.of_alike fun _ _ => alike_lowerFirst (tells.alike _ _))
    (.of_alike fun _ _ => .bind (alike_lowerSecond (tells.alike _ _)) fun _ => .pure none) fun position => ?_
  refine .bind (tells_lowerSecond tells complete enough) second (steady_pure none) fun rotation => ?_
  refine .after (.of_alike fun _ _ => alike_lowerReceiver (tells.alike _ _)) fun object => ?_
  refine .after (.lift plain_worldPositionSet) fun moving => .after (.lift plain_worldRotationSet) fun turning => ?_
  refine .after (.lift (plain_connect _ _)) fun _ => .after (.lift (plain_connect _ _)) fun _ => ?_
  refine .after (.lift (plain_connect _ _)) fun _ => .after (.lift (plain_connectFlow _ _)) fun _ => ?_
  exact .value _

theorem tells_lowerListCall (method : HostMethod) : Tells P Fails (lowerListCall e low method) := by
  unfold lowerListCall
  dsimp only
  split
  · refine .named (.note _ _ none) fun name => ?_
    refine tells_ofArguments (tells.listing name) complete (steady_pure none) fun values _ => ?_
    dsimp only
    split
    · exact tells_onList? _
    · exact .note _ _ none
  · exact .note _ _ none

/-- A method with an effect gives a step or is noted. -/
theorem tells_lowerStepMethod {method : HostMethod} (effect : method.hasFlowEffect = true)
    (enough : method.leastChildren ≤ e.children.length) : Tells P Fails (lowerStepMethod e low method) := by
  have vector : Steady (lowerVector e low 3) := .of_alike fun _ _ => alike_lowerVector (tells.alike _ _) 3
  cases method with
  | delay => exact tells_lowerDelay tells complete
  | setActive => exact tells_lowerSetActive tells complete enough
  | log severity =>
    exact .after (.of_alike fun _ _ => alike_lowerLog (tells.alike _ _) severity) fun _ => .value _
  | translate =>
    refine .bind (tells_lowerVector tells complete) vector (steady_pure none) fun offset => ?_
    exact tells_lowerAction tells (plain_translate offset)
  | rotate =>
    refine .bind (tells_lowerVector tells complete) vector (steady_pure none) fun euler => ?_
    exact tells_lowerAction tells (plain_bind (plain_fromEulerDegrees euler) fun _ => plain_rotate _)
  | lookAt =>
    refine .bind (tells_lowerLookTarget tells complete enough)
      (.of_alike fun _ _ => alike_lowerLookTarget (tells.alike _ _)) (steady_pure none) fun point => ?_
    exact tells_lowerAction tells (plain_lookAt point)
  | setPositionAndRotation => exact tells_lowerSetPositionAndRotation tells complete enough
  | quaternionEuler | quaternionInverse | distance | math _ => cases effect
  | listAdd | listInsert | listRemoveAt | listClear => exact tells_lowerListCall tells complete _

/-- A method with an effect takes the flow or is noted. -/
theorem sequences_lowerHostMethod (symbol : MethodSymbol) {method : HostMethod} (effect : method.hasFlowEffect = true)
    (enough : method.leastChildren ≤ e.children.length) (flow : FlowOut) :
    Tells (P.leaving flow) (Stalls flow) (lowerHostMethod e low symbol method (some flow)) := by
  have tells := tells.leaving flow
  unfold lowerHostMethod
  rw [effect]
  refine .bind (tells_lowerStepMethod tells complete effect enough)
    (.of_alike fun _ _ => alike_lowerStepMethod (tells.alike _ _) method) (steady_pure _) fun step => ?_
  exact tells_connectFlow flow _ (steady_pure _)

end Steps

section Inlining

variable {depth : Nat} {c : ScriptClass} {inliner : Inliner} {active : List String} {e : Expression}
  {low : Below e.size} (inlined : Inliner.Tells c depth active inliner)

include inlined

theorem sequences_lowerCallee (tells : Below.Tells P low) (callee : Method) (flow : FlowOut) :
    Tells (P.leaving flow) (Stalls flow) (lowerCallee inliner active e low callee (some flow)) := by
  refine .getBind fun s _ => ?_
  dsimp only
  split
  · exact .note _ _ _
  · refine .after (.of_alike fun _ _ => alike_bindArguments (tells.alike _ _) _ (arguments e) _ _) fun bindings => ?_
    refine .after (.of_alike fun _ _ => alike_declareResult callee) fun result => ?_
    refine .after (.lift (plain_createNode _)) fun sequence => tells_connectFlow flow _ ?_
    refine .of_alike fun limit stack => .bind (.inCallee (.bind (alike_copyParameters _ _ _ _) fun entry => ?_)) ?_
    · exact inlined.block _ callee.body entry limit _
    · intro exits
      refine .bind (alike_continueAfter _ _) fun next => ?_
      cases result with
      | none => exact .pure _
      | some id => exact .bind (.lift (plain_getVariable id)) fun _ => .pure _

/-- A call that has to be a step takes the flow or is noted. -/
theorem sequences_lowerInvocation (tells : Below.Tells P low) (complete : e.complete = true)
    (kind : e.kind = .methodInvocation) (needed : c.needsFlow e = true) (flow : FlowOut) :
    Tells (P.leaving flow) (Stalls flow) (lowerInvocation c inliner active e low (some flow)) := by
  have enough := Expression.length_of_complete complete
  unfold lowerInvocation
  split
  · exact .note _ _ _
  · next symbol found =>
    split
    · next method recognized =>
      simp only [ScriptClass.needsFlow, found, Option.bind_some, recognized] at needed
      simp only [Expression.leastChildren, kind, found, Option.bind_some, recognized, Option.elim_some] at enough
      exact sequences_lowerHostMethod tells complete symbol needed enough flow
    · exact sequences_lowerCallee inlined tells _ flow
    · exact .note _ _ _

end Inlining

variable {depth : Nat} {c : ScriptClass} {inliner : Inliner} {active : List String}

/-- A call that has to be a step takes the flow, and any other value can be written where the flow leaves. -/
theorem tells_lowerWithFlow (inlined : Inliner.Tells c depth active inliner) {e : Expression}
    (complete : e.complete = true) (flow : FlowOut) :
    Tells ((Premise.within depth).leaving flow) (Drops flow) (lowerWithFlow c inliner active e flow) := by
  have outer := Expression.complete_unwrapped complete
  have enough := Expression.length_of_complete outer
  unfold lowerWithFlow
  dsimp only
  split
  · next missing =>
    -- Only an await without an operand has nothing to lower.
    split at missing
    · next awaits =>
      have none : e.unwrapped.children = [] := by
        rw [Option.map_eq_none_iff, Expression.child?, List.getElem?_eq_none_iff] at missing
        exact List.length_eq_zero_iff.1 (Nat.le_zero.1 missing)
      rw [Expression.leastChildren, awaits, none] at enough
      cases enough
    · cases missing
  · next call found =>
    have whole : call.complete = true := by
      split at found
      · obtain ⟨inner, here, rfl⟩ := Option.map_eq_some_iff.1 found
        exact Expression.complete_unwrapped (Expression.complete_of_mem outer (List.mem_of_getElem? here))
      · cases found
        exact outer
    split
    · next needed =>
      rw [Bool.and_eq_true, decide_eq_true_iff] at needed
      have sequenced : Tells ((Premise.within depth).leaving flow) (Stalls flow)
          (lowerCall c inliner active call (some flow)) := by
        refine sequences_lowerInvocation inlined ⟨fun limit stack e _ => ?_, fun smaller _ complete => ?_⟩ whole
          needed.1 needed.2 flow
        · exact alike_lowerExpression (inlined.alike limit stack) e
        · exact tells_lowerExpression inlined smaller complete
      refine sequenced.follow (Q := fun _ => True) ?_ (fun _ => trivial) (fun _ _ _ => steady_pure _) ?_
      · exact .of_alike fun limit stack => alike_lowerCall (inlined.alike limit stack) call (some flow)
      · exact fun _ _ _ _ leads drops => absurd drops.1 leads
    · have value : Tells ((Premise.within depth).leaving flow) Fails (lowerExpression c inliner active e) :=
        fun s holds => tells_lowerExpression inlined e complete s holds.1
      refine .bind value ?_ (steady_pure _) fun value => .pure fun s drops => ?_
      · exact .of_alike fun limit stack => alike_lowerExpression (inlined.alike limit stack) e
      · exact drops.2.elim (Option.some_ne_none value) fun other => other rfl

/-- What is left of a return once its value is there: to write it. -/
def finishReturn (target : Nat) (result : Option ValueOut × FlowOut) : Lower Exits :=
  match result.1 with
  | none => return .ofReturn result.2
  | some value => return .ofReturn (← storeVariable target value result.2)

theorem steady_finishReturn (target : Nat) (result : Option ValueOut × FlowOut) :
    Steady (finishReturn target result) := by
  obtain ⟨value?, next⟩ := result
  cases value? with
  | none => exact steady_pure _
  | some value => exact .of_alike fun _ _ => .bind (alike_storeVariable target value next) fun _ => .pure _

/-- A return, with the expression and the variable that it finds. -/
theorem lowerReturn_eq (s : Statement) (flow : FlowOut) (state : Lowering) :
    lowerReturn c inliner active s flow state =
      Option.elim s.expression? (pure (.ofReturn flow)) (fun e =>
        Option.elim (state.frames.head?.bind (·.returnVariable)) (pure (.ofReturn flow)) fun target =>
          lowerWithFlow c inliner active e flow >>= finishReturn target) state := by
  have framed (next : Option Frame → Lower Exits) : (frame? >>= next) state = next state.frames.head? state := rfl
  rw [lowerReturn, framed]
  generalize s.expression? = e?, state.frames.head?.bind (·.returnVariable) = target?
  cases e? with
  | none => rfl
  | some e => cases target? <;> rfl

/-- Where somebody asks for the result, a returned expression takes the flow or is noted. -/
theorem lowerReturn_sequenced (complete : c.complete = true) {s : Statement} {e : Expression}
    (returned : s.expression? = some e) (whole : e.complete = true) {levels : Nat} {state : Lowering}
    (enough : state.limit ≤ active.length + levels) {target : Nat}
    (asked : state.frames.head?.bind (·.returnVariable) = some target) {flow : FlowOut}
    (there : (state.context.graph.node? flow.address.node).isSome)
    (stalls : ¬ (lowerReturn c (Lower.inliner c levels) active s flow state).2.context.graph.LeadsOn flow) :
    state.notes.length < (lowerReturn c (Lower.inliner c levels) active s flow state).2.notes.length := by
  have unfolded : lowerReturn c (Lower.inliner c levels) active s flow state =
      (lowerWithFlow c (Lower.inliner c levels) active e flow >>= finishReturn target) state := by
    simp only [lowerReturn_eq, returned, asked, Option.elim_some]
  have inlined := tells_inliner complete levels active (le_refl (active.length + levels))
  have tells : Tells ((Premise.within (active.length + levels)).leaving flow) (Stalls flow)
      (lowerWithFlow c (Lower.inliner c levels) active e flow >>= finishReturn target) := by
    refine (tells_lowerWithFlow inlined whole flow).follow (Q := fun _ => True) ?_ (fun _ => trivial)
      (fun result _ _ => steady_finishReturn target result) fun result s _ holds kept stalls => ?_
    · exact .of_alike fun limit stack => alike_lowerWithFlow (inlined.alike limit stack) e flow
    · by_cases leads : s.context.graph.LeadsOn flow
      · exact absurd ((steady_finishReturn target result s).context.flows.leadsOn leads) stalls
      · -- There is a value to write where the flow leaves, which leads it on.
        simp only [not_and_or, not_or, leads, not_false_iff, not_true, false_or, ne_eq, not_not] at kept
        obtain ⟨value?, next⟩ := result
        obtain ⟨has, rfl⟩ := kept
        obtain ⟨value, rfl⟩ := Option.ne_none_iff_exists'.1 has
        exact tells_storeVariable target value next s holds stalls
  rw [unfolded] at stalls ⊢
  exact tells state ⟨enough, there⟩ stalls

/-- Where nobody asks for the result, a returned expression is not looked at. -/
theorem lowerReturn_of_no_variable {state : Lowering} (unasked : state.frames.head?.bind (·.returnVariable) = none)
    (s : Statement) (flow : FlowOut) :
    lowerReturn c inliner active s flow state = (.ofReturn flow, state) := by
  rw [lowerReturn_eq, unasked]
  cases s.expression? <;> rfl

end Lower

end ScriptGraph
