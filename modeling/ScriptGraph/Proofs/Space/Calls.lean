import Mathlib
import ScriptGraph.Proofs.Space.Values

/-!
Calls keep pace: methods of the host, and methods of the class in place of their calls, given that their bodies do.
-/

namespace ScriptGraph

open Pattern Build

/-- The bodies that are inlined keep pace. -/
structure Inliner.Tracks (inliner : Inliner) : Prop where
  block : ∀ (p : Pairing) active body {flow flow' : FlowOut}, Pair p flow flow' →
    ScriptGraph.Tracks p (inliner.block active body flow) (inliner.block active body flow')
  value : ∀ (p : Pairing) active e, ScriptGraph.Tracks p (inliner.value active e) (inliner.value active e)

namespace Lower

variable {p : Pairing}

section Methods

variable {e : Expression} {low : Below e.size}

theorem tracks_lowerFunction (tracks : low.Tracks) (op : Op) :
    Tracks p (lowerFunction e low op) (lowerFunction e low op) := by
  refine .bind (tracks_lowerAll tracks _ _) fun p₁ _ _ _ values? => ?_
  cases values? with
  | none => exact .pure .none
  | @some values values' pairs =>
    have pairs : Pair p₁ values values' := pairs
    have length : values'.length = values.length := (List.Forall₂.length_eq pairs).symm
    dsimp only
    rw [length]
    split
    · exact tracks_note _ _ .none
    · refine .bind (.lift (tracks_createNode op)) fun p₂ _ _ _ node => ?_
      exact .andThen (tracks_connectCoerced node _ _ pairs.lift _) fun p₃ _ =>
        .pure (.some (node.lift.valueOut "value"))

theorem tracks_lowerDistance (tracks : low.Tracks) : Tracks p (lowerDistance e low) (lowerDistance e low) := by
  refine .bind (tracks_lowerAll tracks _ _) fun p₁ _ _ _ values? => ?_
  rcases values? with @⟨_, _, _ | ⟨a, _ | ⟨b, _ | ⟨_, _⟩⟩⟩⟩ | _
  · exact tracks_note _ _ .none
  · exact tracks_note _ _ .none
  · refine .bind (.lift (tracks_binary .mathSub a b)) fun p₂ _ _ _ offset => ?_
    exact .bind (.lift (tracks_unary .mathLength offset)) fun p₃ _ _ _ length => .pure (.some length)
  · exact tracks_note _ _ .none
  · exact .pure .none

theorem tracks_lowerVector (tracks : low.Tracks) (count : Nat) :
    Tracks p (lowerVector e low count) (lowerVector e low count) := by
  refine .bind (tracks_lowerAll tracks _ _) fun p₁ _ _ _ values? => ?_
  have several {values values' : List ValueOut} (pairs : Pair p₁ values values') :
      Tracks p₁
        (if values.length = count then do combine? (← coerceAll values (arguments e))
          else do
            malformed ("expected 1 or " ++ toString count ++ " arguments, got " ++ toString values.length)
            return none : Lower (Option ValueOut))
        (if values'.length = count then do combine? (← coerceAll values' (arguments e))
          else do
            malformed ("expected 1 or " ++ toString count ++ " arguments, got " ++ toString values'.length)
            return none : Lower (Option ValueOut)) := by
    rw [(List.Forall₂.length_eq pairs).symm]
    split
    · exact .bind (tracks_coerceAll pairs _) fun p₂ _ _ _ parts => .lift (tracks_combine? parts)
    · exact tracks_note _ _ .none
  rcases values? with @⟨_, _, _ | ⟨a, _ | ⟨b, rest⟩⟩⟩ | _
  · exact several .nil
  · exact .pure (.some a)
  · exact several (.cons a (.cons b rest))
  · exact .pure .none

theorem tracks_lowerFirst (tracks : low.Tracks) : Tracks p (lowerFirst e low) (lowerFirst e low) := by
  unfold lowerFirst
  split
  · exact .pure .none
  · exact tracks p _ _

theorem tracks_lowerSecond (tracks : low.Tracks) : Tracks p (lowerSecond e low) (lowerSecond e low) := by
  unfold lowerSecond
  split
  · exact tracks p _ _
  · exact .pure .none

theorem tracks_lowerPureMethod (tracks : low.Tracks) (method : HostMethod) :
    Tracks p (lowerPureMethod e low method) (lowerPureMethod e low method) := by
  unfold lowerPureMethod
  split
  · exact tracks_lowerFunction tracks _
  · exact tracks_lowerDistance tracks
  · refine .bind (tracks_lowerVector tracks 3) fun p₁ _ _ _ euler? => ?_
    cases euler? with
    | none => exact .pure .none
    | some euler => exact .bind (.lift (tracks_fromEulerDegrees euler)) fun _ _ _ _ value => .pure (.some value)
  · refine .bind (tracks_lowerFirst tracks) fun p₁ _ _ _ rotation? => ?_
    cases rotation? with
    | none => exact .pure .none
    | some rotation => exact .bind (.lift (tracks_invert rotation)) fun _ _ _ _ value => .pure (.some value)
  · exact .pure .none

theorem tracks_lowerDelay (tracks : low.Tracks) : Tracks p (lowerDelay e low) (lowerDelay e low) := by
  unfold lowerDelay
  split
  · exact tracks_note _ _ .none
  · refine .bind (tracks p _ _) fun p₁ _ _ _ duration? => ?_
    cases duration? with
    | none => exact .pure .none
    | some duration =>
      refine .bind (.lift (tracks_delayMilliseconds _)) fun p₂ _ _ _ delay => ?_
      refine .andThen (.lift (tracks_connect delay.2.1 (Pair.lift duration))) fun p₃ _ => .pure (.some ?_)
      exact ⟨delay.2.2.1.lift, delay.2.2.2.2.lift⟩

theorem tracks_lowerAction (tracks : low.Tracks) {x y : Build TransformAction}
    (acts : ∀ p', p.Next p' → ScriptGraph.Tracks p' x y) : Tracks p (lowerAction e low x) (lowerAction e low y) := by
  refine .bind (tracks_lowerReceiver tracks) fun p₁ _ _ le object => ?_
  refine .bind (.lift (acts p₁ le)) fun p₂ _ _ _ action => ?_
  exact .andThen (.lift (tracks_connect action.1 object.lift)) fun p₃ _ =>
    .pure (.some ⟨action.2.1.lift, action.2.2.lift⟩)

theorem tracks_lowerSetActive (tracks : low.Tracks) : Tracks p (lowerSetActive e low) (lowerSetActive e low) := by
  refine .bind (tracks_lowerFirst tracks) fun p₁ _ _ _ value? => ?_
  cases value? with
  | none => exact .pure .none
  | some value =>
    refine .bind (tracks_lowerReceiver tracks) fun p₂ _ _ _ object => .bind (.lift tracks_activeSet) ?_
    intro p₃ _ _ _ write
    refine .andThen (.lift (tracks_connect write.1 object.lift)) fun p₄ _ => ?_
    refine .andThen (.lift (tracks_connect write.2.1.lift (Pair.lift value))) fun p₅ _ => .pure (.some ?_)
    exact ⟨write.2.2.1.lift, write.2.2.2.lift⟩

theorem tracks_lowerLookTarget (tracks : low.Tracks) : Tracks p (lowerLookTarget e low) (lowerLookTarget e low) := by
  unfold lowerLookTarget
  split
  · exact .pure .none
  · dsimp only
    split
    · refine .bind (tracks_lowerObject tracks _ _) fun p₁ _ _ _ object => ?_
      refine .bind (.lift tracks_worldPositionGet) fun p₂ _ _ _ position => ?_
      exact .andThen (.lift (tracks_connect position.1 object.lift)) fun p₃ _ => .pure (.some position.2.lift)
    · exact tracks p _ _

theorem tracks_lowerSetPositionAndRotation (tracks : low.Tracks) :
    Tracks p (lowerSetPositionAndRotation e low) (lowerSetPositionAndRotation e low) := by
  refine .bind (tracks_lowerFirst tracks) fun p₁ _ _ _ position? => ?_
  refine .bind (tracks_lowerSecond tracks) fun p₂ _ _ _ rotation? => ?_
  cases position? with
  | none => exact .pure .none
  | some position =>
    cases rotation? with
    | none => exact .pure .none
    | some rotation =>
      refine .bind (tracks_lowerReceiver tracks) fun p₃ _ _ _ object => ?_
      refine .bind (.lift tracks_worldPositionSet) fun p₄ _ _ _ moving => ?_
      refine .bind (.lift tracks_worldRotationSet) fun p₅ _ _ _ turning => ?_
      refine .andThen (.lift (tracks_connect_link (.cons moving.1.lift (.cons turning.1 .nil)) object.lift))
        fun p₆ _ => ?_
      refine .andThen (.lift (tracks_connect moving.2.1.lift (Pair.lift position))) fun p₇ _ => ?_
      refine .andThen (.lift (tracks_connect turning.2.1.lift (Pair.lift rotation))) fun p₈ _ => ?_
      exact .andThen (.lift (tracks_connectFlow moving.2.2.2.lift turning.2.2.1.lift)) fun p₉ _ =>
        .pure (.some ⟨moving.2.2.1.lift, turning.2.2.2.lift⟩)

/-- Steps of a list, of the same kind. -/
theorem tracks_listStep? (method : HostMethod) {values values' : List ValueOut} (pairs : Pair p values values') :
    Option.Rel (fun x y => ∀ p', p.Next p' → BoundedList.Tracks p' x y) (listStep? method values)
      (listStep? method values') := by
  cases method
  case listAdd =>
    rcases pairs with _ | ⟨value, _ | ⟨_, _⟩⟩
    · exact .none
    · refine .some fun p' le => .bind BoundedList.tracks_addItem fun p₁ _ _ _ add => ?_
      exact .andThen (.lift (tracks_connect add.1 (Pair.lift value))) fun p₂ _ => .pure ⟨add.2.1.lift, add.2.2.lift⟩
    · exact .none
  case listInsert =>
    rcases pairs with _ | ⟨index, _ | ⟨value, _ | ⟨_, _⟩⟩⟩
    · exact .none
    · exact .none
    · refine .some fun p' le => .bind BoundedList.tracks_insertItem fun p₁ _ _ _ insert => ?_
      refine .andThen (.lift (tracks_connect insert.1 (Pair.lift index))) fun p₂ _ => ?_
      refine .andThen (.lift (tracks_connect insert.2.1.lift (Pair.lift value))) fun p₃ _ => .pure ?_
      exact ⟨insert.2.2.1.lift, insert.2.2.2.lift⟩
    · exact .none
  case listRemoveAt =>
    rcases pairs with _ | ⟨index, _ | ⟨_, _⟩⟩
    · exact .none
    · refine .some fun p' le => .bind BoundedList.tracks_removeItem fun p₁ _ _ _ remove => ?_
      exact .andThen (.lift (tracks_connect remove.1 (Pair.lift index))) fun p₂ _ =>
        .pure ⟨remove.2.1.lift, remove.2.2.lift⟩
    · exact .none
  case listClear =>
    rcases pairs with _ | ⟨_, _⟩
    · exact .some fun p' le => BoundedList.tracks_clear
    · exact .none
  all_goals exact .none

theorem tracks_lowerListCall (tracks : low.Tracks) (method : HostMethod) :
    Tracks p (lowerListCall e low method) (lowerListCall e low method) := by
  unfold lowerListCall
  dsimp only
  split
  · refine .bind (tracks_listName? _) fun p₁ _ _ _ name? => ?_
    cases name? with
    | none => exact tracks_note _ _ .none
    | some same =>
      cases same
      refine .bind (tracks_lowerAll tracks _ _) fun p₂ _ _ _ values? => ?_
      cases values? with
      | none => exact .pure .none
      | @some values values' pairs =>
        have pairs : Pair p₂ values values' := pairs
        have step := tracks_listStep? method pairs
        have length : values'.length = values.length := (List.Forall₂.length_eq pairs).symm
        dsimp only
        rw [length]
        revert step
        generalize listStep? method values = step?
        generalize listStep? method values' = step'?
        intro step
        cases step with
        | some step => exact tracks_onList? _ step
        | none => exact tracks_note _ _ .none
  · exact tracks_note _ _ .none

theorem tracks_lowerLog (tracks : low.Tracks) (severity : Severity) :
    Tracks p (lowerLog e low severity) (lowerLog e low severity) := by
  refine .bind (.lift (tracks_createNode .debugLog)) fun p₁ _ _ _ node => ?_
  refine .bind (tracks_lowerParts tracks node 0 _ _) ?_
  rintro p₂ template _ _ ⟨⟩
  refine .andThen (.lift (tracks_configure node.lift "severity" _)) fun p₃ _ => ?_
  exact .andThen (.lift (tracks_configure node.lift "message" _)) fun p₄ _ =>
    .pure ⟨node.lift.flowIn "in", node.lift.flowOut "out"⟩

theorem tracks_lowerStepMethod (tracks : low.Tracks) (method : HostMethod) :
    Tracks p (lowerStepMethod e low method) (lowerStepMethod e low method) := by
  unfold lowerStepMethod
  split
  · exact tracks_lowerDelay tracks
  · exact tracks_lowerSetActive tracks
  · exact .bind (tracks_lowerLog tracks _) fun _ _ _ _ step => .pure (.some step)
  · refine .bind (tracks_lowerVector tracks 3) fun p₁ _ _ _ offset? => ?_
    cases offset? with
    | none => exact .pure .none
    | some offset => exact tracks_lowerAction tracks fun _ _ => tracks_translate (Pair.lift offset)
  · refine .bind (tracks_lowerVector tracks 3) fun p₁ _ _ _ euler? => ?_
    cases euler? with
    | none => exact .pure .none
    | some euler =>
      refine tracks_lowerAction tracks fun _ _ => ?_
      exact .bind (tracks_fromEulerDegrees (Pair.lift euler)) fun _ _ _ _ rotation => tracks_rotate rotation
  · refine .bind (tracks_lowerLookTarget tracks) fun p₁ _ _ _ point? => ?_
    cases point? with
    | none => exact .pure .none
    | some point => exact tracks_lowerAction tracks fun _ _ => tracks_lookAt (Pair.lift point)
  · exact tracks_lowerSetPositionAndRotation tracks
  · exact .pure .none
  · exact .pure .none
  · exact .pure .none
  · exact .pure .none
  · exact tracks_lowerListCall tracks _

theorem tracks_lowerHostMethod (tracks : low.Tracks) (symbol : MethodSymbol) (method : HostMethod)
    {flow flow' : Option FlowOut} (leaves : Pair p flow flow') :
    Tracks p (lowerHostMethod e low symbol method flow) (lowerHostMethod e low symbol method flow') := by
  unfold lowerHostMethod
  split
  · exact .bind (tracks_lowerPureMethod tracks _) fun _ _ _ _ value => .pure ⟨value, leaves.lift⟩
  · cases leaves with
    | none => exact tracks_note _ _ ⟨.none, .none⟩
    | @some flow flow' leaves =>
      have leaves : Pair p flow flow' := leaves
      refine .bind (tracks_lowerStepMethod tracks _) fun p₁ _ _ _ step? => ?_
      rcases step? with @⟨⟨start, stop⟩, ⟨start', stop'⟩, ⟨start, stop⟩⟩ | _
      · exact .andThen (.lift (tracks_connectFlow leaves.lift start)) fun p₂ _ => .pure ⟨.none, .some stop.lift⟩
      · exact .pure ⟨.none, .some leaves.lift⟩

end Methods

variable {c : ScriptClass} {inliner : Inliner} {active : List String}

section Callees

variable {e : Expression} {low : Below e.size}

theorem tracks_copyParameters (written : List String) (all : Bool) (parameters : List Parameter)
    {flow flow' : FlowOut} (leaves : Pair p flow flow') :
    Tracks p (copyParameters written all parameters flow) (copyParameters written all parameters flow') := by
  induction parameters generalizing p flow flow' with
  | nil => exact .pure leaves
  | cons parameter parameters ih =>
    refine .bind tracks_frame? fun p₁ frame? frame'? _ frame => ?_
    have bound : Pair p₁ (frame?.bind (·.bindings.find? parameter.name))
        (frame'?.bind (·.bindings.find? parameter.name)) := by
      cases frame with
      | some frame =>
        obtain ⟨bindings, rfl, bound⟩ := frame
        exact bound _
      | none => exact .none
    revert bound
    generalize frame?.bind (·.bindings.find? parameter.name) = bound?
    generalize frame'?.bind (·.bindings.find? parameter.name) = bound'?
    intro bound
    cases bound with
    | none => exact ih leaves.lift
    | @some bound bound' pair =>
      have pair : Pair p₁ bound bound' := pair
      have constant : bound'.address.node.isPlaceholder = bound.address.node.isPlaceholder :=
        Pairing.Output.isPlaceholder pair
      cases parameter.paramType.storageType? with
      | none => exact ih leaves.lift
      | some type =>
        dsimp only
        rw [constant]
        split
        · refine .bind (tracks_declareLocal _ _) ?_
          rintro p₂ id _ _ ⟨⟩
          exact .bind (tracks_storeVariable id pair.lift leaves.lift) fun p₃ _ _ _ flow => ih flow
        · exact ih leaves.lift

theorem tracks_declareResult (callee : Method) : Tracks p (declareResult callee) (declareResult callee) := by
  unfold declareResult
  split
  · exact .pure .none
  · exact .bind (.lift (tracks_declareVariable _ _ _)) fun _ _ _ _ id => .pure (.some id)

theorem tracks_continueAfter {id id' : NodeId} (sequence : Pair p id id') {tails tails' : List FlowOut}
    (leaves : Pair p tails tails') : Tracks p (continueAfter id tails) (continueAfter id' tails') := by
  have going {tails tails' : List FlowOut} (leaves : Pair p tails tails') :
      Tracks p
        (do
          let wait ← createNode .flowWaitAll
          configure wait "inputFlows" (.int 2)
          connectFlows tails (wait.flowIn "0")
          connectFlow (id.flowOut "1") (wait.flowIn "1")
          return wait.flowOut "out" : Lower FlowOut)
        (do
          let wait ← createNode .flowWaitAll
          configure wait "inputFlows" (.int 2)
          connectFlows tails' (wait.flowIn "0")
          connectFlow (id'.flowOut "1") (wait.flowIn "1")
          return wait.flowOut "out") := by
    refine .bind (.lift (tracks_createNode .flowWaitAll)) fun p₁ _ _ _ wait => ?_
    refine .andThen (.lift (tracks_configure wait "inputFlows" _)) fun p₂ _ => ?_
    refine .andThen (tracks_connectFlows leaves.lift (wait.lift.flowIn "0")) fun p₃ _ => ?_
    refine .andThen (.lift (tracks_connectFlow (sequence.lift.flowOut "1") (wait.lift.flowIn "1"))) fun p₄ _ => ?_
    exact .pure (wait.lift.flowOut "out")
  cases leaves with
  | nil => exact .pure (sequence.flowOut "1")
  | cons first rest => exact going (.cons first rest)

/-- A method of the class in place of its call. -/
theorem tracks_lowerCallee (inlined : inliner.Tracks) (tracks : low.Tracks) (callee : Method)
    {flow flow' : Option FlowOut} (leaves : Pair p flow flow') :
    Tracks p (lowerCallee inliner active e low callee flow) (lowerCallee inliner active e low callee flow') := by
  refine .bind .read fun p₁ s s' _ pairs => ?_
  have limit : s'.context.options.maxInlineDepth = s.context.options.maxInlineDepth := by
    rw [(Lowering.Pairs.context pairs).options]
  dsimp only
  rw [limit]
  split
  · exact tracks_note _ _ ⟨.none, leaves.lift⟩
  · refine .bind (tracks_bindArguments tracks _ _ _ pairs_empty) fun p₂ bindings bindings' _ pair => ?_
    cases leaves with
    | none =>
      dsimp only
      split
      · exact tracks_note _ _ ⟨.none, .none⟩
      · refine .bind (tracks_inCallee ⟨bindings', rfl, pair⟩ fun p' _ => inlined.value p' _ _) ?_
        exact fun p₃ _ _ _ value => .pure ⟨value, .none⟩
    | @some flow flow' leaves =>
      have leaves : Pair p flow flow' := leaves
      refine .bind (tracks_declareResult callee) fun p₃ result result' _ same => ?_
      obtain rfl : result = result' := by
        cases same with
        | some same => exact congrArg some same.symm
        | none => rfl
      refine .bind (.lift (tracks_createNode .flowSequence)) fun p₄ _ _ _ sequence => ?_
      refine .andThen (.lift (tracks_connectFlow leaves.lift (sequence.flowIn "in"))) fun p₅ _ => ?_
      refine .bind (tracks_inCallee ⟨bindings', rfl, pair.lift⟩ fun p' _ => ?_) fun p₆ _ _ _ exits => ?_
      · refine .bind (tracks_copyParameters _ true _ (sequence.lift.flowOut "0")) fun p₇ _ _ _ entry => ?_
        exact inlined.block p₇ _ _ entry
      · refine .bind (tracks_continueAfter sequence.lift (List.rel_append exits.1 exits.2)) fun p₇ _ _ _ next => ?_
        cases result with
        | none => exact .pure ⟨.none, .some next⟩
        | some id =>
          exact .bind (.lift (tracks_getVariable id)) fun p₈ _ _ _ value => .pure ⟨.some value, .some next.lift⟩

theorem tracks_lowerInvocation (inlined : inliner.Tracks) (tracks : low.Tracks) {flow flow' : Option FlowOut}
    (leaves : Pair p flow flow') :
    Tracks p (lowerInvocation c inliner active e low flow) (lowerInvocation c inliner active e low flow') := by
  unfold lowerInvocation
  split
  · exact tracks_note _ _ ⟨.none, leaves⟩
  · split
    · exact tracks_lowerHostMethod tracks _ _ leaves
    · exact tracks_lowerCallee inlined tracks _ leaves
    · exact tracks_note _ _ ⟨.none, leaves⟩

theorem tracks_expressionStep (inlined : inliner.Tracks) (tracks : low.Tracks) :
    Tracks p (expressionStep c inliner active e low) (expressionStep c inliner active e low) := by
  obtain ⟨kind, name, type, method, member, literal, operator, children⟩ := e
  cases kind with
  | parenthesized =>
    cases children with
    | nil => exact tracks_note _ _ .none
    | cons inner _ => exact tracks p inner _
  | literal => exact tracks_lowerLiteral
  | identifier => exact tracks_lowerIdentifier c
  | this => exact .bind (tracks_objectLiteral .self) fun _ _ _ _ value => .pure (.some value)
  | memberAccess => exact tracks_lowerMemberAccess tracks
  | methodInvocation =>
    exact .bind (tracks_lowerInvocation inlined tracks (Option.Rel.none)) fun _ _ _ _ invocation =>
      .pure (Pair.lift invocation.1)
  | binary => exact tracks_lowerBinary tracks
  | unary => exact tracks_lowerUnary tracks
  | prefixUnary => exact tracks_lowerUnary tracks
  | objectCreation => exact tracks_lowerConstruction tracks
  | elementAccess => exact tracks_lowerElement tracks
  | cast => exact tracks_lowerCast tracks
  | await =>
    cases children with
    | nil => exact .pure .none
    | cons inner _ => exact tracks p inner _
  | postfixUnary => exact tracks_note _ _ .none
  | assignment => exact tracks_note _ _ .none

end Callees

theorem tracks_lowerExpression (inlined : inliner.Tracks) (p : Pairing) (e : Expression) :
    Tracks p (lowerExpression c inliner active e) (lowerExpression c inliner active e) := by
  rw [lowerExpression]
  exact tracks_expressionStep inlined fun p smaller _ => tracks_lowerExpression inlined p smaller
termination_by e.size

theorem tracks_lowerCall (inlined : inliner.Tracks) (e : Expression) {flow flow' : Option FlowOut}
    (leaves : Pair p flow flow') :
    Tracks p (lowerCall c inliner active e flow) (lowerCall c inliner active e flow') :=
  tracks_lowerInvocation inlined (fun p smaller _ => tracks_lowerExpression inlined p smaller) leaves

theorem tracks_lowerWithFlow (inlined : inliner.Tracks) (e : Expression) {flow flow' : FlowOut}
    (leaves : Pair p flow flow') :
    Tracks p (lowerWithFlow c inliner active e flow) (lowerWithFlow c inliner active e flow') := by
  unfold lowerWithFlow
  dsimp only
  split
  · exact .pure ⟨.none, leaves⟩
  · split
    · refine .bind (tracks_lowerCall inlined _ (Option.Rel.some leaves)) fun p₁ _ _ _ invocation => ?_
      exact .pure ⟨invocation.1, pairs_getD invocation.2 leaves.lift⟩
    · exact .bind (tracks_lowerExpression inlined p e) fun p₁ _ _ _ value => .pure ⟨value, leaves.lift⟩

end Lower

end ScriptGraph
