import Mathlib
import ScriptGraph.Proofs.Space.Statements

/-!
Classes keep pace, and so the lowered contexts are twins.
-/

namespace ScriptGraph

open Pattern Build

namespace Lower

variable {p : Pairing} {c : ScriptClass}

instance : Paired (Except CompileError Unit) := .equal _

/-- What is shared by the uses of a list has no part in its initial elements. -/
theorem fillList_shared (field : String) (list : BoundedList) (switch : Option NodeId) (reads : List ValueOut)
    (count : Option ValueOut) (items : List Expression) :
    fillList field { list with writeSwitch := switch, slotReads := reads, countRead := count } items =
      fillList field list items := by
  induction items with
  | nil => rfl
  | cons item items ih =>
    rw [fillList, fillList]
    simp only [ih]
    rfl

section Fields

theorem tracks_fillList (field : String) (list : BoundedList) (items : List Expression) :
    Tracks p (fillList field list items) (fillList field list items) := by
  induction items generalizing p with
  | nil => exact .pure rfl
  | cons item items ih =>
    unfold fillList
    split
    · exact .andThen (.lift (tracks_unsupported _)) fun _ _ => ih
    · refine .bind (.lift (BoundedList.tracks_addInitial list _)) ?_
      rintro p₁ result _ _ ⟨⟩
      cases result with
      | ok _ => exact ih
      | error problem => exact .lift (tracks_malformed _)

theorem tracks_declareField (field : Field) : Tracks p (declareField field) (declareField field) := by
  unfold declareField declareList
  split
  · split
    · exact .lift (tracks_unsupported _)
    · refine .bind .read fun p₁ s s' _ pairs => ?_
      have options : s'.context.options.defaultListCapacity = s.context.options.defaultListCapacity := by
        rw [(Lowering.Pairs.context pairs).options]
      dsimp only
      rw [options]
      refine .bind (.lift (BoundedList.tracks_new _ _)) fun p₂ list list' _ made => ?_
      have filled : Tracks p₂ (fillList field.name list ((field.initializer.map (·.children)).getD []))
          (fillList field.name list' ((field.initializer.map (·.children)).getD [])) := by
        obtain ⟨switch, reads, count, rfl, -⟩ := made
        rw [fillList_shared field.name list switch reads count]
        exact tracks_fillList field.name list _
      exact .andThen filled fun p₃ _ => .modify (fun _ => rfl) fun s s' pairs =>
        ⟨rfl, { pairs with lists := pairs_insert pairs.lists field.name made.lift }⟩
  · split
    · exact .pure rfl
    · split
      · exact .lift (tracks_unsupported _)
      · refine .bind (.lift (tracks_declareVariable _ _ _)) ?_
        rintro p₁ id _ _ ⟨⟩
        exact .modify (fun _ => rfl) fun s s' pairs =>
          ⟨rfl, { pairs with fields := congrArg (fun d : Dict Nat => d.insert field.name id) pairs.fields }⟩

theorem tracks_declareAll (fields : List Field) : Tracks p (declareAll fields) (declareAll fields) := by
  induction fields generalizing p with
  | nil => exact .pure rfl
  | cons field fields ih => exact .andThen (tracks_declareField field) fun _ _ => ih

end Fields

section EntryPoints

theorem tracks_bindParameters {id id' : NodeId} (receive : Pair p id id') (parameters : List Parameter)
    {bindings bindings' : Dict ValueOut} (pair : Pair p bindings bindings') :
    Tracks p (bindParameters id parameters bindings) (bindParameters id' parameters bindings') := by
  induction parameters generalizing p bindings bindings' with
  | nil => exact .pure pair
  | cons parameter parameters ih =>
    unfold bindParameters
    dsimp only
    split
    · exact .andThen (.lift (tracks_expect receive _ _)) fun _ _ =>
        ih receive.lift (pairs_insert pair.lift _ (receive.lift.valueOut parameter.name))
    · exact ih receive (pairs_insert pair _ (receive.valueOut parameter.name))

theorem tracks_openEntryPoint (method : Method) : Tracks p (openEntryPoint method) (openEntryPoint method) := by
  unfold openEntryPoint
  split
  · exact .bind (.lift (tracks_createNode .eventOnStart)) fun _ _ _ _ node => .pure ⟨node.flowOut "out", pairs_empty⟩
  · exact .bind tracks_tickFlow fun _ _ _ _ flow => .pure ⟨flow, pairs_empty⟩
  · refine .bind (.lift (tracks_declareEvent _ _)) ?_
    rintro p₁ event _ _ ⟨⟩
    refine .bind (.lift (tracks_createNode .eventReceive)) fun p₂ _ _ _ receive => ?_
    refine .andThen (.lift (tracks_configure receive "event" _)) fun p₃ _ => ?_
    exact .bind (tracks_bindParameters receive.lift _ pairs_empty) fun p₄ _ _ _ bindings =>
      .pure ⟨receive.lift.flowOut "out", bindings⟩

theorem tracks_lowerEntryPoint (method : Method) : Tracks p (lowerEntryPoint c method) (lowerEntryPoint c method) := by
  refine .andThen (.lift (tracks_setMethod _)) fun p₁ _ => .bind (tracks_openEntryPoint method) ?_
  rintro p₂ ⟨flow, bindings⟩ ⟨flow', bindings'⟩ _ ⟨leaves, bound⟩
  simp only [fullInliner, bind_assoc, pure_bind]
  refine .bind .read fun p₃ s s' _ pairs => ?_
  have options : s'.context.options.maxInlineDepth = s.context.options.maxInlineDepth := by
    rw [(Lowering.Pairs.context pairs).options]
  rw [options]
  refine tracks_withFrame ⟨bindings', rfl, bound.lift⟩ fun p₄ _ => ?_
  refine .bind (tracks_copyParameters _ false _ (Pair.lift leaves)) fun p₅ _ _ _ flow => ?_
  exact tracks_lowerBlock (tracks_inliner c _) _ p₅ ⟨.cons flow .nil, .nil⟩

theorem tracks_lowerEntryPoints (names : List String) :
    Tracks p (lowerEntryPoints c names) (lowerEntryPoints c names) := by
  induction names generalizing p with
  | nil => exact .pure rfl
  | cons name names ih =>
    unfold lowerEntryPoints
    split
    · exact ih
    · refine .bind (tracks_lowerEntryPoint _) fun p₁ _ _ _ _ => .bind ih ?_
      rintro p₂ count _ _ ⟨⟩
      exact .pure rfl

theorem tracks_lowerClass (c : ScriptClass) : Tracks p (lowerClass c) (lowerClass c) := by
  refine .andThen (.andThen (.lift (tracks_setMethod _)) fun _ _ => tracks_declareAll _) fun p₁ _ => ?_
  refine .bind .read fun p₂ s s' _ pairs => ?_
  have options : s'.context.options.entryPoints = s.context.options.entryPoints := by
    rw [(Lowering.Pairs.context pairs).options]
  dsimp only
  rw [options]
  refine .bind (tracks_lowerEntryPoints _) ?_
  rintro p₃ count _ _ ⟨⟩
  split
  · exact .pure rfl
  · exact .pure rfl

end EntryPoints

end Lower

end ScriptGraph
