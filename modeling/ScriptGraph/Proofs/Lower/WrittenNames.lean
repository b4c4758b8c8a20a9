import Mathlib
import ScriptGraph.Compile
import ScriptGraph.Proofs.Lower.Writes
import ScriptGraph.Proofs.Source.Conformance

/-!
A plain name is read where it is written.

Reads look a name up among the values that names are bound to, and then among the variables; writes look among the
variables only. The two agree since a scan of the source tells which names a body writes: parameters among them
become variables before the body is lowered, and a loop with such a counter gets a variable for it. So no name is
bound to a value while code is lowered that writes it.

That no lowering ever writes a bound name is told by a way to write that goes astray on one: no class can tell it
from the real one, wherever it goes.
-/

namespace ScriptGraph

open Pattern Build

namespace Lowering

/-- The value that a name is bound to in the frame of the method being lowered. -/
def bound? (s : Lowering) (name : String) : Option ValueOut := s.frames.head?.bind (·.bindings.find? name)

/-- None of the names is bound to a value. -/
def Frees (s : Lowering) (names : List String) : Prop := ∀ name ∈ names, s.bound? name = none

theorem Frees.mono {s : Lowering} {names names' : List String} (frees : s.Frees names') (sub : names ⊆ names') :
    s.Frees names :=
  fun name member => frees name (sub member)

theorem Continues.bound? {s s' : Lowering} (continues : s.Continues s') {name : String} (free : s.bound? name = none) :
    s'.bound? name = none := by
  obtain ⟨-, -, -, narrows⟩ := continues
  unfold Lowering.bound? at free ⊢
  generalize s.frames = frames at narrows free
  generalize s'.frames = frames' at narrows ⊢
  cases narrows with
  | nil => exact free
  | cons head _ => exact head.bindings name free

theorem Continues.frees {s s' : Lowering} (continues : s.Continues s') {names : List String} (frees : s.Frees names) :
    s'.Frees names :=
  fun name member => continues.bound? (frees name member)

end Lowering

namespace Lower

variable {α β : Type} {c : ScriptClass} {active : List String}

/-- A way to write that goes astray on a plain name that is bound to a value. -/
def watchedStore (c : ScriptClass) (astray : Expression → ValueOut → FlowOut → Lower FlowOut) : Writing :=
  fun inliner active target value flow s =>
    if target.kind = .identifier ∧ (s.bound? (target.name.getD "")).isSome then astray target value flow s
    else store c inliner active target value flow s

section Same

variable {x y : Lower α} {f g : α → Lower β} {names names' : List String}

/-- The steps are the same where none of the names is bound. -/
def SameWhere (names : List String) (x y : Lower α) : Prop := ∀ s : Lowering, s.Frees names → y s = x s

theorem SameWhere.refl (x : Lower α) : SameWhere names x x := fun _ _ => rfl

theorem SameWhere.mono (same : SameWhere names x y) (sub : names ⊆ names') : SameWhere names' x y :=
  fun s frees => same s (frees.mono sub)

theorem SameWhere.bind (first : SameWhere names x y) (steady : Steady x) (second : ∀ a, SameWhere names (f a) (g a)) :
    SameWhere names (x >>= f) (y >>= g) := by
  intro s frees
  show g (y s).1 (y s).2 = f (x s).1 (x s).2
  rw [first s frees]
  exact second _ _ ((steady s).frees frees)

/-- Only what follows differs. -/
theorem SameWhere.after (steady : Steady x) (second : ∀ a, SameWhere names (f a) (g a)) :
    SameWhere names (x >>= f) (x >>= g) :=
  (SameWhere.refl x).bind steady second

/-- Only what comes first differs. -/
theorem SameWhere.before (first : SameWhere names x y) (f : α → Lower β) : SameWhere names (x >>= f) (y >>= f) := by
  intro s frees
  show f (y s).1 (y s).2 = f (x s).1 (x s).2
  rw [first s frees]

/-- While a name stands for a value, what is done may not write it. -/
theorem SameWhere.counting {name : String} {counter : Counter} (same : SameWhere names x y) (sub : names ⊆ names')
    (other : ∀ output, counter = .value output → name ∉ names) (f : α → Lower β) :
    SameWhere names'
      (do
        let shadowed ← bindCounter name counter
        let a ← x
        unbindCounter name shadowed
        f a)
      (do
        let shadowed ← bindCounter name counter
        let a ← y
        unbindCounter name shadowed
        f a) := by
  intro s frees
  have entered : Lowering.Frees (bindCounter name counter s).2 names := by
    intro written member
    have free := frees written (sub member)
    unfold Lowering.bound? at free ⊢
    rw [frames_bindCounter]
    revert free
    cases s.frames with
    | nil => exact fun free => free
    | cons frame frames =>
      refine fun free => Counter.bindings_enter (fun output value same => ?_) free
      exact other output value (same ▸ member)
  exact congrArg (fun r : α × Lowering => (do
    unbindCounter name (bindCounter name counter s).1
    f r.1 : Lower β) r.2) (same _ entered)

end Same

section Statements

variable {astray : Expression → ValueOut → FlowOut → Lower FlowOut} {names : List String} {levels : Nat}

theorem sameWhere_watchedStore {inliner : Inliner} {target : Expression} (value : ValueOut) (flow : FlowOut)
    (written : target.kind = .identifier → target.name.getD "" ∈ names) :
    SameWhere names (store c inliner active target value flow)
      (watchedStore c astray inliner active target value flow) := by
  intro s frees
  refine if_neg fun bound => ?_
  rw [frees _ (written bound.1)] at bound
  cases bound.2

theorem steady_lowerExpression (e : Expression) : Steady (lowerExpression c (inliner c levels) active e) :=
  .of_alike fun _ _ => alike_lowerExpression (alike_inliner c levels active _) e

theorem steady_lowerWithFlow (e : Expression) (flow : FlowOut) :
    Steady (lowerWithFlow c (inliner c levels) active e flow) :=
  .of_alike fun _ _ => alike_lowerWithFlow (alike_inliner c levels active _) e flow

theorem sameWhere_lowerAssignmentWith {e : Expression} (conforms : e.conforms = true) (kind : e.kind = .assignment)
    (inside : e.assignedNames ⊆ names) (flow : FlowOut) :
    SameWhere names (lowerAssignment c (inliner c levels) active e flow)
      (lowerAssignmentWith c (watchedStore c astray) (inliner c levels) active e flow) := by
  show SameWhere names (lowerAssignmentWith c (store c) _ _ _ _) _
  unfold lowerAssignmentWith
  split
  · next target source rest children =>
    have written (plain : target.unwrapped.kind = .identifier) : target.unwrapped.name.getD "" ∈ names :=
      inside (Expression.name_mem_assignedNames conforms (by simp [Expression.isWrite, kind])
        (Expression.contains_operator conforms kind) children plain)
    refine .after (steady_lowerWithFlow _ _) fun result => ?_
    obtain ⟨value?, flow⟩ := result
    cases value? with
    | none => exact .refl _
    | some value =>
      dsimp only
      split
      · exact sameWhere_watchedStore value flow written
      · refine .after (steady_lowerExpression _) fun current? => ?_
        cases current? with
        | none => exact .refl _
        | some current =>
          refine .after (.of_alike fun _ _ => alike_coerce _ _ _) fun value => ?_
          exact .after (.lift (plain_binary _ _ _)) fun value => sameWhere_watchedStore value flow written
  · exact .refl _

theorem sameWhere_lowerIncrementWith {e : Expression} (conforms : e.conforms = true) (writes : e.isWrite = true)
    (inside : e.assignedNames ⊆ names) (flow : FlowOut) :
    SameWhere names (lowerIncrement c (inliner c levels) active e flow)
      (lowerIncrementWith c (watchedStore c astray) (inliner c levels) active e flow) := by
  show SameWhere names (lowerIncrementWith c (store c) _ _ _ _) _
  unfold lowerIncrementWith
  extract_lets delta?
  have counts (delta : Int32) (found : delta? = some delta) :
      Expression.writeOperators.contains e.operatorToken = true := by
    unfold delta? at found
    split at found
    · next token => rw [token]; rfl
    · next token => rw [token]; rfl
    · cases found
  split
  · exact .refl _
  · exact .refl _
  · next delta target rest found children =>
    have written (plain : target.unwrapped.kind = .identifier) : target.unwrapped.name.getD "" ∈ names :=
      inside (Expression.name_mem_assignedNames conforms writes (counts delta found) children plain)
    refine .after (steady_lowerExpression _) fun current? => ?_
    cases current? with
    | none => exact .refl _
    | some current =>
      refine .after (.lift (plain_binaryLiteral _ _ _)) fun value => ?_
      exact sameWhere_watchedStore value flow written

theorem sameWhere_lowerCanonicalLoop {l : CountingLoop} (canonical : l.isCanonical = true) {body body' : Body}
    (same : ∀ flow, SameWhere (Statement.assignedNames l.body) (body flow) (body' flow))
    (sub : Statement.assignedNames l.body ⊆ names) (flow : FlowOut) :
    SameWhere names (lowerCanonicalLoop c (inliner c levels) active l body flow)
      (lowerCanonicalLoop c (inliner c levels) active l body' flow) := by
  -- The node runs the loop only if the body leaves the counter alone.
  have unchanged : l.counter ∉ Statement.assignedNames l.body := by
    intro written
    have changed := Statement.assignedNames_subset_changedNames _ written
    simp [CountingLoop.isCanonical, changed] at canonical
  refine .after (steady_lowerExpression _) fun start? => .after (steady_lowerExpression _) fun stop? => ?_
  split
  · refine .after (.lift (plain_forLoop _)) fun native => .after (.lift (plain_connect _ _)) fun _ => ?_
    refine .after (.lift (plain_connect _ _)) fun _ => .after (.lift (plain_connectFlow _ _)) fun _ => ?_
    exact (same _).counting sub (fun _ _ => unchanged) _
  · exact .refl _

theorem sameWhere_lowerSteppedLoop {l : CountingLoop} {body body' : Body}
    (same : ∀ flow, SameWhere (Statement.assignedNames l.body) (body flow) (body' flow))
    (sub : Statement.assignedNames l.body ⊆ names) (flow : FlowOut) :
    SameWhere names (lowerSteppedLoop c (inliner c levels) active l body flow)
      (lowerSteppedLoop c (inliner c levels) active l body' flow) := by
  unfold lowerSteppedLoop
  extract_lets rest rest'
  have goesOn (outer? : Option Nat) : SameWhere names (rest outer?) (rest' outer?) := by
    refine .after (steady_lowerExpression _) fun start? => .after (steady_lowerExpression _) fun stop? => ?_
    split
    · refine .after (.of_alike fun _ _ => alike_loopEnd _ _) fun stop => .after (.lift plain_steppedFor) fun loop => ?_
      refine .after (.lift (plain_connect _ _)) fun _ => .after (.lift (plain_connect _ _)) fun _ => ?_
      refine .after (.of_alike fun _ _ => alike_lowerLoopStep (alike_inliner c levels active _) _ _) fun _ => ?_
      refine .after (.lift (plain_connectFlow _ _)) fun _ => (same _).counting sub (fun output value => ?_) _
      cases value
    · exact .refl _
  split
  · exact goesOn none
  · exact .after (.of_alike fun _ _ => alike_variableOf? _) goesOn

theorem sameWhere_lowerLoop {s : Statement} {body body' : Body}
    (same : ∀ flow, SameWhere (Statement.assignedNames (CountingLoop.bodyOf s)) (body flow) (body' flow))
    (sub : Statement.assignedNames (CountingLoop.bodyOf s) ⊆ names) (flow : FlowOut) :
    SameWhere names (lowerLoop c (inliner c levels) active s body flow)
      (lowerLoop c (inliner c levels) active s body' flow) := by
  unfold lowerLoop
  split
  · exact .refl _
  · next l found =>
    have of_s : l.body = CountingLoop.bodyOf s := CountingLoop.body_eq found
    rw [← of_s] at same sub
    split
    · exact .refl _
    · split
      · next canonical => exact sameWhere_lowerCanonicalLoop canonical same sub flow
      · exact sameWhere_lowerSteppedLoop same sub flow

theorem sameWhere_lowerBranch {s : Statement} {thenArm thenArm' elseArm elseArm' : Option Body}
    (steady : ∀ body ∈ thenArm, ∀ flow, Steady (body flow))
    (sameThen : Option.Rel (fun body body' => ∀ flow, SameWhere names (body flow) (body' flow)) thenArm thenArm')
    (sameElse : Option.Rel (fun body body' => ∀ flow, SameWhere names (body flow) (body' flow)) elseArm elseArm')
    (flow : FlowOut) :
    SameWhere names (lowerBranch c (inliner c levels) active s thenArm elseArm flow)
      (lowerBranch c (inliner c levels) active s thenArm' elseArm' flow) := by
  unfold lowerBranch
  split
  · exact .refl _
  · refine .after (steady_lowerExpression _) fun condition? => ?_
    cases condition? with
    | none => exact .refl _
    | some condition =>
      refine .after (.lift (plain_createNode _)) fun branch => .after (.lift (plain_connect _ _)) fun _ => ?_
      refine .after (.lift (plain_connectFlow _ _)) fun _ => .bind ?_ ?_ fun _ => .before ?_ _
      · cases sameThen with
        | some same => exact same _
        | none => exact .refl _
      · cases thenArm with
        | some body => exact steady body rfl _
        | none => exact .of_alike fun _ _ => .pure _
      · cases sameElse with
        | some same => exact same _
        | none => exact .refl _

section Steps

variable {s : Statement} {blocks blocks' : BlocksBelow s.size} (conforms : s.conforms = true)
  (steady : ∀ block small flow, Steady (blocks block small flow))
  (same : ∀ block small flow, Statement.conformsAll block = true →
    SameWhere (Statement.assignedNames block) (blocks block small flow) (blocks' block small flow))

include conforms same

theorem sameWhere_arm? (clause : StatementKind) :
    Option.Rel (fun body body' => ∀ flow, SameWhere (Statement.assignedNames [s]) (body flow) (body' flow))
      (arm? s blocks clause) (arm? s blocks' clause) := by
  unfold arm?
  split
  · next arm found =>
    have inside : arm ∈ s.children := List.mem_of_find?_eq_some found
    have conforms := Statement.conformsAll_iff.1 (Statement.conforms_children conforms) arm inside
    refine .some fun flow => (same _ _ flow (Statement.conforms_children conforms)).mono ?_
    have own : Statement.assignedNames [arm] ⊆ Statement.assignedNames s.children :=
      Statement.assignedNames_mono (by simpa using inside)
    exact List.Subset.trans (Statement.assignedNames_children arm)
      (List.Subset.trans own (Statement.assignedNames_children s))
  · exact .none

include steady

theorem sameWhere_statementStep (flow : FlowOut) :
    SameWhere (Statement.assignedNames [s]) (statementStep c (inliner c levels) active s blocks flow)
      (statementStep c (inliner c levels) active s blocks' flow) := by
  have inside := Statement.assignedNames_children s
  have children := Statement.conforms_children conforms
  unfold statementStep
  split
  · exact .refl _
  · exact .refl _
  · exact .refl _
  · refine sameWhere_lowerBranch ?_ (sameWhere_arm? conforms same _) (sameWhere_arm? conforms same _) flow
    intro body found flow
    unfold arm? at found
    split at found
    · cases found
      exact steady _ _ flow
    · cases found
  · exact .refl _
  · exact (same _ _ flow children).mono inside
  · have later : CountingLoop.bodyOf s ⊆ s.children := (List.dropWhile_suffix _).subset
    have conforms : Statement.conformsAll (CountingLoop.bodyOf s) = true :=
      Statement.conformsAll_iff.2 fun part member => Statement.conformsAll_iff.1 children part (later member)
    refine sameWhere_lowerLoop (fun flow => same _ _ flow conforms) ?_ flow
    exact List.Subset.trans (Statement.assignedNames_mono later) inside
  · exact .refl _

theorem sameWhere_statementStepWith (flow : FlowOut) :
    SameWhere (Statement.assignedNames [s]) (statementStep c (inliner c levels) active s blocks flow)
      (statementStepWith c (watchedStore c astray) (inliner c levels) active s blocks' flow) := by
  have rest : SameWhere (Statement.assignedNames [s]) (statementStep c (inliner c levels) active s blocks flow)
      (statementStep c (inliner c levels) active s blocks' flow) :=
    sameWhere_statementStep conforms steady same flow
  rw [← statementStepWith_store]
  unfold statementStepWith
  split
  · next e kind found =>
    have assigns : e.kind = .assignment := by
      rw [Statement.conforms_eq, kind, found] at conforms
      simp only [Bool.and_eq_true] at conforms
      simpa using conforms.1.1
    have inside := Statement.assignedNames_expression found
    exact .before (sameWhere_lowerAssignmentWith (Statement.conforms_expression conforms found) assigns inside flow) _
  · next e kind found =>
    have conforms := Expression.conforms_unwrapped (Statement.conforms_expression conforms found)
    have inside : e.unwrapped.assignedNames ⊆ Statement.assignedNames [s] :=
      List.Subset.trans (Expression.assignedNames_unwrapped_subset e) (Statement.assignedNames_expression found)
    split
    · next assigns => exact .before (sameWhere_lowerAssignmentWith conforms assigns inside flow) _
    · next counted =>
      have writes : e.unwrapped.isWrite = true := by simp [Expression.isWrite, counted]
      exact .before (sameWhere_lowerIncrementWith conforms writes inside flow) _
    · next counted =>
      have writes : e.unwrapped.isWrite = true := by simp [Expression.isWrite, counted]
      exact .before (sameWhere_lowerIncrementWith conforms writes inside flow) _
    · exact rest
  · exact rest

end Steps

mutual

theorem sameWhere_lowerStatementBy (s : Statement) (conforms : s.conforms = true) (flow : FlowOut) :
    SameWhere (Statement.assignedNames [s]) (lowerStatement c (inliner c levels) active s flow)
      (lowerStatementBy (statementStepWith c (watchedStore c astray) (inliner c levels) active) s flow) := by
  rw [lowerStatement, lowerStatementBy]
  refine sameWhere_statementStepWith conforms (fun block _ flow => ?_) (fun block _ flow conforms => ?_) flow
  · exact .of_alike fun _ _ => alike_lowerBlock (alike_inliner c levels active _) block _
  · exact sameWhere_lowerBlockBy block conforms _
termination_by (s.size, 1)
decreasing_by exact Prod.Lex.left _ _ (by assumption)

/-- A block that conforms is the same with the watched writes where the names that it writes are not bound. -/
theorem sameWhere_lowerBlockBy (block : List Statement) (conforms : Statement.conformsAll block = true)
    (before : Exits) :
    SameWhere (Statement.assignedNames block) (lowerBlock c (inliner c levels) active block before)
      (lowerBlockBy (statementStepWith c (watchedStore c astray) (inliner c levels) active) block before) := by
  match block, conforms with
  | [], _ =>
    rw [lowerBlock, lowerBlockBy]
    exact .refl _
  | s :: rest, conforms =>
    rw [lowerBlock_cons, lowerBlockBy, Statement.assignedNames_cons]
    rw [Statement.conformsAll, Bool.and_eq_true] at conforms
    refine .after (.of_alike fun _ _ => alike_entering before) fun entering? => ?_
    cases entering? with
    | none => exact .refl _
    | some entry =>
      -- Names stay free from one statement to the next, since statements bind no names for good.
      refine .bind ((sameWhere_lowerStatementBy s conforms.1 entry).mono (List.subset_append_left _ _)) ?_ fun exits =>
        (sameWhere_lowerBlockBy rest conforms.2 _).mono (List.subset_append_right _ _)
      exact .of_alike fun _ _ => alike_lowerStatement (alike_inliner c levels active _) s entry
termination_by (Statement.sizeAll block, 2 * block.length)
decreasing_by
  · rw [Statement.sizeAll, Prod.lex_def, List.length_cons]
    omega
  · have := Statement.size_pos s
    rw [Statement.sizeAll]
    exact Prod.Lex.left _ _ (by omega)

end

end Statements

section Bodies

variable {astray : Expression → ValueOut → FlowOut → Lower FlowOut}

theorem bound?_declareLocal (name : String) (type : ValueType) (s : Lowering) :
    (declareLocal name type s).2.bound? name = none := by
  obtain ⟨context, fields, lists, frames, tick⟩ := s
  cases frames with
  | nil => rfl
  | cons frame frames =>
    show (frame.bindings.erase name).find? name = none
    rw [Dict.find?_erase, if_pos rfl]

/-- Once the parameters that a body writes are variables, none of the names that it writes is bound. -/
theorem frees_copyParameters (written : List String) (all : Bool) {parameters : List Parameter}
    (typed : ∀ parameter ∈ parameters, parameter.paramType.storageType?.isSome) (flow : FlowOut) {s : Lowering}
    (only : ∀ name ∈ written, s.bound? name ≠ none → name ∈ parameters.map (·.name)) :
    Ensures (copyParameters written all parameters flow) s fun _ s' => s'.Frees written := by
  induction parameters generalizing flow s with
  | nil => exact .pure fun name member => by_contra fun bound => List.not_mem_nil (only name member bound)
  | cons parameter parameters ih =>
    rw [List.forall_mem_cons] at typed
    -- It is enough that the parameter is not bound any more, if the body writes it.
    have goesOn (flow : FlowOut) {s' : Lowering} (less : ∀ name ∈ written, s'.bound? name ≠ none →
        name ≠ parameter.name ∧ s.bound? name ≠ none) :
        Ensures (copyParameters written all parameters flow) s' fun _ s'' => s''.Frees written := by
      refine ih typed.2 flow fun name member bound => ?_
      obtain ⟨other, bound⟩ := less name member bound
      exact (List.mem_cons.1 (only name member bound)).resolve_left other
    have here : Ensures frame? s fun frame s' => frame = s.frames.head? ∧ s = s' := ⟨rfl, rfl⟩
    refine here.bind ?_
    rintro _ _ ⟨rfl, rfl⟩
    split
    · next value type found known =>
      split
      · have declared : Ensures (declareLocal parameter.name type) s fun _ s' =>
            s'.bound? parameter.name = none ∧ s.Continues s' :=
          ⟨bound?_declareLocal _ _ s, continues_of_alike (alike_declareLocal _ _)⟩
        refine declared.bind fun id s' ⟨free, continues⟩ => ?_
        have stored : Ensures (storeVariable id value flow) s' fun _ s'' => s'.Continues s'' :=
          continues_of_alike (alike_storeVariable _ _ _)
        refine stored.bind fun flow s'' continues' => goesOn flow fun name member bound => ?_
        have bound' : s'.bound? name ≠ none := fun free => bound (continues'.bound? free)
        exact ⟨fun same => bound' (same ▸ free), fun free => bound' (continues.bound? free)⟩
      · next unwritten =>
        refine goesOn flow fun name member bound => ⟨?_, bound⟩
        rintro rfl
        simp [member] at unwritten
    · next missing =>
      refine goesOn flow fun name member bound => ⟨?_, bound⟩
      rintro rfl
      obtain ⟨value, found⟩ := Option.ne_none_iff_exists'.1 bound
      obtain ⟨type, known⟩ := Option.isSome_iff_exists.1 typed.1
      exact missing value type found known

theorem withFrame_congr {α : Type} {frame : Frame} {x y : Lower α}
    (same : ∀ s : Lowering, s.frames.head? = some frame → x s = y s) : withFrame frame x = withFrame frame y := by
  funext s
  exact congrArg (fun r : α × Lowering => (r.1, { r.2 with frames := r.2.frames.tail }))
    (same { s with frames := frame :: s.frames } rfl)

/-- In the frame of a method, with its parameters taken over, its body writes no bound name. -/
theorem withFrame_body (c : ScriptClass) (active : List String)
    (astray : Expression → ValueOut → FlowOut → Lower FlowOut) {method : Method} (conforms : method.conforms = true)
    (frame : Frame) (only : BindsOnly method.parameters frame.bindings) (all : Bool) (flow : FlowOut) (levels : Nat) :
    withFrame frame (do
        let entry ← copyParameters (Statement.assignedNames method.body) all method.parameters flow
        lowerBlockBy (statementStepWith c (watchedStore c astray) (inliner c levels) active) method.body (.one entry)) =
      withFrame frame (do
        let entry ← copyParameters (Statement.assignedNames method.body) all method.parameters flow
        lowerBlock c (inliner c levels) active method.body (.one entry)) := by
  rw [Method.conforms, Bool.and_eq_true, List.all_eq_true] at conforms
  refine withFrame_congr fun s here => ?_
  have frees : Ensures (copyParameters (Statement.assignedNames method.body) all method.parameters flow) s
      fun _ s' => s'.Frees (Statement.assignedNames method.body) := by
    refine frees_copyParameters _ all conforms.1 flow fun name _ bound => ?_
    by_contra other
    rw [Lowering.bound?, here] at bound
    exact bound (only name other)
  exact sameWhere_lowerBlockBy method.body conforms.2 _ _ frees

theorem statementStepWith_watched {inliner inliner' : Inliner} (agrees : InlinesAs c inliner inliner') :
    statementStepWith c (watchedStore c astray) inliner' active =
      statementStepWith c (watchedStore c astray) inliner active := by
  refine statementStepWith_congr agrees ?_
  funext target value flow s
  rw [watchedStore, watchedStore, store_congr agrees]

/-- The inliner of watched bodies inlines as the real one does. -/
theorem agrees_watched (conforms : c.conforms = true) : ∀ levels : Nat,
    InlinesAs c (inliner c levels) (inlinerWith c (watchedStore c astray) levels)
  | 0 => ⟨rfl, fun _ _ _ _ _ _ => rfl⟩
  | levels + 1 => by
    have below : InlinesAs c (inliner c levels) (inlinerWith c (watchedStore c astray) levels) :=
      agrees_watched conforms levels
    refine ⟨?_, fun callee declared frame only active flow => ?_⟩
    · funext active e
      exact lowerExpression_congr below.value e
    · have same := withFrame_body c (callee.name :: active) astray (List.all_eq_true.1 conforms callee declared)
        frame only true flow levels
      rw [← statementStepWith_watched below] at same
      exact same

theorem bindsOnly_bindParameters {receive : NodeId} {parameters : List Parameter} {name : String}
    (other : name ∉ parameters.map (·.name)) {bindings : Dict ValueOut} (unbound : bindings.find? name = none)
    (s : Lowering) :
    Ensures (bindParameters receive parameters bindings) s fun bindings _ => bindings.find? name = none := by
  induction parameters generalizing bindings s with
  | nil => exact .pure unbound
  | cons parameter parameters ih =>
    rw [List.map_cons, List.mem_cons, not_or] at other
    have inserted : (bindings.insert parameter.name (receive.valueOut parameter.name)).find? name = none := by
      rw [Dict.find?_insert, if_neg other.1, unbound]
    unfold bindParameters
    dsimp only
    split
    · exact ih other.2 inserted _
    · exact ih other.2 inserted s

/-- With an event come its parameters, and nothing else. -/
theorem bindsOnly_openEntryPoint (method : Method) (s : Lowering) :
    Ensures (openEntryPoint method) s fun start _ => BindsOnly method.parameters start.2 := by
  unfold openEntryPoint
  split
  · exact fun _ _ => rfl
  · exact fun _ _ => rfl
  · exact fun name other => bindsOnly_bindParameters other rfl _

theorem lowerEntryPointWith_watched (conforms : c.conforms = true) {method : Method} (declared : method ∈ c.methods) :
    lowerEntryPointWith (writingBody c (watchedStore c astray)) method = lowerEntryPointWith (inlinedBody c) method := by
  refine bind_congr fun _ => bind_congr_of (P := fun start => BindsOnly method.parameters start.2)
    (bindsOnly_openEntryPoint method) fun ⟨flow, bindings⟩ only => bind_congr fun s => ?_
  have same := withFrame_body c [] astray (List.all_eq_true.1 conforms method declared)
    ⟨method.name, bindings, Dict.empty, none⟩ only false flow s.context.options.maxInlineDepth
  rw [← statementStepWith_watched (agrees_watched conforms _)] at same
  exact same

/-- No class that conforms can tell the watched writes from the real ones. -/
theorem lowerClassWith_watchedStore (conforms : c.conforms = true) :
    lowerClassWith c (writingBody c (watchedStore c astray)) = lowerClass c := by
  rw [← lowerClassWith_inlinedBody]
  exact lowerClassWith_congr fun method declared => lowerEntryPointWith_watched conforms declared

end Bodies

section Reads

/-- A read of a variable as the value of an expression. -/
def readVariable (id : Nat) : Lower (Option ValueOut) := do
  return some (← getVariable id)

/-- A name that is not bound is read where a write of it goes. -/
theorem lowerIdentifier_of_variableOf? (c : ScriptClass) {e : Expression} {s : Lowering} {id : Nat}
    (free : s.bound? (e.name.getD "") = none) (found : (variableOf? (e.name.getD "") s).1 = some id) :
    lowerIdentifier c e s = readVariable id s := by
  have found : (s.frames.head?.bind (·.locals.find? (e.name.getD ""))).or (s.fields.find? (e.name.getD "")) =
      some id := found
  have free : s.frames.head?.bind (·.bindings.find? (e.name.getD "")) = none := free
  simp only [lowerIdentifier, frame?, readVariable, bind, StateT.bind, get, getThe, MonadStateOf.get, StateT.get, pure,
    StateT.pure, free, found]

end Reads

/-- A plain name is read where it is written. All writes of a class go through `store`; whatever is done instead of a
write to a bound name, the class is lowered the same; and where a name is not bound, what is read before and after a
write of it is the variable that is written. -/
theorem written_names_are_read (c : ScriptClass) (conforms : c.conforms = true) :
    lowerClassWith c (writingBody c (store c)) = lowerClass c ∧
    (∀ (options : Options) (targets : Targets) (astray : Expression → ValueOut → FlowOut → Lower FlowOut),
      lowerClassWith c (writingBody c (watchedStore c astray)) (ScriptClass.startOfLowering options targets) =
        lowerClass c (ScriptClass.startOfLowering options targets)) ∧
    ∀ (inliner : Inliner) (active : List String) (target : Expression) (value : ValueOut) (flow : FlowOut)
      (s : Lowering) (id : Nat), target.kind = .identifier → s.bound? (target.name.getD "") = none →
      (variableOf? (target.name.getD "") s).1 = some id →
        store c inliner active target value flow s = storeVariable id value flow s ∧
        lowerIdentifier c target s = readVariable id s ∧
        lowerIdentifier c target (storeVariable id value flow s).2 =
          readVariable id (storeVariable id value flow s).2 := by
  have faithful : lowerClassWith c (writingBody c (store c)) = lowerClass c := by
    rw [writingBody_store, lowerClassWith_inlinedBody]
  refine ⟨faithful, fun options targets astray => congrFun (lowerClassWith_watchedStore conforms) _, ?_⟩
  intro inliner active target value flow s id plain free found
  have free' : (storeVariable id value flow s).2.bound? (target.name.getD "") = none := free
  have asked : variableOf? (target.name.getD "") s = (some id, s) := Prod.ext found rfl
  refine ⟨?_, lowerIdentifier_of_variableOf? c free found, lowerIdentifier_of_variableOf? c free' found⟩
  simp only [store, plain, bind, StateT.bind, asked]

end Lower

namespace Tally

/-- A number. -/
def number (n : Int) : Expression :=
  { kind := .literal, literal := some (.int n), resultType := some { name := "int" } }

/-- A name of a number. -/
def name (n : String) : Expression :=
  { kind := .identifier, name := some n, resultType := some { name := "int" } }

/-- A write of a number. -/
def assign (operator target : String) (e : Expression) : Statement :=
  { kind := .expression
    expressions := [{ kind := .assignment, operator := some operator, resultType := some { name := "int" },
                      children := [name target, e] }] }

/-- The loop `for (int i = 0; i < 2; i++) n += i;`. -/
def loop : Statement :=
  { kind := .forLoop
    children := [
      { kind := .forInitializer
        children := [{
          kind := .declaration
          children := [{
            kind := .variableDeclarator
            expressions := [name "i"]
            children := [{ kind := .initializer, expressions := [number 0] }] }] }] },
      { kind := .forCondition
        expressions := [{ kind := .binary, operator := some "<", resultType := some { name := "bool" },
                          children := [name "i", number 2] }] },
      { kind := .forIncrementor
        expressions := [{ kind := .postfixUnary, operator := some "++", children := [name "i"] }] },
      assign "+=" "n" (name "i")] }

/-- A class whose method `Add(n)` adds to its parameter in a loop and keeps the sum; it starts with `Add(3)`. -/
def cls : ScriptClass :=
  { name := "Tally"
    fields := [{ name := "total", fieldType := { name := "int" } }]
    methods := [
      { name := "Start"
        body := [{
          kind := .expression
          expressions := [{ kind := .methodInvocation
                            method := some { name := "Add", declaringType := { name := "Tally" } }
                            children := [{ kind := .this }, number 3] }] }] },
      { name := "Add"
        parameters := [{ name := "n", paramType := { name := "int" } }]
        body := [loop, assign "=" "total" (name "n")] }] }

/-- A state in the body of `Add`, where the parameter is variable 1. -/
def inside : Lowering :=
  { fields := .ofList [("total", 0)], frames := [{ method := "Add", locals := .ofList [("n", 1)] }, { method := "Start" }] }

/-- The parameter of the inlined method is written in its loop and read after it. -/
theorem sum_is_read : cls.conforms = true ∧
    (∀ astray, Lower.lowerClassWith cls (Lower.writingBody cls (Lower.watchedStore cls astray))
      (ScriptClass.startOfLowering {} {}) = Lower.lowerClass cls (ScriptClass.startOfLowering {} {})) ∧
    ∀ value flow, Lower.lowerIdentifier cls (name "n") (Lower.storeVariable 1 value flow inside).2 =
      Lower.readVariable 1 (Lower.storeVariable 1 value flow inside).2 := by
  have conforms : cls.conforms = true := by decide
  obtain ⟨-, watched, reads⟩ := Lower.written_names_are_read cls conforms
  refine ⟨conforms, fun astray => watched {} {} astray, fun value flow => ?_⟩
  exact (reads (Lower.inliner cls 8) ["Add"] (name "n") value flow inside 1 rfl rfl rfl).2.2

end Tally

end ScriptGraph
