import Mathlib
import ScriptGraph.Proofs.Lower.Scopes.Values
import ScriptGraph.Proofs.Lower.WrittenNames

/-!
A statement leaves the names alone that it does not declare.

Locals live until the end of their method, whatever block declares them. Only the counter of a loop is taken back
behind the loop, so what the header declares does not count.
-/

namespace ScriptGraph

open Pattern Build

namespace Statement

mutual

/-- The names that a statement declares at any depth, without those in the headers of its loops. -/
def declaredNames : Statement → List String
  | ⟨kind, children, expressions⟩ =>
    (if kind = .variableDeclarator then (expressions.head?.bind (·.name)).toList else []) ++
      declaredNamesAll children

/-- The names that statements declare. -/
def declaredNamesAll : List Statement → List String
  | [] => []
  | s :: rest => (if CountingLoop.isHeader s then [] else s.declaredNames) ++ declaredNamesAll rest

end

variable {s t : Statement} {block block' : List Statement}

theorem declaredNamesAll_children_subset (s : Statement) : declaredNamesAll s.children ⊆ s.declaredNames := by
  obtain ⟨kind, children, expressions⟩ := s
  rw [declaredNames]
  exact List.subset_append_right _ _

theorem declaredNames_subset_of_mem (member : t ∈ block) (part : ¬ CountingLoop.isHeader t = true) :
    t.declaredNames ⊆ declaredNamesAll block := by
  induction block with
  | nil => cases member
  | cons s rest ih =>
    rw [declaredNamesAll]
    rcases List.mem_cons.1 member with rfl | later
    · rw [if_neg part]
      exact List.subset_append_left _ _
    · exact List.Subset.trans (ih later) (List.subset_append_right _ _)

theorem declaredNamesAll_subset_of_sublist (sub : block.Sublist block') :
    declaredNamesAll block ⊆ declaredNamesAll block' := by
  induction sub with
  | slnil => exact List.Subset.refl _
  | cons s _ ih =>
    rw [declaredNamesAll]
    exact List.Subset.trans ih (List.subset_append_right _ _)
  | cons_cons s _ ih =>
    rw [declaredNamesAll, declaredNamesAll]
    exact List.append_subset.2 ⟨List.subset_append_left _ _, List.Subset.trans ih (List.subset_append_right _ _)⟩

theorem declaredNamesAll_clause_subset {clause : StatementKind} (found : s.child? clause = some t)
    (part : clause ≠ .forInitializer ∧ clause ≠ .forCondition ∧ clause ≠ .forIncrementor) :
    declaredNamesAll t.children ⊆ s.declaredNames := by
  have kind : t.kind = clause := kind_of_child? found
  have inside : ¬ CountingLoop.isHeader t = true := by
    simpa [CountingLoop.isHeader, kind, and_assoc] using part
  refine List.Subset.trans t.declaredNamesAll_children_subset (List.Subset.trans ?_ s.declaredNamesAll_children_subset)
  exact declaredNames_subset_of_mem (List.mem_of_find?_eq_some found) inside

/-- A declarator declares its name. -/
theorem name_mem_declaredNames {e : Expression} {name : String} (kind : t.kind = .variableDeclarator)
    (declared : t.expression? = some e) (named : e.name = some name) : name ∈ t.declaredNames := by
  obtain ⟨_, children, expressions⟩ := t
  obtain rfl : _ = StatementKind.variableDeclarator := kind
  have found : expressions.head? = some e := declared
  rw [declaredNames, if_pos rfl, found]
  simp [named]

end Statement

namespace Lower

variable {names : List String} {c : ScriptClass} {inliner : Inliner} {active : List String}

section Writes

variable (inlined : inliner.Keeps)

include inlined

theorem keeps_storeMember (target : Expression) (value : ValueOut) (flow : FlowOut) :
    Keeps names (storeMember c inliner active target value flow) := by
  unfold storeMember
  split
  · exact .note _ _ _
  · refine .getBind fun s => ?_
    dsimp only
    split
    · exact keeps_storeVariable _ _ _
    · exact .note _ _ _
    · refine .bind (keeps_lowerReceiver fun e _ => keeps_lowerExpression inlined e) fun object => ?_
      exact .bind (.lift _) fun _ => .bind (.lift _) fun _ => .bind (.lift _) fun _ => .bind (.lift _) fun _ => .pure _

theorem keeps_storeElement (target : Expression) (value : ValueOut) (flow : FlowOut) :
    Keeps names (storeElement c inliner active target value flow) := by
  unfold storeElement
  split
  · refine .bindOption (keeps_listName? _) (.note _ _ _) fun name => ?_
    refine .bindOption (keeps_lowerExpression inlined _) (.pure _) fun index => ?_
    refine .bindOption (keeps_onList? name _) (.pure _) fun write => ?_
    exact .bind (.lift _) fun _ => .bind (.lift _) fun _ => .bind (.lift _) fun _ => .pure _
  · exact .note _ _ _

theorem keeps_store (target : Expression) (value : ValueOut) (flow : FlowOut) :
    Keeps names (store c inliner active target value flow) := by
  unfold store
  split
  · have found : Keeps names (variableOf? (target.name.getD "")) :=
      .bind keeps_frame? fun _ => .getBind fun _ => .pure _
    exact .bindOption found (.note _ _ _) fun id => keeps_storeVariable id _ _
  · exact keeps_storeMember inlined _ _ _
  · exact keeps_storeElement inlined _ _ _
  · exact .note _ _ _

theorem keeps_lowerAssignment (e : Expression) (flow : FlowOut) :
    Keeps names (lowerAssignment c inliner active e flow) := by
  unfold lowerAssignment
  split
  · refine .bind (keeps_lowerWithFlow inlined _ _) fun result => ?_
    obtain ⟨value?, flow⟩ := result
    cases value? with
    | none => exact .pure _
    | some value =>
      dsimp only
      split
      · exact keeps_store inlined _ _ _
      · refine .bindOption (keeps_lowerExpression inlined _) (.pure _) fun current => ?_
        exact .bind (keeps_coerce _ _ _) fun _ => .bind (.lift _) fun _ => keeps_store inlined _ _ _
  · exact .note _ _ _

theorem keeps_lowerIncrement (e : Expression) (flow : FlowOut) :
    Keeps names (lowerIncrement c inliner active e flow) := by
  unfold lowerIncrement
  dsimp only
  split
  · exact .note _ _ _
  · exact .note _ _ _
  · exact .bindOption (keeps_lowerExpression inlined _) (.pure _) fun _ =>
      .bind (.lift _) fun _ => keeps_store inlined _ _ _

theorem keeps_lowerWait (e : Expression) (flow : FlowOut) : Keeps names (lowerWait c inliner active e flow) := by
  unfold lowerWait
  dsimp only
  split
  · exact .note _ _ _
  · split
    · refine .bindOption (keeps_lowerExpression inlined _) (.note _ _ _) fun condition => ?_
      refine .getBind fun s => .bind (.lift _) fun wait => .bind (.setTick _) fun _ => ?_
      exact .bind (.lift _) fun _ => .bind (.lift _) fun _ => .pure _
    · exact .note _ _ _

theorem keeps_lowerCallStatement (e : Expression) (flow : FlowOut) :
    Keeps names (lowerCallStatement c inliner active e flow) :=
  .bind (keeps_lowerCall inlined _ _) fun _ => .pure _

theorem keeps_lowerExpressionStatement (s : Statement) (flow : FlowOut) :
    Keeps names (lowerExpressionStatement c inliner active s flow) := by
  unfold lowerExpressionStatement
  split
  · exact .note _ _ _
  · dsimp only
    split
    · exact keeps_lowerCallStatement inlined _ _
    · split
      · split
        · exact keeps_lowerCallStatement inlined _ _
        · split
          · exact keeps_lowerWait inlined _ _
          · exact .note _ _ _
      · exact .note _ _ _
    · exact keeps_lowerAssignment inlined _ _
    · exact keeps_lowerIncrement inlined _ _
    · exact keeps_lowerIncrement inlined _ _
    · exact .note _ _ _

/-- Declarators concern the names that they declare. -/
theorem keeps_lowerDeclarators (declarators : List Statement) (flow : FlowOut)
    (declared : ∀ declarator ∈ declarators, ∀ e name, declarator.expression? = some e → e.name = some name →
      name ∈ names) : Keeps names (lowerDeclarators c inliner active declarators flow) := by
  induction declarators generalizing flow with
  | nil => exact .pure flow
  | cons declarator rest ih =>
    have ih (flow : FlowOut) := ih flow fun declarator member => declared declarator (List.mem_cons_of_mem _ member)
    unfold lowerDeclarators
    split
    · exact .bind (.lift _) fun _ => ih flow
    · next e name found =>
      obtain ⟨e', first, named⟩ := Option.bind_eq_some_iff.1 found
      obtain ⟨name', called, same⟩ := Option.map_eq_some_iff.1 named
      cases same
      have member : name ∈ names := declared declarator List.mem_cons_self e name first called
      dsimp only
      split
      · exact .bind (.lift _) fun _ => ih flow
      · exact .bind (.declareLocal member _) fun _ => ih flow
      · refine .bind (.declareLocal member _) fun id => .bind (keeps_lowerWithFlow inlined _ _) fun result => ?_
        obtain ⟨value?, flow⟩ := result
        cases value? with
        | none => exact ih flow
        | some value => exact .bind (keeps_storeVariable _ _ _) fun flow => ih flow

theorem keeps_lowerDeclaration (s : Statement) (flow : FlowOut) :
    Keeps s.declaredNames (lowerDeclaration c inliner active s flow) := by
  refine keeps_lowerDeclarators inlined _ flow fun declarator member e name first named => ?_
  obtain ⟨child, kind⟩ := List.mem_filter.1 member
  have kind : declarator.kind = .variableDeclarator := of_decide_eq_true kind
  have part : ¬ CountingLoop.isHeader declarator = true := by simp [CountingLoop.isHeader, kind]
  exact s.declaredNamesAll_children_subset
    (Statement.declaredNames_subset_of_mem child part (Statement.name_mem_declaredNames kind first named))

theorem keeps_lowerReturn (s : Statement) (flow : FlowOut) : Keeps names (lowerReturn c inliner active s flow) := by
  refine .bind keeps_frame? fun frame => ?_
  split
  · refine .bind (keeps_lowerWithFlow inlined _ _) fun result => ?_
    obtain ⟨value?, flow⟩ := result
    cases value? with
    | none => exact .pure _
    | some value => exact .bind (keeps_storeVariable _ _ _) fun _ => .pure _
  · exact .pure _

end Writes

section Loops

variable (inlined : inliner.Keeps) {body : Body} (keeps : ∀ flow, Keeps names (body flow))

include inlined keeps

theorem keeps_lowerCanonicalLoop (l : CountingLoop) (flow : FlowOut) :
    Keeps names (lowerCanonicalLoop c inliner active l body flow) := by
  refine .bind (keeps_lowerExpression inlined _) fun start? => .bind (keeps_lowerExpression inlined _) fun stop? => ?_
  split
  · refine .bind (.lift _) fun native => .bind (.lift _) fun _ => .bind (.lift _) fun _ => .bind (.lift _) fun _ => ?_
    exact .counting _ _ (keeps _) fun _ => .pure _
  · exact .pure _

omit keeps in
theorem keeps_lowerLoopStep (step : ValueIn) (amount : LoopStep) :
    Keeps names (lowerLoopStep c inliner active step amount) := by
  cases amount with
  | constant amount => exact .lift _
  | computed amount negate =>
    refine .bindOption (keeps_lowerExpression inlined amount) (.pure ()) fun value => ?_
    dsimp only
    split
    · exact .bind (.lift _) fun _ => .lift _
    · exact .bind (.pure _) fun _ => .lift _

theorem keeps_lowerSteppedLoop (l : CountingLoop) (flow : FlowOut) :
    Keeps names (lowerSteppedLoop c inliner active l body flow) := by
  have stops (bound : ValueOut) : Keeps names (loopEnd l.comparison bound) := by
    unfold loopEnd
    split <;> first | exact .pure _ | exact .lift _
  unfold lowerSteppedLoop
  extract_lets rest
  have goesOn (outer? : Option Nat) : Keeps names (rest outer?) := by
    refine .bind (keeps_lowerExpression inlined _) fun start? => ?_
    refine .bind (keeps_lowerExpression inlined _) fun bound? => ?_
    split
    · refine .bind (stops _) fun stop => .bind (.lift _) fun loop => ?_
      refine .bind (.lift _) fun _ => .bind (.lift _) fun _ => ?_
      refine .bind (keeps_lowerLoopStep inlined _ _) fun _ => .bind (.lift _) fun _ => ?_
      refine .counting _ _ (keeps _) fun exits => .bind (keeps_connectFlows _ _) fun _ => ?_
      cases outer? with
      | none => exact .pure _
      | some id => exact .bind (keeps_storeVariable _ _ _) fun _ => .pure _
    · exact .pure _
  split
  · exact goesOn none
  · exact .bind (.bind keeps_frame? fun _ => .getBind fun _ => .pure _) goesOn

theorem keeps_lowerLoop (s : Statement) (flow : FlowOut) : Keeps names (lowerLoop c inliner active s body flow) := by
  unfold lowerLoop
  split
  · exact .note _ _ _
  · split
    · exact .note _ _ _
    · split
      · exact keeps_lowerCanonicalLoop inlined keeps _ flow
      · exact keeps_lowerSteppedLoop inlined keeps _ flow

end Loops

section Blocks

theorem keeps_entering (before : Exits) : Keeps names (entering before) := by
  unfold entering
  split
  · exact .pure none
  · exact .pure _
  · exact .bind (.bind (.lift _) fun _ => .bind (keeps_connectFlows _ _) fun _ => .pure _) fun _ => .pure _

theorem keeps_lowerBranch (inlined : inliner.Keeps) (s : Statement) {thenArm elseArm : Option Body}
    (keepsThen : ∀ body ∈ thenArm, ∀ flow, Keeps names (body flow))
    (keepsElse : ∀ body ∈ elseArm, ∀ flow, Keeps names (body flow)) (flow : FlowOut) :
    Keeps names (lowerBranch c inliner active s thenArm elseArm flow) := by
  unfold lowerBranch
  split
  · exact .note _ _ _
  · refine .bindOption (keeps_lowerExpression inlined _) (.note _ _ _) fun condition => ?_
    refine .bind (.lift _) fun branch => .bind (.lift _) fun _ => .bind (.lift _) fun _ => ?_
    refine .bind ?_ fun _ => .bind ?_ fun _ => .pure _
    · cases thenArm with
      | some body => exact keepsThen body rfl _
      | none => exact .pure _
    · cases elseArm with
      | some body => exact keepsElse body rfl _
      | none => exact .pure _

/-- The arms of a branch stand among its children, outside of any header. -/
theorem keeps_arm? {s : Statement} {blocks : BlocksBelow s.size}
    (keeps : ∀ block small flow, Keeps (Statement.declaredNamesAll block) (blocks block small flow))
    {clause : StatementKind}
    (part : clause ≠ .forInitializer ∧ clause ≠ .forCondition ∧ clause ≠ .forIncrementor) :
    ∀ body ∈ arm? s blocks clause, ∀ flow, Keeps s.declaredNames (body flow) := by
  intro body member flow
  unfold arm? at member
  split at member
  · next t child =>
    obtain rfl := Option.mem_some.1 member
    exact (keeps _ _ _).mono (Statement.declaredNamesAll_clause_subset child part)
  · cases member

/-- A statement concerns the names that it declares, if the blocks in it do. -/
theorem keeps_statementStep (inlined : inliner.Keeps) (s : Statement) {blocks : BlocksBelow s.size}
    (keeps : ∀ block small flow, Keeps (Statement.declaredNamesAll block) (blocks block small flow)) (flow : FlowOut) :
    Keeps s.declaredNames (statementStep c inliner active s blocks flow) := by
  unfold statementStep
  split
  · exact .bind (keeps_lowerExpressionStatement inlined _ _) fun _ => .pure _
  · exact .bind (keeps_lowerDeclaration inlined _ _) fun _ => .pure _
  · split
    · exact .bind (keeps_lowerAssignment inlined _ _) fun _ => .pure _
    · exact .note _ _ _
  · exact keeps_lowerBranch inlined s (keeps_arm? keeps (by decide)) (keeps_arm? keeps (by decide)) flow
  · exact keeps_lowerReturn inlined _ _
  · exact (keeps _ _ flow).mono s.declaredNamesAll_children_subset
  · refine keeps_lowerLoop inlined (fun flow => (keeps _ _ flow).mono ?_) s flow
    exact List.Subset.trans (Statement.declaredNamesAll_subset_of_sublist (List.dropWhile_sublist _))
      s.declaredNamesAll_children_subset
  · exact .note _ _ _

/-- A part of a header is no statement, and declares nothing on its own. -/
theorem keeps_lowerStatement_of_header {s : Statement} (header : CountingLoop.isHeader s = true) (flow : FlowOut) :
    Keeps names (lowerStatement c inliner active s flow) := by
  rw [lowerStatement]
  simp only [CountingLoop.isHeader, Bool.or_eq_true, decide_eq_true_eq] at header
  rcases header with (kind | kind) | kind <;> simp only [statementStep, kind] <;> exact .note _ _ _

mutual

theorem keeps_lowerStatement (inlined : inliner.Keeps) (s : Statement) (flow : FlowOut) :
    Keeps s.declaredNames (lowerStatement c inliner active s flow) := by
  rw [lowerStatement]
  exact keeps_statementStep inlined s (fun block _ flow => keeps_lowerBlock inlined block (.one flow)) flow
termination_by (s.size, 1)
decreasing_by exact Prod.Lex.left _ _ (by assumption)

theorem keeps_lowerBlock (inlined : inliner.Keeps) (block : List Statement) (before : Exits) :
    Keeps (Statement.declaredNamesAll block) (lowerBlock c inliner active block before) := by
  match block with
  | [] =>
    rw [lowerBlock]
    exact .pure before
  | s :: rest =>
    rw [lowerBlock_cons]
    have first (entry : FlowOut) :
        Keeps (Statement.declaredNamesAll (s :: rest)) (lowerStatement c inliner active s entry) := by
      by_cases header : CountingLoop.isHeader s = true
      · exact keeps_lowerStatement_of_header header entry
      · exact (keeps_lowerStatement inlined s entry).mono
          (Statement.declaredNames_subset_of_mem List.mem_cons_self header)
    refine .bindOption (keeps_entering before) (.note _ _ _) fun entry => .bind (first entry) fun exits => ?_
    exact (keeps_lowerBlock inlined rest _).mono
      (Statement.declaredNamesAll_subset_of_sublist (List.sublist_cons_self s rest))
termination_by (Statement.sizeAll block, 2 * block.length)
decreasing_by
  · rw [Statement.sizeAll, Prod.lex_def, List.length_cons]
    omega
  · have := Statement.size_pos s
    rw [Statement.sizeAll]
    exact Prod.Lex.left _ _ (by omega)

end

/-- What is inlined keeps to its own frame, however deep calls are nested. -/
theorem keeps_inliner (c : ScriptClass) : ∀ levels : Nat, (Lower.inliner c levels).Keeps
  | 0 => ⟨fun _ _ => ⟨[], fun _ => .pure _⟩, fun _ _ => .pure _⟩
  | levels + 1 =>
    { block := fun _ block =>
        ⟨Statement.declaredNamesAll block, fun _ => keeps_lowerBlock (keeps_inliner c levels) block _⟩
      value := fun _ e => keeps_lowerExpression (keeps_inliner c levels) e }

end Blocks

end Lower

/-- What a name is read as. -/
inductive Meaning where
  | value (output : ValueOut)
  | variable (id : Nat)
deriving DecidableEq

/-- What reading it gives. -/
def Meaning.output : Meaning → Lower ValueOut
  | .value output => return output
  | .variable id => getVariable id

namespace Lowering

variable {s s' : Lowering} {names : List String} {name : String}

/-- The variable that a name writes: a local, else a field. -/
def written? (s : Lowering) (name : String) : Option Nat :=
  (s.frames.head?.bind (·.locals.find? name)).or (s.fields.find? name)

/-- A name is read as the value it is bound to, else as a variable. -/
def reading? (s : Lowering) (name : String) : Option Meaning :=
  match s.bound? name with
  | some output => some (.value output)
  | none => (s.written? name).map .variable

/-- The innermost frame tells values and locals apart. -/
def Apart (s : Lowering) : Prop := ∀ frame ∈ s.frames.head?, frame.Apart

/-- A method starts without locals. -/
theorem apart_of_new (method : String) (bindings : Dict ValueOut) (returnVariable : Option Nat) (outer : List Frame) :
    Apart { s with frames := { method, bindings, returnVariable } :: outer } := by
  intro frame member
  obtain rfl := Option.mem_some.1 member
  exact fun _ => .inr rfl

theorem Scoped.apart (within : s.Scoped names s') (apart : s.Apart) : s'.Apart := by
  have agree := within.frames
  unfold Apart at apart ⊢
  revert apart agree
  generalize s.frames = frames, s'.frames = frames'
  intro apart agree
  cases agree with
  | nil => exact apart
  | cons rest agrees =>
    intro frame member
    obtain rfl := Option.mem_some.1 member
    exact (agrees (apart _ rfl)).1

/-- Other names are read and written as before. -/
theorem Scoped.resolves (within : s.Scoped names s') (apart : s.Apart) (outside : name ∉ names) :
    s'.reading? name = s.reading? name ∧ s'.written? name = s.written? name := by
  have agree := within.frames
  unfold Apart at apart
  unfold reading? bound? written?
  rw [within.fields]
  revert apart agree
  generalize s.frames = frames, s'.frames = frames'
  intro apart agree
  cases agree with
  | nil => exact ⟨rfl, rfl⟩
  | cons rest agrees =>
    obtain ⟨bindings, locals⟩ := (agrees (apart _ rfl)).2 name outside
    simp only [List.head?_cons, Option.bind_some, bindings, locals, and_self]

end Lowering

namespace Lower

theorem variableOf?_eq (name : String) (s : Lowering) : variableOf? name s = (s.written? name, s) := rfl

/-- A name is lowered to what it is read as. -/
theorem lowerIdentifier_eq (c : ScriptClass) {e : Expression} {s : Lowering} {meaning : Meaning}
    (reads : s.reading? (e.name.getD "") = some meaning) :
    lowerIdentifier c e s = (some <$> meaning.output) s := by
  unfold Lowering.reading? at reads
  split at reads
  · next output bound =>
    cases reads
    have bound : s.frames.head?.bind (·.bindings.find? (e.name.getD "")) = some output := bound
    simp only [lowerIdentifier, frame?, bind, StateT.bind, get, getThe, MonadStateOf.get, StateT.get, pure,
      StateT.pure, bound]
    rfl
  · next unbound =>
    obtain ⟨id, written, rfl⟩ := Option.map_eq_some_iff.1 reads
    exact lowerIdentifier_of_variableOf? c unbound written

/-- Behind a statement every name that it does not declare, outside the headers of its loops, is read and written as
before. -/
theorem lowerStatement_resolves (c : ScriptClass) (levels : Nat) (active : List String) (s : Statement) (flow : FlowOut)
    (state : Lowering) (apart : state.Apart) :
    let after := (lowerStatement c (inliner c levels) active s flow state).2
    after.Apart ∧ ∀ name, name ∉ s.declaredNames →
      after.reading? name = state.reading? name ∧ after.written? name = state.written? name := by
  intro after
  have within : state.Scoped s.declaredNames after := keeps_lowerStatement (keeps_inliner c levels) s flow state
  exact ⟨within.apart apart, fun name outside => within.resolves apart outside⟩

end Lower

namespace Shadowing

/-- A class with a field `total`. -/
def shadowing : ScriptClass :=
  { name := "Shadowing", fields := [{ name := "total", fieldType := { name := "int" } }] }

/-- The start of one of its methods. -/
def opened : Lowering :=
  let start := (Lower.declareFields shadowing (ScriptClass.startOfLowering {} {})).2
  { start with frames := [{ method := "Start" }] }

/-- The block `{ int total = 5; }`. -/
def block : Statement :=
  let five : Expression := { kind := .literal, literal := some (.int 5), resultType := some { name := "int" } }
  let total : Expression := { kind := .identifier, name := some "total", resultType := some { name := "int" } }
  let declarator : Statement :=
    { kind := .variableDeclarator
      expressions := [total]
      children := [{ kind := .initializer, expressions := [five] }] }
  { kind := .block, children := [{ kind := .declaration, children := [declarator] }] }

/-- The state behind the block. -/
def closed : Lowering :=
  (Lower.lowerStatement shadowing (Lower.inliner shadowing 8) [] block ((NodeId.ofNat 0).flowOut "out") opened).2

/-- What a block declares hides the field behind the block, too. -/
example : (opened.written? "total", closed.written? "total") = (some 0, some 1) := by cbv

end Shadowing

end ScriptGraph
