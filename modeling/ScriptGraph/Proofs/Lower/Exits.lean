import Mathlib
import ScriptGraph.Proofs.Construction.Ensures
import ScriptGraph.Proofs.Lower.Lockstep.Blocks

/-!
Exits describe control.

What returns on every path is told along the walk through a block (`Returns`, `ReturnsWithin`): whether a
condition has a value is seen in the state in which the walk comes to it. Nothing goes on behind such a statement,
something goes on behind every other one, and the statements behind the first one are what a block leaves out.
-/

namespace ScriptGraph

open Pattern Build

namespace Exits

/-- Some flow leaves, whether it goes on or has returned. -/
def Leaves (e : Exits) : Prop := e.open ≠ [] ∨ e.returned ≠ []

theorem leaves_one (flow : FlowOut) : (one flow).Leaves := .inl (List.cons_ne_nil _ _)

theorem leaves_ofReturn (flow : FlowOut) : (ofReturn flow).Leaves := .inr (List.cons_ne_nil _ _)

theorem Leaves.merge {a : Exits} (leaves : a.Leaves) (b : Exits) : (a.merge b).Leaves :=
  leaves.imp (fun some none => some (List.append_eq_nil_iff.1 none).1)
    fun some none => some (List.append_eq_nil_iff.1 none).1

theorem Leaves.tails_ne_nil {e : Exits} (leaves : e.Leaves) : e.tails ≠ [] := by
  intro none
  obtain ⟨closed, unreturned⟩ := List.append_eq_nil_iff.1 none
  exact leaves.elim (· closed) (· unreturned)

/-- The exits with further returned flows in front. -/
def after (earlier : List FlowOut) (e : Exits) : Exits := { e with returned := earlier ++ e.returned }

theorem Leaves.after {e : Exits} (leaves : e.Leaves) (earlier : List FlowOut) : (e.after earlier).Leaves :=
  leaves.imp_right fun some none => some (List.append_eq_nil_iff.1 none).2

end Exits

namespace Lower

variable {α β : Type}

/-- What follows a step goes on from what the step ended in. -/
theorem bind_of_run {x : Lower β} {s s' : Lowering} {b : β} (run : x s = (b, s')) (f : β → Lower α) :
    (x >>= f) s = f b s' := by
  show f (x s).1 (x s).2 = _
  rw [run]

/-- From every state, the step ends in such a result. -/
def Yields (step : Lower α) (post : α → Prop) : Prop := ∀ s, Ensures step s fun a _ => post a

namespace Yields

variable {post : α → Prop}

theorem pure {a : α} (holds : post a) : Yields (Pure.pure a) post := fun _ => .pure holds

theorem bind {x : Lower β} {f : β → Lower α} {P : β → Prop} (first : Yields x P)
    (second : ∀ b, P b → Yields (f b) post) : Yields (x >>= f) post :=
  fun s => (first s).bind fun b s' holds => second b holds s'

theorem after {x : Lower β} {f : β → Lower α} (second : ∀ b, Yields (f b) post) : Yields (x >>= f) post :=
  bind (P := fun _ => True) (fun _ => trivial) fun b _ => second b

end Yields

section Walks

variable (c : ScriptClass) (inliner : Inliner) (active : List String)

/-- The flow on which the walk goes on behind a statement, if there is one. -/
def passing (s : Statement) (flow : FlowOut) : Lower (Option FlowOut) := do
  entering (← lowerStatement c inliner active s flow)

/-- A branch on a value, without its arms. -/
def placeBranch (condition : ValueOut) (flow : FlowOut) : Lower NodeId := do
  let branch ← createNode .flowBranch
  connect (branch.valueIn "condition") condition
  connectFlow flow (branch.flowIn "in")
  return branch

mutual

/-- The statement returns on every path, where the walk comes to it on a flow in a state: it is a return, a block that
holds such a statement, or a branch whose condition has a value and whose arms are both there and hold one each. -/
inductive Returns : Statement → FlowOut → Lowering → Prop
  | ofReturn {s : Statement} {flow : FlowOut} {state : Lowering} (kind : s.kind = .returnStatement) :
      Returns s flow state
  | ofBlock {s : Statement} {flow : FlowOut} {state : Lowering} (kind : s.kind = .block)
      (inside : ReturnsWithin s.children flow state) : Returns s flow state
  | ofBranch {s thenArm elseArm : Statement} {condition : Expression} {value : ValueOut} {branch : NodeId}
      {flow : FlowOut} {state lowered opened : Lowering} (kind : s.kind = .ifStatement)
      (asked : (s.child? .condition).bind (·.expression?) = some condition)
      (valued : lowerExpression c inliner active condition state = (some value, lowered))
      (placed : placeBranch value flow lowered = (branch, opened))
      (hasThen : s.child? .thenClause = some thenArm) (hasElse : s.child? .elseClause = some elseArm)
      (insideThen : ReturnsWithin thenArm.children (branch.flowOut "true") opened)
      (insideElse : ReturnsWithin elseArm.children (branch.flowOut "false")
        (lowerBlock c inliner active thenArm.children (.one (branch.flowOut "true")) opened).2) :
      Returns s flow state

/-- The walk through a block, begun on a flow in a state, comes to a statement that returns on every path. -/
inductive ReturnsWithin : List Statement → FlowOut → Lowering → Prop
  | here {s : Statement} {rest : List Statement} {flow : FlowOut} {state : Lowering} (returns : Returns s flow state) :
      ReturnsWithin (s :: rest) flow state
  | later {s : Statement} {rest : List Statement} {flow next : FlowOut} {state state' : Lowering}
      (passes : passing c inliner active s flow state = (some next, state'))
      (returns : ReturnsWithin rest next state') : ReturnsWithin (s :: rest) flow state

end

/-- How many statements at the end of a block the walk does not come to. -/
def unreached : List Statement → FlowOut → Lower Nat
  | [], _ => return 0
  | s :: rest, flow => do
    match ← passing c inliner active s flow with
    | none => return rest.length
    | some next => unreached rest next

/-- Notes statements that are left out. -/
def noteUnreached (count : Nat) : Lower Unit :=
  unsupported (toString count ++ " unreachable statement(s) after every path returned")

/-- Ends a walk behind which statements are left out; without any, there is nothing to note. -/
def leaveOut (count : Nat) (exits : Exits) : Lower Exits := do
  if count ≠ 0 then noteUnreached count
  return exits

end Walks

variable {c : ScriptClass} {inliner : Inliner} {active : List String}

section Steps

/-- Some flow leaves. -/
abbrev Leads (step : Lower Exits) : Prop := Yields step Exits.Leaves

/-- Some flow goes on. -/
abbrev GoesOn (step : Lower Exits) : Prop := Yields step (·.open ≠ [])

theorem goesOn_one (flow : FlowOut) : GoesOn (pure (.one flow)) := .pure (List.cons_ne_nil _ _)

theorem goesOn_lowerCanonicalLoop (l : CountingLoop) (body : Body) (flow : FlowOut) :
    GoesOn (lowerCanonicalLoop c inliner active l body flow) := by
  refine .after fun start? => .after fun stop? => ?_
  split
  · refine .after fun native => .after fun _ => .after fun _ => .after fun _ => .after fun shadowed => ?_
    exact .after fun exits => .after fun _ => .pure (List.cons_ne_nil _ _)
  · exact goesOn_one flow

theorem goesOn_lowerSteppedLoop (l : CountingLoop) (body : Body) (flow : FlowOut) :
    GoesOn (lowerSteppedLoop c inliner active l body flow) := by
  unfold lowerSteppedLoop
  extract_lets rest
  have goesOn (outer? : Option Nat) : GoesOn (rest outer?) := by
    refine .after fun start? => .after fun bound? => ?_
    split
    · refine .after fun stop => .after fun loop => .after fun _ => .after fun _ => .after fun _ => .after fun _ => ?_
      refine .after fun shadowed => .after fun exits => .after fun _ => .after fun _ => ?_
      cases outer? with
      | none => exact .pure (List.cons_ne_nil _ _)
      | some id => exact .after fun _ => .pure (List.cons_ne_nil _ _)
    · exact goesOn_one flow
  split
  · exact goesOn none
  · exact .after goesOn

/-- A loop may run no pass, so some flow goes on behind it whatever its body does. -/
theorem goesOn_lowerLoop (s : Statement) (body : Body) (flow : FlowOut) :
    GoesOn (lowerLoop c inliner active s body flow) := by
  unfold lowerLoop
  split
  · exact .after fun _ => goesOn_one flow
  · split
    · exact .after fun _ => goesOn_one flow
    · split
      · exact goesOn_lowerCanonicalLoop _ body flow
      · exact goesOn_lowerSteppedLoop _ body flow

/-- A return lets nothing go on. -/
def Closed (exits : Exits) : Prop := exits.open = [] ∧ exits.Leaves

theorem closed_lowerReturn (s : Statement) (flow : FlowOut) :
    Yields (lowerReturn c inliner active s flow) Closed := by
  have returned (flow : FlowOut) : Yields (pure (Exits.ofReturn flow)) Closed :=
    .pure ⟨rfl, Exits.leaves_ofReturn flow⟩
  refine .after fun frame => ?_
  split
  · refine .after fun result => ?_
    obtain ⟨value?, flow⟩ := result
    cases value? with
    | none => exact returned flow
    | some value => exact .after fun next => returned next
  · exact returned flow

end Steps

section Branches

/-- The arms on the outputs of a branch; a missing one lets its output go on. -/
def lowerArms (thenArm elseArm : Option Body) (branch : NodeId) : Lower Exits := do
  let arm (body? : Option Body) (socket : String) : Lower Exits :=
    match body? with
    | some body => body (branch.flowOut socket)
    | none => return .one (branch.flowOut socket)
  let thenExits ← arm thenArm "true"
  let elseExits ← arm elseArm "false"
  return thenExits.merge elseExits

variable {s : Statement} {thenArm elseArm : Option Body} {flow : FlowOut}

theorem lowerBranch_of_unasked (unasked : (s.child? .condition).bind (·.expression?) = none) :
    GoesOn (lowerBranch c inliner active s thenArm elseArm flow) := by
  rw [lowerBranch, unasked]
  exact .after fun _ => goesOn_one flow

theorem lowerBranch_of_unvalued {condition : Expression} {state lowered : Lowering}
    (asked : (s.child? .condition).bind (·.expression?) = some condition)
    (unvalued : lowerExpression c inliner active condition state = (none, lowered)) :
    (lowerBranch c inliner active s thenArm elseArm flow state).1 = .one flow := by
  rw [lowerBranch, asked]
  exact congrArg Prod.fst (bind_of_run unvalued _)

theorem lowerBranch_of_valued {condition : Expression} {value : ValueOut} {state lowered : Lowering}
    (asked : (s.child? .condition).bind (·.expression?) = some condition)
    (valued : lowerExpression c inliner active condition state = (some value, lowered)) :
    lowerBranch c inliner active s thenArm elseArm flow state =
      (placeBranch value flow >>= lowerArms thenArm elseArm) lowered := by
  rw [lowerBranch, asked]
  exact bind_of_run valued _

/-- Nothing goes on behind a branch if both arms are there and nothing goes on behind them. -/
theorem open_lowerArms_eq_nil_iff (branch : NodeId) (state : Lowering) :
    (lowerArms thenArm elseArm branch state).1.open = [] ↔
      ∃ a b, thenArm = some a ∧ elseArm = some b ∧ (a (branch.flowOut "true") state).1.open = [] ∧
        (b (branch.flowOut "false") (a (branch.flowOut "true") state).2).1.open = [] := by
  rcases thenArm with _ | a <;> rcases elseArm with _ | b
  · exact iff_of_false (List.cons_ne_nil _ _) (by simp)
  · exact iff_of_false (List.cons_ne_nil _ _) (by simp)
  · refine iff_of_false (fun closed => ?_) (by simp)
    exact List.cons_ne_nil _ _ (List.append_eq_nil_iff.1 closed).2
  · have open' : (lowerArms (some a) (some b) branch state).1.open = (a (branch.flowOut "true") state).1.open ++
        (b (branch.flowOut "false") (a (branch.flowOut "true") state).2).1.open := rfl
    rw [open', List.append_eq_nil_iff]
    refine ⟨fun both => ⟨a, b, rfl, rfl, both⟩, ?_⟩
    rintro ⟨_, _, ⟨⟩, ⟨⟩, both⟩
    exact both

theorem leads_lowerArms (first : ∀ a, thenArm = some a → ∀ flow, Leads (a flow)) (branch : NodeId) :
    Leads (lowerArms thenArm elseArm branch) := by
  refine .bind (P := Exits.Leaves) ?_ fun thenExits leaves => .after fun elseExits => .pure (leaves.merge _)
  cases thenArm with
  | none => exact .pure (Exits.leaves_one _)
  | some a => exact first a rfl _

/-- Some flow leaves a branch, given that one leaves its first arm. -/
theorem leads_lowerBranch (first : ∀ a, thenArm = some a → ∀ flow, Leads (a flow)) :
    Leads (lowerBranch c inliner active s thenArm elseArm flow) := by
  intro state
  rcases asked : (s.child? .condition).bind (·.expression?) with _ | condition
  · exact .inl (lowerBranch_of_unasked asked state)
  · rcases run : lowerExpression c inliner active condition state with ⟨_ | value, lowered⟩
    · rw [Ensures, lowerBranch_of_unvalued asked run]
      exact Exits.leaves_one flow
    · rw [Ensures, lowerBranch_of_valued asked run]
      exact Yields.after (leads_lowerArms first) lowered

end Branches

section Blocks

theorem entering_eq_none_iff (exits : Exits) (state : Lowering) :
    (entering exits state).1 = none ↔ exits.open = [] := by
  rcases exits with ⟨_ | ⟨flow, _ | ⟨second, flows⟩⟩, returned⟩
  · exact iff_of_true rfl rfl
  · exact iff_of_false (Option.some_ne_none flow) (List.cons_ne_nil _ _)
  · exact iff_of_false (Option.some_ne_none _) (List.cons_ne_nil _ _)

theorem lowerBlock_nil (before : Exits) : lowerBlock c inliner active [] before = pure before := by
  rw [lowerBlock]

/-- What has returned before a block only stands in front of what returns in it. -/
theorem lowerBlock_after (earlier : List FlowOut) (block : List Statement) (before : Exits) :
    lowerBlock c inliner active block (before.after earlier) =
      Exits.after earlier <$> lowerBlock c inliner active block before := by
  induction block generalizing before with
  | nil => rw [lowerBlock_nil, lowerBlock_nil, map_pure]
  | cons s rest ih =>
    rw [lowerBlock_cons, lowerBlock_cons, map_bind]
    refine bind_congr fun entry? => ?_
    cases entry? with
    | none => rfl
    | some entry =>
      rw [map_bind]
      refine bind_congr fun exits => ?_
      rw [← ih]
      exact congrArg (lowerBlock c inliner active rest)
        (congrArg (Exits.mk exits.open) (List.append_assoc earlier before.returned exits.returned))

theorem lowerBlock_cons_one (s : Statement) (rest : List Statement) (flow : FlowOut) :
    lowerBlock c inliner active (s :: rest) (.one flow) = (do
      let exits ← lowerStatement c inliner active s flow
      lowerBlock c inliner active rest exits) :=
  lowerBlock_cons c inliner active s rest (.one flow)

theorem lowerBlock_singleton (s : Statement) (flow : FlowOut) :
    lowerBlock c inliner active [s] (.one flow) = lowerStatement c inliner active s flow := by
  simp only [lowerBlock_cons_one, lowerBlock_nil, bind_pure]

/-- The walk goes on behind a statement, or leaves out those behind it. -/
theorem lowerBlock_cons_cons (s later : Statement) (rest : List Statement) (flow : FlowOut) :
    lowerBlock c inliner active (s :: later :: rest) (.one flow) = (do
      let exits ← lowerStatement c inliner active s flow
      match ← entering exits with
      | none =>
        noteUnreached (rest.length + 1)
        return exits
      | some next => Exits.after exits.returned <$> lowerBlock c inliner active (later :: rest) (.one next)) := by
  rw [lowerBlock_cons_one]
  refine bind_congr fun exits => ?_
  rw [lowerBlock_cons]
  refine bind_congr fun entry? => ?_
  cases entry? with
  | none => rfl
  | some next =>
    dsimp only
    rw [lowerBlock_cons_one, map_bind]
    exact bind_congr fun e => lowerBlock_after exits.returned rest e

/-- Where nothing goes on behind a statement, the walk leaves out those behind it. -/
theorem lowerBlock_of_closed {s : Statement} {flow : FlowOut} {exits : Exits} {state state' : Lowering}
    (run : lowerStatement c inliner active s flow state = (exits, state')) (closed : exits.open = [])
    (later : Statement) (rest : List Statement) :
    lowerBlock c inliner active (s :: later :: rest) (.one flow) state =
      (do noteUnreached (rest.length + 1); return exits) state' := by
  rw [lowerBlock_cons_cons, bind_of_run run, entering, closed]
  rfl

/-- Where the walk goes on behind a statement, the rest is lowered as a block of its own. -/
theorem lowerBlock_of_passing {s : Statement} {flow next : FlowOut} {exits : Exits} {state state₁ state₂ : Lowering}
    (run : lowerStatement c inliner active s flow state = (exits, state₁))
    (passes : entering exits state₁ = (some next, state₂)) (later : Statement) (rest : List Statement) :
    lowerBlock c inliner active (s :: later :: rest) (.one flow) state =
      (Exits.after exits.returned <$> lowerBlock c inliner active (later :: rest) (.one next)) state₂ := by
  rw [lowerBlock_cons_cons, bind_of_run run, bind_of_run passes]

end Blocks

section Statements

/-- The arm of a clause is its block. -/
theorem arm?_eq (s : Statement) (clause : StatementKind) :
    arm? s (fun block _ flow => lowerBlock c inliner active block (.one flow)) clause =
      (s.child? clause).map fun arm flow => lowerBlock c inliner active arm.children (.one flow) := by
  unfold arm?
  split
  · next found => simp only [found, Option.map_some]
  · next missing => simp only [missing, Option.map_none]

theorem lowerStatement_of_block {s : Statement} (kind : s.kind = .block) (flow : FlowOut) :
    lowerStatement c inliner active s flow = lowerBlock c inliner active s.children (.one flow) := by
  rw [lowerStatement, statementStep, kind]

theorem lowerStatement_of_branch {s : Statement} (kind : s.kind = .ifStatement) (flow : FlowOut) :
    lowerStatement c inliner active s flow = lowerBranch c inliner active s
      ((s.child? .thenClause).map fun arm flow => lowerBlock c inliner active arm.children (.one flow))
      ((s.child? .elseClause).map fun arm flow => lowerBlock c inliner active arm.children (.one flow)) flow := by
  rw [lowerStatement, statementStep, kind, arm?_eq, arm?_eq]

theorem lowerStatement_of_return {s : Statement} (kind : s.kind = .returnStatement) (flow : FlowOut) :
    lowerStatement c inliner active s flow = lowerReturn c inliner active s flow := by
  rw [lowerStatement, statementStep, kind]

/-- Behind a statement that is neither a return nor a block nor a branch some flow goes on. -/
theorem goesOn_lowerStatement {s : Statement} (noReturn : s.kind ≠ .returnStatement) (noBlock : s.kind ≠ .block)
    (noBranch : s.kind ≠ .ifStatement) (flow : FlowOut) : GoesOn (lowerStatement c inliner active s flow) := by
  rw [lowerStatement, statementStep]
  split
  · exact .after fun next => goesOn_one next
  · exact .after fun next => goesOn_one next
  · split
    · exact .after fun next => goesOn_one next
    · exact .after fun _ => goesOn_one flow
  · next kind => exact absurd kind noBranch
  · next kind => exact absurd kind noReturn
  · next kind => exact absurd kind noBlock
  · exact goesOn_lowerLoop s _ flow
  · exact .after fun _ => goesOn_one flow

mutual

/-- Some flow leaves every statement. -/
theorem leads_lowerStatement (s : Statement) (flow : FlowOut) : Leads (lowerStatement c inliner active s flow) := by
  by_cases isReturn : s.kind = .returnStatement
  · rw [lowerStatement_of_return isReturn]
    exact fun state => (closed_lowerReturn s flow state).2
  by_cases isBlock : s.kind = .block
  · rw [lowerStatement_of_block isBlock]
    have := Statement.sizeAll_children_lt s
    exact leads_lowerBlock s.children (Exits.leaves_one flow)
  by_cases isBranch : s.kind = .ifStatement
  · rw [lowerStatement_of_branch isBranch]
    refine leads_lowerBranch fun arm found flow => ?_
    obtain ⟨clause, there, rfl⟩ := Option.map_eq_some_iff.1 found
    have := Statement.sizeAll_child_lt there
    exact leads_lowerBlock clause.children (Exits.leaves_one flow)
  · exact fun state => .inl (goesOn_lowerStatement isReturn isBlock isBranch flow state)
termination_by (s.size, 1)
decreasing_by all_goals exact Prod.Lex.left _ _ (by assumption)

/-- Some flow leaves a block that one comes to. -/
theorem leads_lowerBlock (block : List Statement) {before : Exits} (leaves : before.Leaves) :
    Leads (lowerBlock c inliner active block before) := by
  match block with
  | [] =>
    rw [lowerBlock_nil]
    exact .pure leaves
  | s :: rest =>
    rw [lowerBlock_cons]
    refine .after fun entry? => ?_
    cases entry? with
    | none => exact .after fun _ => .pure leaves
    | some entry =>
      refine .bind (leads_lowerStatement s entry) fun exits onward => ?_
      exact leads_lowerBlock rest (onward.after before.returned)
termination_by (Statement.sizeAll block, 2 * block.length)
decreasing_by
  · rw [Statement.sizeAll, Prod.lex_def, List.length_cons]
    omega
  · have := Statement.size_pos s
    rw [Statement.sizeAll]
    exact Prod.Lex.left _ _ (by omega)

end

theorem not_returnsWithin_nil {flow : FlowOut} {state : Lowering} :
    ¬ ReturnsWithin c inliner active [] flow state := by
  intro within
  cases within

theorem returns_iff_of_block {s : Statement} (kind : s.kind = .block) (flow : FlowOut) (state : Lowering) :
    Returns c inliner active s flow state ↔ ReturnsWithin c inliner active s.children flow state := by
  refine ⟨fun returns => ?_, .ofBlock kind⟩
  cases returns with
  | ofReturn other => cases kind.symm.trans other
  | ofBlock _ inside => exact inside
  | ofBranch other => cases kind.symm.trans other

/-- Where nothing goes on behind the first statement of a block, it returns there; else the rest tells. -/
theorem returnsWithin_cons_iff {s : Statement} {flow : FlowOut} {state : Lowering}
    (first : (lowerStatement c inliner active s flow state).1.open = [] ↔ Returns c inliner active s flow state)
    (rest : List Statement) :
    ReturnsWithin c inliner active (s :: rest) flow state ↔
      ∀ next, (passing c inliner active s flow state).1 = some next →
        ReturnsWithin c inliner active rest next (passing c inliner active s flow state).2 := by
  have stops : (passing c inliner active s flow state).1 = none ↔ Returns c inliner active s flow state :=
    (entering_eq_none_iff _ _).trans first
  constructor
  · intro returns next passes
    cases returns with
    | here returns => rw [stops.2 returns] at passes; cases passes
    | later run inside => rw [run] at passes ⊢; cases passes; exact inside
  · intro inside
    rcases run : passing c inliner active s flow state with ⟨_ | next, state'⟩
    · exact .here (stops.1 (by rw [run]))
    · rw [run] at inside
      exact .later run (inside next rfl)

/-- What a branch that is lowered with its condition asks of its arms. -/
theorem returns_iff_of_branch {s : Statement} {condition : Expression} {value : ValueOut} {branch : NodeId}
    {flow : FlowOut} {state lowered opened : Lowering} (kind : s.kind = .ifStatement)
    (asked : (s.child? .condition).bind (·.expression?) = some condition)
    (valued : lowerExpression c inliner active condition state = (some value, lowered))
    (placed : placeBranch value flow lowered = (branch, opened)) :
    Returns c inliner active s flow state ↔
      ∃ thenArm elseArm, s.child? .thenClause = some thenArm ∧ s.child? .elseClause = some elseArm ∧
        ReturnsWithin c inliner active thenArm.children (branch.flowOut "true") opened ∧
        ReturnsWithin c inliner active elseArm.children (branch.flowOut "false")
          (lowerBlock c inliner active thenArm.children (.one (branch.flowOut "true")) opened).2 := by
  constructor
  · intro returns
    cases returns with
    | ofReturn other => cases kind.symm.trans other
    | ofBlock other => cases kind.symm.trans other
    | ofBranch _ asked' valued' placed' hasThen hasElse insideThen insideElse =>
      cases asked.symm.trans asked'
      cases valued.symm.trans valued'
      cases placed.symm.trans placed'
      exact ⟨_, _, hasThen, hasElse, insideThen, insideElse⟩
  · rintro ⟨_, _, hasThen, hasElse, insideThen, insideElse⟩
    exact .ofBranch kind asked valued placed hasThen hasElse insideThen insideElse

/-- A branch whose condition has no value returns on no path. -/
theorem not_returns_of_branch {s : Statement} {flow : FlowOut} {state : Lowering} (kind : s.kind = .ifStatement)
    (unvalued : ∀ condition, (s.child? .condition).bind (·.expression?) = some condition →
      (lowerExpression c inliner active condition state).1 = none) : ¬ Returns c inliner active s flow state := by
  intro returns
  cases returns with
  | ofReturn other => cases kind.symm.trans other
  | ofBlock other => cases kind.symm.trans other
  | ofBranch _ asked valued =>
    have none := unvalued _ asked
    rw [valued] at none
    cases none

mutual

/-- Nothing goes on behind a statement if and only if it returns on every path. -/
theorem open_lowerStatement_eq_nil_iff (s : Statement) (flow : FlowOut) (state : Lowering) :
    (lowerStatement c inliner active s flow state).1.open = [] ↔ Returns c inliner active s flow state := by
  by_cases isReturn : s.kind = .returnStatement
  · rw [lowerStatement_of_return isReturn]
    exact iff_of_true (closed_lowerReturn s flow state).1 (.ofReturn isReturn)
  by_cases isBlock : s.kind = .block
  · rw [lowerStatement_of_block isBlock, returns_iff_of_block isBlock]
    have := Statement.sizeAll_children_lt s
    exact open_lowerBlock_eq_nil_iff s.children flow state
  by_cases isBranch : s.kind = .ifStatement
  · rw [lowerStatement_of_branch isBranch]
    rcases asked : (s.child? .condition).bind (·.expression?) with _ | condition
    · refine iff_of_false (lowerBranch_of_unasked asked state) (not_returns_of_branch isBranch fun _ other => ?_)
      cases asked.symm.trans other
    rcases valued : lowerExpression c inliner active condition state with ⟨_ | value, lowered⟩
    · rw [lowerBranch_of_unvalued asked valued]
      refine iff_of_false (List.cons_ne_nil _ _) (not_returns_of_branch isBranch fun _ other => ?_)
      cases asked.symm.trans other
      rw [valued]
    rcases placed : placeBranch value flow lowered with ⟨branch, opened⟩
    rw [lowerBranch_of_valued asked valued, bind_of_run placed, open_lowerArms_eq_nil_iff,
      returns_iff_of_branch isBranch asked valued placed]
    simp only [Option.map_eq_some_iff]
    constructor
    · rintro ⟨_, _, ⟨a, hasThen, rfl⟩, ⟨b, hasElse, rfl⟩, closedThen, closedElse⟩
      have := Statement.sizeAll_child_lt hasThen
      have := Statement.sizeAll_child_lt hasElse
      exact ⟨a, b, hasThen, hasElse, (open_lowerBlock_eq_nil_iff a.children _ _).1 closedThen,
        (open_lowerBlock_eq_nil_iff b.children _ _).1 closedElse⟩
    · rintro ⟨a, b, hasThen, hasElse, insideThen, insideElse⟩
      have := Statement.sizeAll_child_lt hasThen
      have := Statement.sizeAll_child_lt hasElse
      exact ⟨_, _, ⟨a, hasThen, rfl⟩, ⟨b, hasElse, rfl⟩,
        (open_lowerBlock_eq_nil_iff a.children _ _).2 insideThen,
        (open_lowerBlock_eq_nil_iff b.children _ _).2 insideElse⟩
  · refine iff_of_false (goesOn_lowerStatement isReturn isBlock isBranch flow state) fun returns => ?_
    cases returns with
    | ofReturn kind => exact isReturn kind
    | ofBlock kind => exact isBlock kind
    | ofBranch kind => exact isBranch kind
termination_by (s.size, 1)
decreasing_by all_goals exact Prod.Lex.left _ _ (by assumption)

/-- Nothing goes on behind a block if and only if a statement in it returns on every path. -/
theorem open_lowerBlock_eq_nil_iff (block : List Statement) (flow : FlowOut) (state : Lowering) :
    (lowerBlock c inliner active block (.one flow) state).1.open = [] ↔
      ReturnsWithin c inliner active block flow state := by
  match block with
  | [] =>
    rw [lowerBlock_nil]
    exact iff_of_false (List.cons_ne_nil _ _) not_returnsWithin_nil
  | s :: rest =>
    rw [returnsWithin_cons_iff (open_lowerStatement_eq_nil_iff s flow state)]
    rcases run : lowerStatement c inliner active s flow state with ⟨exits, state₁⟩
    rcases enters : entering exits state₁ with ⟨_ | next, state₂⟩
    · have passes : passing c inliner active s flow state = (none, state₂) := (bind_of_run run _).trans enters
      have closed : exits.open = [] := (entering_eq_none_iff exits state₁).1 (by rw [enters])
      rw [passes]
      refine iff_of_true ?_ fun _ never => by cases never
      cases rest with
      | nil => rw [lowerBlock_singleton, run]; exact closed
      | cons later rest => rw [lowerBlock_of_closed run closed]; exact closed
    · have passes : passing c inliner active s flow state = (some next, state₂) := (bind_of_run run _).trans enters
      rw [passes]
      cases rest with
      | nil =>
        rw [lowerBlock_singleton, run]
        refine iff_of_false (fun closed => ?_) fun inside => not_returnsWithin_nil (inside next rfl)
        have stops := (entering_eq_none_iff exits state₁).2 closed
        rw [enters] at stops
        cases stops
      | cons later rest =>
        rw [lowerBlock_of_passing run enters]
        refine (open_lowerBlock_eq_nil_iff (later :: rest) next state₂).trans ⟨fun inside other same => ?_, ?_⟩
        · cases same
          exact inside
        · exact fun inside => inside next rfl
termination_by (Statement.sizeAll block, 2 * block.length)
decreasing_by
  · rw [Statement.sizeAll, Prod.lex_def, List.length_cons]
    omega
  · have := Statement.size_pos s
    simp only [Statement.sizeAll]
    exact Prod.Lex.left _ _ (by omega)

end

end Statements

section Unreached

theorem unreached_of_closed {s : Statement} {flow : FlowOut} {state state' : Lowering}
    (stops : passing c inliner active s flow state = (none, state')) (rest : List Statement) :
    (unreached c inliner active (s :: rest) flow state).1 = rest.length :=
  congrArg Prod.fst (bind_of_run stops _)

theorem unreached_of_passing {s : Statement} {flow next : FlowOut} {state state' : Lowering}
    (passes : passing c inliner active s flow state = (some next, state')) (rest : List Statement) :
    (unreached c inliner active (s :: rest) flow state).1 = (unreached c inliner active rest next state').1 :=
  congrArg Prod.fst (bind_of_run passes _)

/-- The walk comes to the first statement of a block. -/
theorem unreached_lt (s : Statement) (rest : List Statement) (flow : FlowOut) (state : Lowering) :
    (unreached c inliner active (s :: rest) flow state).1 < rest.length + 1 := by
  induction rest generalizing s flow state with
  | nil =>
    rcases run : passing c inliner active s flow state with ⟨_ | next, state'⟩
    · rw [unreached_of_closed run]
      exact Nat.zero_lt_one
    · rw [unreached_of_passing run]
      exact Nat.zero_lt_one
  | cons later rest ih =>
    rcases run : passing c inliner active s flow state with ⟨_ | next, state'⟩
    · rw [unreached_of_closed run]
      exact Nat.lt_succ_self _
    · rw [unreached_of_passing run]
      exact Nat.lt_succ_of_lt (ih later next state')

/-- Statements are left out if and only if one that is not the last returns on every path. -/
theorem unreached_ne_zero_iff (block : List Statement) (flow : FlowOut) (state : Lowering) :
    (unreached c inliner active block flow state).1 ≠ 0 ↔
      ReturnsWithin c inliner active block.dropLast flow state := by
  induction block generalizing flow state with
  | nil => exact iff_of_false (fun some => some rfl) not_returnsWithin_nil
  | cons s rest ih =>
    cases rest with
    | nil =>
      exact iff_of_false (fun some => some (Nat.lt_one_iff.1 (unreached_lt s [] flow state))) not_returnsWithin_nil
    | cons later rest =>
      rw [List.dropLast_cons_cons, returnsWithin_cons_iff (open_lowerStatement_eq_nil_iff s flow state)]
      rcases run : passing c inliner active s flow state with ⟨_ | next, state'⟩
      · rw [unreached_of_closed run]
        exact iff_of_true (Nat.succ_ne_zero _) fun _ never => by cases never
      · rw [unreached_of_passing run, ih]
        refine ⟨fun inside other same => ?_, fun inside => inside next rfl⟩
        cases same
        exact inside

theorem leaveOut_zero : leaveOut 0 = pure := rfl

theorem leaveOut_after (count : Nat) (earlier : List FlowOut) (exits : Exits) :
    leaveOut count (exits.after earlier) = Exits.after earlier <$> leaveOut count exits := by
  unfold leaveOut
  split <;> rfl

/-- What is left of a block without the statements that are left out. -/
theorem take_unreached (s : Statement) {rest : List Statement} {left : Nat} (below : left < rest.length + 1) :
    (s :: rest).take ((s :: rest).length - left) = s :: rest.take (rest.length - left) := by
  rw [List.length_cons, Nat.succ_sub (Nat.le_of_lt_succ below), List.take_succ_cons]

/-- A block is lowered up to the statements that are left out, and these are noted. -/
theorem lowerBlock_eq_take (block : List Statement) (flow : FlowOut) (state : Lowering) :
    lowerBlock c inliner active block (.one flow) state =
      (lowerBlock c inliner active
        (block.take (block.length - (unreached c inliner active block flow state).1)) (.one flow) >>=
          leaveOut (unreached c inliner active block flow state).1) state := by
  induction block generalizing flow state with
  | nil => rfl
  | cons s rest ih =>
    rw [take_unreached s (unreached_lt s rest flow state)]
    cases rest with
    | nil =>
      rw [Nat.lt_one_iff.1 (unreached_lt s [] flow state), leaveOut_zero, bind_pure]
      rfl
    | cons later rest =>
      rcases run : lowerStatement c inliner active s flow state with ⟨exits, state₁⟩
      rcases enters : entering exits state₁ with ⟨_ | next, state₂⟩
      · have closed : exits.open = [] := (entering_eq_none_iff exits state₁).1 (by rw [enters])
        rw [unreached_of_closed ((bind_of_run run _).trans enters), Nat.sub_self, List.take_zero, lowerBlock_singleton,
          lowerBlock_of_closed run closed, bind_of_run run]
        rfl
      · have inner := ih next state₂
        rw [take_unreached later (unreached_lt later rest next state₂)] at inner
        rw [unreached_of_passing ((bind_of_run run _).trans enters),
          take_unreached later (unreached_lt later rest next state₂)]
        generalize (unreached c inliner active (later :: rest) next state₂).1 = left at inner ⊢
        generalize rest.take (rest.length - left) = kept at inner ⊢
        have walked := lowerBlock_of_passing run enters later kept
        calc
          lowerBlock c inliner active (s :: later :: rest) (.one flow) state
            = (Exits.after exits.returned <$> lowerBlock c inliner active (later :: rest) (.one next)) state₂ :=
              lowerBlock_of_passing run enters later rest
          _ = (Exits.after exits.returned <$>
                (lowerBlock c inliner active (later :: kept) (.one next) >>= leaveOut left)) state₂ :=
              congrArg (Prod.map (Exits.after exits.returned) id) inner
          _ = ((Exits.after exits.returned <$> lowerBlock c inliner active (later :: kept) (.one next)) >>=
                leaveOut left) state₂ := by
              simp only [map_bind, bind_map_left, leaveOut_after]
          _ = (lowerBlock c inliner active (s :: later :: kept) (.one flow) >>= leaveOut left) state :=
              congrArg (fun ran : Exits × Lowering => leaveOut left ran.1 ran.2) walked.symm

/-- Of the statements that are kept none is left out. -/
theorem unreached_take (block : List Statement) (flow : FlowOut) (state : Lowering) :
    (unreached c inliner active
      (block.take (block.length - (unreached c inliner active block flow state).1)) flow state).1 = 0 := by
  induction block generalizing flow state with
  | nil => rfl
  | cons s rest ih =>
    rw [take_unreached s (unreached_lt s rest flow state)]
    rcases run : passing c inliner active s flow state with ⟨_ | next, state'⟩
    · rw [unreached_of_closed run, unreached_of_closed run, Nat.sub_self]
      rfl
    · rw [unreached_of_passing run, unreached_of_passing run]
      exact ih next state'

end Unreached

section Callees

theorem bind_congr_of_yields {x : Lower β} {f g : β → Lower α} {post : β → Prop} (yields : Yields x post)
    (same : ∀ b, post b → f b = g b) : x >>= f = x >>= g := by
  funext s
  show f (x s).1 (x s).2 = g (x s).1 (x s).2
  rw [same _ (yields s)]

theorem yields_inCallee {step : Lower α} {post : α → Prop} (yields : Yields step post) (frame : Frame) :
    Yields (inCallee frame step) post := by
  have framed : Yields (withFrame frame step) post :=
    .after fun _ => .bind yields fun result holds => .after fun _ => .pure holds
  exact .after fun caller => .after fun _ => .bind framed fun result holds => .after fun _ => .pure holds

/-- Some flow leaves what is inlined, at every depth. -/
theorem leads_inlined (c : ScriptClass) (levels : Nat) (active : List String) (block : List Statement)
    (flow : FlowOut) : Leads ((Lower.inliner c levels).block active block flow) := by
  cases levels with
  | zero => exact .pure (Exits.leaves_one flow)
  | succ levels => exact leads_lowerBlock block (Exits.leaves_one flow)

/-- The flow after an inlined body, with a way to go on where the body has no tail. -/
def continueOr (strand : NodeId → Lower FlowOut) (sequence : NodeId) (tails : List FlowOut) : Lower FlowOut :=
  if tails.isEmpty then strand sequence else continueAfter sequence tails

/-- A method of the class in place of its call as a step of a flow, with a way to go on where its body has no tail. -/
def lowerCalleeOr (strand : NodeId → Lower FlowOut) (inliner : Inliner) (active : List String) (e : Expression)
    (low : Below e.size) (callee : Method) (flow : FlowOut) : Lower Invocation := do
  let limit := (← get).context.options.maxInlineDepth
  if active.contains callee.name || limit ≤ active.length then
    unsupported (refusal callee.name limit)
    return { flow := some flow }
  else
    let bindings ←
      bindArguments low callee.parameters (arguments e) size_arguments_lt Dict.empty
    let returnVariable ← declareResult callee
    let sequence ← createNode .flowSequence
    connectFlow flow (sequence.flowIn "in")
    let exits ← inCallee { method := callee.name, bindings, returnVariable } do
      let entry ← copyParameters (Statement.assignedNames callee.body) true callee.parameters
        (sequence.flowOut "0")
      inliner.block (callee.name :: active) callee.body entry
    let next ← continueOr strand sequence exits.tails
    match returnVariable with
    | none => return { flow := some next }
    | some id => return { value := some (← getVariable id), flow := some next }

/-- No inlined body is without a tail, so it does not matter how one would go on there. -/
theorem lowerCalleeOr_eq (strand : NodeId → Lower FlowOut) (c : ScriptClass) (levels : Nat) (active : List String)
    (e : Expression) (low : Below e.size) (callee : Method) (flow : FlowOut) :
    lowerCalleeOr strand (Lower.inliner c levels) active e low callee flow =
      lowerCallee (Lower.inliner c levels) active e low callee (some flow) := by
  refine bind_congr fun s => ?_
  dsimp only
  split
  · rfl
  · refine bind_congr fun bindings => bind_congr fun returnVariable => bind_congr fun sequence => ?_
    refine bind_congr fun _ => bind_congr_of_yields (yields_inCallee ?_ _) fun exits (leaves : exits.Leaves) => ?_
    · exact .after fun entry => leads_inlined c levels _ callee.body entry
    · have some : exits.tails.isEmpty = false := List.isEmpty_eq_false_iff.2 leaves.tails_ne_nil
      rw [continueOr, some]
      rfl

end Callees

/-- Exits describe control. Some flow leaves every statement, and none goes on behind it if and only if it returns on
every path. A block is lowered up to the statements that no flow reaches, and notes these; there are some if and only
if a statement that is not the last returns on every path. No inlined body is without a tail. -/
theorem exits_describe_control (c : ScriptClass) (levels : Nat) (active : List String) (state : Lowering)
    (flow : FlowOut) :
    (∀ s : Statement,
      let exits := (lowerStatement c (Lower.inliner c levels) active s flow state).1
      (exits.open ≠ [] ∨ exits.returned ≠ []) ∧
        (exits.open = [] ↔ Returns c (Lower.inliner c levels) active s flow state)) ∧
    (∀ block : List Statement,
      let left := (unreached c (Lower.inliner c levels) active block flow state).1
      let kept := block.take (block.length - left)
      lowerBlock c (Lower.inliner c levels) active block (.one flow) state =
          (do
            let exits ← lowerBlock c (Lower.inliner c levels) active kept (.one flow)
            if left ≠ 0 then
              unsupported (toString left ++ " unreachable statement(s) after every path returned")
            return exits) state ∧
        (unreached c (Lower.inliner c levels) active kept flow state).1 = 0 ∧
        (left ≠ 0 ↔ ReturnsWithin c (Lower.inliner c levels) active block.dropLast flow state)) ∧
    ∀ (strand : NodeId → Lower FlowOut) (e : Expression) (low : Below e.size) (callee : Method),
      lowerCalleeOr strand (Lower.inliner c levels) active e low callee flow state =
        lowerCallee (Lower.inliner c levels) active e low callee (some flow) state := by
  refine ⟨fun s => ?_, fun block => ?_, fun strand e low callee => ?_⟩
  · exact ⟨leads_lowerStatement s flow state, open_lowerStatement_eq_nil_iff s flow state⟩
  · exact ⟨lowerBlock_eq_take block flow state, unreached_take block flow state,
      unreached_ne_zero_iff block flow state⟩
  · exact congrFun (lowerCalleeOr_eq strand c levels active e low callee flow) state

end Lower

end ScriptGraph
