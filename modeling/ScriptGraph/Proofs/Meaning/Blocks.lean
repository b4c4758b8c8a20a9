import Mathlib
import ScriptGraph.Proofs.Meaning.Writes

/-!
Blocks and branches, as the running graph sees them.

Flows that come together enter what follows as one, and it does not matter which of them somebody is on. Behind a
statement that returns the others are left out, and the flow that has returned stays where it is.
-/

namespace ScriptGraph

open Pattern Build

theorem Exits.mem_after {exit : FlowOut} {e : Exits} {ending : Ending} (earlier : List FlowOut)
    (listed : exit ∈ e.at ending) : exit ∈ (e.after earlier).at ending := by
  cases ending with
  | onward => exact listed
  | returned => exact List.mem_append_right _ listed

theorem Exits.mem_merge {exit : FlowOut} {a b : Exits} {ending : Ending}
    (listed : exit ∈ a.at ending ∨ exit ∈ b.at ending) : exit ∈ (a.merge b).at ending := by
  cases ending <;> exact List.mem_append.2 listed

namespace Program.Performs

variable {p : Program} {roles : Roles} {layout : Layout} {statement : Statement} {rest : List Statement} {order : Order}
  {work work' : Work} {changes changes' : List String} {flow entry : FlowOut} {exits exits' : Exits}

/-- What is done, told for less. -/
theorem mono (performs : p.Performs roles layout work changes flow exits)
    (executes : ∀ m m' ending, Executes work m m' ending → Executes work' m m' ending) (sub : changes ⊆ changes') :
    p.Performs roles layout work' changes' flow exits := by
  intro m σ holds
  obtain ⟨m', σ', ending, inside, holds', same, exit⟩ := performs m σ holds
  exact ⟨m', σ', ending, executes m m' ending inside, holds',
    fun x there unchanged => same x there fun changed => unchanged (sub changed), exit⟩

/-- Behind a statement on which nothing goes on there is nothing to do. -/
theorem stop (performs : p.Performs roles layout (.order order) changes flow exits) (closed : exits.open = [])
    (tells : statement.Tells order) :
    p.Performs roles layout (.block (statement :: rest)) (changes ++ changes') flow exits := by
  intro m σ holds
  obtain ⟨m', σ', ending, inside, holds', same, exit, listed, leads⟩ := performs m σ holds
  cases ending with
  | onward =>
    have listed : exit ∈ exits.open := listed
    rw [closed] at listed
    cases listed
  | returned =>
    exact ⟨m', σ', .returned, .stop tells inside, holds',
      fun x there unchanged => same x there fun changed => unchanged (List.mem_append_left _ changed), exit, listed,
      leads⟩

/-- What goes on behind a statement enters the others on one flow. -/
theorem next (performs : p.Performs roles layout (.order order) changes flow exits) (tells : statement.Tells order)
    (joins : ∀ f ∈ exits.open, ∀ σ, p.Leads f entry σ σ)
    (others : p.Performs roles layout (.block rest) changes' entry exits') :
    p.Performs roles layout (.block (statement :: rest)) (changes ++ changes') flow (exits'.after exits.returned) := by
  intro m σ holds
  obtain ⟨μ, ρ, ending, inside, holds', same, exit, listed, leads⟩ := performs m σ holds
  cases ending with
  | returned =>
    exact ⟨μ, ρ, .returned, .stop tells inside, holds',
      fun x there unchanged => same x there fun changed => unchanged (List.mem_append_left _ changed), exit,
      List.mem_append_left _ listed, leads⟩
  | onward =>
    obtain ⟨m', σ', ending, inside', holds'', same', exit', listed', leads'⟩ := others μ ρ holds'
    refine ⟨m', σ', ending, .next tells inside inside', holds'', fun x there unchanged => ?_, exit',
      Exits.mem_after _ listed', (leads.trans (joins exit listed ρ)).trans leads'⟩
    rw [same' x there fun changed => unchanged (List.mem_append_right _ changed),
      same x there fun changed => unchanged (List.mem_append_left _ changed)]

/-- One of two arms is taken, by a condition. -/
theorem branch {condition : Expression} {yes no : List Statement} {value : ValueOut} {trueFlow falseFlow : FlowOut}
    (decides : condition.Plain roles .bool) (computes : p.Computes roles layout condition value)
    (branches : ∀ σ d, p.Gives σ (.output value.address) (.bool d) →
      p.Leads flow (if d then trueFlow else falseFlow) σ σ)
    (first : p.Performs roles layout (.block yes) changes trueFlow exits)
    (second : p.Performs roles layout (.block no) changes falseFlow exits') :
    p.Performs roles layout (.order (.branch condition yes no)) changes flow (exits.merge exits') := by
  intro m σ holds
  obtain ⟨z, evaluates, is⟩ := decides.evaluates holds.fits
  obtain ⟨d, rfl⟩ := Literal.exists_bool is
  have taken := branches σ d (computes m σ _ holds evaluates)
  cases d with
  | true =>
    obtain ⟨m', σ', ending, inside, holds', same, exit, listed, leads⟩ := first m σ holds
    exact ⟨m', σ', ending, .branch evaluates inside, holds', same, exit, Exits.mem_merge (.inl listed),
      taken.trans leads⟩
  | false =>
    obtain ⟨m', σ', ending, inside, holds', same, exit, listed, leads⟩ := second m σ holds
    exact ⟨m', σ', ending, .branch evaluates inside, holds', same, exit, Exits.mem_merge (.inr listed),
      taken.trans leads⟩

end Program.Performs

namespace Lower

variable {cls : ScriptClass} {inliner : Inliner} {active : List String} {start : Context}
  {blanks idles : List SocketAddress} {holding : Program → Prop} {method : String} {roles : Roles} {layout : Layout}
  {s : Lowering} {returns : Bool}

section Joining

theorem plan_connectFlows (flows : List FlowOut) (t : FlowIn) {c : Context} {holding : Program → Prop} {s : Lowering}
    (context : s.context = c) (plan : Plan start blanks (flows.map (·.address) ++ idles) holding c) :
    Ensures (connectFlows flows t) s fun _ s' => ∃ c', s' = { s with context := c' } ∧ c.KeepsRows c' ∧
      Plan start blanks idles (fun q => (∀ f ∈ flows, q.next? f.address = some t.address) ∧ holding q) c' := by
  subst context
  induction flows generalizing s holding with
  | nil => exact .pure ⟨s.context, rfl, .refl _, plan.mono fun q old => ⟨nofun, old⟩⟩
  | cons flow flows ih =>
    refine .liftBind ((plan.connectFlow t (.refl _)).keeping (goesOn_connectFlow flow t)) fun _ c ⟨plan, rows⟩ => ?_
    refine (ih plan).mono ?_
    rintro _ _ ⟨c', rfl, rows', plan⟩
    refine ⟨c', rfl, rows.trans rows', plan.mono fun q ⟨others, first, old⟩ => ⟨?_, old⟩⟩
    exact List.forall_mem_cons.2 ⟨first, others⟩

/-- Whichever of the flows somebody is on, being on it is being on the one that they are joined to. -/
theorem plan_join (flows : List FlowOut) (plan : Plan start blanks (flows.map (·.address) ++ idles) holding s.context) :
    Ensures (join flows) s fun next s' => ∃ c, s' = { s with context := c } ∧ s.context.KeepsRows c ∧
      Plan start blanks (next.address :: idles)
        (fun q => (∀ f ∈ flows, ∀ σ, q.Leads f next σ σ) ∧ holding q) c := by
  refine .liftBind ((plan.createNode [] ["0"] (by decide)).keeping (goesOn_createNode .flowSequence))
    fun sequence c ⟨⟨plan, _⟩, rows⟩ => ?_
  refine (plan_connectFlows flows (sequence.flowIn "in") (s := { s with context := c }) rfl
    (plan.reorder (.refl _) List.perm_middle)).bind ?_
  rintro _ _ ⟨c', rfl, rows', plan⟩
  refine .pure ⟨c', rfl, rows.trans rows', plan.mono ?_⟩
  intro q ⟨leads, sequences, old⟩
  refine ⟨fun f member σ τ => ?_, old⟩
  rw [leads f member]
  refine (Program.runs_sequence sequences (List.pairwise_singleton (· < ·) 0)).trans ?_
  simp only [Program.runs_ports_cons, Program.runs_ports_nil, exists_eq_right']
  rfl

/-- The flow that enters what follows the exits, if some are open. -/
theorem plan_entering {exits : Exits} (goesOn : exits.open ≠ [])
    (plan : Plan start blanks (exits.open.map (·.address) ++ idles) holding s.context) :
    Ensures (entering exits) s fun entry? s' => ∃ entry c, entry? = some entry ∧ s' = { s with context := c } ∧
      s.context.KeepsRows c ∧ Plan start blanks (entry.address :: idles)
        (fun q => (∀ f ∈ exits.open, ∀ σ, q.Leads f entry σ σ) ∧ holding q) c := by
  rcases exits with ⟨_ | ⟨flow, _ | ⟨second, flows⟩⟩, returned⟩
  · exact absurd rfl goesOn
  · refine .pure ⟨flow, s.context, rfl, rfl, .refl _, plan.mono fun q old => ⟨fun f member σ τ => ?_, old⟩⟩
    rw [List.mem_singleton.1 member]
  · refine .map ((plan_join (flow :: second :: flows) plan).mono ?_)
    rintro next _ ⟨c, rfl, rows, plan⟩
    exact ⟨next, c, rfl, rfl, rows, plan⟩

end Joining

/-- What is realized, told for less. -/
theorem Realizes.mono {work work' : Work} {changes changes' : List String} {step : FlowOut → Lower Exits}
    (realizes : Realizes method roles returns work changes step)
    (executes : ∀ m m' ending, Executes work m m' ending → Executes work' m m' ending) (sub : changes ⊆ changes') :
    Realizes method roles returns work' changes' step := by
  intro layout start blanks idles holding s flow houses counters plan
  refine (realizes flow houses counters plan).mono fun exits s' realized => ?_
  refine ⟨realized.houses, realized.rows, realized.unreturned, realized.plan.mono ?_⟩
  exact fun q ⟨performs, old⟩ => ⟨fun roomy => (performs roomy).mono executes sub, old⟩

section Blocks

variable {statement : Statement} {rest : List Statement}

theorem realizes_done :
    Realizes method roles returns (.block []) (Statement.changedNames [])
      fun flow => lowerBlock cls inliner active [] (.one flow) := by
  intro layout start blanks idles holding s flow houses counters plan
  dsimp only
  rw [lowerBlock_nil]
  refine .pure ⟨houses, .refl _, fun _ => rfl, plan.mono fun q old => ⟨fun _ m σ holds => ?_, old⟩⟩
  exact ⟨m, σ, .onward, .done, holds, fun _ _ _ => rfl, flow, List.mem_singleton_self flow, fun _ => .rfl⟩

/-- A statement and those behind it realize the block of all of them. -/
theorem realizes_next {order : Order} (tells : statement.Tells order)
    (first : Realizes method roles returns (.order order) statement.changes
      (lowerStatement cls inliner active statement))
    (others : Realizes method roles returns (.block rest) (Statement.changedNames rest)
      fun flow => lowerBlock cls inliner active rest (.one flow)) :
    Realizes method roles returns (.block (statement :: rest)) (Statement.changedNames (statement :: rest))
      fun flow => lowerBlock cls inliner active (statement :: rest) (.one flow) := by
  rw [Statement.changedNames_cons]
  cases rest with
  | nil =>
    simp only [lowerBlock_singleton]
    refine first.mono (fun m m' ending inside => ?_) (List.subset_append_left _ _)
    cases ending with
    | onward => exact .next tells inside .done
    | returned => exact .stop tells inside
  | cons later rest =>
    intro layout start blanks idles holding s flow houses counters plan
    dsimp only
    rw [lowerBlock_cons_cons]
    refine (first flow houses counters plan).bind fun exits s₁ realized => ?_
    by_cases closed : exits.open = []
    · -- Nothing goes on, so that the others are only noted.
      have none : entering exits = pure none := by rw [entering, closed]
      rw [none, pure_bind]
      have noted (message : String) : Ensures (unsupported message) s₁.context fun _ c =>
          c.graph = s₁.context.graph ∧ c.placeholders = s₁.context.placeholders := ⟨rfl, rfl⟩
      refine .liftBind (noted _) ?_
      rintro _ c ⟨graph, placeholders⟩
      have rows : s₁.context.KeepsRows c := .of_vars (by rw [graph])
      refine .pure ⟨realized.houses.advance rows, realized.rows.trans rows, realized.unreturned, ?_⟩
      refine (realized.plan.mono ?_).aside (by rw [graph]) placeholders
      rintro q ⟨performs, old⟩
      exact ⟨fun roomy => (performs (rows.roomy roomy)).stop closed tells, old⟩
    · have plan := realized.plan
      rw [Exits.tails, List.map_append, List.append_assoc] at plan
      refine (plan_entering closed plan).bind ?_
      rintro _ _ ⟨entry, c, rfl, rfl, rows, plan⟩
      refine .map ?_
      refine (others entry (realized.houses.advance rows) (fun q all => counters q all.2.2) plan).mono
        fun exits' s' realized' => ?_
      refine ⟨realized'.houses, (realized.rows.trans rows).trans realized'.rows, fun never => ?_, ?_⟩
      · exact List.append_eq_nil_iff.2 ⟨realized.unreturned never, realized'.unreturned never⟩
      · refine (realized'.plan.reorder (.refl _) ?_).mono ?_
        · simp only [Exits.after, Exits.tails, List.map_append, List.append_assoc]
          exact List.Perm.append_left _ (List.perm_append_comm_assoc ..)
        · rintro q ⟨others, joins, performs, old⟩
          refine ⟨fun roomy => ?_, old⟩
          exact (performs ((rows.trans realized'.rows).roomy roomy)).next tells joins (others roomy)

theorem realizes_block {body : List Statement} (tells : statement.Tells (.block body))
    (inside : Realizes method roles returns (.block body) (Statement.changedNames body)
      fun flow => lowerBlock cls inliner active body (.one flow)) :
    Realizes method roles returns (.order (.block body)) statement.changes
      (lowerStatement cls inliner active statement) := by
  have same : lowerStatement cls inliner active statement =
      fun flow => lowerBlock cls inliner active body (.one flow) := by
    cases tells
    exact funext fun flow => lowerStatement_of_block rfl flow
  rw [same]
  exact inside.mono (fun _ _ _ executes => .block executes) tells.block_subset

theorem realizes_leave (tells : statement.Tells .leave) :
    Realizes method roles true (.order .leave) statement.changes (lowerStatement cls inliner active statement) := by
  intro layout start blanks idles holding s flow houses counters plan
  have same : lowerStatement cls inliner active statement flow = do
      let _ ← frame?
      return .ofReturn flow := by
    cases tells
    rw [lowerStatement_of_return rfl]
    rfl
  rw [same]
  refine ensures_frame?.bind ?_
  rintro _ _ ⟨rfl, rfl⟩
  refine .pure ⟨houses, .refl _, nofun, plan.mono fun q old => ⟨fun _ m σ holds => ?_, old⟩⟩
  exact ⟨m, σ, .returned, .leave, holds, fun _ _ _ => rfl, flow, List.mem_singleton_self flow, fun _ => .rfl⟩

end Blocks

section Branches

variable {statement : Statement} {condition : Expression} {yes no : List Statement}

/-- A branch whose condition has a value places its node and lowers both arms; one that is missing is empty. -/
theorem lowerStatement_of_condition (tells : statement.Tells (.branch condition yes no)) (flow : FlowOut)
    {value : ValueOut} {lowered : Lowering}
    (valued : lowerExpression cls inliner active condition s = (some value, lowered)) :
    lowerStatement cls inliner active statement flow s = (do
      let branch ← placeBranch value flow
      let first ← lowerBlock cls inliner active yes (.one (branch.flowOut "true"))
      let second ← lowerBlock cls inliner active no (.one (branch.flowOut "false"))
      return first.merge second) lowered := by
  cases tells with
  | branch =>
    rw [lowerStatement_of_branch rfl, lowerBranch_of_valued rfl valued]
    simp only [lowerBlock_nil]
    rfl
  | branchElse => rw [lowerStatement_of_branch rfl, lowerBranch_of_valued rfl valued]; rfl

/-- The node of a branch hands control on by its condition. -/
theorem plan_placeBranch (value : ValueOut) {flow : FlowOut}
    (plan : Plan start blanks (flow.address :: idles) holding s.context) :
    Ensures (placeBranch value flow) s fun branch s' => ∃ c, s' = { s with context := c } ∧ s.context.KeepsRows c ∧
      Plan start blanks ((branch.flowOut "true").address :: (branch.flowOut "false").address :: idles)
        (fun q => (∀ σ d, q.Gives σ (.output value.address) (.bool d) →
          q.Leads flow (if d then branch.flowOut "true" else branch.flowOut "false") σ σ) ∧ holding q) c := by
  refine .liftBind
    ((plan.createNode ["condition"] ["true", "false"] (by decide)).keeping (goesOn_createNode .flowBranch))
    fun branch c ⟨⟨plan, _⟩, rows⟩ => ?_
  refine .liftBind ((plan.connect (t := branch.valueIn "condition") value (.refl _)).keeping (goesOn_connect _ _))
    fun _ c ⟨plan, rows'⟩ => ?_
  refine .liftBind ((plan.connectFlow (branch.flowIn "in") (perm_front [_, _] _ _)).keeping (goesOn_connectFlow _ _))
    fun _ c ⟨plan, rows''⟩ => .pure ⟨c, rfl, (rows.trans rows').trans rows'', plan.mono ?_⟩
  intro q ⟨leads, fed, branches, old⟩
  refine ⟨fun σ d gives τ => ?_, old⟩
  rw [leads]
  cases d <;> exact Program.runs_branch branches (Program.Feeds.takes fed gives)

theorem realizes_branch (tells : statement.Tells (.branch condition yes no)) (decides : condition.Plain roles .bool)
    (insideYes : Realizes method roles returns (.block yes) (Statement.changedNames yes)
      fun flow => lowerBlock cls inliner active yes (.one flow))
    (insideNo : Realizes method roles returns (.block no) (Statement.changedNames no)
      fun flow => lowerBlock cls inliner active no (.one flow)) :
    Realizes method roles returns (.order (.branch condition yes no)) statement.changes
      (lowerStatement cls inliner active statement) := by
  intro layout start blanks idles holding s flow houses counters plan
  have lowered : Ensures (lowerExpression cls inliner active condition) s _ :=
    plan_lowerExpression decides houses counters plan
  rcases run : lowerExpression cls inliner active condition s with ⟨value?, s₁⟩
  rw [Ensures, run] at lowered
  obtain ⟨value, c, rfl, rfl, rows, plan⟩ := lowered
  rw [Ensures, lowerStatement_of_condition tells flow run]
  refine (plan_placeBranch value plan).bind ?_
  rintro branch _ ⟨c, rfl, rows', plan⟩
  have rows := rows.trans rows'
  refine (insideYes _ (houses.advance rows) (fun q all => counters q all.2.2) plan).bind fun first s₁ realized => ?_
  refine (insideNo _ realized.houses (fun q all => counters q all.2.2.2)
    (realized.plan.reorder (.refl _) List.perm_middle.symm)).bind fun second s₂ realized' => .pure ?_
  refine ⟨realized'.houses, (rows.trans realized.rows).trans realized'.rows, fun never => ?_, ?_⟩
  · exact List.append_eq_nil_iff.2 ⟨realized.unreturned never, realized'.unreturned never⟩
  · refine (realized'.plan.reorder (.refl _) ?_).mono ?_
    · refine List.perm_iff_count.2 fun a => ?_
      simp only [Exits.merge, Exits.tails, List.map_append, List.count_append]
      omega
    · rintro q ⟨performsNo, performsYes, branches, computes, old⟩
      refine ⟨fun roomy => ?_, old⟩
      have roomy' := realized'.rows.roomy roomy
      have first := (performsYes roomy').mono (fun _ _ _ inside => inside) tells.branch_subset.1
      have second := (performsNo roomy).mono (fun _ _ _ inside => inside) tells.branch_subset.2
      exact .branch decides computes branches first second

end Branches

end Lower

end ScriptGraph
