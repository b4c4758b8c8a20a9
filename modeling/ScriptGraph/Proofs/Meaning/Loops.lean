import Mathlib
import ScriptGraph.Proofs.Lower.LoopHeaders
import ScriptGraph.Proofs.Meaning.Blocks
import ScriptGraph.Proofs.Runtime.ListNodes

/-!
Counting loops, as the running graph sees them.

One pass is what the body does with the counter in memory. The bound reads nothing that the body changes, so that it
stays the same from pass to pass, and so does the counter from the beginning of a pass to its end. What the node does
after the last pass is an induction on how far the counter is from the bound.
-/

namespace ScriptGraph

open Pattern Build

namespace Program

variable {p : Program} {roles : Roles} {layout : Layout} {counter : String} {first bound : Expression}
  {body : List Statement} {loop : ForLoop} {flow : FlowOut} {exits : Exits}

/-- A flow enters a node that counts from a start up to a bound. -/
structure Begins (p : Program) (roles : Roles) (layout : Layout) (first bound : Expression) (loop : ForLoop)
    (flow : FlowOut) : Prop where
  loops : p.Loops loop
  started : p.feed? ⟨loop.node, "startIndex"⟩ ≠ none
  /-- No counter in scope is that of the node. -/
  apart : ∀ other role output, roles other = some role → layout other = .value output → output.address.node ≠ loop.node
  starts : ∀ m σ i, layout.Holds roles m σ → first.evaluate? m = some (.int i) →
    ∀ τ, p.Runs (.follow (p.next? flow.address)) σ τ ↔ p.Runs (.counting loop.node i) σ τ
  stops : ∀ m σ last, layout.Holds roles m σ → bound.evaluate? m = some (.int last) → p.Accepts σ loop.stop (.int last)

theorem Begins.isCounter (begins : p.Begins roles layout first bound loop flow) :
    p.IsCounter loop.index := by
  have own : loop.index.address.node = loop.node := by rw [begins.loops.index]; rfl
  exact ⟨own ▸ begins.loops.stands.real, own ▸ begins.loops.stands.op, own ▸ begins.started⟩

/-- Between its passes the node does what the body says. -/
structure Revolves (p : Program) (roles : Roles) (layout : Layout) (counter : String) (first bound : Expression)
    (body : List Statement) (loop : ForLoop) (flow : FlowOut) (exits : Exits) : Prop
    extends p.Begins roles layout first bound loop flow where
  inside : p.Performs (roles.having counter .counter) (layout.having counter (.value loop.index)) (.block body)
    (Statement.changedNames body) loop.loopBody exits
  unreturned : exits.returned = []
  closed : ∀ f ∈ exits.open, p.next? f.address = none

/-- The number of passes that are left. -/
def left (i last : Int32) : Nat := (last.toInt - i.toInt).toNat

theorem left_pos_iff {i last : Int32} : 0 < left i last ↔ i < last := by
  rw [left, Int32.lt_iff_toInt_lt]
  omega

/-- The next number does not wrap around, as it is not beyond the bound. -/
theorem left_succ {i last : Int32} (below : i < last) : left i last = left (i + 1) last + 1 := by
  have below : i.toInt < last.toInt := Int32.lt_iff_toInt_lt.1 below
  have low := i.le_toInt
  have high := last.toInt_lt
  have next : (i + 1).toInt = i.toInt + 1 := by
    rw [Int32.toInt_add, show (1 : Int32).toInt = 1 from rfl, Int.bmod_eq_of_le (by omega) (by omega)]
  rw [left, left, next]
  omega

namespace Revolves

/-- Setting the counter is seen by its name only. -/
theorem holds_count (revolves : p.Revolves roles layout counter first bound body loop flow exits) {m : Memory}
    {σ : Store} (holds : layout.Holds roles m σ) (i : Int32) :
    (layout.having counter (.value loop.index)).Holds (roles.having counter .counter) (m.put counter (.int i))
      (σ.count loop.node i) := by
  have own : loop.index.address.node = loop.node := by rw [revolves.loops.index]; rfl
  rw [← own]
  exact holds.count (fun other role output known meaning => own ▸ revolves.apart other role output known meaning) i

variable (fresh : roles counter = none) (last : bound.Plain roles .int)
  (kept : ∀ name ∈ counter :: bound.readNames, name ∉ Statement.changedNames body)

include fresh last kept

/-- What a pass does: the body takes the memory to another one, in which counter and bound are the same, and the node
goes on with the next number. -/
theorem pass (revolves : p.Revolves roles layout counter first bound body loop flow exits) {m : Memory} {σ : Store}
    {i stop : Int32} (holds : layout.Holds roles m σ) (stops : bound.evaluate? m = some (.int stop)) (below : i < stop) :
    ∃ μ ρ, Executes (.block body) (m.put counter (.int i)) μ .onward ∧ layout.Holds roles μ ρ ∧
      μ counter = some (.int i) ∧ bound.evaluate? μ = some (.int stop) ∧
      (∀ x, roles x ≠ none → x ∉ Statement.changedNames body → μ x = m x) ∧
      ∀ τ, p.Runs (.counting loop.node i) σ τ ↔ p.Runs (.counting loop.node (i + 1)) ρ τ := by
  obtain ⟨μ, ρ, ending, executes, inner, same, exit, listed, leads⟩ :=
    revolves.inside _ _ (revolves.holds_count holds i)
  cases ending with
  | returned =>
    have listed : exit ∈ exits.returned := listed
    rw [revolves.unreturned] at listed
    cases listed
  | onward =>
    have older {x : String} (there : roles x ≠ none) : x ≠ counter := fun own => there (own ▸ fresh)
    have unchanged (x : String) (there : roles x ≠ none) (kept : x ∉ Statement.changedNames body) : μ x = m x := by
      have here : roles.having counter .counter x ≠ none := by rwa [Roles.having_of_ne (older there)]
      rw [same x here kept, m.put_of_ne counter _ (older there)]
    have ends : p.Ends (p.next? loop.loopBody.address) (σ.count loop.node i) ρ := by
      intro τ
      rw [leads, revolves.closed exit listed]
      exact runs_rest
    refine ⟨μ, ρ, executes, inner.narrow fresh, ?_, ?_, unchanged, ?_⟩
    · have here : roles.having counter .counter counter ≠ none := by
        rw [Roles.having_self]
        exact nofun
      rw [same counter here (kept counter List.mem_cons_self), m.put_self]
    · rw [last.evaluate?_congr fun x read =>
        unchanged x (last.known_of_read read) (kept x (List.mem_cons_of_mem _ read)), stops]
    · exact revolves.loops.counts.again σ i stop ρ (revolves.stops m σ stop holds stops) below ends

/-- All passes that are left, as the body says. -/
theorem passes (revolves : p.Revolves roles layout counter first bound body loop flow exits) {m : Memory} {σ : Store}
    {i stop : Int32} (holds : layout.Holds roles m σ) (stops : bound.evaluate? m = some (.int stop)) :
    ∃ m' σ', Executes (.passes counter bound body) (m.put counter (.int i)) m' .onward ∧ layout.Holds roles m' σ' ∧
      (∀ x, roles x ≠ none → x ∉ Statement.changedNames body → m' x = m x) ∧
      ∀ τ, p.Runs (.counting loop.node i) σ τ ↔ p.Runs (.follow (p.next? loop.completed.address)) σ' τ := by
  have older {x : String} (there : roles x ≠ none) : x ≠ counter := fun own => there (own ▸ fresh)
  -- The bound does not read the counter.
  have seen {m : Memory} (stops : bound.evaluate? m = some (.int stop)) (i : Int32) :
      bound.evaluate? (m.put counter (.int i)) = some (.int stop) := by
    rw [last.evaluate?_congr fun x read => m.put_of_ne counter _ (older (last.known_of_read read)), stops]
  induction remaining : left i stop generalizing m σ i with
  | zero =>
    have reached : ¬ i < stop := fun below => by
      rw [left_succ below] at remaining
      cases remaining
    refine ⟨_, σ.count loop.node i, .exhausted (m.put_self counter _) (seen stops i) reached,
      (revolves.holds_count holds i).narrow fresh, fun x there _ => m.put_of_ne counter _ (older there), ?_⟩
    exact revolves.loops.counts.stops σ i stop (revolves.stops m σ stop holds stops) reached
  | succ n ih =>
    have below : i < stop := left_pos_iff.1 (remaining ▸ Nat.succ_pos n)
    obtain ⟨μ, ρ, executes, holds', counted, stops', same, again⟩ := revolves.pass fresh last kept holds stops below
    have fewer : left (i + 1) stop = n := Nat.succ.inj ((left_succ below).symm.trans remaining)
    obtain ⟨m', σ', others, holds'', same', after⟩ := ih holds' stops' fewer
    refine ⟨m', σ', .pass (m.put_self counter _) (seen stops i) below executes counted others, holds'', ?_, ?_⟩
    · intro x there kept
      rw [same' x there kept, same x there kept]
    · exact fun τ => (again τ).trans (after τ)

/-- The node does what the loop says. -/
theorem performs (revolves : p.Revolves roles layout counter first bound body loop flow exits)
    (number : first.Plain roles .int) :
    p.Performs roles layout (.order (.count counter first bound body)) (Statement.changedNames body) flow
      (.one loop.completed) := by
  intro m σ holds
  obtain ⟨_, begins, is⟩ := number.evaluates holds.fits
  obtain ⟨i, rfl⟩ := Literal.exists_int is
  obtain ⟨_, ends, is⟩ := last.evaluates holds.fits
  obtain ⟨stop, rfl⟩ := Literal.exists_int is
  obtain ⟨m', σ', executes, holds', same, after⟩ := revolves.passes fresh last kept (i := i) holds ends
  refine ⟨m', σ', .onward, .count begins executes, holds', same, _, List.mem_singleton_self _, fun τ => ?_⟩
  exact (revolves.starts m σ i holds begins τ).trans (after τ)

end Revolves

end Program

namespace Lower

variable {cls : ScriptClass} {inliner : Inliner} {active : List String} {start : Context}
  {blanks idles : List SocketAddress} {holding : Program → Prop} {method : String} {roles : Roles} {layout : Layout}
  {s : Lowering} {returns : Bool}

/-- Flows that are given up lead nowhere for good. -/
theorem plan_closeAll (flows : List FlowOut) {c : Context} {holding : Program → Prop}
    (plan : Plan start blanks (flows.map (·.address) ++ idles) holding c) :
    Plan start blanks idles (fun q => (∀ f ∈ flows, q.next? f.address = none) ∧ holding q) c := by
  induction flows generalizing holding with
  | nil => exact plan.mono fun q old => ⟨nofun, old⟩
  | cons flow flows ih =>
    exact (ih (plan.close (.refl _))).mono fun q ⟨others, first, old⟩ => ⟨List.forall_mem_cons.2 ⟨first, others⟩, old⟩

theorem ensures_bindCounter_eq (name : String) (counter : Counter) (s : Lowering) :
    Ensures (bindCounter name counter) s fun _ s' =>
      s' = { s with frames := s.frames.modifyHead (Counter.enter name counter) } := by
  refine ensures_frame?.bind ?_
  rintro _ _ ⟨rfl, rfl⟩
  refine (ensures_modifyFrame_eq _ _).bind ?_
  rintro _ _ rfl
  exact .pure rfl

section Counters

variable {counter : String} {output : ValueOut}

/-- The counter of a loop comes into scope. -/
theorem houses_enter (houses : s.Houses method roles layout) :
    ({ s with frames := s.frames.modifyHead (Counter.enter counter (.value output)) } : Lowering).Houses method
      (roles.having counter .counter) (layout.having counter (.value output)) := by
  obtain ⟨frame, outer, frames, own⟩ := houses.opened
  rw [frames]
  refine houses.widen houses.separate.count ⟨_, outer, rfl, ?_⟩ (.refl _) ?_ (fun other different => ?_) nofun
    fun _ => ⟨output, rfl⟩
  · rw [Counter.method_enter, own]
  · refine Lowering.reading?_of_bound? ?_
    simp [Lowering.bound?, Counter.enter, Counter.bind, Dict.find?_insert]
  · obtain ⟨bindings, locals⟩ : (Counter.enter counter (.value output) frame).bindings.find? other = _ ∧ _ :=
      Counter.enter_of_ne different
    simp [Lowering.reading?, Lowering.bound?, Lowering.written?, frames, bindings, locals]

/-- It goes out of scope. -/
theorem houses_leave (houses : s.Houses method (roles.having counter .counter) (layout.having counter (.value output)))
    (fresh : roles counter = none) (previous : Option Counter) :
    ({ s with frames := s.frames.modifyHead (Counter.leave counter previous) } : Lowering).Houses method roles
      layout := by
  obtain ⟨frame, outer, frames, own⟩ := houses.opened
  rw [frames]
  refine (houses.narrow fresh).transport ⟨_, outer, rfl, ?_⟩ (fun other role known => ?_) (.refl _)
  · exact (Counter.method_bind ..).trans own
  · obtain ⟨bindings, locals⟩ : (Counter.leave counter previous frame).bindings.find? other = _ ∧ _ :=
      Counter.leave_of_ne (Roles.ne_of_fresh fresh known)
    simp [Lowering.reading?, Lowering.bound?, Lowering.written?, frames, bindings, locals]

end Counters

section Loops

variable {statement : Statement} {counter : String} {first bound : Expression} {body : List Statement}

/-- A plain loop is one that a node runs. -/
theorem lowerStatement_of_count (tells : statement.Tells (.count counter first bound body))
    (number : first.Plain roles .int) (headless : body.dropWhile CountingLoop.isHeader = body)
    (canonical : (CountingLoop.upTo counter first bound body).isCanonical = true) (flow : FlowOut) :
    lowerStatement cls inliner active statement flow =
      lowerCanonicalLoop cls inliner active (CountingLoop.upTo counter first bound body)
        (fun flow => lowerBlock cls inliner active body (.one flow)) flow := by
  obtain ⟨read, inside⟩ := CountingLoop.ofStatement?_of_tells tells headless
  have kind : statement.kind = .forLoop := by cases tells; rfl
  have typed : (CountingLoop.upTo counter first bound body).start.valueType? = some .int := number.valueType?
  rw [lowerStatement_of_loop cls inliner active kind, lowerLoop, read, inside]
  dsimp only
  rw [typed, canonical]
  rfl

theorem realizes_count (tells : statement.Tells (.count counter first bound body)) (fresh : roles counter = none)
    (number : first.Plain roles .int) (last : bound.Plain roles .int)
    (headless : body.dropWhile CountingLoop.isHeader = body) (waitless : Statement.suspends body = false)
    (kept : ∀ name ∈ counter :: bound.readNames, name ∉ Statement.changedNames body)
    (inside : Realizes method (roles.having counter .counter) false (.block body) (Statement.changedNames body)
      fun flow => lowerBlock cls inliner active body (.one flow)) :
    Realizes method roles returns (.order (.count counter first bound body)) statement.changes
      (lowerStatement cls inliner active statement) := by
  intro layout start blanks idles holding s flow houses counters plan
  rw [lowerStatement_of_count tells number headless (CountingLoop.isCanonical_upTo last waitless kept)]
  refine (plan_lowerExpression number houses counters plan).bind ?_
  rintro _ _ ⟨v, c, rfl, rfl, rows, plan⟩
  refine (plan_lowerExpression last (houses.advance rows) (fun q all => counters q all.2) plan).bind ?_
  rintro _ _ ⟨w, c, rfl, rfl, rows', plan⟩
  have rows := rows.trans rows'
  dsimp only
  refine .liftBind ((plan.forLoopNode _).keeping (goesOn_forLoop _)) fun loop c ⟨plan, rows'⟩ => ?_
  have rows := rows.trans rows'
  -- The inputs of the node are still blank, and those of the older loops are not.
  have plan : Plan start _ _ (fun q => (∀ other role output, roles other = some role → layout other = .value output →
      output.address.node ≠ loop.node) ∧ _) c := plan.learn fun p planned other role output known meaning same => by
    obtain ⟨loops, _, _, old⟩ := planned.now
    obtain rfl := houses.counter known meaning
    have started := (counters p old other output known meaning).started
    have blank := (planned.blank ⟨loop.node, "startIndex"⟩ (by rw [loops.start]; simp)).2
    exact started (same ▸ blank)
  refine .liftBind ((plan.connect (t := loop.start) v (.refl _)).keeping (goesOn_connect _ _))
    fun _ c ⟨plan, rows'⟩ => ?_
  have rows := rows.trans rows'
  refine .liftBind ((plan.connect (t := loop.stop) w (.refl _)).keeping (goesOn_connect _ _))
    fun _ c ⟨plan, rows'⟩ => ?_
  have rows := rows.trans rows'
  refine .liftBind ((plan.connectFlow loop.flowIn (perm_front [_, _] _ _)).keeping (goesOn_connectFlow _ _))
    fun _ c ⟨plan, rows'⟩ => ?_
  have rows := rows.trans rows'
  have plan : Plan _ _ _ (fun q => q.Begins roles layout first bound loop flow ∧ holding q) c :=
    plan.mono fun q ⟨leads, fedStop, fedStart, apart, loops, ends, begins, old⟩ => by
      have started := fedStart ⟨loop.node, "startIndex"⟩ (by rw [loops.start]; simp)
      refine ⟨⟨loops, by rw [started]; exact nofun, apart, fun m σ i holds evaluates τ => ?_, ?_⟩, old⟩
      · rw [leads]
        exact loops.counts.starts σ i (Program.Feeds.accepts fedStart (begins m σ _ holds evaluates)) τ
      · exact fun m σ i holds evaluates => Program.Feeds.accepts fedStop (ends m σ _ holds evaluates)
  refine (ensures_bindCounter_eq _ _ _).bind ?_
  rintro shadowed _ rfl
  refine (inside loop.loopBody (houses_enter (houses.advance rows))
    (fun q ⟨begins, old⟩ => (counters q old).count begins.isCounter) plan).bind fun exits s₁ realized => ?_
  refine (ensures_modifyFrame_eq _ _).bind ?_
  rintro _ _ rfl
  have unreturned := realized.unreturned rfl
  have plan := realized.plan
  rw [Exits.tails, unreturned, List.append_nil] at plan
  refine .pure ⟨houses_leave realized.houses fresh _, rows.trans realized.rows, fun _ => unreturned, ?_⟩
  rw [unreturned]
  refine (plan_closeAll _ plan).mono fun q ⟨closed, performs, begins, old⟩ => ⟨fun roomy => ?_, old⟩
  have revolves : q.Revolves roles layout counter first bound body loop flow exits :=
    ⟨begins, performs roomy, unreturned, closed⟩
  exact (revolves.performs fresh last kept number).mono (fun _ _ _ inside => inside) tells.count_subset

end Loops

end Lower

end ScriptGraph
