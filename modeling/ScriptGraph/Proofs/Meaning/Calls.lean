import Mathlib
import ScriptGraph.Proofs.Meaning.Blocks

/-!
What follows an inlined call.

The body runs at the first output of a sequence. A node that waits for all of its inputs is entered from the tails of the
body and from the second output, and what follows the call goes on where the node leaves while an input is missing. So it
goes on with the first of the two that arrives, which is the body unless it rests. As nothing makes the node forget what
has arrived, it goes on at the first execution of the call and at no other.
-/

namespace ScriptGraph

open Pattern Build

/-- Where control leaves a node that waits for all of its inputs, when the given ones have been entered. -/
def waitAllOutlet (inputs entered : List String) : String :=
  if inputs ⊆ entered then "completed" else "out"

/-- Where control leaves it at each of its entries, of which there were some before. -/
def waitAllOutlets (inputs before : List String) : List String → List String
  | [] => []
  | input :: later => waitAllOutlet inputs (input :: before) :: waitAllOutlets inputs (input :: before) later

/-- When no input is missing, every entry completes. -/
theorem waitAllOutlets_of_subset {inputs before : List String} (all : inputs ⊆ before) (entries : List String) :
    waitAllOutlets inputs before entries = List.replicate entries.length "completed" := by
  induction entries generalizing before with
  | nil => rfl
  | cons input later ih =>
    have still : inputs ⊆ input :: before := List.subset_cons_of_subset input all
    rw [waitAllOutlets, waitAllOutlet, if_pos still, ih still, List.length_cons, List.replicate_succ]

/-- With two inputs, control leaves by way of the output for missing ones at the first entry only. -/
theorem waitAllOutlets_of_both {inputs : List String} {first second : String} (missing : ¬ inputs ⊆ [first])
    (all : inputs ⊆ [second, first]) (later : List String) :
    waitAllOutlets inputs [] (first :: second :: later) = "out" :: List.replicate (later.length + 1) "completed" := by
  have misses : waitAllOutlet inputs [first] = "out" := if_neg missing
  have completes : waitAllOutlet inputs [second, first] = "completed" := if_pos all
  rw [waitAllOutlets, misses, waitAllOutlets, completes, waitAllOutlets_of_subset all, List.replicate_succ]

/-- How an execution of an inlined call comes to what follows it. -/
inductive Arrival where
  /-- The body has come to a tail when the sequence goes on. -/
  | prompt
  /-- The body rests when the sequence goes on, and comes to a tail later. -/
  | resting

/-- The inputs that an execution enters, in order. -/
def Arrival.entries : Arrival → List String
  | prompt => ["0", "1"]
  | resting => ["1", "0"]

/-- However often a call is executed, control leaves by way of the output for missing inputs once, at the first entry of
the first execution. -/
theorem waitAllOutlets_of_arrivals (first : Arrival) (others : List Arrival) :
    waitAllOutlets ["0", "1"] [] ((first :: others).flatMap Arrival.entries) =
      "out" :: List.replicate ((others.flatMap Arrival.entries).length + 1) "completed" := by
  cases first with
  | prompt => exact waitAllOutlets_of_both (by simp) (by simp) _
  | resting => exact waitAllOutlets_of_both (by simp) (by simp) _

/-- A node waits for a tail of a body and for the second output of the sequence that runs the body. -/
structure Program.Awaits (p : Program) (sequence wait : NodeId) (tails : List FlowOut) : Prop where
  op : p.op? wait = some .flowWaitAll
  inputs : p.parameter? wait "inputFlows" = some (.int 2)
  body : ∀ f ∈ tails, p.next? f.address = some ⟨wait, "0"⟩
  caller : p.next? ⟨sequence, "1"⟩ = some ⟨wait, "1"⟩

namespace Lower

variable {start : Context} {blanks idles : List SocketAddress} {holding : Program → Prop} {s : Lowering}

/-- What follows a call goes on where the node leaves while an input is missing. -/
theorem plan_continueAfter {sequence : NodeId} {tails : List FlowOut} (leaves : tails ≠ [])
    (plan : Plan start blanks (tails.map (·.address) ++ ⟨sequence, "1"⟩ :: idles) holding s.context) :
    Ensures (continueAfter sequence tails) s fun next s' => ∃ wait c, next = wait.flowOut "out" ∧
      s' = { s with context := c } ∧ Plan start blanks (next.address :: idles)
        (fun q => q.Awaits sequence wait tails ∧ holding q) c := by
  have some : tails.isEmpty = false := by simpa using leaves
  rw [continueAfter, some]
  refine .liftBind (plan.createNode [] ["out"] (by decide)) ?_
  rintro wait c ⟨plan, bare⟩
  refine .liftBind (plan.configure bare "inputFlows" (.int 2)) fun _ c plan => ?_
  have plan : Plan start blanks (tails.map (·.address) ++ ⟨sequence, "1"⟩ :: ⟨wait, "out"⟩ :: idles) _ c :=
    plan.reorder (.refl _) ((List.Perm.swap _ _ _).append_left _ |>.trans List.perm_middle)
  refine (plan_connectFlows tails (wait.flowIn "0") (s := { s with context := c }) rfl plan).bind ?_
  rintro _ _ ⟨c, rfl, _, plan⟩
  refine .liftBind (plan.connectFlow (f := sequence.flowOut "1") (wait.flowIn "1") (.refl _)) fun _ c plan => ?_
  refine .pure ⟨wait, c, rfl, rfl, plan.mono ?_⟩
  rintro q ⟨caller, body, parameter, stands, old⟩
  exact ⟨⟨stands.op, parameter, body, caller⟩, old⟩

end Lower

end ScriptGraph
