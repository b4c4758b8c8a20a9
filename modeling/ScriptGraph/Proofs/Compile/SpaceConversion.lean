import Mathlib
import ScriptGraph.Proofs.Compile.InliningLimit
import ScriptGraph.Proofs.Space.Bypass

/-!
Converting between the spaces changes nothing but the flips.

A class is compiled with the setting and without it. The two runs keep pace: the converting run makes the nodes of
the other one and flips among them, and names, tables and diagnostics are the same.
-/

namespace ScriptGraph

open Pattern

/-- The options with conversion between the spaces, or without it. -/
def Options.converting (options : Options) (spaceConversion : Bool) : Options := { options with spaceConversion }

namespace ScriptClass

variable (options : Options) (targets : Targets)

/-- Before anything is made the runs are twins. -/
theorem sim_start : (Pairing.apart []).Sim (startOfLowering (options.converting false) targets)
    (startOfLowering (options.converting true) targets) := by
  have twins : Twins [] (startOfLowering (options.converting false) targets).context
      (startOfLowering (options.converting true) targets).context :=
    { plain := rfl
      converting := rfl
      small := ⟨Nat.zero_le _, Nat.zero_le _⟩
      identified := fun i n found => by cases found
      identified' := fun i n found => by cases found
      size := rfl
      lists := ⟨rfl, fun {i j id id' sink sink'} here => by cases here⟩
      kept := fun here => by cases here
      flips := fun here => by cases here
      fed := fun here => by cases here }
  exact ⟨twins, ⟨rfl, rfl, rfl, rfl, rfl, rfl, rfl⟩, rfl, pairs_empty, .nil, .none⟩

/-- Converting between the spaces changes nothing but the flips: a class fails to compile with the same error, or
compiles to the same name, diagnostics, variables and events, and to a graph that becomes the graph without
conversion when its flips are bypassed. -/
theorem compile_spaceConversion (c : ScriptClass)
    (small : (c.lowered (options.converting true) targets).Small) :
    (∃ problem, c.compile (options.converting false) targets = .error problem ∧
      c.compile (options.converting true) targets = .error problem) ∨
    ∃ a a', c.compile (options.converting false) targets = .ok a ∧
      c.compile (options.converting true) targets = .ok a' ∧
      a'.name = a.name ∧ a'.diagnostics = a.diagnostics ∧ a'.graph.vars = a.graph.vars ∧
      a'.graph.events = a.graph.events ∧ a.graph.EqualButForFlips a'.graph := by
  obtain ⟨p, -, sim, same⟩ := (Lower.tracks_lowerClass c).twins _ _ (sim_start options targets) small
  have problems : (options.converting true).problem? = (options.converting false).problem? := rfl
  unfold compile
  rw [problems]
  cases (options.converting false).problem? with
  | some problem => exact .inl ⟨_, rfl, rfl⟩
  | none =>
    dsimp only
    revert sim same
    generalize Lower.lowerClass c (startOfLowering (options.converting false) targets) = plain
    generalize Lower.lowerClass c (startOfLowering (options.converting true) targets) = flipped
    intro sim same
    obtain ⟨result, lowered⟩ := plain
    obtain ⟨result', lowered'⟩ := flipped
    obtain rfl : result' = result := same
    cases p with
    | lost => exact sim.elim
    | apart roles =>
      obtain ⟨twins, pairs⟩ := sim
      have twins : Twins roles lowered.context lowered'.context := twins
      have shares : lowered.context.Shares lowered'.context := Lowering.Pairs.context pairs
      cases result' with
      | error problem => exact .inl ⟨problem, rfl, rfl⟩
      | ok _ =>
        refine .inr ⟨_, _, rfl, rfl, rfl, ?_, shares.vars, shares.events, twins.equalButForFlips shares⟩
        exact congrArg (fun d : Diagnostics => d.entries.toList) shares.diagnostics

end ScriptClass

namespace Relocation

/-- The value `transform.<name>`. -/
def property (name : String) : Expression :=
  { kind := .memberAccess
    resultType := some { name := "Vector3" }
    member := some { name, declaringType := { name := "Transform" } } }

/-- Puts the local position in the place of the position. -/
def start : Method :=
  let write : Expression :=
    { kind := .assignment, operator := some "=", children := [property "position", property "localPosition"] }
  { name := "Start", body := [{ kind := .assignment, expressions := [write] }] }

def cls : ScriptClass := { name := "Relocation", methods := [start] }

/-- The body of a method that is one assignment. -/
def assignment : Lower.EntryBody := fun levels method flow =>
  match method.body.head?.bind (·.expression?) with
  | some e => do return .one (← Lower.lowerAssignment cls (Lower.inliner cls levels) [] e flow)
  | none => return .one flow

theorem lowerClass_cls : Lower.lowerClass cls = Lower.lowerClassWith cls assignment := by
  rw [← Lower.lowerClassWith_inlinedBody]
  refine (Lower.lowerClassWith_congr fun method declared => ?_).symm
  obtain rfl := List.mem_singleton.1 declared
  have same (levels : Nat) (flow : FlowOut) :
      assignment levels start flow = Lower.inlinedBody cls levels start flow := by
    rw [Lower.inlinedBody, start, Lower.lowerBlock_cons]
    simp only [Lower.lowerBlock, Lower.lowerStatement, Lower.statementStep]
    rfl
  unfold Lower.lowerEntryPointWith
  simp only [same]

/-- The position is flipped where it is read and where it is written; without the two flips the graphs are the same. -/
theorem compile_flips : ∃ a a', cls.compile (.converting {} false) {} = .ok a ∧
    cls.compile (.converting {} true) {} = .ok a' ∧ a.graph.nodes.size = 13 ∧ a'.graph.nodes.size = 15 ∧
    a.graph.EqualButForFlips a'.graph := by
  have extent : cls.extent? (.converting {} false) {} = some (13, 2, 0, 0) := by
    rw [ScriptClass.extent?, lowerClass_cls]
    decide +kernel
  have extent' : cls.extent? (.converting {} true) {} = some (15, 2, 0, 0) := by
    rw [ScriptClass.extent?, lowerClass_cls]
    decide +kernel
  obtain ⟨a, success, nodes, _⟩ := ScriptClass.exists_compile_of_extent rfl extent
  obtain ⟨a', success', nodes', placeholders', _⟩ := ScriptClass.exists_compile_of_extent rfl extent'
  have small : (cls.lowered (.converting {} true) {}).Small := by
    rw [Context.Small, nodes', placeholders']
    decide
  refine ⟨a, a', success, success', ?_, ?_, ?_⟩
  · rw [(ScriptClass.compile_eq_ok success).1, Context.resolved, Array.size_map, nodes]
  · rw [(ScriptClass.compile_eq_ok success').1, Context.resolved, Array.size_map, nodes']
  · rcases ScriptClass.compile_spaceConversion {} {} cls small with
      ⟨problem, fails, _⟩ | ⟨b, b', same, same', _, _, _, _, flips⟩
    · cases success.symm.trans fails
    · cases success.symm.trans same
      cases success'.symm.trans same'
      exact flips

end Relocation

end ScriptGraph
