import Mathlib
import ScriptGraph.Compile
import ScriptGraph.Proofs.Lower.Lockstep.Classes

/-!
The limit of inlining only refuses. Where a class compiles under a limit and no call was refused for it, the class
compiles the same under every higher one: the two runs keep pace, since each call that the lower limit lets through
the higher one lets through as well.
-/

namespace ScriptGraph

open Build

namespace Diagnostic

/-- The note that a call was refused under a limit. -/
def Refuses (note : Diagnostic) (limit : Nat) : Prop := ∃ callee, note.message = refusal callee limit

end Diagnostic

/-- A limit and a higher one, which make no difference as long as no call is refused. -/
def Limits.raised {limit higher : Nat} (le : limit ≤ higher) : Limits where
  own := limit
  other := higher
  fine notes := ∀ note ∈ notes, ¬ note.Refuses limit
  own_le := le
  fine_of_prefix before fine note member := fine note (before.subset member)
  refused := .inr fun notes method callee fine =>
    fine ⟨.unsupported, method, refusal callee limit⟩ (List.mem_append_right notes List.mem_cons_self) ⟨callee, rfl⟩

namespace Lower

variable {v : Limits} {c : ScriptClass}

/-- Inliners keep pace if both have levels for what the lower limit lets through. -/
theorem alike_inliner_of_levels (levels : Nat) :
    ∀ (levels' : Nat) (active stack : List String), v.own ≤ active.length + levels → v.own ≤ active.length + levels' →
      Inliner.Alike v c active stack (inliner c levels) (inliner c levels') := by
  induction levels with
  | zero =>
    intro _ active _ enough _ callee _ _ open'
    -- Without levels the limit is reached already.
    omega
  | succ levels ih =>
    intro levels' active stack enough enough' callee _ _ open'
    obtain ⟨levels', rfl⟩ : ∃ rest, levels' = rest + 1 := ⟨levels' - 1, by omega⟩
    have deeper := ih levels' (callee.name :: active) (callee.name :: stack)
      (by rw [List.length_cons]; omega) (by rw [List.length_cons]; omega)
    exact ⟨fun block flow => alike_lowerBlock deeper block (.one flow), fun e => alike_lowerExpression deeper e⟩

/-- Entry points keep pace if one limit is not above the other. -/
theorem alike_inlinedBody (v : Limits) (method : Method) (flow : FlowOut) :
    Alike v [method.name] (inlinedBody c v.own method flow) (inlinedBody c v.other method flow) := by
  have enough : v.own ≤ ([] : List String).length + v.other := by simpa using v.own_le
  have inlined := alike_inliner_of_levels (c := c) v.own v.other [] [method.name] (by simp) enough
  exact alike_lowerBlock inlined method.body (.one flow)

/-- Under a higher limit a class is lowered the same if the lower one refused no call. -/
theorem lowerClass_withLimit {s : Lowering} {higher : Nat} (le : s.limit ≤ higher) (idle : s.frames = [])
    (granted : ∀ note ∈ (lowerClass c s).2.notes, ¬ note.Refuses s.limit) :
    lowerClass c (s.withLimit higher) = ((lowerClass c s).1, (lowerClass c s).2.withLimit higher) := by
  have parallel : Parallel (.raised le) (lowerClassWith c (inlinedBody c)) (lowerClassWith c (inlinedBody c)) :=
    parallel_lowerClassWith fun method _ flow => alike_inlinedBody (.raised le) method flow
  rw [lowerClassWith_inlinedBody] at parallel
  obtain ⟨-, -, -, same⟩ := parallel s rfl idle
  exact same granted

end Lower

namespace ScriptClass

variable {c : ScriptClass} {options : Options} {targets : Targets} {a : Artifacts}

/-- What a class is lowered to by a compilation that succeeds: it leaves the diagnostics and, with the constants in
place, the graph. -/
theorem lowerClass_of_compile (success : c.compile options targets = .ok a) :
    ∃ lowered, Lower.lowerClass c (startOfLowering options targets) = (.ok (), lowered) ∧
      a.diagnostics = lowered.notes := by
  unfold compile at success
  split at success
  · cases success
  · split at success
    · cases success
    · next lowered result =>
      cases success
      exact ⟨lowered, result, rfl⟩

/-- The inlining limit is monotone: if a class compiles under a limit and no call was refused for it, it compiles to
the same graph, diagnostics and report under every higher limit. -/
theorem compile_of_higher_limit {higher : Nat} (le : options.maxInlineDepth ≤ higher)
    (success : c.compile options targets = .ok a)
    (granted : ∀ note ∈ a.diagnostics, ¬ note.Refuses options.maxInlineDepth) :
    c.compile { options with maxInlineDepth := higher } targets = .ok a := by
  obtain ⟨lowered, result, notes⟩ := lowerClass_of_compile success
  have result' : Lower.lowerClass c (startOfLowering { options with maxInlineDepth := higher } targets) =
      (.ok (), lowered.withLimit higher) := by
    have same := Lower.lowerClass_withLimit (c := c) (s := startOfLowering options targets) le rfl
      (by rw [result]; exact notes ▸ granted)
    rw [result] at same
    exact same
  unfold compile at success ⊢
  rw [result] at success
  rw [result']
  exact success

end ScriptClass

namespace Nested

/-- A class whose `Start` sets its field to `Twice()`, which returns `Once() + Once()`; and `Once` returns the field. -/
def cls : ScriptClass :=
  let int : Option HostType := some { name := "int" }
  let count : Expression := { kind := .identifier, name := some "count", resultType := int }
  let call (name : String) : Expression :=
    { kind := .methodInvocation
      resultType := int
      method := some { name, declaringType := { name := "Nested" } }
      children := [{ kind := .this }] }
  let sum : Expression :=
    { kind := .binary, resultType := int, operator := some "+", children := [call "Once", call "Once"] }
  let write : Expression := { kind := .assignment, operator := some "=", children := [count, call "Twice"] }
  { name := "Nested"
    fields := [{ name := "count", fieldType := { name := "int" } }]
    methods := [
      { name := "Start", body := [{ kind := .assignment, expressions := [write] }] },
      { name := "Twice", body := [{ kind := .returnStatement, expressions := [sum] }] },
      { name := "Once", body := [{ kind := .returnStatement, expressions := [count] }] }] }

/-- The options with a limit of inlining. -/
def options (limit : Nat) : Options := { maxInlineDepth := limit }

/-- A body that is one statement, and no block. -/
def oneStatement : Lower.EntryBody := fun levels method flow =>
  match method.body with
  | [s] => Lower.statementStep cls (Lower.inliner cls levels) [] s (fun _ _ flow => return .one flow) flow
  | _ => return .one flow

theorem oneStatement_eq {method : Method} (declared : method ∈ cls.methods) (levels : Nat) (flow : FlowOut) :
    oneStatement levels method flow = Lower.inlinedBody cls levels method flow := by
  obtain ⟨s, body, plain⟩ : ∃ s, method.body = [s] ∧ (s.kind = .assignment ∨ s.kind = .returnStatement) := by
    simp only [cls, List.mem_cons, List.not_mem_nil, or_false] at declared
    rcases declared with rfl | rfl | rfl
    · exact ⟨_, rfl, .inl rfl⟩
    · exact ⟨_, rfl, .inr rfl⟩
    · exact ⟨_, rfl, .inr rfl⟩
  have step : Lower.inlinedBody cls levels method flow =
      Lower.lowerStatement cls (Lower.inliner cls levels) [] s flow := by
    rw [Lower.inlinedBody, body, Lower.lowerBlock_cons]
    simp only [Lower.lowerBlock]
    rfl
  rw [step, Lower.lowerStatement, oneStatement, body]
  rcases plain with kind | kind
  · simp only [Lower.statementStep, kind]
  · simp only [Lower.statementStep, kind]

theorem lowerClass_cls : Lower.lowerClass cls = Lower.lowerClassWith cls oneStatement := by
  rw [← Lower.lowerClassWith_inlinedBody]
  refine (Lower.lowerClassWith_congr fun method declared => ?_).symm
  unfold Lower.lowerEntryPointWith
  simp only [oneStatement_eq declared]

/-- Two levels are enough for calls in calls; they compile the same under a limit of nine. -/
theorem compile_limit_nine : ∃ a, cls.compile (options 2) {} = .ok a ∧ a.diagnostics = [] ∧
    a.graph.nodes.size = 5 ∧ cls.compile (options 9) {} = .ok a := by
  have quiet : (cls.compile (options 2) {}).toOption.map (fun a => (a.diagnostics, a.graph.nodes.size)) =
      some ([], 5) := by
    unfold ScriptClass.compile
    rw [lowerClass_cls]
    decide +kernel
  cases result : cls.compile (options 2) {} with
  | error problem =>
    rw [result] at quiet
    cases quiet
  | ok a =>
    rw [result] at quiet
    obtain ⟨notes, size⟩ := Prod.mk.inj (Option.some.inj quiet)
    refine ⟨a, rfl, notes, size, ScriptClass.compile_of_higher_limit (by decide) result ?_⟩
    rw [notes]
    exact fun _ member => absurd member List.not_mem_nil

end Nested

end ScriptGraph
