import Mathlib
import ScriptGraph.Compile
import ScriptGraph.Proofs.Lower.Lockstep.Classes

/-!
Inlining is bounded and balanced.

The methods being inlined form a stack: the frames that are there, less the one of the entry point. Its names are
pairwise different methods of the class, since a call of a method that is being inlined is refused; so it is never
higher than there are methods, and levels of inlining beyond that are never used. What is pushed for a call is
popped after it.

That no lowering ever meets another stack is told by an inliner that looks at the stack before each body and goes
astray if it is not as it should be: no class can tell it from the real one, wherever it goes.
-/

namespace ScriptGraph

open Pattern Build

/-- The different names of the methods of a class. -/
def ScriptClass.methodNames (c : ScriptClass) : List String := (c.methods.map (·.name)).dedup

theorem ScriptClass.mem_methodNames {c : ScriptClass} {method : Method} (declared : method ∈ c.methods) :
    method.name ∈ c.methodNames :=
  List.mem_dedup.2 (List.mem_map_of_mem declared)

namespace Lowering

/-- The methods being inlined, the innermost first. The outermost frame is that of an entry point. -/
def inlineStack (s : Lowering) : List String := s.stack.dropLast

/-- The methods being inlined are the given ones: pairwise different methods of the class, no more than the
options allow and than there are. -/
def Inlines (s : Lowering) (c : ScriptClass) (active : List String) : Prop :=
  s.inlineStack = active ∧ active.Nodup ∧ active ⊆ c.methodNames ∧
    active.length ≤ min s.context.options.maxInlineDepth c.methodNames.length

instance (s : Lowering) (c : ScriptClass) (active : List String) : Decidable (s.Inlines c active) :=
  inferInstanceAs (Decidable (_ ∧ _ ∧ (∀ name ∈ active, name ∈ c.methodNames) ∧ _))

/-- What was pushed is popped. -/
structure Balanced (s s' : Lowering) : Prop where
  depth : s'.frames.length = s.frames.length
  inlined : s'.inlineStack = s.inlineStack
  method : s'.context.diagnostics.method = s.context.diagnostics.method

theorem Continues.balanced {s s' : Lowering} (continues : s.Continues s') : s.Balanced s' where
  depth := continues.frames.length_eq.symm
  inlined := by rw [inlineStack, continues.stack_eq, inlineStack]
  method := continues.context.method

end Lowering

namespace Lower

variable {α : Type} {v : Limits} {c : ScriptClass} {active stack : List String}

/-- A step that goes astray where the inline stack is not as it should be. -/
def whileInlining (c : ScriptClass) (active : List String) (step astray : Lower α) : Lower α := fun s =>
  if s.Inlines c active then step s else astray s

/-- The inliner for a number of further levels, which goes astray where the inline stack is not as it should be,
and where the levels are used up. -/
def watchedInliner (c : ScriptClass) (astray : Inliner) : Nat → Inliner
  | 0 => astray
  | levels + 1 =>
    { block := fun active block flow => whileInlining c active
        (lowerBlock c (watchedInliner c astray levels) active block (.one flow)) (astray.block active block flow)
      value := fun active e => whileInlining c active
        (lowerExpression c (watchedInliner c astray levels) active e) (astray.value active e) }

/-- The body of an entry point, with as many levels of inlining as can be used, and some more. -/
def watchedBody (c : ScriptClass) (astray : Inliner) (more : Nat) : EntryBody := fun limit method flow =>
  whileInlining c []
    (lowerBlock c (watchedInliner c astray (min limit c.methodNames.length + more)) [] method.body (.one flow))
    (astray.block [] method.body flow)

/-- The names on an inline stack are pairwise different methods of the class. -/
structure Stackable (c : ScriptClass) (active : List String) : Prop where
  nodup : active.Nodup
  declared : active ⊆ c.methodNames

theorem Stackable.length_le (stackable : Stackable c active) : active.length ≤ c.methodNames.length :=
  List.Nodup.length_le_of_subset stackable.nodup stackable.declared

theorem Stackable.cons (stackable : Stackable c active) {callee : Method} (declared : callee ∈ c.methods)
    (idle : callee.name ∉ active) : Stackable c (callee.name :: active) where
  nodup := List.nodup_cons.2 ⟨idle, stackable.nodup⟩
  declared := List.cons_subset.2 ⟨ScriptClass.mem_methodNames declared, stackable.declared⟩

theorem alike_whileInlining {x y astray : Lower α} {limit : Nat} (entry : String) (stackable : Stackable c active)
    (within : active.length ≤ limit) (alike : Alike (.same limit) (active ++ [entry]) x y) :
    Alike (.same limit) (active ++ [entry]) x (whileInlining c active y astray) := by
  intro s under here
  have inlines : (s.withLimit limit).Inlines c active := by
    have popped : (s.withLimit limit).inlineStack = active := by
      rw [Lowering.inlineStack, show (s.withLimit limit).stack = active ++ [entry] from here, List.dropLast_concat]
    exact ⟨popped, stackable.nodup, stackable.declared, le_min within stackable.length_le⟩
  obtain ⟨continues, same⟩ := alike s under here
  refine ⟨continues, fun fine => ?_⟩
  rw [Limits.same, whileInlining, if_pos inlines]
  exact same fine

/-- The watched inliner keeps pace with the real one as long as both have levels for what can still be inlined. -/
theorem alike_watchedInliner (astray : Inliner) (entry : String) {limit : Nat} (levels : Nat) :
    ∀ (full : Nat) {active : List String}, Stackable c active → limit ≤ active.length + full →
      min limit c.methodNames.length ≤ active.length + levels →
        Inliner.Alike (.same limit) c active (active ++ [entry]) (inliner c full) (watchedInliner c astray levels) := by
  induction levels with
  | zero =>
    intro full active stackable _ enough callee declared idle open'
    -- Without levels every method is being inlined already.
    have higher := (stackable.cons declared idle).length_le
    have : active.length < limit := open'
    rw [List.length_cons] at higher
    omega
  | succ levels ih =>
    intro full active stackable fullEnough enough callee declared idle open'
    have within : active.length < limit := open'
    obtain ⟨full, rfl⟩ : ∃ rest, full = rest + 1 := ⟨full - 1, by omega⟩
    have pushed := stackable.cons declared idle
    have deeper := ih full pushed (by rw [List.length_cons]; omega) (by rw [List.length_cons]; omega)
    refine ⟨fun block flow => ?_, fun e => ?_⟩
    · exact alike_whileInlining entry pushed within (alike_lowerBlock deeper block _)
    · exact alike_whileInlining entry pushed within (alike_lowerExpression deeper e)

theorem alike_watchedBody (astray : Inliner) (more limit : Nat) (method : Method) (flow : FlowOut) :
    Alike (.same limit) [method.name] (inlinedBody c limit method flow) (watchedBody c astray more limit method flow) := by
  have empty : Stackable c [] := ⟨List.nodup_nil, List.nil_subset _⟩
  have deeper : Inliner.Alike (.same limit) c [] ([] ++ [method.name]) (inliner c limit)
      (watchedInliner c astray (min limit c.methodNames.length + more)) :=
    alike_watchedInliner astray method.name _ limit empty (by simp) (by simp)
  exact alike_whileInlining method.name empty (Nat.zero_le _) (alike_lowerBlock deeper method.body (.one flow))

/-- No class can tell the watched inliner from the real one. -/
theorem lowerClassWith_watchedBody (c : ScriptClass) (astray : Inliner) (more : Nat) {s : Lowering}
    (idle : s.frames = []) : lowerClassWith c (watchedBody c astray more) s = lowerClass c s := by
  have parallel : Parallel (.same s.limit) (lowerClassWith c (inlinedBody c))
      (lowerClassWith c (watchedBody c astray more)) :=
    parallel_lowerClassWith fun method _ flow => alike_watchedBody astray more s.limit method flow
  obtain ⟨under, -, -, same⟩ := parallel s rfl idle
  rw [← lowerClassWith_inlinedBody]
  exact (same trivial).trans (congrArg (Prod.mk _) (Lowering.withLimit_of_limit_eq under))

/-- Inlining is bounded: whatever is done instead where the inline stack were not one of pairwise different methods
of the class, no more than allowed and than there are, or where more levels were needed, the class is lowered the
same. And it is balanced: each statement, expression and call returns with the frames, the inline stack and the
method of the diagnostics that it was entered with. -/
theorem inlining_bounded_and_balanced (c : ScriptClass) :
    (∀ (options : Options) (targets : Targets) (astray : Inliner) (more : Nat),
      lowerClassWith c (watchedBody c astray more) (ScriptClass.startOfLowering options targets) =
        lowerClass c (ScriptClass.startOfLowering options targets)) ∧
    ∀ (levels : Nat) (active : List String) (s : Lowering),
      (∀ statement flow, s.Balanced (lowerStatement c (inliner c levels) active statement flow s).2) ∧
      (∀ e, s.Balanced (lowerExpression c (inliner c levels) active e s).2) ∧
      ∀ e flow, s.Balanced (lowerCall c (inliner c levels) active e flow s).2 := by
  refine ⟨fun options targets astray more => lowerClassWith_watchedBody c astray more rfl, ?_⟩
  intro levels active s
  have inlined : Inliner.Alike (.same s.limit) c active s.stack (inliner c levels) (inliner c levels) :=
    alike_inliner c levels active s.stack
  refine ⟨fun statement flow => ?_, fun e => ?_, fun e flow => ?_⟩
  · exact (continues_of_alike (alike_lowerStatement inlined statement flow)).balanced
  · exact (continues_of_alike (alike_lowerExpression inlined e)).balanced
  · exact (continues_of_alike (alike_lowerCall inlined e flow)).balanced

end Lower

end ScriptGraph
