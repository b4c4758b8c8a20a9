import Mathlib
import ScriptGraph.Proofs.Construction.Ensures
import ScriptGraph.Proofs.Lower.Lockstep.Blocks
import ScriptGraph.Proofs.Source.Completeness

/-!
No expression fails without a word.

Lowering leaves out what has no value and goes on, and relies on a diagnostic to tell. Where the operands that are
taken for granted are there, each failure adds one, whatever is inlined on the way: a call is refused, and noted,
before the levels of the inliner run out.
-/

namespace ScriptGraph

open Pattern Build

namespace Lower

/-- What is known of a state, and stays true while steps follow one another. -/
structure Premise where
  Holds : Lowering → Prop
  kept : ∀ {s s' : Lowering}, s.Continues s' → Holds s → Holds s'

namespace Premise

/-- Calls are inlined at most so deep. -/
def within (depth : Nat) : Premise where
  Holds s := s.limit ≤ depth
  kept continues holds := continues.limit_eq.trans_le holds

/-- There also is a list of the name. -/
def listing (P : Premise) (name : String) : Premise where
  Holds s := P.Holds s ∧ s.lists.contains name = true
  kept continues holds := ⟨P.kept continues holds.1, continues.lists name holds.2⟩

end Premise

variable {α β : Type} {P : Premise}

/-- Where the step ends in a result and a state that lack something, it has added a diagnostic. -/
def Tells (P : Premise) (lacks : α → Lowering → Prop) (step : Lower α) : Prop :=
  ∀ s : Lowering, P.Holds s → lacks (step s).1 (step s).2 → s.notes.length < (step s).2.notes.length

/-- There is no result. -/
abbrev Fails (result : Option α) (_ : Lowering) : Prop := result = none

/-- A call has no value. -/
abbrev Valueless (result : Invocation) (_ : Lowering) : Prop := result.value = none

theorem Steady.notes_le {x : Lower α} (steady : Steady x) (s : Lowering) : s.notes.length ≤ (x s).2.notes.length :=
  (steady s).context.notes.length_le

theorem steady_pure (a : α) : Steady (pure a : Lower α) := .of_alike fun _ _ => .pure a

namespace Tells

variable {lacks : α → Lowering → Prop} {x : Lower β} {f : β → Lower α}

theorem of_ensures {x : Lower α} (ensures : ∀ s, Ensures x s fun a s' => ¬ lacks a s') : Tells P lacks x :=
  fun s _ lack => absurd lack (ensures s)

theorem pure {a : α} (has : ∀ s, ¬ lacks a s) : Tells P lacks (Pure.pure a) := .of_ensures has

theorem value (a : α) : Tells P Fails (Pure.pure (some a)) := .pure fun _ => Option.some_ne_none a

theorem note (kind : DiagnosticKind) (message : String) (a : α) :
    Tells P lacks (do Build.report kind message; return a) := by
  intro s _ _
  show s.notes.length < (s.context.diagnostics.entries.push _).toList.length
  rw [Array.toList_push, List.length_append]
  exact Nat.lt_succ_self _

theorem getBind {f : Lowering → Lower α} (next : ∀ s, P.Holds s → Tells P lacks (f s)) : Tells P lacks (get >>= f) :=
  fun s holds => next s holds s holds

/-- Either step may be the one that tells. -/
theorem follow {lacks' : β → Lowering → Prop} {Q : β → Prop} (first : Tells P lacks' x) (steady : Steady x)
    (known : ∀ s, Q (x s).1) (keeps : ∀ b s, lacks' b s → Steady (f b))
    (next : ∀ b s, Q b → P.Holds s → ¬ lacks' b s → lacks (f b s).1 (f b s).2 →
      s.notes.length < (f b s).2.notes.length) : Tells P lacks (x >>= f) := by
  intro s holds lack
  show s.notes.length < (f (x s).1 (x s).2).2.notes.length
  by_cases failed : lacks' (x s).1 (x s).2
  · exact (first s holds failed).trans_le ((keeps _ _ failed).notes_le _)
  · exact (steady.notes_le s).trans_lt (next _ _ (known s) (P.kept (steady s) holds) failed lack)

theorem after (steady : Steady x) (next : ∀ b, Tells P lacks (f b)) : Tells P lacks (x >>= f) :=
  have nothing : Tells P (fun _ _ => False) x := fun _ _ => False.elim
  nothing.follow (Q := fun _ => True) steady (fun _ => trivial) (fun _ _ => False.elim)
    fun b s _ holds _ => next b s holds

/-- A step that stops where the first one has no result, with what is known of a result. -/
theorem bindKnowing {x : Lower (Option β)} {f : Option β → Lower α} {Q : β → Prop} (first : Tells P Fails x)
    (steady : Steady x) (stop : Steady (f none)) (known : ∀ s, ∀ b ∈ (x s).1, Q b)
    (next : ∀ b, Q b → Tells P lacks (f (some b))) : Tells P lacks (x >>= f) := by
  refine first.follow (Q := fun b? => ∀ b ∈ b?, Q b) steady known (fun _ _ failed => failed ▸ stop) ?_
  intro b? s known holds has lack
  match b? with
  | none => exact absurd rfl has
  | some b => exact next b (known b rfl) s holds lack

/-- A step that stops where the first one has no result. -/
theorem bind {x : Lower (Option β)} {f : Option β → Lower α} (first : Tells P Fails x) (steady : Steady x)
    (stop : Steady (f none)) (next : ∀ b, Tells P lacks (f (some b))) : Tells P lacks (x >>= f) :=
  first.bindKnowing steady stop (fun _ _ _ => trivial) fun b _ => next b

/-- A name that is found to be that of a list goes on being one. -/
theorem named {e : Expression} {f : Option String → Lower α} (unnamed : Tells P lacks (f none))
    (named : ∀ name, Tells (P.listing name) lacks (f (some name))) : Tells P lacks (listName? e >>= f) := by
  intro s holds lack
  have lack : lacks (f (listName? e s).1 s).1 (f (listName? e s).1 s).2 := lack
  show s.notes.length < (f (listName? e s).1 s).2.notes.length
  match found : (listName? e s).1 with
  | none =>
    rw [found] at lack
    exact unnamed s holds lack
  | some name =>
    rw [found] at lack
    exact named name s ⟨holds, (Option.filter_eq_some_iff.1 found).2⟩ lack

end Tells

/-- A step on a list that is there has a result. -/
theorem tells_onList? {name : String} (step : ListBuild α) :
    Tells (P.listing name) Fails (onList? name step) := by
  refine .getBind fun s holds => ?_
  split
  · next missing =>
    have there : (s.lists.find? name).isSome = true := holds.2
    rw [missing] at there
    cases there
  · exact .of_ensures fun _ => Option.some_ne_none _

/-- Smaller expressions keep what states continue with, and complete ones do not fail without a word. -/
structure Below.Tells (P : Premise) {bound : Nat} (low : Below bound) : Prop where
  alike : ∀ limit stack, Below.Alike (.same limit) stack low low
  tells : ∀ e small, e.complete = true → Lower.Tells P Fails (low e small)

namespace Below.Tells

variable {bound : Nat} {low : Below bound}

theorem steady (tells : Below.Tells P low) (e : Expression) (small : e.size < bound) : Steady (low e small) :=
  .of_alike fun limit stack => tells.alike limit stack e small

theorem listing (tells : Below.Tells P low) (name : String) : Below.Tells (P.listing name) low where
  alike := tells.alike
  tells e small complete s holds := tells.tells e small complete s holds.1

/-- Nothing follows an expression without a value. -/
theorem bind (tells : Below.Tells P low) {e : Expression} (small : e.size < bound) (complete : e.complete = true)
    {f : Option ValueOut → Lower (Option α)} (stop : Steady (f none))
    (next : ∀ value, Lower.Tells P Fails (f (some value))) : Lower.Tells P Fails (low e small >>= f) :=
  .bind (tells.tells e small complete) (tells.steady e small) stop next

end Below.Tells

section Parts

variable {bound : Nat} {low : Below bound} (tells : Below.Tells P low)

include tells

theorem tells_lowerAll : ∀ (es : List Expression) (small : ∀ e ∈ es, e.size < bound)
    (_ : ∀ e ∈ es, e.complete = true), Tells P Fails (lowerAll low es small)
  | [], _, _ => .value _
  | e :: es, small, complete => by
    refine tells.bind _ (complete e List.mem_cons_self) (steady_pure none) fun value => ?_
    refine .bind (tells_lowerAll es _ fun e' member => complete e' (List.mem_cons_of_mem _ member)) ?_
      (steady_pure none) fun _ => .value _
    exact .of_alike fun _ _ => alike_lowerAll (tells.alike _ _) es _

theorem tells_lowerComponents : ∀ (es : List Expression) (small : ∀ e ∈ es, e.size < bound)
    (_ : ∀ e ∈ es, e.complete = true), Tells P Fails (lowerComponents low es small)
  | [], _, _ => .value _
  | e :: es, small, complete => by
    refine tells.bind _ (complete e List.mem_cons_self) (steady_pure none) fun value => ?_
    refine .after (.of_alike fun _ _ => alike_coerce value _ _) fun part => ?_
    refine .bind (tells_lowerComponents es _ fun e' member => complete e' (List.mem_cons_of_mem _ member)) ?_
      (steady_pure none) fun _ => .value _
    exact .of_alike fun _ _ => alike_lowerComponents (tells.alike _ _) es _

end Parts

section Values

variable {e : Expression} {low : Below e.size}

theorem tells_lowerLiteral : Tells P Fails (lowerLiteral e) := by
  unfold lowerLiteral
  split
  · exact .note _ _ none
  · split
    · exact .after (.lift (plain_createLiteral _)) fun _ => .value _
    · exact .note _ _ none
    · exact .note _ _ none

theorem tells_lowerIdentifier (c : ScriptClass) : Tells P Fails (lowerIdentifier c e) := by
  refine .after (.of_alike fun _ _ => alike_frame?) fun frame => ?_
  split
  · exact .value _
  · refine .getBind fun s _ => ?_
    split
    · exact .after (.lift (plain_getVariable _)) fun _ => .value _
    · split
      · exact .after (.of_alike fun _ _ => alike_objectLiteral _) fun _ => .value _
      · exact .note _ _ none

theorem tells_lowerCount : Tells P Fails (lowerCount e) := by
  have counted (name : String) : Steady (onList? name BoundedList.countValue) :=
    .of_alike fun _ _ => alike_onList? name BoundedList.plain_countValue
  unfold lowerCount
  dsimp only
  split
  · refine .after (.of_alike fun _ _ => alike_listName? _) fun name? => ?_
    cases name? with
    | none => exact .note _ _ none
    | some name =>
      refine .after (counted name) fun count? => ?_
      cases count? with
      | none => exact .note _ _ none
      | some count => exact .value _
  · exact .note _ _ none

variable (tells : Below.Tells P low) (complete : e.complete = true)

include tells complete

/-- A value of a smaller expression, and one more node behind it. -/
theorem tells_unary {operand : Expression} (small : operand.size < e.size) (member : operand ∈ e.children) (op : Op) :
    Tells P Fails
      (do let some value ← low operand small | return none
          return some (← liftM (unary op value))) :=
  tells.bind small (Expression.complete_of_mem complete member) (steady_pure none) fun value =>
    .after (.lift (plain_unary op value)) fun _ => .value _

theorem tells_lowerBinary : Tells P Fails (lowerBinary e low) := by
  unfold lowerBinary
  split
  · next left right _ children =>
    have inside (operand : Expression) (either : operand = left ∨ operand = right) : operand.complete = true :=
      Expression.complete_of_mem complete (by rcases either with rfl | rfl <;> simp [children])
    split
    · exact .note _ _ none
    · refine tells.bind _ (inside left (.inl rfl)) (steady_pure none) fun a => ?_
      refine tells.bind _ (inside right (.inr rfl)) (steady_pure none) fun b => ?_
      refine .after (.of_alike fun _ _ => alike_coerce a _ _) fun a => ?_
      refine .after (.of_alike fun _ _ => alike_coerce b _ _) fun b => ?_
      refine .after (.lift (plain_binary _ a b)) fun value => ?_
      split
      · exact .after (.lift (plain_unary _ value)) fun _ => .value _
      · exact .value _
  · exact .note _ _ none

theorem tells_lowerConstruction : Tells P Fails (lowerConstruction e low) := by
  unfold lowerConstruction
  split
  · exact .note _ _ none
  · split
    · exact .after (.lift (plain_createLiteral _)) fun _ => .value _
    · refine .bind (tells_lowerComponents tells e.children _ fun _ => Expression.complete_of_mem complete) ?_
        (steady_pure none) fun parts => ?_
      · exact .of_alike fun _ _ => alike_lowerComponents (tells.alike _ _) e.children _
      refine .after (.of_alike fun _ _ => alike_createZeros _) fun zeros => ?_
      refine .after (.lift (plain_combine? _)) fun value? => ?_
      cases value? with
      | none => exact .note _ _ none
      | some value => exact .value _

theorem tells_lowerElement : Tells P Fails (lowerElement e low) := by
  unfold lowerElement
  split
  · next collection index _ children =>
    have inside : index.complete = true := Expression.complete_of_mem complete (by simp [children])
    refine .named (.note _ _ none) fun name => ?_
    exact (tells.listing name).bind _ inside (steady_pure none) fun index => tells_onList? _
  · exact .note _ _ none

theorem tells_lowerComponent (enough : 1 ≤ e.children.length) (member : MemberSymbol) (index : Nat) :
    Tells P Fails (lowerComponent e low member index) := by
  unfold lowerComponent
  split
  · next children => exact absurd children (List.ne_nil_of_length_pos enough)
  · next receiver _ children =>
    have inside : receiver.complete = true := Expression.complete_of_mem complete (by simp [children])
    refine tells.bind _ inside (steady_pure none) fun vector => ?_
    refine .after (.lift (plain_extract? vector _)) fun parts? => ?_
    split
    · exact .value _
    · exact .note _ _ none

theorem tells_lowerOperand (enough : 1 ≤ e.children.length) (op : Op) :
    Tells P Fails (lowerOperand e low op) := by
  unfold lowerOperand
  split
  · next children => exact absurd children (List.ne_nil_of_length_pos enough)
  · next children => exact tells_unary tells complete _ (by simp [children]) op

theorem tells_lowerUnary (enough : 1 ≤ e.children.length) : Tells P Fails (lowerUnary e low) := by
  unfold lowerUnary
  split
  · next children => exact absurd children (List.ne_nil_of_length_pos enough)
  · next operand _ children =>
    have member : operand ∈ e.children := by simp [children]
    split
    · split
      · exact .after (.lift (plain_createLiteral _)) fun _ => .value _
      · exact tells_unary tells complete _ member _
    · exact tells_unary tells complete _ member _
    · exact tells.tells _ _ (Expression.complete_of_mem complete member)
    · exact .note _ _ none

theorem tells_lowerCast (enough : 1 ≤ e.children.length) : Tells P Fails (lowerCast e low) := by
  unfold lowerCast
  split
  · next children => exact absurd children (List.ne_nil_of_length_pos enough)
  · next operand _ children =>
    have inside : operand.complete = true := Expression.complete_of_mem complete (by simp [children])
    refine tells.bind _ inside (steady_pure none) fun value => ?_
    dsimp only
    split
    · exact .after (.lift (plain_unary _ value)) fun _ => .value _
    · exact .after (.lift (plain_unary _ value)) fun _ => .value _
    · exact .value _

theorem tells_lowerProperty (member : MemberSymbol) {property : HostProperty}
    (enough : property.leastChildren ≤ e.children.length) :
    Tells P Fails (lowerProperty e low member property) := by
  have reading {property : Build PropertyGet} (plain : Plain property) :
      Tells P Fails (do return some (← readProperty e low property)) :=
    .after (.of_alike fun _ _ => alike_readProperty (tells.alike _ _) plain) fun _ => .value _
  have object : Tells P Fails (do return some (← lowerReceiver e low)) :=
    .after (.of_alike fun _ _ => alike_lowerReceiver (tells.alike _ _)) fun _ => .value _
  have ticking (socket : String) : Tells P Fails (do return some ((← tickNode).valueOut socket)) :=
    .after (.of_alike fun _ _ => alike_tickNode) fun _ => .value _
  cases property with
  | position => exact reading plain_worldPositionGet
  | localPosition => exact reading plain_localPositionGet
  | rotation => exact reading plain_worldRotationGet
  | localRotation => exact reading plain_localRotationGet
  | localScale => exact reading plain_localScaleGet
  | lossyScale => exact reading plain_worldScaleGet
  | component index => exact tells_lowerComponent tells complete enough member index
  | normalized => exact tells_lowerOperand tells complete enough _
  | magnitude => exact tells_lowerOperand tells complete enough _
  | listCount => exact tells_lowerCount
  | deltaTime => exact ticking _
  | time => exact ticking _
  | transform => exact object
  | gameObject => exact object

theorem tells_lowerMemberAccess (kind : e.kind = .memberAccess) :
    Tells P Fails (lowerMemberAccess e low) := by
  have enough := Expression.length_of_complete complete
  unfold lowerMemberAccess
  split
  · exact .note _ _ none
  · next member found =>
    refine .getBind fun s _ => ?_
    dsimp only
    split
    · exact .after (.lift (plain_getVariable _)) fun _ => .value _
    · next recognized =>
      refine tells_lowerProperty tells complete member ?_
      simpa only [Expression.leastChildren, kind, found, Option.bind_some, recognized, Option.elim_some] using enough
    · exact .note _ _ none

end Values

section Calls

variable {e : Expression} {low : Below e.size}

theorem complete_of_argument {argument : Expression} (complete : e.complete = true) (member : argument ∈ arguments e) :
    argument.complete = true :=
  Expression.complete_of_mem complete (List.mem_of_mem_drop member)

theorem arguments_ne_nil (enough : 2 ≤ e.children.length) : arguments e ≠ [] :=
  List.ne_nil_of_length_pos (by rw [arguments, List.length_drop]; omega)

theorem ensures_lowerAll {bound : Nat} {low : Below bound} : ∀ (es : List Expression)
    (small : ∀ e ∈ es, e.size < bound) (s : Lowering),
    Ensures (lowerAll low es small) s fun values? _ => ∀ values ∈ values?, values.length = es.length
  | [], _, _ => .pure fun values same => by
    cases same
    rfl
  | e :: es, small, s => by
    have first : Ensures (low e (small e List.mem_cons_self)) s fun _ _ => True := trivial
    refine first.bind fun value? s _ => ?_
    cases value? with
    | none => exact .pure fun _ => nofun
    | some value =>
      refine (ensures_lowerAll es _ s).bind fun values? s sized => ?_
      cases values? with
      | none => exact .pure fun _ => nofun
      | some values =>
        refine .pure fun all same => ?_
        cases same
        rw [List.length_cons, List.length_cons, sized values rfl]

theorem ensures_coerceAll : ∀ (values : List ValueOut) (es : List Expression) (s : Lowering),
    Ensures (coerceAll values es) s fun parts _ => parts.length = min values.length es.length
  | [], _, _ => .pure (Nat.zero_min _).symm
  | _ :: _, [], _ => .pure (Nat.min_zero _).symm
  | value :: values, e :: es, s => by
    have first : Ensures (coerce value e.valueType? (some .float)) s fun _ _ => True := trivial
    refine first.bind fun part s _ => ?_
    refine (ensures_coerceAll values es s).bind fun parts s sized => .pure ?_
    rw [List.length_cons, List.length_cons, List.length_cons, sized, Nat.add_min_add_right]

theorem ensures_combine? {parts : List ValueOut} (three : parts.length = 3) (c : Context) :
    Ensures (combine? parts) c fun value? _ => value? ≠ none := by
  unfold combine?
  rw [three]
  exact nofun

variable (tells : Below.Tells P low) (complete : e.complete = true)

include tells complete

theorem tells_lowerArguments : Tells P Fails (lowerAll low (arguments e) size_arguments_lt) :=
  tells_lowerAll tells (arguments e) _ fun _ => complete_of_argument complete

/-- The values of the arguments, of which there are as many. -/
theorem tells_ofArguments {f : Option (List ValueOut) → Lower (Option α)} (stop : Steady (f none))
    (next : ∀ values, values.length = (arguments e).length → Tells P Fails (f (some values))) :
    Tells P Fails (lowerAll low (arguments e) size_arguments_lt >>= f) :=
  .bindKnowing (tells_lowerArguments tells complete)
    (.of_alike fun _ _ => alike_lowerAll (tells.alike _ _) (arguments e) size_arguments_lt) stop
    (ensures_lowerAll (arguments e) size_arguments_lt) next

theorem tells_lowerFunction (op : Op) : Tells P Fails (lowerFunction e low op) := by
  refine tells_ofArguments tells complete (steady_pure none) fun values _ => ?_
  dsimp only
  split
  · exact .note _ _ none
  · refine .after (.lift (plain_createNode _)) fun node => ?_
    exact .after (.of_alike fun _ _ => alike_connectCoerced node _ _ _ _) fun _ => .value _

theorem tells_lowerDistance : Tells P Fails (lowerDistance e low) := by
  refine tells_ofArguments tells complete (steady_pure none) fun values _ => ?_
  dsimp only
  split
  · refine .after (.lift (plain_binary _ _ _)) fun offset => ?_
    exact .after (.lift (plain_unary _ offset)) fun _ => .value _
  · exact .note _ _ none

theorem tells_lowerVector : Tells P Fails (lowerVector e low 3) := by
  refine tells_ofArguments tells complete (steady_pure none) fun values sized => ?_
  dsimp only
  split
  · exact .value _
  · split
    · next three =>
      refine .of_ensures fun s => (ensures_coerceAll values (arguments e) s).bind fun parts s count => ?_
      refine .lift (ensures_combine? ?_ s.context)
      rw [count, ← sized, three, Nat.min_self]
    · exact .note _ _ none

theorem tells_lowerFirst (enough : 2 ≤ e.children.length) : Tells P Fails (lowerFirst e low) := by
  unfold lowerFirst
  split
  · next given => exact absurd given (arguments_ne_nil enough)
  · next given => exact tells.tells _ _ (complete_of_argument complete (by simp [given]))

theorem tells_lowerPureMethod {method : HostMethod} (pure : method.hasFlowEffect = false)
    (enough : method.leastChildren ≤ e.children.length) : Tells P Fails (lowerPureMethod e low method) := by
  cases method <;> cases pure
  case quaternionEuler =>
    refine .bind (tells_lowerVector tells complete) (.of_alike fun _ _ => alike_lowerVector (tells.alike _ _) 3)
      (steady_pure none) fun euler => ?_
    exact .after (.lift (plain_fromEulerDegrees euler)) fun _ => .value _
  case quaternionInverse =>
    refine .bind (tells_lowerFirst tells complete enough) (.of_alike fun _ _ => alike_lowerFirst (tells.alike _ _))
      (steady_pure none) fun rotation => ?_
    exact .after (.lift (plain_invert rotation)) fun _ => .value _
  case distance => exact tells_lowerDistance tells complete
  case math op => exact tells_lowerFunction tells complete op

/-- As a value, a method of the host has one or is noted. -/
theorem tells_lowerHostMethod (symbol : MethodSymbol) {method : HostMethod}
    (enough : method.leastChildren ≤ e.children.length) :
    Tells P Valueless (lowerHostMethod e low symbol method none) := by
  unfold lowerHostMethod
  split
  · next effectless =>
    refine .bind (tells_lowerPureMethod tells complete ?_ enough)
      (.of_alike fun _ _ => alike_lowerPureMethod (tells.alike _ _) method) (steady_pure _)
      fun value => .pure fun _ => nofun
    exact (Bool.not_eq_true' _).mp effectless
  · exact .note _ _ _

end Calls

section Inlining

variable {depth : Nat}

/-- A frame of its own and the name for diagnostics leave the limit as it is. -/
theorem Tells.inCallee {x : Lower (Option α)} (tells : Tells (.within depth) Fails x) (frame : Frame) :
    Tells (.within depth) Fails (inCallee frame x) := by
  intro s holds
  let diagnostics := { s.context.diagnostics with method := frame.method }
  exact tells { s with context := { s.context with diagnostics }, frames := frame :: s.frames } holds

variable {c : ScriptClass} {inliner : Inliner} {active : List String} {e : Expression} {low : Below e.size}

/-- Inlining keeps what states continue with, and what is put in place of a value does not fail without a word as long
as calls may be inlined deeper. -/
structure Inliner.Tells (c : ScriptClass) (depth : Nat) (active : List String) (inliner : Inliner) : Prop where
  block : ∀ names body flow limit stack,
    Lower.Alike (.same limit) stack (inliner.block names body flow) (inliner.block names body flow)
  value : ∀ names e limit stack, Lower.Alike (.same limit) stack (inliner.value names e) (inliner.value names e)
  tells : active.length < depth → ∀ callee ∈ c.methods, ∀ body, callee.returned? = some body →
    Lower.Tells (.within depth) Fails (inliner.value (callee.name :: active) body)

theorem Inliner.Tells.alike (inlined : Inliner.Tells c depth active inliner) (limit : Nat) (stack : List String) :
    Inliner.Alike (.same limit) c active stack inliner inliner :=
  fun _ _ _ _ => ⟨fun _ _ => inlined.block _ _ _ _ _, fun _ => inlined.value _ _ _ _⟩

variable (inlined : Inliner.Tells c depth active inliner)

include inlined

theorem tells_lowerCallee (tells : Below.Tells (.within depth) low) {callee : Method} (declared : callee ∈ c.methods) :
    Tells (.within depth) Valueless (lowerCallee inliner active e low callee none) := by
  refine .getBind fun s holds => ?_
  dsimp only
  split
  · exact .note _ _ _
  · next allowed =>
    refine .after (.of_alike fun _ _ => alike_bindArguments (tells.alike _ _) _ (arguments e) _ _) fun bindings => ?_
    split
    · exact .note _ _ _
    · next body found =>
      have deeper : active.length < depth := by
        simp only [Bool.or_eq_true, decide_eq_true_eq, not_or, Nat.not_le] at allowed
        exact allowed.2.trans_le holds
      refine .bind ((inlined.tells deeper callee declared body found).inCallee _) ?_ (steady_pure _)
        fun _ => .value _
      exact .of_alike fun limit stack => (inlined.value _ body limit _).inCallee

variable (complete : e.complete = true)

include complete

theorem tells_lowerInvocation (tells : Below.Tells (.within depth) low) (kind : e.kind = .methodInvocation) :
    Tells (.within depth) Valueless (lowerInvocation c inliner active e low none) := by
  have enough := Expression.length_of_complete complete
  unfold lowerInvocation
  split
  · exact .note _ _ _
  · next symbol found =>
    split
    · next method recognized =>
      refine tells_lowerHostMethod tells complete symbol ?_
      simpa only [Expression.leastChildren, kind, found, Option.bind_some, recognized, Option.elim_some] using enough
    · next known => exact tells_lowerCallee inlined tells (ScriptClass.mem_of_callee? known)
    · exact .note _ _ _

theorem tells_expressionStep (tells : Below.Tells (.within depth) low) :
    Tells (.within depth) Fails (expressionStep c inliner active e low) := by
  have enough := Expression.length_of_complete complete
  obtain ⟨kind, name, type, method, member, literal, operator, children⟩ := e
  cases kind with
  | parenthesized =>
    cases children with
    | nil => exact .note _ _ none
    | cons inner _ => exact tells.tells inner _ (Expression.complete_of_mem complete List.mem_cons_self)
  | literal => exact tells_lowerLiteral
  | identifier => exact tells_lowerIdentifier c
  | this => exact .after (.of_alike fun _ _ => alike_objectLiteral .self) fun _ => .value _
  | memberAccess => exact tells_lowerMemberAccess tells complete rfl
  | methodInvocation =>
    intro s holds lack
    exact tells_lowerInvocation inlined complete tells rfl s holds lack
  | binary => exact tells_lowerBinary tells complete
  | unary => exact tells_lowerUnary tells complete enough
  | prefixUnary => exact tells_lowerUnary tells complete enough
  | objectCreation => exact tells_lowerConstruction tells complete
  | elementAccess => exact tells_lowerElement tells complete
  | cast => exact tells_lowerCast tells complete enough
  | await =>
    cases children with
    | nil => cases enough
    | cons inner _ => exact tells.tells inner _ (Expression.complete_of_mem complete List.mem_cons_self)
  | postfixUnary => exact .note _ _ none
  | assignment => exact .note _ _ none

end Inlining

variable {c : ScriptClass} {inliner : Inliner} {active : List String} {depth : Nat}

theorem tells_lowerExpression (inlined : Inliner.Tells c depth active inliner) (e : Expression)
    (complete : e.complete = true) : Tells (.within depth) Fails (lowerExpression c inliner active e) := by
  rw [lowerExpression]
  refine tells_expressionStep inlined complete ⟨fun limit stack e _ => ?_, fun smaller _ complete => ?_⟩
  · exact alike_lowerExpression (inlined.alike limit stack) e
  · exact tells_lowerExpression inlined smaller complete
termination_by e.size

/-- The levels are enough: where a call would go below the last one, it is refused. -/
theorem tells_inliner (complete : c.complete = true) : ∀ (levels : Nat) (active : List String)
    (_ : depth ≤ active.length + levels), Inliner.Tells c depth active (Lower.inliner c levels)
  | 0, active, enough =>
    { block := fun _ _ _ _ _ => .pure _
      value := fun _ _ _ _ => .pure none
      tells := fun deeper => absurd enough (Nat.not_le.2 deeper) }
  | levels + 1, active, enough =>
    { block := fun names body _ _ _ => alike_lowerBlock (alike_inliner c levels names _) body _
      value := fun names e _ _ => alike_lowerExpression (alike_inliner c levels names _) e
      tells := fun _ callee declared body found => by
        have inside : body.complete = true := by
          have own := List.all_eq_true.1 complete callee declared
          rwa [found] at own
        refine tells_lowerExpression (tells_inliner complete levels _ ?_) body inside
        rw [List.length_cons, Nat.add_right_comm]
        exact enough }

/-- An expression that fails is noted, in any state, if it and what may be inlined in it have the operands that are
taken for granted. -/
theorem lowerExpression_noted (complete : c.complete = true) {e : Expression} (whole : e.complete = true)
    {levels : Nat} {s : Lowering} (enough : s.limit ≤ active.length + levels)
    (failed : (lowerExpression c (Lower.inliner c levels) active e s).1 = none) :
    s.notes.length < (lowerExpression c (Lower.inliner c levels) active e s).2.notes.length :=
  tells_lowerExpression (tells_inliner complete levels active le_rfl) e whole s enough failed

/-- Without an operand some expressions fail without a word. -/
theorem lowerExpression_of_no_operand {e : Expression} (needs : e.kind ∈ [.await, .cast, .unary, .prefixUnary])
    (alone : e.children = []) (s : Lowering) : lowerExpression c inliner active e s = (none, s) := by
  obtain ⟨kind, name, type, method, member, literal, operator, children⟩ := e
  obtain rfl : children = [] := alone
  simp only [List.mem_cons, List.not_mem_nil, or_false] at needs
  rw [lowerExpression]
  rcases needs with rfl | rfl | rfl | rfl <;> rfl

end Lower

end ScriptGraph
