import Mathlib
import ScriptGraph.Proofs.Lower.Classes
import ScriptGraph.Proofs.Tick.Statements

/-!
Who is served behind the tick event when a class is lowered: each entry point that runs at every tick, and the waits
of all bodies, in the order in which they were met.
-/

namespace ScriptGraph

open Pattern Build

/-- The entry points of a class that run at every tick, among the given names. -/
def ScriptClass.updates (c : ScriptClass) (names : List String) : List String :=
  names.filter fun name => name = "Update" && (c.method? name).isSome

namespace Lower

variable {α β : Type} {updates updates' : Nat} {c : ScriptClass}

/-- The step takes no node away, and as long as the numbers of nodes suffice those who are served after it and were
not served before are waits and the given number of entry points. -/
structure Enters (updates : Nat) (step : Lower α) : Prop where
  size_le : ∀ s : Lowering, s.context.graph.nodes.size ≤ (step s).2.context.graph.nodes.size
  gains : ∀ (s : Lowering) (journal : List Subscriber), s.context.graph.Identified →
    (step s).2.context.graph.nodes.size ≤ 0x100000000 →
      s.context.Serves s.context.graph.nodes.size s.tick journal → ∃ more, more.countP Subscriber.isUpdate = updates ∧
        s.context.Gains s.context.graph.nodes.size journal more (step s).2.tick (step s).2.context

theorem Subscribes.enters {step : Lower α} (subscribes : ∀ base, Subscribes base step) : Enters 0 step where
  size_le := (subscribes 0).size_le
  gains s journal identified inRange serves := by
    obtain ⟨more, waits, gains⟩ := (subscribes _).gains s journal identified le_rfl inRange serves
    exact ⟨more, List.countP_eq_zero.2 fun subscriber member => by simp [waits subscriber member], gains⟩

theorem Quiet.enters {step : Lower α} (quiet : ∀ base, Quiet base step) : Enters 0 step :=
  Subscribes.enters fun base => (quiet base).subscribes

namespace Enters

theorem bind {step : Lower α} {next : α → Lower β} (first : Enters updates step)
    (second : ∀ a, Enters updates' (next a)) : Enters (updates + updates') (step >>= next) where
  size_le s := (first.size_le s).trans ((second (step s).1).size_le (step s).2)
  gains s journal identified inRange serves := by
    have middle := (second (step s).1).size_le (step s).2
    obtain ⟨more, count, gains⟩ := first.gains s journal identified (middle.trans inRange) serves
    obtain ⟨more', count', gains'⟩ := (second (step s).1).gains (step s).2 (journal ++ more)
      gains.remains.identified inRange gains.serves
    refine ⟨more ++ more', by rw [List.countP_append, count, count'], gains.trans
      { gains' with remains := gains'.remains.mono (first.size_le s) }⟩

/-- Nobody enters with the first step. -/
theorem quietBind {step : Lower α} {next : α → Lower β} (first : ∀ base, Quiet base step)
    (second : ∀ a, Enters updates (next a)) : Enters updates (step >>= next) :=
  Nat.zero_add updates ▸ (Quiet.enters first).bind second

/-- Nobody enters after the first step. -/
theorem bindSubscribes {step : Lower α} {next : α → Lower β} (first : Enters updates step)
    (second : ∀ base a, Subscribes base (next a)) : Enters updates (step >>= next) :=
  first.bind fun a => Subscribes.enters fun base => second base a

end Enters

/-- An entry point takes the next output behind the tick event. -/
theorem enters_tickFlow : Enters 1 tickFlow where
  size_le s := Grows.bind (grows_getOrNew s.tick) (fun chain => .of_quiet (quiet_nextFlow chain 0)) s.context
  gains s journal identified inRange serves := by
    have marked : Ensures (do (← TickChain.getOrNew s.tick).nextFlow) s.context fun taken c' => ∃ sequence,
        Marked s.context.graph.nodes.size (some taken.2) (journal ++ [.update]) s.context 0
          [.node sequence .flowSequence] c' :=
      (Marked.refl identified le_rfl serves).getOrNew.bind fun chain _ ⟨_, marked⟩ =>
        marked.nextFlow.mono fun taken _ ⟨sequence, _, _, marked⟩ => ⟨sequence, marked⟩
    obtain ⟨sequence, marked⟩ := marked
    refine ⟨[.update], rfl, marked.remains inRange, (marked.serves inRange).mono marked.size_le, rfl, ?_⟩
    exact marked.waits inRange

variable {base : Nat}

theorem quiet_fillList (field : String) (list : BoundedList) : ∀ items : List Expression,
    Quiet base (fillList field list items)
  | [] => .pure _
  | item :: items => by
    unfold fillList
    split
    · exact .bind (.lift (quiet_unsupported _)) fun _ => quiet_fillList field list items
    · refine .bind (.lift (BoundedList.quiet_addInitial _ _)) fun result => ?_
      cases result with
      | ok _ => exact quiet_fillList field list items
      | error problem => exact .lift (quiet_malformed _)

theorem quiet_declareField (field : Field) : Quiet base (declareField field) := by
  unfold declareField declareList
  split
  · split
    · exact .lift (quiet_unsupported _)
    · refine .getBind fun s => .bind (.lift (BoundedList.quiet_new _ _)) fun list => ?_
      exact .bind (quiet_fillList _ _ _) fun _ => .modify (fun _ => rfl) fun _ => rfl
  · split
    · exact .pure _
    · split
      · exact .lift (quiet_unsupported _)
      · exact .bind (.lift (quiet_declareVariable _ _ _)) fun id => .modify (fun _ => rfl) fun _ => rfl

theorem quiet_declareAll : ∀ fields : List Field, Quiet base (declareAll fields)
  | [] => .pure _
  | field :: fields => .bind (quiet_declareField field) fun _ => quiet_declareAll fields

theorem quiet_declareFields (c : ScriptClass) : Quiet base (declareFields c) :=
  .bind (.lift (quiet_setMethod _)) fun _ => quiet_declareAll _

theorem quiet_bindParameters (receive : NodeId) (parameters : List Parameter) (bindings : Dict ValueOut) :
    Quiet base (bindParameters receive parameters bindings) := by
  induction parameters generalizing bindings with
  | nil => exact .pure bindings
  | cons parameter parameters ih =>
    unfold bindParameters
    dsimp only
    split
    · exact .bind (.lift (quiet_expect _ _)) fun _ => ih _
    · exact ih _

theorem enters_openEntryPoint (method : Method) :
    Enters (if method.name = "Update" then 1 else 0) (openEntryPoint method) := by
  generalize count : (if method.name = "Update" then 1 else 0) = updates
  unfold openEntryPoint
  split
  · next start =>
    rw [if_neg (by rw [start]; decide)] at count
    subst count
    exact Quiet.enters fun base => .node (by decide) fun _ _ _ => .pure _
  · next update =>
    rw [if_pos update] at count
    subst count
    exact enters_tickFlow.bindSubscribes fun _ _ => .pure _
  · next _ other =>
    rw [if_neg other] at count
    subst count
    refine Quiet.enters fun base => .bind (.lift (quiet_declareEvent _ _)) fun event => ?_
    refine .node (by decide) fun receive _ own => .bind (.lift (quiet_configure own _ _)) fun _ => ?_
    exact .bind (quiet_bindParameters _ _ _) fun _ => .pure _

theorem enters_lowerEntryPoint (method : Method) :
    Enters (if method.name = "Update" then 1 else 0) (lowerEntryPoint c method) := by
  refine .quietBind (fun _ => .lift (quiet_setMethod _)) fun _ => (enters_openEntryPoint method).bindSubscribes ?_
  rintro base ⟨flow, bindings⟩
  refine .getBind fun s => .withFrame _ (.quietBind (quiet_copyParameters _ _ _ _) fun flow => ?_)
  exact subscribes_lowerBlock (serves_inliner c _) _ _ _

/-- Each entry point of the class in its turn. -/
theorem enters_lowerEntryPoints : ∀ names : List String,
    Enters (c.updates names).length (lowerEntryPoints c names)
  | [] => Subscribes.enters fun _ => .pure _
  | name :: names => by
    unfold lowerEntryPoints
    split
    · next none =>
      have : c.updates (name :: names) = c.updates names := by simp [ScriptClass.updates, none]
      rw [this]
      exact enters_lowerEntryPoints names
    · next method found =>
      have named : method.name = name := by simpa using List.find?_some found
      have count : (c.updates (name :: names)).length =
          (if method.name = "Update" then 1 else 0) + (c.updates names).length := by
        rw [named, ScriptClass.updates, List.filter_cons, found]
        by_cases update : name = "Update"
        · simp [update, ScriptClass.updates, Nat.add_comm]
        · simp [update, ScriptClass.updates]
      rw [count]
      exact (enters_lowerEntryPoint method).bind fun _ =>
        (enters_lowerEntryPoints names).bindSubscribes fun _ _ => .pure _

end Lower

/-- Nobody is served in an empty graph. -/
theorem Context.serves_empty {c : Context} (empty : c.graph.nodes = #[]) : c.Serves 0 none [] where
  single found := by
    rw [empty] at found
    cases found
  event none := by cases none
  sequence none := by cases none
  idle _ := rfl
  taken := rfl
  wired found := by cases found
  settled _ member := absurd member List.not_mem_nil
  distinct := List.nodup_nil

namespace Lower

/-- A class is its fields, and then the entry points that the options name. -/
theorem lowerClass_snd (s : Lowering) : (lowerClass c s).2 =
    (lowerEntryPoints c (declareFields c s).2.context.options.entryPoints (declareFields c s).2).2 := by
  have last (wired : Nat) (e : CompileError) (s : Lowering) :
      (((if wired = 0 then pure (.error e) else pure (.ok ())) : Lower (Except CompileError Unit)) s).2 = s := by
    split <;> rfl
  exact last _ _ _

end Lower

/-- Those who are served in a lowered class, with the chain that serves them: the entry points that run at every
tick, and all waits by their numbers. -/
theorem ScriptClass.serves_lowered (cls : ScriptClass) (options : Options) (targets : Targets)
    (inRange : (cls.lowered options targets).graph.nodes.size ≤ 0x100000000) :
    ∃ journal : List Subscriber, journal.countP Subscriber.isUpdate = (cls.updates options.entryPoints).length ∧
      (polls journal).map Poll.number = List.range (cls.lowered options targets).waits ∧
        (cls.lowered options targets).Serves (cls.lowered options targets).graph.nodes.size
          (Lower.lowerClass cls (startOfLowering options targets)).2.tick journal := by
  unfold lowered at inRange ⊢
  rw [Lower.lowerClass_snd] at inRange ⊢
  have entries (names : List String) := Lower.enters_lowerEntryPoints (c := cls) names
  have start : (startOfLowering options targets).context.Serves 0 none [] := Context.serves_empty rfl
  obtain ⟨remains, serves, waits⟩ := (Lower.quiet_declareFields cls).quiet (startOfLowering options targets) []
    (fun _ _ found => by cases found) le_rfl ((entries _).size_le _ |>.trans inRange) start
  have named : (Lower.declareFields cls (startOfLowering options targets)).2.context.options = options :=
    remains.options
  rw [named] at inRange ⊢
  obtain ⟨journal, count, gains⟩ := (entries _).gains _ [] remains.identified inRange (serves.mono (Nat.zero_le _))
  refine ⟨journal, count, ?_, gains.serves⟩
  rw [gains.numbers, gains.waits, waits, List.range_eq_range']
  show List.range' 0 _ = List.range' 0 (0 + _)
  rw [Nat.zero_add]

end ScriptGraph
