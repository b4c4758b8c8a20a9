import Mathlib
import ScriptGraph.Proofs.Construction.Names
import ScriptGraph.Proofs.Runtime.Growth
import ScriptGraph.Proofs.Runtime.ListPatterns

/-!
Lists in any history of construction.

Lists are made, operated on and read in any order, among other nodes; inputs are fed and flows are led on
once. However a graph came about in this way, every pattern in it implements its operation.
-/

namespace ScriptGraph

open Pattern

namespace Pattern.BoundedList

/-- The names of the variables of a list behind the name of the list. -/
def suffixes (capacity : Nat) : List String :=
  ["Count", "Capacity", "Cursor", "CurrentIndex", "ValueToSet"] ++ (List.range capacity).map toString

theorem nodup_suffixes (capacity : Nat) : (suffixes capacity).Nodup := by
  have numbers : ((List.range capacity).map toString).Nodup := by
    rw [List.range_eq_range']
    exact Known.nodup_numbers 0 capacity
  refine List.nodup_append.2 ⟨by decide, numbers, ?_⟩
  rintro suffix word _ number rfl
  obtain ⟨n, _, rfl⟩ := List.mem_map.1 number
  have none : ∀ suffix ∈ ["Count", "Capacity", "Cursor", "CurrentIndex", "ValueToSet"],
      Validation.isNumeral suffix = false := by decide
  have numeral := none _ word
  rw [Validation.isNumeral_toString] at numeral
  cases numeral

theorem names_declareSlots (name : String) (type : ValueType) (numbers : List Nat) (c : Context) :
    Ensures (declareSlots name type numbers) c fun slots c' =>
      List.Forall₂ c'.Names slots (numbers.map fun n => name ++ "_" ++ toString n) ∧ c.KeepsNames c' := by
  induction numbers generalizing c with
  | nil => exact .pure ⟨.nil, fun _ _ named => named⟩
  | cons n numbers ih =>
    refine (c.names_declareVariable _ _ _).bind fun slot c₁ ⟨named, kept⟩ => ?_
    refine (ih c₁).bind fun slots c₂ ⟨others, kept'⟩ => .pure ⟨.cons (kept' _ _ named) others, ?_⟩
    exact fun id name named => kept' _ _ (kept _ _ named)

/-- The variables of a new list are named after it, so they are different. -/
theorem sound_new {type : ValueType} {capacity : Nat} (short : capacity < 2147483648) (c : Context) :
    Ensures (new type capacity) c fun l c' => c'.graph.vars.size ≤ 0x100000000 → l.cells.Sound := by
  refine (show Ensures (Build.uniqueName "VARLIST") c fun _ _ => True from trivial).bind fun name c _ => ?_
  refine (names_declareSlots name type (List.range capacity) c).bind fun slots c ⟨slotNames, _⟩ => ?_
  refine (c.names_declareVariable _ _ _).bind fun count c₁ ⟨count', kept₁⟩ => ?_
  refine (c₁.names_declareVariable _ _ _).bind fun capacityId c₂ ⟨capacity', kept₂⟩ => ?_
  refine (c₂.names_declareVariable _ _ _).bind fun index c₃ ⟨index', kept₃⟩ => ?_
  refine (c₃.names_declareVariable _ _ _).bind fun cursor c₄ ⟨cursor', kept₄⟩ => ?_
  refine (c₄.names_declareVariable _ _ _).bind fun value c₅ ⟨value', kept₅⟩ => .pure fun room => ?_
  have named : List.Forall₂ c₅.Names (count :: capacityId :: cursor :: index :: value :: slots)
      ((suffixes capacity).map (name ++ "_" ++ ·)) := by
    refine .cons ?_ (.cons ?_ (.cons ?_ (.cons ?_ (.cons ?_ ?_))))
    · exact kept₅ _ _ (kept₄ _ _ (kept₃ _ _ (kept₂ _ _ count')))
    · exact kept₅ _ _ (kept₄ _ _ (kept₃ _ _ capacity'))
    · exact kept₅ _ _ cursor'
    · exact kept₅ _ _ (kept₄ _ _ index')
    · show c₅.Names value (name ++ "_" ++ "ValueToSet")
      rw [String.append_assoc]
      exact value'
    · show List.Forall₂ _ slots (((List.range capacity).map toString).map _)
      rw [List.map_map]
      exact slotNames.imp fun _ _ named => kept₅ _ _ (kept₄ _ _ (kept₃ _ _ (kept₂ _ _ (kept₁ _ _ named))))
  have nodup := Context.nodup_of_names named
    ((nodup_suffixes capacity).map fun _ _ same => (String.append_right_inj _).1 same)
  have length : slots.length = capacity := by simpa using slotNames.length_eq
  refine ⟨by simpa [cells, length] using short, ?_⟩
  show ((count :: capacityId :: cursor :: index :: value :: slots).map Int32.ofNat).Nodup
  refine nodup.map_on fun id there other there' same => ?_
  have below (id : Nat) (there : id ∈ count :: capacityId :: cursor :: index :: value :: slots) :
      id < c₅.graph.vars.size := by
    obtain ⟨_, _, named⟩ := Context.exists_name named there
    exact named.lt
  have number (id : Nat) (there : id < c₅.graph.vars.size) : (Int32.ofNat id).toBitVec.toNat = id := by
    rw [Int32.toBitVec_ofNat', BitVec.toNat_ofNat, Nat.mod_eq_of_lt (by omega)]
  rw [← number id (below id there), ← number other (below other there'), same]

end Pattern.BoundedList

namespace Plan

variable {start c : Context} {blanks idles : List SocketAddress} {holding : Program → Prop} {k : Cells}
  {l : BoundedList}

theorem declareSlots (name : String) (type : ValueType) (numbers : List Nat) {c : Context}
    (plan : Plan start blanks idles holding c) :
    Ensures (BoundedList.declareSlots name type numbers) c fun _ c' => Plan start blanks idles holding c' := by
  induction numbers generalizing c with
  | nil => exact .pure plan
  | cons n numbers ih =>
    exact (plan.declareVariable ..).bind fun _ _ plan => (ih plan).bind fun _ _ plan => .pure plan

/-- A new list has no nodes yet. -/
theorem newList (plan : Plan start blanks idles holding c) (type : ValueType) (capacity : Nat) :
    Ensures (BoundedList.new type capacity) c fun l c' =>
      Plan start blanks idles (fun q => q.Serves l.cells l ∧ holding q) c' := by
  refine (plan.uniqueName _).bind fun name _ plan => (plan.declareSlots ..).bind fun slots _ plan => ?_
  refine (plan.declareVariable ..).bind fun _ _ plan => (plan.declareVariable ..).bind fun _ _ plan => ?_
  refine (plan.declareVariable ..).bind fun _ _ plan => (plan.declareVariable ..).bind fun _ _ plan => ?_
  refine (plan.declareVariable ..).bind fun _ _ plan => .pure ?_
  exact plan.mono fun q old => ⟨⟨nofun, .inl rfl, nofun⟩, old⟩

theorem getItemChecked (plan : Plan start [] idles holding c) (own : l.cells = k) (sound : k.Sound)
    (serves : ∀ q, holding q → q.Serves k l) (index : ValueOut) :
    Ensures ((BoundedList.getItemChecked index).run l) c fun r c' => r.2.cells = k ∧
      Plan start [] idles (fun q => q.LooksUp k index r.1 ∧ q.Serves k r.2 ∧ holding q) c' := by
  unfold BoundedList.getItemChecked
  refine .listBind (plan.getItem own sound serves index) fun ⟨value, l'⟩ _ ⟨own, plan⟩ => ?_
  refine .listBind (plan.indexInRange own (fun q ⟨_, serves, _⟩ => serves) false)
    fun ⟨⟨rangeIndex, within⟩, l'⟩ _ ⟨own, plan⟩ => ?_
  refine .listLift (plan.connect index (.refl _)) fun _ _ plan => ?_
  refine .listLift (plan.createNode ["condition", "a", "b"] [] (by decide)) fun choice _ ⟨plan, _⟩ => ?_
  refine .listLift (plan.connect (t := choice.valueIn "condition") within (.refl _)) fun _ _ plan => ?_
  refine .listLift (plan.connect (t := choice.valueIn "a") value (.refl _)) fun _ _ plan => .listGet ?_
  refine .listLift (plan.setLiteral (t := choice.valueIn "b") _ (.refl _)) fun _ _ plan => .listPure ⟨own, ?_⟩
  refine plan.mono fun q ⟨otherwise, chosen, decides, stands, ranges, checks, serves, looks, _, old⟩ =>
    ⟨fun σ items j x holds gives there => ?_, serves, old⟩
  obtain ⟨inside, _⟩ := List.getElem?_eq_some_iff.1 there
  have fits := holds.fits
  have short := sound.short
  have number : (Int32.ofNat j).toInt = j := Int32.toInt_ofNat_of_lt (by omega)
  have checked := checks.gives sound holds (Program.Feeds.accepts ranges gives)
  rw [number, Bool.toNat_false, decide_eq_true (by omega)] at checked
  obtain rfl : x = σ.vars (k.slot j) := Option.some.inj (there.symm.trans (holds.slots j inside))
  have selects : q.Gives σ (.output ⟨choice, "value"⟩) (if true then σ.vars (k.slot j) else _) :=
    .select stands.real stands.op (Program.Feeds.takes decides checked)
      (Program.Feeds.takes chosen (looks σ j (by omega) gives)) (Program.Feeds.takes otherwise (.constant _))
  exact selects

/-- A placeholder, whether its constant is known or not. -/
theorem createPlaceholder (plan : Plan start blanks idles holding c) (value : Option Literal) :
    Ensures (Build.createPlaceholder value) c fun _ c' => Plan start blanks idles holding c' := by
  cases value with
  | some value => exact (plan.createLiteral value).mono fun _ _ plan => plan.mono fun q ⟨_, old⟩ => old
  | none =>
    have same (i : Nat) : ((c.placeholders.push none)[i]?).join = (c.placeholders[i]?).join := by
      rw [Array.getElem?_push]
      split
      · next last => simp [last]
      · rfl
    have unknown (v : ValueOut) :
        ({ c with placeholders := c.placeholders.push none } : Context).placeholderValue? v = c.placeholderValue? v := by
      rw [Context.placeholderValue?, Context.placeholderValue?]
      generalize v.address.node.toNat - NodeId.placeholderBase = i
      rw [same i]
    have before : c.Before { c with placeholders := c.placeholders.push none } := ⟨Nat.le_refl _, by simp⟩
    exact plan.unseen before fun identified =>
      ⟨identified, congrArg c.graph.programWith (funext fun a => unknown ⟨a⟩)⟩

end Plan

/-- The questions about a list. -/
inductive ListQuery where
  | count
  | item (index : ValueOut)
  | itemChecked (index : ValueOut)

/-- The nodes of a question. -/
def ListQuery.build : ListQuery → ListBuild ValueOut
  | count => BoundedList.countValue
  | item index => BoundedList.getItem index
  | itemChecked index => BoundedList.getItemChecked index

/-- An operation that was put into a graph. -/
structure ListRecord where
  cells : Cells
  operation : ListOperation
  patch : ListPatch

/-- A graph under construction, with its lists and the operations on them. -/
structure Site where
  context : Context
  lists : List BoundedList := []
  /-- The flows that lead nowhere and may be led on. -/
  idles : List SocketAddress := []
  records : List ListRecord := []

namespace Site

/-- One more list. -/
def addList (s : Site) (type : ValueType) (capacity : Nat) : Site :=
  let (l, context) := BoundedList.new type capacity s.context
  { s with context, lists := l :: s.lists }

/-- An operation on one of the lists. -/
def operate (s : Site) (operation : ListOperation) (before : List BoundedList) (l : BoundedList)
    (after : List BoundedList) : Site :=
  let ((patch, l'), context) := operation.build.run l s.context
  { context
    lists := before ++ l' :: after
    idles := patch.flowOut.address :: s.idles
    records := ⟨l.cells, operation, patch⟩ :: s.records }

/-- A write to one of the lists, wherever the index points. -/
def write (s : Site) (before : List BoundedList) (l : BoundedList) (after : List BoundedList) : Site :=
  let ((set, l'), context) := BoundedList.setItem.run l s.context
  { s with context, lists := before ++ l' :: after, idles := set.flowOut.address :: s.idles }

/-- A question about one of the lists. -/
def ask (s : Site) (query : ListQuery) (before : List BoundedList) (l : BoundedList) (after : List BoundedList) : Site :=
  let ((_, l'), context) := query.build.run l s.context
  { s with context, lists := before ++ l' :: after }

/-- Another node, some of whose flows may be led on. -/
def addNode (s : Site) (kind : Op) (flows : List String) : Site :=
  let (id, context) := Build.createNode kind s.context
  { s with context, idles := flows.map (⟨id, ·⟩) ++ s.idles }

/-- Any other step of construction. -/
def perform {α : Type} (s : Site) (step : Build α) : Site := { s with context := (step s.context).2 }

/-- Nothing stands on the sockets of an input. -/
structure Blank (s : Site) (t : ValueIn) : Prop where
  nodup : t.sockets.Nodup
  exist : ∀ a ∈ t.sockets, s.context.program.op? a.node ≠ none
  unfed : ∀ a ∈ t.sockets, s.context.program.feed? a = none

/-- One step of a construction. What is wired stays as it is. -/
inductive Step (s : Site) : Site → Prop
  | list {type : ValueType} {capacity : Nat} (short : capacity < 2147483648)
      (numbered : (s.addList type capacity).context.graph.vars.size ≤ 0x100000000) : Step s (s.addList type capacity)
  | operate {before after : List BoundedList} {l : BoundedList} (operation : ListOperation)
      (own : s.lists = before ++ l :: after) : Step s (s.operate operation before l after)
  | write {before after : List BoundedList} {l : BoundedList} (own : s.lists = before ++ l :: after) :
      Step s (s.write before l after)
  | ask {before after : List BoundedList} {l : BoundedList} (query : ListQuery)
      (own : s.lists = before ++ l :: after) : Step s (s.ask query before l after)
  | node (kind : Op) {flows : List String} (nodup : flows.Nodup) : Step s (s.addNode kind flows)
  | configure {id : NodeId} {name : String} (value : ConfigValue) (exist : s.context.program.op? id ≠ none)
      (unset : s.context.program.parameter? id name = none) : Step s (s.perform (Build.configure id name value))
  | placeholder (value : Option Literal) : Step s (s.perform (Build.createPlaceholder value))
  | feed {t : ValueIn} (v : ValueOut) (blank : s.Blank t) : Step s (s.perform (Build.connect t v))
  | fix {t : ValueIn} (value : Literal) (blank : s.Blank t) : Step s (s.perform (Build.setLiteral t value))
  | lead {f : FlowOut} (t : FlowIn) (idle : f.address ∈ s.idles) :
      Step s { s.perform (Build.connectFlow f t) with idles := s.idles.erase f.address }
  /-- Variables, events, types and names are not seen by a runtime. -/
  | unseen {α : Type} {step : Build α} (before : s.context.Before (step s.context).2)
      (same : s.context.graph.Identified →
        (step s.context).2.graph.Identified ∧ (step s.context).2.program = s.context.program) : Step s (s.perform step)

/-- The sites that some construction comes to, whatever the graph held before. -/
inductive Reached : Site → Prop
  | start {c : Context} {idles : List SocketAddress} (identified : c.graph.Identified) (nodup : idles.Nodup)
      (idle : ∀ a ∈ idles, c.program.op? a.node ≠ none ∧ c.program.next? a = none) : Reached { context := c, idles }
  | next {s s' : Site} (reached : Reached s) (step : s.Step s') : Reached s'

/-- In a program, the lists of a site serve and the operations on them are implemented. -/
structure Works (s : Site) (p : Program) : Prop where
  lists : ∀ l ∈ s.lists, p.Serves l.cells l
  records : ∀ r ∈ s.records, p.Implements r.cells r.operation r.patch

/-- However a site is continued, it works. -/
structure Kept (start : Context) (s : Site) : Prop where
  sound : ∀ l ∈ s.lists, l.cells.Sound
  plan : Plan start [] s.idles s.Works s.context

variable {s s' : Site} {start : Context}

theorem Kept.perform {c' : Context} {idles : List SocketAddress} {m : Program → Prop} (kept : s.Kept start)
    (plan : Plan start [] idles (fun q => m q ∧ s.Works q) c') : Kept start { s with context := c', idles } :=
  ⟨kept.sound, plan.mono fun _ ⟨_, old⟩ => ⟨old.lists, old.records⟩⟩

/-- Nodes that are placed for a list leave the other lists as they are. -/
theorem Kept.use {c' : Context} {before after : List BoundedList} {l l' : BoundedList}
    {idles : List SocketAddress} {records : List ListRecord} (kept : s.Kept start)
    (own : s.lists = before ++ l :: after) (same : l'.cells = l.cells)
    (plan : Plan start [] idles (fun q => (∀ r ∈ records, q.Implements r.cells r.operation r.patch) ∧
      q.Serves l.cells l' ∧ s.Works q) c') :
    Kept start { context := c', lists := before ++ l' :: after, idles, records } := by
  refine ⟨fun m member => ?_, plan.mono fun q ⟨records, serves, old⟩ => ⟨fun m member => ?_, records⟩⟩
  · rcases List.mem_append.1 member with before | member
    · exact kept.sound m (by simp [own, before])
    rcases List.mem_cons.1 member with rfl | after
    · exact same ▸ kept.sound l (by simp [own])
    · exact kept.sound m (by simp [own, after])
  · rcases List.mem_append.1 member with before | member
    · exact old.lists m (by simp [own, before])
    rcases List.mem_cons.1 member with rfl | after
    · exact same ▸ serves
    · exact old.lists m (by simp [own, after])

theorem Blank.plan {t : ValueIn} {idles : List SocketAddress} {holding : Program → Prop} (blank : s.Blank t)
    (plan : Plan start [] idles holding s.context) : Plan start t.sockets idles holding s.context :=
  plan.expose (fun _ a member => ⟨blank.exist a member, blank.unfed a member⟩) blank.nodup

theorem Kept.step (kept : s.Kept start) (step : s.Step s') : s'.Kept start := by
  have own {before after : List BoundedList} {l : BoundedList} (own : s.lists = before ++ l :: after) :
      l.cells.Sound ∧ ∀ q, s.Works q → q.Serves l.cells l :=
    ⟨kept.sound l (by simp [own]), fun q old => old.lists l (by simp [own])⟩
  cases step with
  | @list type capacity short numbered =>
    have sound := BoundedList.sound_new short s.context numbered
    have plan := kept.plan.newList type capacity
    refine ⟨List.forall_mem_cons.2 ⟨sound, kept.sound⟩, Plan.mono plan fun q ⟨serves, old⟩ => ?_⟩
    exact ⟨List.forall_mem_cons.2 ⟨serves, old.lists⟩, old.records⟩
  | @operate _ _ l operation there =>
    obtain ⟨sound, serves⟩ := own there
    obtain ⟨same, plan⟩ := kept.plan.operation rfl sound serves operation
    refine kept.use there same ((plan.drop ⟨_, List.nil_sublist _, .refl _⟩ ⟨_, .refl _, .refl _⟩).mono ?_)
    exact fun q ⟨implements, serves, old⟩ => ⟨List.forall_mem_cons.2 ⟨implements, old.records⟩, serves, old⟩
  | write there =>
    obtain ⟨sound, serves⟩ := own there
    obtain ⟨same, plan⟩ := kept.plan.setItem rfl sound serves
    refine kept.use there same ((plan.drop ⟨_, List.nil_sublist _, .refl _⟩ ⟨_, .refl _, .refl _⟩).mono ?_)
    exact fun q ⟨_, serves, old⟩ => ⟨old.records, serves, old⟩
  | ask query there =>
    obtain ⟨sound, serves⟩ := own there
    cases query with
    | count =>
      obtain ⟨same, plan⟩ := kept.plan.countValue rfl serves
      exact kept.use there same (plan.mono fun q ⟨_, serves, old⟩ => ⟨old.records, serves, old⟩)
    | item index =>
      obtain ⟨same, plan⟩ := kept.plan.getItem rfl sound serves index
      exact kept.use there same (plan.mono fun q ⟨_, serves, old⟩ => ⟨old.records, serves, old⟩)
    | itemChecked index =>
      obtain ⟨same, plan⟩ := kept.plan.getItemChecked rfl sound serves index
      exact kept.use there same (plan.mono fun q ⟨_, serves, old⟩ => ⟨old.records, serves, old⟩)
  | node kind nodup => exact kept.perform (kept.plan.createNode [] _ ⟨List.nodup_nil, nodup⟩).1
  | configure value exist unset => exact kept.perform (kept.plan.configureUnset (fun _ => ⟨exist, unset⟩) value)
  | placeholder value =>
    have plan := kept.plan.createPlaceholder value
    exact kept.perform (m := fun _ => True) (Plan.mono plan fun q old => ⟨trivial, old⟩)
  | feed v blank => exact kept.perform ((blank.plan kept.plan).connect v (by simp))
  | fix value blank => exact kept.perform ((blank.plan kept.plan).setLiteral value (by simp))
  | lead t idle => exact kept.perform (kept.plan.connectFlow t (List.perm_cons_erase idle).symm)
  | unseen before same =>
    exact kept.perform (m := fun _ => True) ((kept.plan.unseen before same).mono fun q old => ⟨trivial, old⟩)

theorem Reached.kept (reached : Reached s) : ∃ start, s.Kept start := by
  induction reached with
  | @start c _ identified nodup idle =>
    refine ⟨c, nofun, ?_⟩
    have plan : Plan c [] _ _ c := .begin (fun _ => identified) (by simp) (fun _ => idle) .nil nodup
    exact plan.mono fun _ _ => ⟨by simp, by simp⟩
  | next _ step ih =>
    obtain ⟨start, kept⟩ := ih
    exact ⟨start, kept.step step⟩

end Site

section Finished

variable {c : Context} {own : List Int32} {k : Cells} {patch : ListPatch} {σ : Store}

theorem Context.exists_of_feed {a : SocketAddress} {f : Feed} (fed : c.program.feed? a = some f) :
    c.program.op? a.node ≠ none := by
  obtain ⟨_, atSocket, _⟩ := Option.bind_eq_some_iff.1 fed
  obtain ⟨n, found, _⟩ := Option.bind_eq_some_iff.1 atSocket
  simp [program, Graph.programWith, found]

/-- The identities of nodes are not those of placeholders. -/
theorem Context.real_of_exists (identified : c.graph.Identified) (small : c.Small) {id : NodeId}
    (exist : c.program.op? id ≠ none) : id.isPlaceholder = false := by
  obtain ⟨n, found, _⟩ := exists_shows exist
  rw [identified.node?] at found
  have inside := (Array.getElem?_eq_some_iff.1 found).1
  have below : id.toNat < NodeId.placeholderBase := Nat.lt_of_lt_of_le inside small.1
  simpa [NodeId.isPlaceholder] using below

namespace Context.Settled

/-- The nodes behind a feed are there when the constants are in place. -/
theorem behind (settled : c.Settled) (identified : c.graph.Identified) (small : c.Small) {f : Feed} {id : NodeId}
    (behind : c.program.Behind f id) (exist : c.program.op? id ≠ none) :
    c.resolved.program.Behind (c.resolveFeed f) id := by
  induction behind with
  | here a =>
    rw [c.resolveFeed_real (real_of_exists identified small exist)]
    exact .here a
  | @further a _ _ _ fed _ ih =>
    have real : a.node.isPlaceholder = false := real_of_exists identified small (exists_of_feed fed :)
    rw [c.resolveFeed_real real]
    exact .further (feed?_resolved fed (settled.resolves fed)) (ih exist)

theorem takesOff (settled : c.Settled) (identified : c.graph.Identified) (small : c.Small) {a : SocketAddress}
    {value : Literal} (takes : c.resolved.program.TakesOff own σ a value) : c.program.TakesOff own σ a value := by
  obtain ⟨f', fed, gives, spares⟩ := takes
  rw [settled.feed?, Option.map_eq_some_iff] at fed
  obtain ⟨f, fed, rfl⟩ := fed
  refine ⟨f, fed, settled.gives gives, fun id name behind isGet set => ?_⟩
  have behind := settled.behind identified small behind (Option.ne_none_iff_exists'.2 ⟨_, isGet⟩)
  exact spares id name behind ((c.op?_resolved id).trans isGet) ((c.parameter?_resolved id "variable").trans set)

/-- What implements an operation goes on to do so when the constants are in place. -/
theorem implements (settled : c.Settled) (identified : c.graph.Identified) (small : c.Small)
    {operation : ListOperation} (implements : c.program.Implements k operation patch) :
    c.resolved.program.Implements k operation patch := by
  intro σ i x ready supplied
  have supplied : c.program.Supplied k patch σ i x :=
    ⟨fun t has a member => settled.takesOff identified small (supplied.index t has a member),
      fun t has a member => settled.takesOff identified small (supplied.value t has a member)⟩
  obtain ⟨σ', passes, after⟩ := implements σ i x ready supplied
  refine ⟨σ', fun τ => ?_, after⟩
  rw [settled.runs_iff, settled.runs_iff, c.next?_resolved]
  exact passes τ

end Context.Settled

end Finished

namespace Removal

/-- The first list of a graph, with room for two numbers. -/
def list : BoundedList where
  name := "VARLIST_0"
  valueType := .int
  slots := [0, 1]
  count := 2
  capacityId := 3
  currentIndex := 4
  valueToSet := 6
  cursor := 5

/-- A graph with nothing but the variables of the list. -/
def listed : Context where
  graph := { vars := #[⟨"VARLIST_0_0", .int, some (.int 0)⟩, ⟨"VARLIST_0_1", .int, some (.int 0)⟩,
    ⟨"VARLIST_0_Count", .int, some (.int 0)⟩, ⟨"VARLIST_0_Capacity", .int, some (.int 2)⟩,
    ⟨"VARLIST_0_CurrentIndex", .int, some (.int 0)⟩, ⟨"VARLIST_0_Cursor", .int, some (.int 0)⟩,
    ⟨"VARLIST_0_ValueToSet", .int, some (.int 0)⟩] }
  counters := .ofList [("VARLIST", 1)]

theorem new_eq : BoundedList.new .int 2 ({} : Context) = (list, listed) := by
  have name : Build.uniqueName "VARLIST" ({} : Context) = ("VARLIST_0", { counters := .ofList [("VARLIST", 1)] }) := by
    cbv
  have zero : Nat.repr 0 = "0" := by cbv
  have one : Nat.repr 1 = "1" := by cbv
  simp [BoundedList.new, StateT.bind, bind, name, BoundedList.declareSlots, List.range, List.range.loop,
    Build.declareVariable, modifyGet, MonadStateOf.modifyGet, StateT.modifyGet, pure, StateT.pure,
    Context.variableId?, list, listed, zero, one, ValueType.default, List.findIdx?_cons]

def site : Site := { context := listed, lists := [list] }

def patch : ListPatch := (ListOperation.remove.build.run list site.context).1.1

/-- A removal from the list, and the number 0. -/
def operated : Site := (site.operate .remove [] list []).perform (Build.createLiteral (.int 0))

def index : ValueIn := ⟨[⟨.ofNat 1, "a"⟩, ⟨.ofNat 2, "a"⟩, ⟨.ofNat 6, "startIndex"⟩]⟩

/-- The first element is to go. -/
def supplied : Site := operated.perform (Build.connect index ⟨.placeholder 0, "value"⟩)

/-- The list holds 1 and 2. -/
def store : Store where
  vars id := .int (if id = 0 then 1 else 2)
  counters _ := 0
  world _ _ := none

/-- What a runtime finds, before and after the index is supplied. -/
theorem found : (patch.index?, patch.value?,
    index.sockets.map fun a => (operated.context.program.op? a.node, operated.context.program.feed? a)) =
      (some index, none, [(some .mathGe, none), (some .mathLt, none), (some .flowFor, none)]) ∧
    (supplied.context.graph.nodes.size, supplied.context.placeholders.size, decide supplied.context.Settled,
      index.sockets.map supplied.context.resolved.program.feed?,
      supplied.context.resolved.program.next? patch.flowOut.address) =
      (21, 1, true, List.replicate 3 (some (.constant (.int 0))), none) := by
  constructor <;> decide +kernel

theorem blank : operated.Blank index := by
  have here := found.1
  simp only [index, List.map, Prod.mk.injEq, List.cons.injEq, and_true] at here
  obtain ⟨_, _, ⟨ge, geBlank⟩, ⟨lt, ltBlank⟩, loop, loopBlank⟩ := here
  refine ⟨by decide, ?_, ?_⟩ <;> simp [index, *]

theorem reached : supplied.Reached := by
  have identified : ({} : Context).graph.Identified := fun i n found => by simp at found
  have started : Site.Reached { context := {} } := .start identified .nil (by simp)
  have added : ({ context := {} } : Site).addList .int 2 = site := by
    rw [Site.addList, new_eq]
    rfl
  have few : (({ context := {} } : Site).addList .int 2).context.graph.vars.size ≤ 0x100000000 := by
    rw [added]
    decide
  have listed : site.Reached := added ▸ started.next (.list (by decide) few)
  have operated : operated.Reached := (listed.next (.operate .remove rfl)).next (.placeholder (some (.int 0)))
  exact operated.next (.feed _ blank)

end Removal

end ScriptGraph
