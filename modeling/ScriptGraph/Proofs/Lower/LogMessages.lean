import Mathlib
import ScriptGraph.Proofs.Lower.Expressions
import ScriptGraph.Proofs.Lower.Messages
import ScriptGraph.Proofs.Runtime.Edits

/-!
The template of a log message and the slots of its node.

The message is written while the values are lowered; a scanner that knows nothing of either reads the slots off
it again. Both agree because texts lose their braces before they are put into a template. A value that cannot
be lowered keeps its number in the message, and its socket is never made.
-/

namespace ScriptGraph

namespace Template

theorem length_behind_token_lt {cs before after token rest : List Char}
    (opened : splitAt? '\x7b' cs = some (before, after)) (closed : splitAt? '\x7d' after = some (token, rest)) :
    rest.length < cs.length := by
  have first := length_of_splitAt? opened
  have second := length_of_splitAt? closed
  omega

/-- A template without its tokens. -/
def outside (cs : List Char) : List Char :=
  match opened : splitAt? '\x7b' cs with
  | none => cs
  | some (before, after) =>
    match closed : splitAt? '\x7d' after with
    | none => cs
    | some (_, rest) =>
      have : rest.length < cs.length := length_behind_token_lt opened closed
      before ++ outside rest
termination_by cs.length

theorem outside_cons {cs before after token rest : List Char}
    (opened : splitAt? '\x7b' cs = some (before, after)) (closed : splitAt? '\x7d' after = some (token, rest)) :
    outside cs = before ++ outside rest := by
  rw [outside]
  split
  · next none => cases opened.symm.trans none
  · next _ after' some =>
    obtain ⟨rfl, rfl⟩ := Prod.mk.inj (Option.some.inj (opened.symm.trans some))
    split
    · next none => cases closed.symm.trans none
    · next _ _ some =>
      obtain ⟨rfl, rfl⟩ := Prod.mk.inj (Option.some.inj (closed.symm.trans some))
      rfl

theorem outside_of_tokenless {cs : List Char} (tokenless : Tokenless cs) : outside cs = cs := by
  rw [outside.eq_def]
  split
  · rfl
  · next opened =>
    split
    · rfl
    · next closed => cases (tokenless _ _ opened).symm.trans closed

/-- A text without braces is kept. -/
theorem outside_append {text : List Char} (without : '\x7b' ∉ text) (rest : List Char) :
    outside (text ++ rest) = text ++ outside rest := by
  by_cases tokenless : Tokenless rest
  · rw [outside_of_tokenless tokenless, outside_of_tokenless ((tokenless_append without).2 tokenless)]
  · obtain ⟨before, after, token, behind, opened, closed⟩ := exists_split_of_not_tokenless tokenless
    have shifted : splitAt? '\x7b' (text ++ rest) = some (text ++ before, after) := by
      rw [splitAt?_append without, opened, Option.map_some]
    rw [outside_cons opened closed, outside_cons shifted closed, List.append_assoc]

/-- A token is dropped. -/
theorem outside_braced {token : List Char} (without : '\x7d' ∉ token) (rest : List Char) :
    outside ('\x7b' :: (token ++ '\x7d' :: rest)) = outside rest :=
  outside_cons (splitAt?_eq_some_iff.2 ⟨List.not_mem_nil, rfl⟩) (splitAt?_eq_some_iff.2 ⟨without, rfl⟩)

end Template

namespace MessagePart

/-- The value among the pieces of a message that a piece is. -/
def value? : MessagePart → Option Expression
  | text _ => none
  | value e => some e

/-- The values of a message, from left to right. -/
def values (parts : List MessagePart) : List Expression := parts.filterMap value?

/-- What a piece of a message says by itself: its text without braces. -/
def spoken : MessagePart → List Char
  | text content => content.toList.filter (!Lower.isBrace ·)
  | value _ => []

@[simp] theorem length_values (parts : List MessagePart) : (values parts).length = parts.countP isValue := by
  induction parts with
  | nil => rfl
  | cons part parts ih =>
    cases part with
    | text content => exact ih
    | value e => exact (congrArg (· + 1) ih).trans (List.countP_cons_of_pos rfl).symm

/-- The scanner finds every slot once, in the order of the values. -/
theorem names_template (slot : Nat) (parts : List MessagePart) :
    Template.names (template slot parts) = (List.range' slot (values parts).length).map toString := by
  have scanned : (Template.tokens (template slot parts).toList).map String.ofList =
      (List.range' slot (values parts).length).map toString := by
    rw [tokens_template, List.map_map, length_values]
    exact List.map_congr_left fun k _ => String.ofList_toList
  have named : ∀ name ∈ (List.range' slot (values parts).length).map toString, decide (name ≠ "") = true := by
    intro name member
    obtain ⟨k, _, rfl⟩ := List.mem_map.1 member
    have digits := Validation.isNumeral_toString k
    simp only [Validation.isNumeral, Bool.and_eq_true] at digits
    exact digits.1
  have nodup : ((List.range' slot (values parts).length).map toString).Nodup :=
    List.Nodup.map (fun _ _ => toString_inj) List.nodup_range'
  rw [Template.names, scanned, List.filter_eq_self.2 named, Template.firsts_of_nodup nodup fun _ _ => List.not_mem_nil]

/-- Without its slots, a template is what its pieces say by themselves. -/
theorem outside_template (slot : Nat) (parts : List MessagePart) :
    Template.outside (template slot parts).toList = parts.flatMap spoken := by
  induction parts generalizing slot with
  | nil => exact Template.outside_of_tokenless fun _ _ found => by cases found
  | cons part parts ih =>
    cases part with
    | text content =>
      have without : '\x7b' ∉ content.toList.filter (!Lower.isBrace ·) := by simp [Lower.isBrace]
      rw [template, String.toList_append, String.toList_ofList, Template.outside_append without, ih]
      rfl
    | value e =>
      have spelled : (template slot (value e :: parts)).toList =
          '\x7b' :: ((toString slot).toList ++ '\x7d' :: (template (slot + 1) parts).toList) := by
        simp [template, String.toList_append]
      rw [spelled, Template.outside_braced (closing_notMem_toString slot), ih]
      rfl

end MessagePart

namespace Node

/-- A node with values on the slots from a number on; a value that is missing leaves its slot out. -/
def feedFrom (n : Node) : Nat → List (Option ValueOut) → Node
  | _, [] => n
  | slot, none :: values => n.feedFrom (slot + 1) values
  | slot, some v :: values => (n.changeInput (toString slot) (·.fedBy v.address)).feedFrom (slot + 1) values

variable (n : Node) (slot : Nat) (values : List (Option ValueOut))

/-- Only inputs are touched. -/
theorem feedFrom_eq : n.feedFrom slot values = { n with valuesIn := (n.feedFrom slot values).valuesIn } := by
  induction values generalizing n slot with
  | nil => rfl
  | cons value? values ih =>
    cases value? with
    | none => exact ih n (slot + 1)
    | some v => exact ih (n.changeInput (toString slot) (·.fedBy v.address)) (slot + 1)

theorem valueIn?_feedFrom_of_ne {socket : String} (other : ∀ j < values.length, socket ≠ toString (slot + j)) :
    (n.feedFrom slot values).valueIn? socket = n.valueIn? socket := by
  induction values generalizing n slot with
  | nil => rfl
  | cons value? values ih =>
    have later : ∀ j < values.length, socket ≠ toString (slot + 1 + j) := fun j inside => by
      rw [Nat.add_right_comm, Nat.add_assoc]
      exact other (j + 1) (Nat.succ_lt_succ inside)
    cases value? with
    | none => exact ih n (slot + 1) later
    | some v =>
      have first : socket ≠ toString slot := other 0 (Nat.succ_pos _)
      rw [feedFrom, ih _ (slot + 1) later, valueIn?_changeInput, if_neg first]

/-- A slot that was not there has its value for a source, if it has a value. -/
theorem valueIn?_feedFrom (blank : ∀ j < values.length, n.valueIn? (toString (slot + j)) = none) {j : Nat}
    {value? : Option ValueOut} (there : values[j]? = some value?) :
    (n.feedFrom slot values).valueIn? (toString (slot + j)) = value?.map fun v => { source := some v.address } := by
  induction values generalizing n slot j with
  | nil => cases there
  | cons value' values ih =>
    have shift (k : Nat) : slot + 1 + k = slot + (k + 1) := by omega
    -- The slots that follow are still missing once the first is fed.
    have rest (m : Node) (same : ∀ k, slot < k → m.valueIn? (toString k) = n.valueIn? (toString k)) :
        ∀ k < values.length, m.valueIn? (toString (slot + 1 + k)) = none := fun k inside => by
      rw [same _ (by omega), shift]
      exact blank (k + 1) (Nat.succ_lt_succ inside)
    have beyond : ∀ k < values.length, toString (slot + 0) ≠ toString (slot + 1 + k) := fun k _ same => by
      have := toString_inj same
      omega
    cases j with
    | zero =>
      obtain rfl : value' = value? := Option.some.inj there
      cases value' with
      | none =>
        rw [feedFrom, valueIn?_feedFrom_of_ne _ _ _ beyond]
        exact blank 0 (Nat.succ_pos _)
      | some v =>
        have missing : n.valueIn? (toString slot) = none := blank 0 (Nat.succ_pos _)
        rw [feedFrom, valueIn?_feedFrom_of_ne _ _ _ beyond, Nat.add_zero, valueIn?_changeInput, if_pos rfl, missing]
        rfl
    | succ j =>
      rw [← shift]
      cases value' with
      | none => exact ih n (slot + 1) (rest n fun _ _ => rfl) there
      | some v =>
        refine ih _ (slot + 1) (rest _ fun k above => ?_) there
        rw [valueIn?_changeInput, if_neg fun same => ?_]
        have := toString_inj same
        omega

end Node

/-- In range, nodes are numbered in the order of their creation, and one of them is known. -/
def Context.Shows (c : Context) (id : NodeId) (n : Node) : Prop :=
  c.graph.nodes.size ≤ 0x100000000 → c.graph.Identified ∧ c.graph.node? id = some n

namespace Context

variable {c : Context} {id : NodeId} {n : Node}

theorem Shows.modifyNode (shown : c.Shows id n) {f : Node → Node} (keeps : ∀ n, (f n).index = n.index) :
    (c.modifyNode id f).Shows id (f n) := by
  intro room
  rw [Context.modifyNode, Graph.size_modifyNode] at room
  obtain ⟨identified, found⟩ := shown room
  refine ⟨identified.modifyNode id keeps, ?_⟩
  rw [Context.modifyNode, identified.node?_modifyNode id keeps, if_pos rfl, found, Option.map_some]

theorem shows_place (identified : c.graph.Identified) (op : Op) :
    let id := NodeId.ofNat c.graph.nodes.size
    (c.place (.new id op)).Shows id (.new id op) := by
  intro id room
  rw [place, Graph.place, Array.size_push] at room
  refine ⟨identified.place rfl, ?_⟩
  rw [place, identified.node?_place rfl room, if_pos rfl]

end Context

namespace Lower

/-- Lowers the values of a message in order, each of which feeds the slot of its number. Returns what they were
lowered to. -/
def feedSlots (low : Expression → Lower (Option ValueOut)) (node : NodeId) :
    Nat → List Expression → Lower (List (Option ValueOut))
  | _, [] => return []
  | slot, e :: es => do
    let value? ← low e
    if let some value := value? then Build.connect (node.valueIn (toString slot)) value
    return value? :: (← feedSlots low node (slot + 1) es)

section Slots

variable {low : Expression → Lower (Option ValueOut)} {s : Lowering} {id : NodeId} {n : Node}

/-- The message does not depend on what its values are lowered to. -/
theorem lowerParts_eq {bound : Nat} (node : NodeId) (slot : Nat) (parts : List MessagePart)
    (small : ∀ e, .value e ∈ parts → e.size < bound) :
    lowerParts (fun e _ => low e) node slot parts small =
      (do let _ ← feedSlots low node slot (MessagePart.values parts); return MessagePart.template slot parts) := by
  induction parts generalizing slot with
  | nil => rfl
  | cons part parts ih =>
    cases part with
    | text content =>
      rw [lowerParts, ih]
      rfl
    | value e =>
      have next : MessagePart.values (.value e :: parts) = e :: MessagePart.values parts := rfl
      simp only [lowerParts, next, feedSlots, bind_assoc]
      refine bind_congr fun value? => ?_
      cases value? with
      | none => rw [ih]; rfl
      | some value => rw [ih]; rfl

theorem shows_of_appends {α : Type} {step : Lower α} (appends : Appends step) (shown : s.context.Shows id n) :
    Ensures step s fun _ s' => s'.context.Shows id n := by
  have opened : s.Extends [] s := ⟨.refl fun room => (shown room).1, rfl, rfl⟩
  intro room
  have window := (appends opened).context
  have appended := window.appended room
  obtain ⟨identified, found⟩ := shown (Nat.le_trans window.size room)
  rw [identified.node?] at found
  rw [appended.identified.node?, appended.kept _ (Array.getElem?_eq_some_iff.1 found).1]
  exact ⟨appended.identified, found⟩

/-- Every value feeds the slot of its number, and nothing else happens to the node. -/
theorem shows_feedSlots (appends : ∀ e, Appends (low e)) (slot : Nat) (es : List Expression)
    (shown : s.context.Shows id n) :
    Ensures (feedSlots low id slot es) s fun values s' =>
      values.length = es.length ∧ s'.context.Shows id (n.feedFrom slot values) := by
  induction es generalizing s n slot with
  | nil => exact .pure ⟨rfl, shown⟩
  | cons e es ih =>
    refine (shows_of_appends (appends e) shown).bind fun value? s' shown => ?_
    cases value? with
    | none =>
      refine (ih (slot + 1) shown).bind fun values s'' fed => .pure ?_
      exact ⟨congrArg (· + 1) fed.1, fed.2⟩
    | some v =>
      have connected : Ensures (Build.connect (id.valueIn (toString slot)) v) s'.context fun _ c =>
          c.Shows id (n.changeInput (toString slot) (·.fedBy v.address)) :=
        shown.modifyNode fun n => n.index_changeInput (toString slot) (·.fedBy v.address)
      refine Ensures.liftBind connected fun _ c shown => ?_
      refine (ih (slot + 1) shown).bind fun values s'' fed => .pure ?_
      exact ⟨congrArg (· + 1) fed.1, fed.2⟩

end Slots

end Lower

/-- A log node of a severity whose message is made of given pieces, where the values among them were lowered to
`values`: the message names the slots `0`, `1` and so on, one for each value, and says the texts without their
braces; a value that was lowered feeds the slot of its number, and the node has no other inputs. -/
structure Node.Logs (n : Node) (severity : Severity) (parts : List MessagePart) (values : List (Option ValueOut)) :
    Prop where
  op : n.op = .debugLog
  severity : n.config? "severity" = some (.int severity.level)
  message : ∃ message, n.config? "message" = some (.text message) ∧
    Template.names message = (List.range (MessagePart.values parts).length).map toString ∧
    Template.outside message.toList = parts.flatMap MessagePart.spoken
  each : values.length = (MessagePart.values parts).length
  fed : ∀ (j : Nat) (value? : Option ValueOut), values[j]? = some value? →
    n.valueIn? (toString j) = value?.map fun v => { source := some v.address }
  others : ∀ socket, (∀ j < values.length, socket ≠ toString j) → n.valueIn? socket = none

theorem Node.logs_feedFrom (id : NodeId) (severity : Severity) {parts : List MessagePart}
    {values : List (Option ValueOut)} (each : values.length = (MessagePart.values parts).length) :
    ((((new id .debugLog).feedFrom 0 values).configure "severity" (.int severity.level)).configure "message"
      (.text (MessagePart.template 0 parts))).Logs severity parts values := by
  have untouched := feedFrom_eq (new id .debugLog) 0 values
  refine
    { op := congrArg Node.op untouched
      severity := by rw [config?_configure, if_neg (by decide), config?_configure, if_pos rfl]
      message := ⟨_, by rw [config?_configure, if_pos rfl], ?_, MessagePart.outside_template 0 parts⟩
      each := each
      fed := fun j value? there => ?_
      others := fun socket other => ?_ }
  · rw [MessagePart.names_template, List.range_eq_range']
  · have blank : ∀ k < values.length, (new id .debugLog).valueIn? (toString (0 + k)) = none := fun _ _ => rfl
    exact (congrArg _ (congrArg toString (Nat.zero_add j).symm)).trans (valueIn?_feedFrom _ 0 values blank there)
  · refine valueIn?_feedFrom_of_ne (new id .debugLog) 0 values fun j inside => ?_
    rw [Nat.zero_add]
    exact other j inside

namespace Lower

/-- What the values of a log message are lowered to, behind the new node that they feed. -/
def slotValues (low : Expression → Lower (Option ValueOut)) (es : List Expression) (s : Lowering) :
    List (Option ValueOut) :=
  ((do let node ← Build.createNode .debugLog; feedSlots low node 0 es : Lower (List (Option ValueOut))) s).1

theorem lowerLog_eq (low : Expression → Lower (Option ValueOut)) (e : Expression) (severity : Severity)
    (s : Lowering) :
    lowerLog e (fun smaller _ => low smaller) severity s =
      let id := NodeId.ofNat s.context.graph.nodes.size
      let parts := Expression.messagePartsAll (arguments e)
      let fed := feedSlots low id 0 (MessagePart.values parts)
        { s with context := s.context.place (.new id .debugLog) }
      let labelled := fed.2.context.modifyNode id (·.configure "severity" (.int severity.level))
      ((id.flowIn "in", id.flowOut "out"),
        { fed.2 with
          context := labelled.modifyNode id (·.configure "message" (.text (MessagePart.template 0 parts))) }) := by
  simp only [lowerLog, lowerParts_eq]
  rfl

/-- Log templates and their slots agree, whatever texts and values a message is made of. -/
theorem lowerLog_logs (c : ScriptClass) (levels : Nat) (active : List String) (e : Expression) (severity : Severity)
    (s : Lowering) (identified : s.context.graph.Identified)
    (room : (lowerLog e (fun smaller _ => lowerExpression c (inliner c levels) active smaller) severity
      s).2.context.graph.nodes.size ≤ 0x100000000) :
    let id := NodeId.ofNat s.context.graph.nodes.size
    let parts := Expression.messagePartsAll (arguments e)
    let low := lowerExpression c (inliner c levels) active
    let lowered := lowerLog e (fun smaller _ => low smaller) severity s
    lowered.1 = (id.flowIn "in", id.flowOut "out") ∧
      ∃ n, lowered.2.context.graph.node? id = some n ∧
        n.Logs severity parts (slotValues low (MessagePart.values parts) s) := by
  intro id parts low lowered
  obtain ⟨each, fed⟩ := shows_feedSlots (s := { s with context := s.context.place (.new id .debugLog) })
    (appends_lowerExpression c (appends_inlined c levels) active) 0 (MessagePart.values parts)
    (Context.shows_place identified .debugLog)
  have labelled := fed.modifyNode fun n => n.index_configure "severity" (.int severity.level)
  have finished := labelled.modifyNode fun n => n.index_configure "message" (.text (MessagePart.template 0 parts))
  have ends : lowered = _ := lowerLog_eq low e severity s
  have small : lowered.2.context.graph.nodes.size ≤ 0x100000000 := room
  rw [ends] at small ⊢
  exact ⟨rfl, _, (finished small).2, Node.logs_feedFrom id severity each⟩

end Lower

namespace Reporting

/-- A class with a field `total`. -/
def cls : ScriptClass := { name := "Reporting", fields := [{ name := "total", fieldType := { name := "int" } }] }

/-- A text. -/
def text (content : String) : Expression := { kind := .literal, literal := some (.text content) }

/-- A number that is known by name. -/
def number (name : String) : Expression :=
  { kind := .identifier, name := some name, resultType := some { name := "int" } }

/-- A sum of type text. -/
def sum (a b : Expression) : Expression :=
  { kind := .binary, operator := some "+", resultType := some { name := "string" }, children := [a, b] }

/-- The call `Debug.LogWarning("set {0} of 1: " + (total + missing))`, where nothing is called `missing`. -/
def warning : Expression :=
  { kind := .methodInvocation
    method := some { name := "LogWarning", declaringType := { name := "Debug" } }
    children := [{ kind := .this }, sum (text "set \x7b0\x7d of 1: ") (sum (number "total") (number "missing"))] }

/-- The state in which the method `Start` of the class is lowered. -/
def opened : Lowering := Prod.snd <|
  (do Lower.declareFields cls; Build.createNode .eventOnStart : Lower NodeId) { frames := [{ method := "Start" }] }

/-- The warning as a step of a flow. -/
def lowered : Lower.Step × Lowering :=
  Lower.lowerLog warning (fun smaller _ => Lower.lowerExpression cls (Lower.inliner cls 8) [] smaller) .warning opened

/-- The braces of the text make no slot, and the name that is not found leaves slot `1` without an input. -/
theorem warning_logs : ∃ n, lowered.2.context.graph.node? (.ofNat 1) = some n ∧
    n.Logs .warning [.text "set \x7b0\x7d of 1: ", .value (number "total"), .value (number "missing")]
      [some ((NodeId.ofNat 2).valueOut "value"), none] := by
  have before : opened.context.graph.nodes = #[.new (.ofNat 0) .eventOnStart] := by cbv
  have identified : opened.context.graph.Identified := by
    intro i n found
    rw [before] at found
    cases i with
    | zero => exact Option.some.inj found ▸ rfl
    | succ i => simp at found
  have room : lowered.2.context.graph.nodes.size ≤ 0x100000000 := by decide +kernel
  have id : NodeId.ofNat opened.context.graph.nodes.size = .ofNat 1 := by rw [before]; rfl
  have values : Lower.slotValues (Lower.lowerExpression cls (Lower.inliner cls 8) [])
      [number "total", number "missing"] opened = [some ((NodeId.ofNat 2).valueOut "value"), none] := by
    decide +kernel
  obtain ⟨_, n, found, logs⟩ := Lower.lowerLog_logs cls 8 [] warning .warning opened identified room
  exact ⟨n, id ▸ found, values ▸ logs⟩

end Reporting

end ScriptGraph
