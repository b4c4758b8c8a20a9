import Mathlib.Data.List.Sort
import ScriptGraph.Context

/-!
How a graph runs.

A runtime asks a graph four things: what a node does, with which parameters, what stands on its inputs,
and where its flows lead. Values are computed when they are asked for; flows run to their end before the
next one starts. `Gives` says which value an output has, `Runs` in which state a flow comes to rest.
-/

namespace ScriptGraph

/-- What stands on a value input. -/
inductive Feed where
  | constant (value : Literal)
  | output (a : SocketAddress)
deriving DecidableEq

/-- The source of an input, or else its constant. -/
def ValueInput.feed? (input : ValueInput) : Option Feed :=
  match input.source with
  | some source => some (.output source)
  | none => input.literal.map .constant

/-- What a runtime asks of a graph. -/
@[ext]
structure Program where
  op? : NodeId → Option Op
  parameter? : NodeId → String → Option ConfigValue
  /-- What stands on a value input. -/
  feed? : SocketAddress → Option Feed
  /-- The flow input that a flow output leads to. -/
  next? : SocketAddress → Option SocketAddress
  /-- The constant behind a placeholder. -/
  constant? : SocketAddress → Option Literal

/-- A graph as a program, given the constants behind its placeholders. -/
def Graph.programWith (g : Graph) (constant? : SocketAddress → Option Literal) : Program where
  op? id := (g.node? id).map (·.op)
  parameter? id name := (g.node? id).bind (·.config? name)
  feed? a := ((g.node? a.node).bind (·.valueIn? a.socket)).bind (·.feed?)
  next? a := (g.node? a.node).bind (·.flowTarget? a.socket)
  constant?

/-- A finished graph as a program. -/
def Graph.program (g : Graph) : Program := g.programWith fun _ => none

/-- A graph under construction as a program. -/
def Context.program (c : Context) : Program := c.graph.programWith fun a => c.placeholderValue? ⟨a⟩

/-- The state of a running graph. -/
structure Store where
  /-- The values of the variables. -/
  vars : Int32 → Literal
  /-- The counters of the loop nodes. -/
  counters : NodeId → Int32
  /-- What an output has, given the values on the inputs of its node, where that is left open here. -/
  world : SocketAddress → List Literal → Option Literal

namespace Store

/-- Writes a variable. -/
def write (σ : Store) (id : Int32) (value : Literal) : Store :=
  { σ with vars := Function.update σ.vars id value }

/-- Sets the counter of a loop node. -/
def count (σ : Store) (node : NodeId) (i : Int32) : Store :=
  { σ with counters := Function.update σ.counters node i }

end Store

/-- The result of an operation on whole numbers and truth values; others are left to the runtime. -/
def Op.compute? : Op → List Literal → Option Literal
  | mathAdd, [.int a, .int b] => some (.int (a + b))
  | mathSub, [.int a, .int b] => some (.int (a - b))
  | mathMul, [.int a, .int b] => some (.int (a * b))
  | mathNeg, [.int a] => some (.int (-a))
  | mathLt, [.int a, .int b] => some (.bool (a < b))
  | mathLe, [.int a, .int b] => some (.bool (a ≤ b))
  | mathGt, [.int a, .int b] => some (.bool (a > b))
  | mathGe, [.int a, .int b] => some (.bool (a ≥ b))
  | mathEq, [.int a, .int b] => some (.bool (a = b))
  | mathEq, [.bool a, .bool b] => some (.bool (a = b))
  | mathAnd, [.bool a, .bool b] => some (.bool (a && b))
  | mathOr, [.bool a, .bool b] => some (.bool (a || b))
  | mathNot, [.bool a] => some (.bool (!a))
  | mathSelect, [.bool condition, a, b] => some (if condition then a else b)
  | _, _ => none

/-- Operations that do more with their inputs than to compute a value from all of them. -/
def Op.isSpecial (op : Op) : Bool := op = .variableGet || op = .flowFor || op = .mathSwitch

/-- The value of an output, given the values on the inputs of its node. -/
def Store.compute? (σ : Store) (a : SocketAddress) (op : Op) (values : List Literal) : Option Literal :=
  (op.compute? values).or (σ.world a values)

/-- The socket that a switch chooses. -/
def chosenSocket (cases : List Int32) (selection : Int32) : String :=
  if selection ∈ cases then toString selection.toInt else "default"

namespace Program

/-- A feed has a value in a state. -/
inductive Gives (p : Program) (σ : Store) : Feed → Literal → Prop
  | constant (value : Literal) : Gives p σ (.constant value) value
  | placeholder {a : SocketAddress} {value : Literal} (isPlaceholder : a.node.isPlaceholder = true)
      (known : p.constant? a = some value) : Gives p σ (.output a) value
  | «variable» {a : SocketAddress} {id : Int32} (real : a.node.isPlaceholder = false)
      (op : p.op? a.node = some .variableGet)
      (parameter : p.parameter? a.node "variable" = some (.int id)) :
      Gives p σ (.output a) (σ.vars id)
  | counter {a : SocketAddress} (real : a.node.isPlaceholder = false)
      (op : p.op? a.node = some .flowFor) : Gives p σ (.output a) (.int (σ.counters a.node))
  | switch {a : SocketAddress} {cases : List Int32} {selection chosen : Feed} {k : Int32}
      {value : Literal} (real : a.node.isPlaceholder = false) (op : p.op? a.node = some .mathSwitch)
      (parameter : p.parameter? a.node "cases" = some (.intList cases))
      (fed : p.feed? ⟨a.node, "selection"⟩ = some selection) (selects : Gives p σ selection (.int k))
      (chooses : p.feed? ⟨a.node, chosenSocket cases k⟩ = some chosen)
      (gives : Gives p σ chosen value) : Gives p σ (.output a) value
  | compute {a : SocketAddress} {kind : Op} {feeds : String → Feed} {values : String → Literal}
      {value : Literal} (real : a.node.isPlaceholder = false) (op : p.op? a.node = some kind)
      (plain : kind.isSpecial = false)
      (fed : ∀ name ∈ kind.schema.valuesIn, p.feed? ⟨a.node, name⟩ = some (feeds name))
      (gives : ∀ name ∈ kind.schema.valuesIn, Gives p σ (feeds name) (values name))
      (result : σ.compute? a kind (kind.schema.valuesIn.map values) = some value) :
      Gives p σ (.output a) value

/-- A value input has a value in a state. -/
def Takes (p : Program) (σ : Store) (a : SocketAddress) (value : Literal) : Prop :=
  ∃ feed, p.feed? a = some feed ∧ p.Gives σ feed value

/-- What is left to run. -/
inductive Task where
  /-- A flow that enters a node, or leads nowhere. -/
  | follow (a : Option SocketAddress)
  /-- The outputs of a sequence that have not run yet. -/
  | ports (node : NodeId) (numbers : List Nat)
  /-- A counting loop before the pass with the given number. -/
  | counting (node : NodeId) (i : Int32)

/-- From a state, the task comes to rest in another. -/
inductive Runs (p : Program) : Task → Store → Store → Prop
  | rest {σ : Store} : Runs p (.follow none) σ σ
  | set {a : SocketAddress} {id : Int32} {value : Literal} {σ τ : Store}
      (op : p.op? a.node = some .variableSet)
      (parameter : p.parameter? a.node "variable" = some (.int id))
      (takes : p.Takes σ ⟨a.node, "value"⟩ value)
      (after : Runs p (.follow (p.next? ⟨a.node, "out"⟩)) (σ.write id value) τ) :
      Runs p (.follow (some a)) σ τ
  | branch {a : SocketAddress} {condition : Bool} {σ τ : Store}
      (op : p.op? a.node = some .flowBranch)
      (takes : p.Takes σ ⟨a.node, "condition"⟩ (.bool condition))
      (after : Runs p (.follow (p.next? ⟨a.node, if condition then "true" else "false"⟩)) σ τ) :
      Runs p (.follow (some a)) σ τ
  | sequence {a : SocketAddress} {numbers : List Nat} {σ τ : Store}
      (op : p.op? a.node = some .flowSequence) (ascending : numbers.Pairwise (· < ·))
      (all : ∀ k, k ∈ numbers ↔ p.next? ⟨a.node, toString k⟩ ≠ none)
      (after : Runs p (.ports a.node numbers) σ τ) : Runs p (.follow (some a)) σ τ
  | done {node : NodeId} {σ : Store} : Runs p (.ports node []) σ σ
  | port {node : NodeId} {k : Nat} {numbers : List Nat} {σ μ τ : Store}
      (first : Runs p (.follow (p.next? ⟨node, toString k⟩)) σ μ)
      (others : Runs p (.ports node numbers) μ τ) : Runs p (.ports node (k :: numbers)) σ τ
  | switch {a : SocketAddress} {cases : List Int32} {k : Int32} {σ τ : Store}
      (op : p.op? a.node = some .flowSwitch)
      (parameter : p.parameter? a.node "cases" = some (.intList cases))
      (takes : p.Takes σ ⟨a.node, "selection"⟩ (.int k))
      (after : Runs p (.follow (p.next? ⟨a.node, chosenSocket cases k⟩)) σ τ) :
      Runs p (.follow (some a)) σ τ
  | loop {a : SocketAddress} {i : Int32} {σ τ : Store} (op : p.op? a.node = some .flowFor)
      (takes : p.Takes σ ⟨a.node, "startIndex"⟩ (.int i))
      (after : Runs p (.counting a.node i) σ τ) : Runs p (.follow (some a)) σ τ
  | pass {node : NodeId} {i stop : Int32} {σ μ τ : Store}
      (takes : p.Takes σ ⟨node, "endIndex"⟩ (.int stop)) (below : i < stop)
      (body : Runs p (.follow (p.next? ⟨node, "loopBody"⟩)) (σ.count node i) μ)
      (others : Runs p (.counting node (i + 1)) μ τ) : Runs p (.counting node i) σ τ
  | completed {node : NodeId} {i stop : Int32} {σ τ : Store}
      (takes : p.Takes σ ⟨node, "endIndex"⟩ (.int stop)) (reached : ¬ i < stop)
      (after : Runs p (.follow (p.next? ⟨node, "completed"⟩)) (σ.count node i) τ) :
      Runs p (.counting node i) σ τ
  | again {a : SocketAddress} {σ μ τ : Store} (op : p.op? a.node = some .flowWhile)
      (takes : p.Takes σ ⟨a.node, "condition"⟩ (.bool true))
      (body : Runs p (.follow (p.next? ⟨a.node, "loopBody"⟩)) σ μ)
      (others : Runs p (.follow (some a)) μ τ) : Runs p (.follow (some a)) σ τ
  | ended {a : SocketAddress} {σ τ : Store} (op : p.op? a.node = some .flowWhile)
      (takes : p.Takes σ ⟨a.node, "condition"⟩ (.bool false))
      (after : Runs p (.follow (p.next? ⟨a.node, "completed"⟩)) σ τ) : Runs p (.follow (some a)) σ τ

/-- Entering `entry` in the state `σ` is leaving by `exit` in the state `σ'`, whatever comes then. -/
def Passes (p : Program) (entry : FlowIn) (exit : FlowOut) (σ σ' : Store) : Prop :=
  ∀ τ, p.Runs (.follow (some entry.address)) σ τ ↔ p.Runs (.follow (p.next? exit.address)) σ' τ

section Growth

variable {p q r : Program} {σ : Store}

/-- Everything that a runtime finds in `p` it finds in `q`. -/
structure Extends (p q : Program) : Prop where
  op : ∀ id kind, p.op? id = some kind → q.op? id = some kind
  parameter : ∀ id name value, p.parameter? id name = some value → q.parameter? id name = some value
  feed : ∀ a f, p.feed? a = some f → q.feed? a = some f
  next : ∀ a b, p.next? a = some b → q.next? a = some b
  constant : ∀ a value, p.constant? a = some value → q.constant? a = some value

theorem Extends.refl (p : Program) : p.Extends p :=
  ⟨fun _ _ h => h, fun _ _ _ h => h, fun _ _ h => h, fun _ _ h => h, fun _ _ h => h⟩

theorem Extends.trans (first : p.Extends q) (second : q.Extends r) : p.Extends r where
  op id kind found := second.op id kind (first.op id kind found)
  parameter id name value found := second.parameter id name value (first.parameter id name value found)
  feed a f found := second.feed a f (first.feed a f found)
  next a b found := second.next a b (first.next a b found)
  constant a value found := second.constant a value (first.constant a value found)

/-- A value that is found is found in a larger program as well. -/
theorem Gives.extends {feed : Feed} {value : Literal} (gives : p.Gives σ feed value)
    (larger : p.Extends q) : q.Gives σ feed value := by
  induction gives with
  | constant value => exact .constant value
  | placeholder isPlaceholder known => exact .placeholder isPlaceholder (larger.constant _ _ known)
  | «variable» real op parameter =>
    exact .variable real (larger.op _ _ op) (larger.parameter _ _ _ parameter)
  | counter real op => exact .counter real (larger.op _ _ op)
  | switch real op parameter fed _ chooses _ selects gives =>
    exact .switch real (larger.op _ _ op) (larger.parameter _ _ _ parameter) (larger.feed _ _ fed) selects
      (larger.feed _ _ chooses) gives
  | compute real op plain fed _ result gives =>
    exact .compute real (larger.op _ _ op) plain (fun name member => larger.feed _ _ (fed name member)) gives
      result

/-- Values do not depend on where flows lead. -/
theorem gives_next {feed : Feed} {value : Literal} {next? : SocketAddress → Option SocketAddress} :
    Gives { p with next? } σ feed value ↔ p.Gives σ feed value := by
  constructor
  all_goals
    intro gives
    induction gives with
    | constant value => exact .constant value
    | placeholder isPlaceholder known => exact .placeholder isPlaceholder known
    | «variable» real op parameter => exact .variable real op parameter
    | counter real op => exact .counter real op
    | switch real op parameter fed _ chooses _ selects gives =>
      exact .switch real op parameter fed selects chooses gives
    | compute real op plain fed _ result gives => exact .compute real op plain fed gives result

/-- A node gives what comes from what its inputs take. -/
theorem Gives.plain {a : SocketAddress} {kind : Op} {value : Literal} {values : String → Literal}
    (real : a.node.isPlaceholder = false) (op : p.op? a.node = some kind) (plain : kind.isSpecial = false)
    (takes : ∀ name ∈ kind.schema.valuesIn, p.Takes σ ⟨a.node, name⟩ (values name))
    (result : σ.compute? a kind (kind.schema.valuesIn.map values) = some value) : p.Gives σ (.output a) value := by
  have feeds (name : String) : ∃ feed, name ∈ kind.schema.valuesIn →
      p.feed? ⟨a.node, name⟩ = some feed ∧ p.Gives σ feed (values name) := by
    by_cases member : name ∈ kind.schema.valuesIn
    · obtain ⟨feed, fed, gives⟩ := takes name member
      exact ⟨feed, fun _ => ⟨fed, gives⟩⟩
    · exact ⟨.constant value, fun there => absurd there member⟩
  choose feed here using feeds
  exact .compute real op plain (fun name member => (here name member).1) (fun name member => (here name member).2) result

/-- An operation gives what it computes from what its inputs take. -/
theorem Gives.of_takes {a : SocketAddress} {kind : Op} {value : Literal} (values : String → Literal)
    (real : a.node.isPlaceholder = false) (op : p.op? a.node = some kind)
    (takes : ∀ name ∈ kind.schema.valuesIn, p.Takes σ ⟨a.node, name⟩ (values name))
    (result : kind.compute? (kind.schema.valuesIn.map values) = some value) : p.Gives σ (.output a) value := by
  have plain : kind.isSpecial = false := by
    cases kind <;> first | rfl | simp [Op.compute?] at result
  exact .plain real op plain takes (by rw [Store.compute?, result, Option.some_or])

theorem Gives.unary {a : SocketAddress} {kind : Op} {x value : Literal}
    (real : a.node.isPlaceholder = false) (op : p.op? a.node = some kind)
    (inputs : kind.schema.valuesIn = ["a"]) (first : p.Takes σ ⟨a.node, "a"⟩ x)
    (result : kind.compute? [x] = some value) : p.Gives σ (.output a) value := by
  refine .of_takes (fun _ => x) real op ?_ (by rw [inputs]; exact result)
  rw [inputs]
  simpa using first

theorem Gives.binary {a : SocketAddress} {kind : Op} {x y value : Literal}
    (real : a.node.isPlaceholder = false) (op : p.op? a.node = some kind)
    (inputs : kind.schema.valuesIn = ["a", "b"]) (first : p.Takes σ ⟨a.node, "a"⟩ x)
    (second : p.Takes σ ⟨a.node, "b"⟩ y) (result : kind.compute? [x, y] = some value) :
    p.Gives σ (.output a) value := by
  refine .of_takes (fun name => if name = "a" then x else y) real op ?_ (by rw [inputs]; exact result)
  rw [inputs]
  simpa using ⟨first, second⟩

/-- A choice between two values. -/
theorem Gives.select {a : SocketAddress} {condition : Bool} {x y : Literal}
    (real : a.node.isPlaceholder = false) (op : p.op? a.node = some .mathSelect)
    (decides : p.Takes σ ⟨a.node, "condition"⟩ (.bool condition)) (first : p.Takes σ ⟨a.node, "a"⟩ x)
    (second : p.Takes σ ⟨a.node, "b"⟩ y) : p.Gives σ (.output a) (if condition then x else y) := by
  refine .of_takes (fun name =>
    if name = "condition" then .bool condition else if name = "a" then x else y) real op ?_ rfl
  have inputs : Op.mathSelect.schema.valuesIn = ["condition", "a", "b"] := rfl
  rw [inputs]
  simpa using ⟨decides, first, second⟩

end Growth

section Determinism

variable {p : Program} {σ : Store}

theorem Gives.unique {feed : Feed} {l l' : Literal} (first : p.Gives σ feed l)
    (second : p.Gives σ feed l') : l = l' := by
  induction first generalizing l' with
  | constant => cases second; rfl
  | placeholder isPlaceholder known =>
    cases second with
    | placeholder _ known' => exact Option.some.inj (known.symm.trans known')
    | _ => simp_all
  | «variable» real op parameter =>
    cases second with
    | «variable» _ _ parameter' => simp_all
    | compute _ op' plain =>
      obtain rfl := Option.some.inj (op.symm.trans op')
      cases plain
    | _ => simp_all
  | counter real op =>
    cases second with
    | compute _ op' plain =>
      obtain rfl := Option.some.inj (op.symm.trans op')
      cases plain
    | _ => simp_all
  | switch real op parameter fed selects chooses gives ihSelection ihChosen =>
    cases second with
    | switch _ _ parameter' fed' selects' chooses' gives' =>
      obtain rfl := Option.some.inj (fed.symm.trans fed')
      obtain rfl := Literal.int.inj (ihSelection selects')
      obtain rfl := ConfigValue.intList.inj (Option.some.inj (parameter.symm.trans parameter'))
      obtain rfl := Option.some.inj (chooses.symm.trans chooses')
      exact ihChosen gives'
    | compute _ op' plain =>
      obtain rfl := Option.some.inj (op.symm.trans op')
      cases plain
    | _ => simp_all
  | @compute _ kind _ values _ real op plain fed gives result ih =>
    cases second with
    | @compute _ _ _ values' _ _ op' _ fed' gives' result' =>
      obtain rfl := Option.some.inj (op.symm.trans op')
      have same (name : String) (member : name ∈ kind.schema.valuesIn) : values name = values' name := by
        have feeds := Option.some.inj ((fed name member).symm.trans (fed' name member))
        exact ih name member (feeds ▸ gives' name member)
      rw [List.map_congr_left same] at result
      exact Option.some.inj (result.symm.trans result')
    | placeholder isPlaceholder => simp_all
    | «variable» _ op' | counter _ op' | switch _ op' =>
      obtain rfl := Option.some.inj (op.symm.trans op')
      cases plain

theorem Takes.unique {a : SocketAddress} {l l' : Literal} (first : p.Takes σ a l)
    (second : p.Takes σ a l') : l = l' := by
  obtain ⟨feed, fed, gives⟩ := first
  obtain ⟨feed', fed', gives'⟩ := second
  obtain rfl := Option.some.inj (fed.symm.trans fed')
  exact gives.unique gives'

/-- Two ascending lists with the same members are one list. -/
theorem ports_unique {numbers numbers' : List Nat} {wired : Nat → Prop}
    (ascending : numbers.Pairwise (· < ·)) (ascending' : numbers'.Pairwise (· < ·))
    (all : ∀ k, k ∈ numbers ↔ wired k) (all' : ∀ k, k ∈ numbers' ↔ wired k) : numbers = numbers' := by
  have same : numbers.Perm numbers' :=
    (List.perm_ext_iff_of_nodup ascending.nodup ascending'.nodup).2 fun k => (all k).trans (all' k).symm
  exact same.eq_of_pairwise (fun a b _ _ below above => absurd below (Nat.lt_asymm above)) ascending ascending'

theorem Runs.unique {task : Task} {σ τ τ' : Store} (first : p.Runs task σ τ)
    (second : p.Runs task σ τ') : τ = τ' := by
  induction first generalizing τ' with
  | rest => cases second; rfl
  | set op parameter takes after ih =>
    cases second with
    | set _ parameter' takes' after' =>
      obtain rfl := takes.unique takes'
      obtain rfl := ConfigValue.int.inj (Option.some.inj (parameter.symm.trans parameter'))
      exact ih after'
    | _ => simp_all
  | branch op takes after ih =>
    cases second with
    | branch _ takes' after' =>
      obtain rfl := Literal.bool.inj (takes.unique takes')
      exact ih after'
    | _ => simp_all
  | sequence op ascending all after ih =>
    cases second with
    | sequence _ ascending' all' after' =>
      obtain rfl := ports_unique ascending ascending' all all'
      exact ih after'
    | _ => simp_all
  | done => cases second; rfl
  | port first others ihFirst ihOthers =>
    cases second with
    | port first' others' =>
      obtain rfl := ihFirst first'
      exact ihOthers others'
  | switch op parameter takes after ih =>
    cases second with
    | switch _ parameter' takes' after' =>
      obtain rfl := Literal.int.inj (takes.unique takes')
      obtain rfl := ConfigValue.intList.inj (Option.some.inj (parameter.symm.trans parameter'))
      exact ih after'
    | _ => simp_all
  | loop op takes after ih =>
    cases second with
    | loop _ takes' after' =>
      obtain rfl := Literal.int.inj (takes.unique takes')
      exact ih after'
    | _ => simp_all
  | pass takes below body others ihBody ihOthers =>
    cases second with
    | pass _ _ body' others' =>
      obtain rfl := ihBody body'
      exact ihOthers others'
    | completed takes' reached _ =>
      obtain rfl := Literal.int.inj (takes.unique takes')
      exact absurd below reached
  | completed takes reached after ih =>
    cases second with
    | pass takes' below _ _ =>
      obtain rfl := Literal.int.inj (takes.unique takes')
      exact absurd below reached
    | completed _ _ after' => exact ih after'
  | again op takes body others ihBody ihOthers =>
    cases second with
    | again _ _ body' others' =>
      obtain rfl := ihBody body'
      exact ihOthers others'
    | ended _ takes' _ => cases takes.unique takes'
    | _ => simp_all
  | ended op takes after ih =>
    cases second with
    | again _ takes' _ _ => cases takes.unique takes'
    | ended _ _ after' => exact ih after'
    | _ => simp_all

end Determinism

end Program

end ScriptGraph
