import ScriptGraph.Pattern.Flow

/-!
Lists of fixed capacity, kept in variables: one for each slot, a count, and a few for the work.

An element is read by a switch over the reads of all slots. It is written by one shared switch over
the writes of all slots, which follows an index and a value put into variables before. While a
class is compiled the initial values of the variables are themselves a list, which the items of
initializers go into.
-/

namespace ScriptGraph.Pattern

open Build

/-- Why an operation on the initial content of a list fails. -/
inductive ListError where
  | full (list : String) (capacity : Nat)
  | indexOutOfRange (list : String) (index count : Nat)
deriving DecidableEq

/-- The wording of an error. -/
def ListError.message : ListError → String
  | full list capacity =>
    "List '" ++ list ++ "' is full (capacity " ++ toString capacity ++ ")"
  | indexOutOfRange list index count =>
    "Index " ++ toString index ++ " is out of range for list '" ++ list ++ "' with " ++
      toString count ++ " items"

/-- A list of fixed capacity. The shared nodes are made when they are first needed. -/
structure BoundedList where
  name : String
  valueType : ValueType
  /-- The variables of the elements. -/
  slots : List Nat
  /-- The variable that holds the number of elements. -/
  count : Nat
  /-- The variable that holds the capacity. -/
  capacityId : Nat
  /-- The variable of the index to write. -/
  currentIndex : Nat
  /-- The variable of the value to write. -/
  valueToSet : Nat
  /-- The variable that walks over the elements. -/
  cursor : Nat
  writeSwitch : Option NodeId := none
  slotReads : List ValueOut := []
  countRead : Option ValueOut := none

/-- A step of construction that may make shared nodes of a list. -/
abbrev ListBuild := StateT BoundedList Build

/-- The terminals of a write with an index. -/
structure ListSet where
  index : ValueIn
  value : ValueIn
  flowIn : FlowIn
  flowOut : FlowOut

/-- The terminals of a write without an index. -/
structure ListAdd where
  value : ValueIn
  flowIn : FlowIn
  flowOut : FlowOut

/-- The terminals of a removal. -/
structure ListRemove where
  index : ValueIn
  flowIn : FlowIn
  flowOut : FlowOut

/-- The terminals of a check that runs `pass` if its condition holds and goes on in any case. -/
structure Guard where
  flowIn : FlowIn
  pass : FlowOut
  flowOut : FlowOut

/-- A check that runs `pass` if its condition holds and goes on in any case. -/
def guard (condition : ValueOut) : Build Guard := do
  let sequence ← createNode .flowSequence
  let branch ← createNode .flowBranch
  connect (branch.valueIn "condition") condition
  connectFlow (sequence.flowOut "0") (branch.flowIn "in")
  return { flowIn := sequence.flowIn "in", pass := branch.flowOut "true",
           flowOut := sequence.flowOut "1" }

namespace BoundedList

/-- Declares one variable for each of the numbers below `capacity`. -/
def declareSlots (name : String) (valueType : ValueType) : List Nat → Build (List Nat)
  | [] => return []
  | n :: rest => do
    let slot ← declareVariable (name ++ "_" ++ toString n) (some valueType.default) valueType
    return slot :: (← declareSlots name valueType rest)

/-- Declares the variables of a new, empty list. -/
def new (valueType : ValueType) (capacity : Nat) : Build BoundedList := do
  let name ← uniqueName "VARLIST"
  let slots ← declareSlots name valueType (List.range capacity)
  let intVariable (suffix : String) (initial : Int32) : Build Nat :=
    declareVariable (name ++ "_" ++ suffix) (some (.int initial)) .int
  let count ← intVariable "Count" 0
  let capacityId ← intVariable "Capacity" (.ofNat capacity)
  let currentIndex ← intVariable "CurrentIndex" 0
  let cursor ← intVariable "Cursor" 0
  let valueToSet ← declareVariable (name ++ "_ValueToSet") (some valueType.default) valueType
  return { name, valueType, slots, count, capacityId, currentIndex, valueToSet, cursor }

/-- The number of elements a list has room for. -/
def capacity (l : BoundedList) : Nat := l.slots.length

/-- The number of elements a list starts with. -/
def initialCount (l : BoundedList) (c : Context) : Nat :=
  match c.graph.vars[l.count]?.bind (·.initial) with
  | some literal => (literal.toInt?.map fun n => n.toInt.toNat).getD 0
  | none => 0

/-- Sets the initial values of variables. -/
def resetSlots (initial : Literal) : List Nat → Build Unit
  | [] => return ()
  | slot :: slots => do
    setInitial slot (some initial)
    resetSlots initial slots

/-- Makes the list start empty. -/
def clearInitial (l : BoundedList) : Build Unit := do
  resetSlots l.valueType.default l.slots
  setInitial l.count (some (.int 0))

/-- Makes the list start with one more element. -/
def addInitial (l : BoundedList) (value : Literal) : Build (Except ListError Unit) := do
  let count := l.initialCount (← get)
  match l.slots[count]? with
  | none => return .error (.full l.name l.capacity)
  | some slot =>
    setInitial slot (some value)
    setInitial l.count (some (.int (.ofNat (count + 1))))
    return .ok ()

/-- The slot of an element the list starts with. -/
def initialSlot (l : BoundedList) (c : Context) (index : Nat) : Except ListError Nat :=
  let count := l.initialCount c
  let outside := ListError.indexOutOfRange l.name index count
  if count ≤ index then .error outside
  else
    match l.slots[index]? with
    | some slot => .ok slot
    | none => .error outside

/-- Replaces an element the list starts with. -/
def setInitialAt (l : BoundedList) (index : Nat) (value : Literal) :
    Build (Except ListError Unit) := do
  match l.initialSlot (← get) index with
  | .error e => return .error e
  | .ok slot =>
    setInitial slot (some value)
    return .ok ()

/-- An element the list starts with. -/
def initialAt (l : BoundedList) (c : Context) (index : Nat) : Except ListError Literal :=
  match l.initialSlot c index with
  | .error e => .error e
  | .ok slot => .ok ((c.graph.vars[slot]?.bind (·.initial)).getD l.valueType.default)

/-- The numbers of the slots, as the cases of a switch. -/
def cases (l : BoundedList) : ConfigValue :=
  .intList ((List.range (Int32.ofNat l.slots.length).toInt.toNat).map Int32.ofNat)

/-- The number of elements when the graph runs. -/
def countValue : ListBuild ValueOut := do
  let l ← get
  match l.countRead with
  | some read => return read
  | none =>
    let read ← getVariable l.count
    set { l with countRead := some read }
    return read

/-- Reads variables. -/
def readAll : List Nat → Build (List ValueOut)
  | [] => return []
  | slot :: slots => do
    let read ← getVariable slot
    return read :: (← readAll slots)

/-- The reads of all slots. -/
def getSlotReads : ListBuild (List ValueOut) := do
  let l ← get
  if l.slotReads.isEmpty then
    let reads ← readAll l.slots
    set { l with slotReads := reads }
    return reads
  else return l.slotReads

/-- Feeds the numbered inputs of a node, from the given number on. -/
def connectNumbered (node : NodeId) : Nat → List ValueOut → Build Unit
  | _, [] => return ()
  | n, read :: reads => do
    connect (node.valueIn (toString n)) read
    connectNumbered node (n + 1) reads

/-- Reads an element; outside the capacity that is the default of the type. -/
def getItem (index : ValueOut) : ListBuild ValueOut := do
  let reads ← getSlotReads
  let l ← get
  let switch ← createNode .mathSwitch
  configure switch "cases" l.cases
  connect (switch.valueIn "selection") index
  setLiteral (switch.valueIn "default") l.valueType.default
  connectNumbered switch 0 reads
  return switch.valueOut "value"

/-- Whether an index is at least zero and below the count, or at most the count. -/
def inRange (inclusive : Bool) : ListBuild (ValueIn × ValueOut) := do
  let count ← countValue
  let lower ← createNode .mathGe
  setLiteral (lower.valueIn "b") (.int 0)
  let upper ← createNode (if inclusive then .mathLe else .mathLt)
  connect (upper.valueIn "b") count
  let both ← binary .mathAnd (lower.valueOut "value") (upper.valueOut "value")
  return (.link [lower.valueIn "a", upper.valueIn "a"], both)

/-- Reads an element; outside the count that is the default of the type. -/
def getItemChecked (index : ValueOut) : ListBuild ValueOut := do
  let value ← getItem index
  let (rangeIndex, within) ← inRange false
  connect rangeIndex index
  let choice ← createNode .mathSelect
  connect (choice.valueIn "condition") within
  connect (choice.valueIn "a") value
  setLiteral (choice.valueIn "b") (← get).valueType.default
  return choice.valueOut "value"

/-- Leads the numbered outputs of a switch to writes of the given slots. -/
def connectWrites (switch : NodeId) (pending : ValueOut) : Nat → List Nat → Build Unit
  | _, [] => return ()
  | n, slot :: slots => do
    let write ← setVariableFrom slot pending
    connectFlow (switch.flowOut (toString n)) write.flowIn
    connectWrites switch pending (n + 1) slots

/-- The shared switch that writes the pending value into the slot of the pending index. -/
def getWriteSwitch : ListBuild NodeId := do
  let l ← get
  match l.writeSwitch with
  | some switch => return switch
  | none =>
    let switch ← createNode .flowSwitch
    configure switch "cases" l.cases
    let index ← getVariable l.currentIndex
    connect (switch.valueIn "selection") index
    let pending ← getVariable l.valueToSet
    connectWrites switch pending 0 l.slots
    set { l with writeSwitch := some switch }
    return switch

/-- Writes an element, wherever the index points. -/
def setItem : ListBuild ListSet := do
  let switch ← getWriteSwitch
  let l ← get
  let sequence ← createNode .flowSequence
  let storeIndex ← setVariable l.currentIndex
  let storeValue ← setVariable l.valueToSet
  connectFlow (sequence.flowOut "0") storeIndex.flowIn
  connectFlow storeIndex.flowOut storeValue.flowIn
  connectFlow storeValue.flowOut (switch.flowIn "in")
  return { index := storeIndex.value, value := storeValue.value,
           flowIn := sequence.flowIn "in", flowOut := sequence.flowOut "1" }

/-- Writes an element if the index is below the count. -/
def setItemChecked : ListBuild ListSet := do
  let (rangeIndex, within) ← inRange false
  let check ← guard within
  let write ← setItem
  connectFlow check.pass write.flowIn
  return { index := .link [rangeIndex, write.index], value := write.value,
           flowIn := check.flowIn, flowOut := check.flowOut }

/-- Appends an element if there is room. -/
def addItem : ListBuild ListAdd := do
  let count ← countValue
  let l ← get
  let capacity ← getVariable l.capacityId
  let hasRoom ← binary .mathLt count capacity
  let check ← guard hasRoom
  let write ← setItem
  connect write.index count
  connectFlow check.pass write.flowIn
  let grown ← binaryLiteral .mathAdd count (.int 1)
  let grow ← setVariableFrom l.count grown
  connectFlow write.flowOut grow.flowIn
  return { value := write.value, flowIn := check.flowIn, flowOut := check.flowOut }

/-- Inserts an element if there is room and the index is at most the count. The cursor goes down
from the count to the index and takes every element one slot up. -/
def insertItem : ListBuild ListSet := do
  let (insertIndex, within) ← inRange true
  let count ← countValue
  let l ← get
  let capacity ← getVariable l.capacityId
  let hasRoom ← binary .mathLt count capacity
  let allowed ← binary .mathAnd within hasRoom
  let check ← guard allowed
  let start ← setVariableFrom l.cursor count
  connectFlow check.pass start.flowIn
  let shift ← steppedWhile
  connectFlow start.flowOut shift.flowIn
  let cursor ← getVariable l.cursor
  let above ← createNode .mathGt
  connect (above.valueIn "a") cursor
  connect shift.condition (above.valueOut "value")
  let belowCursor ← binaryLiteral .mathSub cursor (.int 1)
  let moved ← getItem belowCursor
  let shiftWrite ← setItem
  connect shiftWrite.index cursor
  connect shiftWrite.value moved
  connectFlow shift.body shiftWrite.flowIn
  let step ← setVariableFrom l.cursor belowCursor
  connectFlow shift.step step.flowIn
  let place ← setItem
  connectFlow shift.completed place.flowIn
  let grown ← binaryLiteral .mathAdd count (.int 1)
  let grow ← setVariableFrom l.count grown
  connectFlow place.flowOut grow.flowIn
  return { index := .link [insertIndex, above.valueIn "b", place.index], value := place.value,
           flowIn := check.flowIn, flowOut := check.flowOut }

/-- Removes an element if the index is below the count. A loop from the index on takes every later
element one slot down. -/
def removeItem : ListBuild ListRemove := do
  let (rangeIndex, within) ← inRange false
  let check ← guard within
  let count ← countValue
  let shift ← forLoop 0
  connectFlow check.pass shift.flowIn
  let last ← binaryLiteral .mathSub count (.int 1)
  connect shift.stop last
  let next ← binaryLiteral .mathAdd shift.index (.int 1)
  let moved ← getItem next
  let write ← setItem
  connect write.index shift.index
  connect write.value moved
  connectFlow shift.loopBody write.flowIn
  let shrink ← setVariableFrom (← get).count last
  connectFlow shift.completed shrink.flowIn
  return { index := .link [rangeIndex, shift.start], flowIn := check.flowIn,
           flowOut := check.flowOut }

/-- Sets the count to zero. The slots keep what they hold. -/
def clear : ListBuild (FlowIn × FlowOut) := do
  let reset ← setVariableStatic (← get).count (.int 0)
  return (reset.flowIn, reset.flowOut)

end BoundedList

end ScriptGraph.Pattern
