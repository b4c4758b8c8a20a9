import ScriptGraph.Graph.Basic
import ScriptGraph.Graph.Template

/-!
Structural checks of a finished graph. The checks are independent: each problem becomes one
finding, in the order of the nodes and, within a node, in the order of the checks.
-/

namespace ScriptGraph

/-- The kinds of findings. -/
inductive FindingKind where
  | missingConfiguration
  | undeclaredSocket
  | danglingInput
  | conflictingInput
  | brokenConnection
  | placeholderConnection
  | unresolvedType
  | typeMismatch
  | brokenFlow
  | flowFanOut
  | missingTemplateInput
  | invalidNodeIndex
  | unknownVariable
  | unknownEvent
  | missingCase
deriving DecidableEq, Inhabited

namespace FindingKind

/-- Every kind with its name in documents and its name in reports, in the order of declaration. -/
def names : List (FindingKind × String × String) :=
  [(missingConfiguration, "MissingConfiguration", "missing configuration"),
   (undeclaredSocket, "UndeclaredSocket", "undeclared socket"),
   (danglingInput, "DanglingInput", "dangling input"),
   (conflictingInput, "ConflictingInput", "conflicting input"),
   (brokenConnection, "BrokenConnection", "broken connection"),
   (placeholderConnection, "PlaceholderConnection", "placeholder connection"),
   (unresolvedType, "UnresolvedType", "unresolved type"),
   (typeMismatch, "TypeMismatch", "type mismatch"),
   (brokenFlow, "BrokenFlow", "broken flow"),
   (flowFanOut, "FlowFanOut", "flow fan-out"),
   (missingTemplateInput, "MissingTemplateInput", "missing template input"),
   (invalidNodeIndex, "InvalidNodeIndex", "invalid node index"),
   (unknownVariable, "UnknownVariable", "unknown variable"),
   (unknownEvent, "UnknownEvent", "unknown event"),
   (missingCase, "MissingCasePort", "missing case port")]

/-- Every kind, in the order of declaration. -/
def all : List FindingKind := names.map (·.1)

/-- The name of a kind in documents. -/
def identifier (kind : FindingKind) : String :=
  ((names.find? (·.1 = kind)).map (·.2.1)).getD ""

/-- The name of a kind in reports. -/
def title (kind : FindingKind) : String :=
  ((names.find? (·.1 = kind)).map (·.2.2)).getD ""

/-- The kind with a given name in documents. -/
def ofIdentifier? (identifier : String) : Option FindingKind :=
  (names.find? (·.2.1 == identifier)).map (·.1)

end FindingKind

/-- One structural problem and where it is. -/
structure Finding where
  node : NodeId
  op : Op
  socket : Option String
  kind : FindingKind
  message : String
deriving DecidableEq

/-- A finding on one line. -/
def Finding.render (f : Finding) : String :=
  "[" ++ f.kind.title ++ "] node " ++ f.node.render ++ " (" ++ f.op.name ++ ")" ++
    (match f.socket with
      | some socket => " ." ++ socket
      | none => "") ++ ": " ++ f.message

/-- The findings of one validation. -/
structure Report where
  findings : List Finding := []
deriving DecidableEq

namespace Report

instance : Inhabited Report := ⟨{}⟩

/-- Whether nothing was found. -/
def isClean (r : Report) : Bool := r.findings.isEmpty

/-- The number of findings of a kind. -/
def count (r : Report) (kind : FindingKind) : Nat := r.findings.countP (·.kind = kind)

/-- The findings at a node. -/
def forNode (r : Report) (node : NodeId) : List Finding := r.findings.filter (·.node = node)

/-- The report as text, every line ended. -/
def render (r : Report) : String :=
  if r.isClean then "Graph is valid.\n"
  else
    toString r.findings.length ++ " finding(s):\n" ++
      String.join (r.findings.map fun f => "  " ++ f.render ++ "\n")

end Report

/-- What is known of the type at a value output. -/
inductive TypeLookup where
  | known (type : ValueType)
  /-- No declaration decides it. -/
  | undetermined
  /-- It hangs on an input that is reported for itself. -/
  | blocked
deriving DecidableEq

namespace Graph

/-- Why a connection does not reach a value output, if it does not. -/
def connectionProblem? (g : Graph) (source : SocketAddress) : Option String :=
  if source.node.isPlaceholder then
    some ("connected to literal placeholder " ++ source.node.render)
  else
    match g.node? source.node with
    | none => some ("connected to missing node " ++ source.node.render)
    | some feeder =>
      if feeder.valuesOut.contains source.socket then none
      else some ("connected to missing output " ++ source.render)

/-- The address of every value output. -/
def outputs (g : Graph) : List SocketAddress :=
  g.nodes.toList.flatMap fun n => n.valuesOut.keys.map fun socket => ⟨n.index, socket⟩

/-- The type at a value output, found by following inputs that share their type with an output.
An address that comes up again decides nothing; the first argument bounds the chain. -/
def outputTypeWithin (g : Graph) : Nat → List SocketAddress → SocketAddress → TypeLookup
  | 0, _, _ => .undetermined
  | fuel + 1, visited, source =>
    if visited.contains source then .undetermined
    else
      match g.node? source.node with
      | none => .blocked
      | some feeder =>
        match (feeder.valuesOut.find? source.socket).bind (·.expected) with
        | some (.exact type) => .known type
        | none => .undetermined
        | some (.fromInput name) =>
          match feeder.valueIn? name with
          | none => .blocked
          | some input =>
            match input.literal, input.source with
            | some literal, none => .known literal.valueType
            | none, some next =>
              if (g.connectionProblem? next).isSome then .blocked
              else g.outputTypeWithin fuel (source :: visited) next
            | _, _ => .blocked

/-- The type at a value output. A chain that visits more addresses than there are outputs visits
one twice. -/
def outputType (g : Graph) (source : SocketAddress) : TypeLookup :=
  g.outputTypeWithin (g.outputs.length + 2) [] source

/-- The type at a value input of a node. -/
def inputType (g : Graph) (n : Node) (name : String) : TypeLookup :=
  match n.valueIn? name with
  | none => .blocked
  | some input =>
    match input.literal, input.source with
    | some literal, none => .known literal.valueType
    | none, some source =>
      if (g.connectionProblem? source).isSome then .blocked else g.outputType source
    | _, _ => .blocked

end Graph

namespace Validation

/-- A finding at a node. -/
def finding (n : Node) (socket : String) (kind : FindingKind) (message : String) : Finding :=
  { node := n.index, op := n.op, socket := some socket, kind, message }

/-- A socket name that is a numeral. -/
def isNumeral (name : String) : Bool :=
  name ≠ "" && name.toList.all Char.isDigit

/-- The entry of a table that a parameter points at. -/
def tableRow? {α : Type} (table : Array α) (id : Int32) : Option α :=
  if id.toInt < 0 then none else table[id.toInt.toNat]?

/-- Parameters without a value. -/
def configuration (n : Node) : List Finding :=
  n.configuration.entries.filterMap fun (name, value) =>
    if value.isNone then some (finding n name .missingConfiguration "configuration has no value")
    else none

/-- The names of the values of the event a node sends or receives. -/
def eventValueNames (g : Graph) (n : Node) : List String :=
  if n.op = .eventReceive || n.op = .eventSend then
    match ((n.config? "event").bind ConfigValue.toInt?).bind (tableRow? g.events) with
    | some event => event.values.map (·.name)
    | none => []
  else []

/-- The tokens of a text parameter. -/
def tokensOf (n : Node) (parameter : String) : List String :=
  match (n.config? parameter).bind ConfigValue.toText? with
  | some template => Template.names template
  | none => []

/-- Whether the operation of a node takes a value input. -/
def takesValueInput (g : Graph) (n : Node) (name : String) : Bool :=
  n.op.schema.valuesIn.contains name ||
    match n.op.schema.dynamic with
    | .numberedValueInputs => isNumeral name
    | .templateValueInputs => (tokensOf n "pointer").contains name
    | .messageValueInputs => (tokensOf n "message").contains name
    | .eventValueInputs => (eventValueNames g n).contains name
    | _ => false

/-- Whether the operation of a node has a value output. -/
def hasValueOutput (g : Graph) (n : Node) (name : String) : Bool :=
  n.op.schema.valuesOut.any (·.1 == name) ||
    (n.op.schema.dynamic = .eventValueOutputs && (eventValueNames g n).contains name)

/-- Whether the operation of a node takes a flow input. -/
def takesFlowInput (n : Node) (name : String) : Bool :=
  n.op.schema.flowsIn.contains name ||
    (n.op.schema.dynamic = .numberedFlowInputs && isNumeral name)

/-- Whether the operation of a node has a flow output. -/
def hasFlowOutput (n : Node) (name : String) : Bool :=
  n.op.schema.flowsOut.contains name ||
    (n.op.schema.dynamic = .numberedFlowOutputs && isNumeral name)

/-- Findings for the names that are not declared. -/
def undeclared (n : Node) (names : List String) (declared : String → Bool) (message : String) :
    List Finding :=
  names.filterMap fun name =>
    if declared name then none else some (finding n name .undeclaredSocket message)

/-- Sockets that the operation does not declare. -/
def sockets (g : Graph) (n : Node) : List Finding :=
  undeclared n n.valuesIn.keys (takesValueInput g n) "value input not declared by the operation" ++
  undeclared n n.valuesOut.keys (hasValueOutput g n) "value output not declared by the operation" ++
  undeclared n n.flowsIn.keys (takesFlowInput n) "flow input not declared by the operation" ++
  undeclared n n.flowsOut.keys (hasFlowOutput n) "flow output not declared by the operation"

/-- The types a restriction allows, as far as they are known. -/
def allowedTypes? (g : Graph) (n : Node) : TypeRestriction → Option (List ValueType)
  | .only type => some [type]
  | .oneOf types => some types
  | .sameAsInput other =>
    match g.inputType n other with
    | .known type => some [type]
    | _ => none

/-- The mismatch between the type at an input and its restriction. -/
def mismatch (g : Graph) (n : Node) (name : String) (input : ValueInput) (actual : ValueType) :
    List Finding :=
  match input.restriction.bind (allowedTypes? g n) with
  | none => []
  | some allowed =>
    if allowed.contains actual then []
    else [finding n name .typeMismatch
      ("got " ++ actual.name ++ ", expected " ++
        String.intercalate " or " (allowed.map ValueType.name))]

/-- The problem of one value input; there is at most one. -/
def valueInput (g : Graph) (n : Node) (name : String) (input : ValueInput) : List Finding :=
  match input.literal, input.source with
  | none, none =>
    [finding n name .danglingInput "input has neither a literal nor a connection"]
  | some _, some _ =>
    [finding n name .conflictingInput "input has both a literal and a connection"]
  | some literal, none => mismatch g n name input literal.valueType
  | none, some source =>
    match g.connectionProblem? source with
    | some problem =>
      let kind : FindingKind :=
        if source.node.isPlaceholder then .placeholderConnection else .brokenConnection
      [finding n name kind problem]
    | none =>
      match g.outputType source with
      | .undetermined =>
        [finding n name .unresolvedType
          ("type of source " ++ source.render ++ " cannot be resolved")]
      | .blocked => []
      | .known actual => mismatch g n name input actual

/-- The problems of the value inputs. -/
def valueInputs (g : Graph) (n : Node) : List Finding :=
  n.valuesIn.entries.flatMap fun (name, input) => valueInput g n name input

/-- Why a flow target cannot be entered, if it cannot. -/
def targetProblem? (g : Graph) (target : SocketAddress) : Option String :=
  match g.node? target.node with
  | none => some ("points at missing node " ++ target.node.render)
  | some next =>
    if next.flowsIn.contains target.socket then none
    else some ("points at undeclared flow input " ++ target.render)

/-- The problems of the flow outputs. -/
def flowOutputs (g : Graph) (n : Node) : List Finding :=
  n.flowsOut.entries.flatMap fun (name, output) =>
    let fanOut :=
      if 1 < output.targets.length then
        [finding n name .flowFanOut
          (toString output.targets.length ++ " destinations: " ++
            String.intercalate ", " (output.targets.map SocketAddress.render))]
      else []
    fanOut ++ output.targets.filterMap fun target =>
      (targetProblem? g target).map (finding n name .brokenFlow)

/-- A token as it stands in its template. -/
def braced (name : String) : String := "'\x7b" ++ name ++ "\x7d'"

/-- The tokens of a pointer path without a socket, and a node index that is none. -/
def pointer (n : Node) : List Finding :=
  (tokensOf n "pointer").flatMap fun name =>
    match n.valueIn? name with
    | none =>
      [finding n name .missingTemplateInput ("pointer token " ++ braced name ++ " has no socket")]
    | some input =>
      if name ≠ "nodeIndex" then []
      else
        match input.literal with
        | none => []
        | some literal =>
          if (literal.toInt?.any fun id => decide (0 ≤ id.toInt)) then []
          else [finding n name .invalidNodeIndex
            ("node index must be a non-negative int, got " ++ literal.render)]

/-- The tokens of a message without a socket. -/
def message (n : Node) : List Finding :=
  (tokensOf n "message").filterMap fun name =>
    if (n.valueIn? name).isSome then none
    else some (finding n name .missingTemplateInput
      ("message token " ++ braced name ++ " has no value input"))

/-- A parameter that points outside its table. -/
def reference {α : Type} (n : Node) (parameter : String) (table : Array α) (kind : FindingKind) :
    List Finding :=
  match (n.config? parameter).bind ConfigValue.toInt? with
  | none => []
  | some id =>
    if (tableRow? table id).isSome then []
    else [finding n parameter kind (parameter ++ " " ++ toString id.toInt ++ " is not declared")]

/-- Cases without a socket. -/
def cases (n : Node) : List Finding :=
  match (n.config? "cases").bind ConfigValue.toIntList? with
  | none => []
  | some values =>
    values.filterMap fun value =>
      let label := toString value.toInt
      let present :=
        if n.op = .flowSwitch then n.flowsOut.contains label else n.valuesIn.contains label
      if present then none
      else some (finding n label .missingCase ("case " ++ label ++ " has no port"))

/-- The checks that only some operations need. -/
def special (g : Graph) (n : Node) : List Finding :=
  match n.op with
  | .pointerGet | .pointerSet => pointer n
  | .variableGet | .variableSet => reference n "variable" g.vars .unknownVariable
  | .eventReceive | .eventSend => reference n "event" g.events .unknownEvent
  | .debugLog => message n
  | .flowSwitch | .mathSwitch => cases n
  | _ => []

/-- The problems of one node. -/
def node (g : Graph) (n : Node) : List Finding :=
  configuration n ++ sockets g n ++ valueInputs g n ++ flowOutputs g n ++ special g n

end Validation

/-- Checks every node of a graph. -/
def Graph.validate (g : Graph) : Report :=
  ⟨g.nodes.toList.flatMap (Validation.node g)⟩

end ScriptGraph
