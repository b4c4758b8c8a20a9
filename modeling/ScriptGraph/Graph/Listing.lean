import ScriptGraph.Graph.Basic
import ScriptGraph.Text.Quoted

/-!
The listing of a graph: its tables, then every node as a tree of its parameters and sockets.
-/

namespace ScriptGraph

namespace Listing

/-- Pads a number on the left to three places. -/
def pad (n : Nat) : String :=
  let digits := toString n
  String.ofList (List.replicate (3 - digits.length) ' ') ++ digits

/-- A declared output type. -/
def expectedType : ExpectedType → String
  | .exact type => "Exact(" ++ type.title ++ ")"
  | .fromInput input => "FromInput(" ++ Text.quote input ++ ")"

/-- What feeds a value input. -/
def feed (i : ValueInput) : String :=
  match i.literal, i.source with
  | some literal, none => "= " ++ literal.render
  | none, some source => "<- " ++ source.render
  | some literal, some source => "= " ++ literal.render ++ " <- " ++ source.render ++ " (conflict)"
  | none, none => "<dangling>"

/-- The lines below the head of a node. Flow outputs without a target are left out. -/
def nodeLines (n : Node) : List String :=
  (n.configuration.entries.map fun (name, value) =>
    "config " ++ name ++ " = " ++ (value.map ConfigValue.render).getD "<absent>") ++
  (n.valuesIn.entries.map fun (name, input) => "in  " ++ name ++ " " ++ feed input) ++
  (n.valuesOut.entries.map fun (name, output) =>
    match output.expected with
    | some type => "out " ++ name ++ " : " ++ expectedType type
    | none => "out " ++ name) ++
  (n.flowsOut.entries.filterMap fun (name, output) =>
    if output.targets.isEmpty then none
    else some ("flow " ++ name ++ " -> " ++
      String.intercalate ", " (output.targets.map SocketAddress.render)))

/-- Puts a branch before every line, a closing one before the last. -/
def branches (indent : String) : List String → List String
  | [] => []
  | [last] => [indent ++ "└── " ++ last]
  | line :: lines => (indent ++ "├── " ++ line) :: branches indent lines

/-- A node with its lines; `last` tells whether it closes the tree. -/
def nodeTree (last : Bool) (n : Node) : List String :=
  let head := (if last then "└── " else "├── ") ++ n.index.render ++ " " ++ n.op.name
  head :: branches (if last then "    " else "│   ") (nodeLines n)

/-- The trees of all nodes. -/
def nodeTrees : List Node → List String
  | [] => []
  | [last] => nodeTree true last
  | n :: rest => nodeTree false n ++ nodeTrees rest

/-- One line for a variable. -/
def variableLine (id : Nat) (v : Variable) : String :=
  "var " ++ pad id ++ " " ++ v.name ++ " : " ++ v.valueType.name ++ " = " ++
    (v.initial.map Literal.render).getD "-"

/-- One line for an event. -/
def eventLine (id : Nat) (e : CustomEvent) : String :=
  "event " ++ pad id ++ " " ++ e.name ++ "(" ++
    String.intercalate ", " (e.values.map fun v => v.name ++ ": " ++ v.valueType.name) ++ ")"

/-- All lines of the listing. -/
def lines (g : Graph) : List String :=
  let counts := "Graph: " ++ toString g.nodes.size ++ " nodes, " ++ toString g.vars.size ++
    " variables, " ++ toString g.events.size ++ " events"
  counts :: (g.vars.toList.mapIdx variableLine ++ g.events.toList.mapIdx eventLine ++
    nodeTrees g.nodes.toList)

end Listing

/-- The listing of a graph, every line ended. -/
def Graph.listing (g : Graph) : String :=
  String.join ((Listing.lines g).map (· ++ "\n"))

end ScriptGraph
