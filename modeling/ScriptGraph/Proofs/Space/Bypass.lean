import Mathlib
import ScriptGraph.Proofs.Compile.Wiring
import ScriptGraph.Proofs.Runtime.Growth
import ScriptGraph.Proofs.Space.Classes

/-!
Graphs that differ in flips.

A flip is bypassed by identifying its value with whatever feeds its first factor. Of twins, the graph of the
converting run becomes the graph of the other run when its flips are bypassed, but for the numbers of the nodes; and
those keep their order.
-/

namespace ScriptGraph

open Pattern

section Renumbering

variable (f : NodeId → NodeId)

def SocketAddress.renumber (a : SocketAddress) : SocketAddress := { a with node := f a.node }

def ValueInput.renumber (x : ValueInput) : ValueInput := { x with source := x.source.map (·.renumber f) }

def FlowOutput.renumber (o : FlowOutput) : FlowOutput := ⟨o.targets.map (·.renumber f)⟩

def Node.renumber (n : Node) : Node :=
  { n with
    index := f n.index
    valuesIn := n.valuesIn.map (·.renumber f)
    flowsOut := n.flowsOut.map (·.renumber f) }

/-- The graph with other numbers for its nodes. -/
def Graph.renumber (g : Graph) : Graph := { g with nodes := g.nodes.map (·.renumber f) }

end Renumbering

def Node.mapInputs (n : Node) (f : ValueInput → ValueInput) : Node := { n with valuesIn := n.valuesIn.map f }

/-- A multiplication by the signs of one of the passages between the spaces. -/
def Node.IsFlip (n : Node) : Prop :=
  n.op = .mathMul ∧
    ∃ factor, (factor = positionFlip ∨ factor = rotationFlip) ∧ n.valueIn? "b" = some { literal := some factor }

namespace Graph

/-- What feeds the first factor of a flip, of those given, whose value an output is. -/
def behind? (g : Graph) (flips : List NodeId) (output : SocketAddress) : Option ValueInput :=
  if output.node ∈ flips ∧ output.socket = "value" then (g.node? output.node).bind (·.valueIn? "a") else none

/-- What an input takes when flips are bypassed. A flip may be fed from another one, so that many of them are
followed. -/
def through (g : Graph) (flips : List NodeId) : Nat → ValueInput → ValueInput
  | 0, x => x
  | depth + 1, x =>
    match x.source.bind (g.behind? flips) with
    | none => x
    | some factor =>
      g.through flips depth { x with source := factor.source, literal := factor.literal.or x.literal }

/-- The graph without the given flips: their values are identified with what feeds their first factors. -/
def bypass (g : Graph) (flips : List NodeId) : Graph :=
  { g with
    nodes := (g.nodes.filter (·.index ∉ flips)).map (·.mapInputs (g.through flips g.nodes.size)) }

/-- The graphs are the same up to flips in the second one, and up to numbers that keep the order of the nodes. -/
def EqualButForFlips (g g' : Graph) : Prop :=
  ∃ (flips : List NodeId) (f : NodeId → NodeId),
    (∀ id ∈ flips, ∃ n ∈ g'.nodes, n.index = id ∧ n.IsFlip) ∧
    (∀ m ∈ g.nodes, ∀ n ∈ g.nodes, m.index.toNat < n.index.toNat → (f m.index).toNat < (f n.index).toNat) ∧
    g'.bypass flips = g.renumber f

end Graph

namespace Dict

variable {α : Type}

theorem entries_eq {entries entries' : List (String × α)} (ascending : Ascending entries)
    (ascending' : Ascending entries') (same : ∀ key, lookup key entries = lookup key entries') :
    entries = entries' := by
  induction entries generalizing entries' with
  | nil =>
    cases entries' with
    | nil => rfl
    | cons e' rest' => simpa [lookup] using same e'.1
  | cons e rest ih =>
    cases entries' with
    | nil => simpa [lookup] using same e.1
    | cons e' rest' =>
      obtain ⟨above, tail⟩ := List.pairwise_cons.1 ascending
      obtain ⟨above', tail'⟩ := List.pairwise_cons.1 ascending'
      -- Of two first keys, the lower one is not found on the other side.
      have key : e.1 = e'.1 := by
        rcases lt_trichotomy e.1 e'.1 with below | equal | below
        · have absent : lookup e.1 (e' :: rest') = none := lookup_eq_none_of_below fun other member => by
            rcases List.mem_cons.1 member with rfl | later
            · exact below
            · exact String.lt_trans below (above' other later)
          rw [← same] at absent
          simp [lookup] at absent
        · exact equal
        · have absent : lookup e'.1 (e :: rest) = none := lookup_eq_none_of_below fun other member => by
            rcases List.mem_cons.1 member with rfl | later
            · exact below
            · exact String.lt_trans below (above other later)
          rw [same] at absent
          simp [lookup] at absent
      have value : e.2 = e'.2 := by simpa [lookup, key] using same e.1
      have rest_eq : rest = rest' := ih tail tail' fun other => by
        by_cases first : e.1 = other
        · rw [← first, lookup_eq_none_of_below above, key, lookup_eq_none_of_below above']
        · simpa [lookup, first, ← key] using same other
      rw [Prod.ext key value, rest_eq]

/-- Dictionaries in which the same is found are the same. -/
theorem ext_find? {d d' : Dict α} (same : ∀ key, d.find? key = d'.find? key) : d = d' := by
  obtain ⟨entries, ascending⟩ := d
  obtain ⟨entries', ascending'⟩ := d'
  obtain rfl : entries = entries' := entries_eq ascending ascending' same
  rfl

end Dict

section Lists

variable {α β γ : Type}

/-- What is left of a list, read off another list that goes along with it. -/
theorem map_filter_eq_filterMap {keep : α → Bool} {f : α → γ} {read : β → Option γ} {as : List α} {bs : List β}
    (reads : List.Forall₂ (fun a b => read b = if keep a then some (f a) else none) as bs) :
    (as.filter keep).map f = bs.filterMap read := by
  induction reads with
  | nil => rfl
  | @cons a b _ _ first _ ih =>
    cases kept : keep a with
    | true =>
      rw [kept, if_pos rfl] at first
      rw [List.filter_cons_of_pos kept, List.map_cons, List.filterMap_cons_some first, ih]
    | false =>
      rw [kept, if_neg (by decide)] at first
      rw [List.filter_cons_of_neg (by simp [kept]), List.filterMap_cons_none first, ih]

theorem filterMap_range_getElem? (as : List α) (f : α → β) :
    (List.range as.length).filterMap (fun i => as[i]?.map f) = as.map f := by
  induction as with
  | nil => rfl
  | cons a as ih =>
    rw [List.length_cons, List.range_succ_eq_map, List.filterMap_cons, List.filterMap_map]
    simp only [List.getElem?_cons_zero, Option.map_some, List.map_cons, ← ih]
    rfl

end Lists

namespace Role

variable {roles : List Role} {size : Nat} {i : Nat} {role : Role}

/-- The flips of the converting run. -/
def flips (roles : List Role) : List NodeId :=
  ((List.range roles.length).filter fun i => (roles[i]?.bind node?).isNone).map .ofNat

/-- The number that a node of the other run has in the converting run. -/
def number (roles : List Role) (id : NodeId) : NodeId := .ofNat (roles.findIdx (·.node? = some id))

theorem mem_flips (short : roles.length ≤ 0x100000000) (here : roles[i]? = some role) :
    NodeId.ofNat i ∈ flips roles ↔ role.node? = none := by
  have inside := (List.getElem?_eq_some_iff.1 here).1
  simp only [flips, List.mem_map, List.mem_filter, List.mem_range, Option.isNone_iff_eq_none]
  constructor
  · rintro ⟨j, ⟨below, flip⟩, same⟩
    obtain rfl : j = i := by
      rw [← NodeId.toNat_ofNat (n := j) (by omega), same, NodeId.toNat_ofNat (by omega)]
    rwa [here, Option.bind_some] at flip
  · intro flip
    exact ⟨i, ⟨inside, by rw [here, Option.bind_some, flip]⟩, rfl⟩

theorem of_mem_flips {id : NodeId} (member : id ∈ flips roles) :
    ∃ (i : Nat) (role : Role), roles[i]? = some role ∧ role.node? = none ∧ NodeId.ofNat i = id := by
  simp only [flips, List.mem_map, List.mem_filter, List.mem_range, Option.isNone_iff_eq_none] at member
  obtain ⟨i, ⟨inside, flip⟩, rfl⟩ := member
  rw [List.getElem?_eq_getElem inside, Option.bind_some] at flip
  exact ⟨i, roles[i], List.getElem?_eq_getElem inside, flip, rfl⟩

/-- The roles list every node of the other run. -/
theorem Lists.exists_kept (lists : Role.Lists roles size) {j : Nat} (inside : j < size) :
    ∃ (i : Nat) (sink : Option String), roles[i]? = some (.kept (.ofNat j) sink) := by
  have listed : NodeId.ofNat j ∈ roles.filterMap node? :=
    lists.numbered ▸ List.mem_map.2 ⟨j, List.mem_range.2 inside, rfl⟩
  obtain ⟨role, member, named⟩ := List.mem_filterMap.1 listed
  obtain ⟨i, here⟩ := List.getElem?_of_mem member
  cases role with
  | kept id sink =>
    cases named
    exact ⟨i, sink, here⟩
  | reading output => cases named
  | writing input => cases named

theorem number_kept (lists : Role.Lists roles size) {id : NodeId} {sink : Option String}
    (here : roles[i]? = some (.kept id sink)) : number roles id = .ofNat i := by
  have inside := (List.getElem?_eq_some_iff.1 here).1
  have found : roles.findIdx (·.node? = some id) < roles.length :=
    List.findIdx_lt_length_of_exists ⟨_, List.mem_of_getElem? here, by simp [node?]⟩
  have named : roles[roles.findIdx (·.node? = some id)].node? = some id := by
    simpa using List.findIdx_getElem (w := found)
  have first : ∃ sink', roles[roles.findIdx (·.node? = some id)]? = some (.kept id sink') := by
    rw [List.getElem?_eq_getElem found]
    revert named
    generalize roles[roles.findIdx (·.node? = some id)] = role
    intro named
    cases role with
    | kept id' sink' =>
      cases named
      exact ⟨sink', rfl⟩
    | reading output => cases named
    | writing input => cases named
  obtain ⟨sink', first⟩ := first
  rw [number, lists.place_eq first here]

end Role

namespace Graph

variable {g : Graph} {flips : List NodeId}

theorem through_of_settled {x : ValueInput} (settled : ∀ a, x.source = some a → g.behind? flips a = none)
    (depth : Nat) : g.through flips depth x = x := by
  cases depth with
  | zero => rfl
  | succ depth =>
    rw [through]
    cases source : x.source with
    | none => rfl
    | some a => rw [Option.bind_some, settled a source]

theorem through_of_behind? {x factor : ValueInput} {a : SocketAddress} (fed : x.source = some a)
    (behind : g.behind? flips a = some factor) (depth : Nat) : g.through flips (depth + 1) x =
      g.through flips depth { x with source := factor.source, literal := factor.literal.or x.literal } := by
  rw [through, fed, Option.bind_some, behind]

end Graph

namespace Context

variable {c c' : Context}

theorem resolveInput_eq (placeholders : c'.placeholders = c.placeholders) : c'.resolveInput = c.resolveInput := by
  funext x
  simp only [resolveInput, placeholderValue?, placeholders]

theorem resolveInput_restriction (x : ValueInput) (restriction : Option TypeRestriction) :
    c.resolveInput { x with restriction } = { c.resolveInput x with restriction } := by
  unfold resolveInput
  dsimp only
  split
  · rfl
  · split <;> rfl

end Context

namespace Twins

variable {roles : List Role} {c c' : Context}

section Inputs

variable (twins : Twins roles c c')

include twins

theorem short : roles.length ≤ 0x100000000 := twins.length_le.trans (by decide)

/-- Nothing is behind the outputs of a node that was kept. -/
theorem behind?_kept {i : Nat} {id : NodeId} {sink : Option String} (here : roles[i]? = some (.kept id sink))
    (socket : String) : c'.resolved.behind? (Role.flips roles) ⟨.ofNat i, socket⟩ = none := by
  refine if_neg fun both => ?_
  cases (Role.mem_flips twins.short here).1 both.1

theorem behind?_flip {i : Nat} {role : Role} (here : roles[i]? = some role) (flip : role.node? = none) :
    c'.resolved.behind? (Role.flips roles) ⟨.ofNat i, "value"⟩ = (c'.graph.input? i "a").map c'.resolveInput := by
  have inside := (List.getElem?_eq_some_iff.1 here).1
  have short := twins.short
  rw [Graph.behind?, if_pos ⟨(Role.mem_flips short here).2 flip, rfl⟩, Context.node?_resolved, twins.identified'.node?,
    NodeId.toNat_ofNat (by omega), Graph.input?]
  cases c'.graph.nodes[i]? with
  | none => rfl
  | some n => exact Context.valueIn?_resolveNode c' n "a"

variable (shares : c.Shares c')

include shares

/-- What an input takes that is fed alike in both runs, once flips are bypassed. -/
theorem through_alike {x x' : ValueInput} (alike : x.Alike (.apart roles) x')
    (restriction : x'.restriction = x.restriction) (depth : Nat) :
    c'.resolved.through (Role.flips roles) (depth + 1) (c'.resolveInput x') =
      (c.resolveInput x).renumber (Role.number roles) := by
  obtain ⟨literal, source, restricted⟩ := x
  obtain ⟨literal', source', restricted'⟩ := x'
  obtain rfl : restricted' = restricted := restriction
  obtain rfl : literal' = literal := alike.literal
  rw [Context.resolveInput_eq shares.placeholders]
  have sources : Option.Rel (Pairing.apart roles).Output source source' := alike.source
  cases sources with
  | none =>
    rw [Context.resolveInput_of_real (by rintro _ ⟨⟩)]
    exact Graph.through_of_settled (by rintro _ ⟨⟩) _
  | some output =>
    cases output with
    | @kept _ _ id id' keeps socket =>
      cases keeps with | kept role real real' =>
      rw [Context.resolveInput_of_real (by rintro _ ⟨⟩; exact real'),
        Context.resolveInput_of_real (by rintro _ ⟨⟩; exact real)]
      have settled := twins.behind?_kept role socket
      rw [NodeId.ofNat_toNat] at settled
      refine (Graph.through_of_settled (by rintro _ ⟨⟩; exact settled) _).trans ?_
      rw [ValueInput.renumber, Option.map_some, SocketAddress.renumber, Role.number_kept twins.lists role,
        NodeId.ofNat_toNat]
    | constant placeholder =>
      rw [Context.resolveInput_of_placeholder rfl placeholder]
      exact Graph.through_of_settled (by rintro _ ⟨⟩) _
    | @flipped _ a id' role real real' =>
      obtain ⟨_, s, fed, joins⟩ := twins.fed role
      have behind := twins.behind?_flip role rfl
      rw [NodeId.ofNat_toNat, fed, Option.map_some, Context.resolveInput_eq shares.placeholders] at behind
      obtain ⟨keeps, socket⟩ := joins
      cases keeps with | kept role₀ real₀ real₀' =>
      rw [Context.resolveInput_of_real (by rintro _ ⟨⟩; exact real₀')] at behind
      rw [Context.resolveInput_of_real (by rintro _ ⟨⟩; exact real'),
        Context.resolveInput_of_real (by rintro _ ⟨⟩; exact real)]
      refine (Graph.through_of_behind? rfl behind _).trans ?_
      have settled := twins.behind?_kept role₀ socket
      rw [NodeId.ofNat_toNat] at settled
      refine (Graph.through_of_settled (by rintro _ ⟨⟩; exact settled) _).trans ?_
      rw [ValueInput.renumber, Option.map_some, SocketAddress.renumber, Role.number_kept twins.lists role₀,
        NodeId.ofNat_toNat]
      rfl

/-- What an input takes that is fed through a flip, once flips are bypassed. -/
theorem through_sink {k : Nat} {input : SocketAddress} (role : roles[k]? = some (.writing input)) {x x' : ValueInput}
    (factor : c'.graph.input? k "a" = some x') (alike : x.Alike (.apart roles) x') (depth : Nat) :
    c'.resolved.through (Role.flips roles) (depth + 2)
        (c'.resolveInput { source := some ⟨.ofNat k, "value"⟩, restriction := x.restriction }) =
      (c.resolveInput x).renumber (Role.number roles) := by
  have inside := (List.getElem?_eq_some_iff.1 role).1
  have base : NodeId.placeholderBase = 0x40000000 := rfl
  have real : (NodeId.ofNat k).isPlaceholder = false := by
    have length := twins.length_le
    simp only [NodeId.isPlaceholder, NodeId.toNat_ofNat (n := k) (by omega), decide_eq_false_iff_not]
    omega
  have behind := twins.behind?_flip role rfl
  rw [factor, Option.map_some] at behind
  rw [Context.resolveInput_of_real (by rintro _ ⟨⟩; exact real)]
  refine (Graph.through_of_behind? rfl behind _).trans ?_
  -- The input takes what the flip takes, under its own restriction.
  have moved : ({ c'.resolveInput x' with
      literal := (c'.resolveInput x').literal.or none, restriction := x.restriction } : ValueInput) =
      c'.resolveInput { x' with restriction := x.restriction } := by
    rw [Option.or_none]
    exact (Context.resolveInput_restriction x' x.restriction).symm
  have taken : x.Alike (.apart roles) { x' with restriction := x.restriction } := ⟨alike.literal, alike.source⟩
  exact (congrArg _ moved).trans (twins.through_alike shares taken rfl depth)

/-- What an input of a node takes that was kept, once flips are bypassed. -/
theorem through_kept {i : Nat} {id : NodeId} {sink : Option String} (here : roles[i]? = some (.kept id sink))
    (socket : String) :
    (c'.graph.input? i socket).map (c'.resolved.through (Role.flips roles) roles.length ∘ c'.resolveInput) =
      (c.graph.input? id.toNat socket).map (ValueInput.renumber (Role.number roles) ∘ c.resolveInput) := by
  have fed : Inputs.Kept roles c.graph.input? c'.graph.input? i id sink := twins.fed here
  have restrictions := fed.restrictions socket
  have inside := (List.getElem?_eq_some_iff.1 here).1
  obtain ⟨depth, length⟩ : ∃ depth, roles.length = depth + 1 := ⟨roles.length - 1, by omega⟩
  by_cases free : sink ≠ some socket
  · have alike := fed.alike socket free
    revert alike restrictions
    generalize c.graph.input? id.toNat socket = x?
    generalize c'.graph.input? i socket = x'?
    intro restrictions alike
    cases alike with
    | none => rw [Option.map_none, Option.map_none]
    | some alike =>
      rw [Option.map_some, Option.map_some, Function.comp_apply, Function.comp_apply, length,
        twins.through_alike shares alike (Option.some.inj restrictions)]
  · rcases fed.sink socket (not_not.1 free) with ⟨k, flip⟩ | ⟨restriction, blank, blank'⟩
    · obtain ⟨_, ⟨x, x', taken, factor, alike⟩, j, restriction, there, feeding⟩ := twins.fed flip
      obtain rfl := twins.lists.place_eq there here
      rw [taken, feeding] at restrictions ⊢
      obtain rfl : restriction = x.restriction := Option.some.inj restrictions
      have apart : k ≠ j := Role.ne_of_ne flip here (by rintro ⟨⟩)
      have inside' := (List.getElem?_eq_some_iff.1 flip).1
      obtain ⟨further, rfl⟩ : ∃ further, depth = further + 1 := ⟨depth - 1, by omega⟩
      rw [Option.map_some, Option.map_some, Function.comp_apply, Function.comp_apply, length,
        twins.through_sink shares flip factor alike]
    · rw [blank, blank', Option.map_some, Option.map_some, Function.comp_apply, Function.comp_apply, length,
        twins.through_alike shares ⟨rfl, .none⟩ rfl]

end Inputs

section Nodes

variable (twins : Twins roles c c')

include twins

theorem renumber_targets {targets targets' : List SocketAddress}
    (joins : List.Forall₂ (Pairing.apart roles).Joins targets targets') :
    targets' = targets.map (·.renumber (Role.number roles)) := by
  induction joins with
  | nil => rfl
  | cons join _ ih =>
    obtain ⟨keeps, socket⟩ := join
    cases keeps with | kept role =>
    rw [List.map_cons, ih, SocketAddress.renumber, Role.number_kept twins.lists role, NodeId.ofNat_toNat]

variable (shares : c.Shares c')

include shares

/-- A node that was kept is the node of the other run, once flips are bypassed. -/
theorem bypass_kept {i : Nat} {id : NodeId} {sink : Option String} (here : roles[i]? = some (.kept id sink))
    {n n' : Node} (found : c.graph.nodes[id.toNat]? = some n) (found' : c'.graph.nodes[i]? = some n') :
    (c'.resolveNode n').mapInputs (c'.resolved.through (Role.flips roles) roles.length) =
      (c.resolveNode n).renumber (Role.number roles) := by
  obtain ⟨m, m', bare, bare', alike⟩ := twins.kept here
  rw [Graph.bare?, found] at bare
  rw [Graph.bare?, found'] at bare'
  cases bare
  cases bare'
  have index : n'.index = Role.number roles n.index := by
    rw [twins.identified' _ _ found', twins.identified _ _ found, NodeId.ofNat_toNat, Role.number_kept twins.lists here]
  have flows : n'.flowsOut = n.flowsOut.map (·.renumber (Role.number roles)) := Dict.ext_find? fun socket => by
    have rel := alike.flowsOut socket
    rw [Dict.find?_map]
    dsimp only at rel
    revert rel
    generalize n.flowsOut.find? socket = o?
    generalize n'.flowsOut.find? socket = o'?
    intro rel
    cases rel with
    | none => rfl
    | @some o o' joins =>
      have targets := twins.renumber_targets joins
      obtain ⟨targets'⟩ := o'
      exact congrArg (fun targets => some (FlowOutput.mk targets)) targets
  have inputs : (n'.valuesIn.map c'.resolveInput).map (c'.resolved.through (Role.flips roles) roles.length) =
      (n.valuesIn.map c.resolveInput).map (ValueInput.renumber (Role.number roles)) := Dict.ext_find? fun socket => by
    have same := twins.through_kept shares here socket
    rw [Graph.input?, Graph.input?, found, found', Option.bind_some, Option.bind_some] at same
    rw [Dict.find?_map, Dict.find?_map, Dict.find?_map, Dict.find?_map, Option.map_map, Option.map_map]
    exact same
  obtain ⟨_, op, configuration, valuesIn, valuesOut, flowsIn, flowsOut⟩ := n
  obtain ⟨_, op', configuration', valuesIn', valuesOut', flowsIn', flowsOut'⟩ := n'
  obtain rfl : op' = op := alike.op
  obtain rfl : configuration' = configuration := alike.configuration
  obtain rfl : valuesOut' = valuesOut := alike.valuesOut
  obtain rfl : flowsIn' = flowsIn := alike.flowsIn
  simp only [Context.resolveNode, Node.mapInputs, Node.renumber, Node.mk.injEq, true_and]
  exact ⟨index, inputs, flows⟩

omit shares in
theorem isFlip_flip {i : Nat} {role : Role} (here : roles[i]? = some role) (flip : role.node? = none) :
    ∃ n ∈ c'.resolved.nodes, n.index = .ofNat i ∧ n.IsFlip := by
  obtain ⟨m, bare, op⟩ := twins.flips here flip
  obtain ⟨n, found, rfl⟩ := Option.map_eq_some_iff.1 bare
  have signs : Inputs.Flip c'.graph.input? i := by
    have fed := twins.fed here
    cases role with
    | kept id sink => cases flip
    | reading output => exact fed.flip
    | writing input => exact fed.flip
  obtain ⟨factor, signs, second⟩ := signs
  have index : n.index = .ofNat i := twins.identified' _ _ found
  refine ⟨c'.resolveNode n, ?_, index, op, factor, signs, ?_⟩
  · refine Array.mem_of_getElem? (i := i) ?_
    rw [Context.resolved, Array.getElem?_map, found, Option.map_some]
  · rw [Graph.input?, found, Option.bind_some] at second
    rw [Context.valueIn?_resolveNode, second, Option.map_some, Context.resolveInput_of_real (by rintro _ ⟨⟩)]

omit shares in
/-- The numbers of the kept nodes keep their order. -/
theorem number_lt {m n : Node} (old : m ∈ c.resolved.nodes) (old' : n ∈ c.resolved.nodes)
    (before : m.index.toNat < n.index.toNat) :
    (Role.number roles m.index).toNat < (Role.number roles n.index).toNat := by
  have short := twins.short
  have place {n : Node} (old : n ∈ c.resolved.nodes) : ∃ (i : Nat) (sink : Option String),
      roles[i]? = some (.kept n.index sink) := by
    obtain ⟨j, there⟩ := Array.getElem?_of_mem old
    obtain ⟨n, found, rfl⟩ := Context.nodes_resolved there
    obtain ⟨i, sink, here⟩ := twins.lists.exists_kept (Array.getElem?_eq_some_iff.1 found).1
    exact ⟨i, sink, (twins.identified _ _ found).symm ▸ here⟩
  obtain ⟨i, _, here⟩ := place old
  obtain ⟨k, _, there⟩ := place old'
  have inside := (List.getElem?_eq_some_iff.1 here).1
  have inside' := (List.getElem?_eq_some_iff.1 there).1
  rw [Role.number_kept twins.lists here, Role.number_kept twins.lists there, NodeId.toNat_ofNat (by omega),
    NodeId.toNat_ofNat (by omega)]
  by_contra after
  rcases Nat.lt_or_eq_of_le (Nat.not_lt.1 after) with behind | same
  · have order := twins.lists.ordered there here behind
    omega
  · have met := (twins.lists.place_eq_iff here there).1 same.symm
    omega

/-- The nodes that are left when flips are bypassed are those of the other run, in their order. -/
theorem nodes_bypass : (c'.resolved.bypass (Role.flips roles)).nodes =
    (c.resolved.renumber (Role.number roles)).nodes := by
  have size := twins.size
  have le := twins.size_le
  have short := twins.short
  have total : c'.resolved.nodes.size = roles.length := by rw [Context.resolved, Array.size_map, size]
  -- The node of the other run that has a role.
  let read (role : Role) : Option Node :=
    role.node?.bind fun id => c.graph.nodes[id.toNat]?.map fun n => (c.resolveNode n).renumber (Role.number roles)
  have left : (c'.resolved.nodes.toList.filter (·.index ∉ Role.flips roles)).map
      (·.mapInputs (c'.resolved.through (Role.flips roles) roles.length)) = roles.filterMap read := by
    refine map_filter_eq_filterMap (List.forall₂_iff_get.2 ⟨total, fun i inside inside' => ?_⟩)
    have here : roles[i]? = some roles[i] := List.getElem?_eq_getElem inside'
    have found : c'.graph.nodes[i]? = some c'.graph.nodes[i] := Array.getElem?_eq_getElem (size.symm ▸ inside')
    have node : c'.resolved.nodes.toList.get ⟨i, inside⟩ = c'.resolveNode c'.graph.nodes[i] := by
      simp [Context.resolved]
    have index : c'.graph.nodes[i].index = .ofNat i := twins.identified' _ _ found
    have index : (c'.resolveNode c'.graph.nodes[i]).index = .ofNat i := index
    rw [List.get_eq_getElem, List.get_eq_getElem] at *
    rw [node, index]
    generalize roles[i] = role at here
    cases role with
    | kept id sink =>
      have inside : id.toNat < c.graph.nodes.size := twins.inside here
      have old : c.graph.nodes[id.toNat]? = some c.graph.nodes[id.toNat] := Array.getElem?_eq_getElem inside
      have stays : NodeId.ofNat i ∉ Role.flips roles := fun flip => by cases (Role.mem_flips short here).1 flip
      rw [if_pos (by simpa using stays)]
      show c.graph.nodes[id.toNat]?.map _ = _
      rw [old, Option.map_some, twins.bypass_kept shares here old found]
    | reading output => exact (if_neg (by simpa using (Role.mem_flips short here).2 rfl)).symm
    | writing input => exact (if_neg (by simpa using (Role.mem_flips short here).2 rfl)).symm
  have right : roles.filterMap read = c.resolved.nodes.toList.map (·.renumber (Role.number roles)) := by
    have small {i : Nat} (inside : i ∈ List.range c.graph.nodes.size) : (NodeId.ofNat i).toNat = i := by
      have inside := List.mem_range.1 inside
      exact NodeId.toNat_ofNat (by omega)
    rw [← List.filterMap_filterMap, twins.lists.numbered, List.filterMap_map, Context.resolved, Array.toList_map,
      List.map_map, ← filterMap_range_getElem?, Array.length_toList]
    refine List.filterMap_congr fun i inside => ?_
    rw [Function.comp_apply, small inside, Array.getElem?_toList]
    rfl
  apply Array.ext'
  rw [Graph.bypass, Graph.renumber, Array.toList_map, Array.toList_map, Array.toList_filter, total]
  exact left.trans right

/-- Of twins, the graph of the converting run is that of the other one, but for flips. -/
theorem equalButForFlips : c.resolved.EqualButForFlips c'.resolved := by
  refine ⟨Role.flips roles, Role.number roles, fun id member => ?_, fun m old n old' => twins.number_lt old old', ?_⟩
  · obtain ⟨i, role, here, flip, rfl⟩ := Role.of_mem_flips member
    exact twins.isFlip_flip here flip
  · have nodes := twins.nodes_bypass shares
    have vars : c'.resolved.vars = c.resolved.vars := shares.vars
    have events : c'.resolved.events = c.resolved.events := shares.events
    rw [Graph.bypass, Graph.renumber] at nodes ⊢
    rw [vars, events, Graph.mk.injEq]
    exact ⟨nodes, rfl, rfl⟩

end Nodes

end Twins

end ScriptGraph
