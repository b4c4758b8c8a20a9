import Mathlib
import ScriptGraph.Proofs.Space.Pairing

/-!
What the graphs of the two runs have in common.

A node that both runs made has the same parameters, outputs and flows in both, and its inputs are fed alike. A flip
of what is read is fed from the output it stands for. A flip of what is written takes what the input takes for which
it stands, and feeds that input in its place.
-/

namespace ScriptGraph

open Pattern

namespace Graph

/-- An input of the node at a place. -/
def input? (g : Graph) (i : Nat) (socket : String) : Option ValueInput := g.nodes[i]?.bind (·.valueIn? socket)

/-- The node at a place without its inputs. -/
def bare? (g : Graph) (i : Nat) : Option Node := g.nodes[i]?.map ({ · with valuesIn := Dict.empty })

section Views

variable {g : Graph} {id : NodeId} {f : Node → Node}

theorem input?_place (n : Node) (i : Nat) (socket : String) :
    (g.place n).input? i socket = if i = g.nodes.size then n.valueIn? socket else g.input? i socket := by
  rw [input?, nodes_place]
  split
  · rfl
  · rfl

theorem bare?_place (n : Node) (i : Nat) :
    (g.place n).bare? i = if i = g.nodes.size then some { n with valuesIn := Dict.empty } else g.bare? i := by
  rw [bare?, nodes_place]
  split
  · rfl
  · rfl

theorem bare?_changeInput (identified : g.Identified) (socket : String) (change : ValueInput → ValueInput) (i : Nat) :
    (g.modifyNode id (·.changeInput socket change)).bare? i = g.bare? i := by
  rw [bare?, identified.nodes_modifyNode]
  split
  · rw [Option.map_map]
    rfl
  · rfl

theorem input?_changeInput (identified : g.Identified) (inside : id.toNat < g.nodes.size) (socket : String)
    (change : ValueInput → ValueInput) (i : Nat) (other : String) :
    (g.modifyNode id (·.changeInput socket change)).input? i other =
      if i = id.toNat ∧ other = socket then some (change ((g.input? i other).getD {})) else g.input? i other := by
  rw [input?, identified.nodes_modifyNode, input?]
  by_cases here : i = id.toNat
  · subst here
    rw [if_pos rfl, Array.getElem?_eq_getElem inside, Option.map_some, Option.bind_some, Option.bind_some,
      Node.valueIn?, Node.changeInput, Dict.find?_update]
    by_cases same : other = socket
    · subst same
      rw [if_pos rfl, if_pos ⟨rfl, rfl⟩]
      rfl
    · rw [if_neg same, if_neg fun both => same both.2]
      rfl
  · rw [if_neg here, if_neg fun both => here both.1]

theorem input?_modifyNode (identified : g.Identified) (keeps : ∀ n, (f n).valuesIn = n.valuesIn) (i : Nat)
    (socket : String) : (g.modifyNode id f).input? i socket = g.input? i socket := by
  rw [input?, identified.nodes_modifyNode, input?]
  split
  · cases g.nodes[i]? with
    | none => rfl
    | some n => exact congrArg (fun d : Dict ValueInput => d.find? socket) (keeps n)
  · rfl

/-- A change that does not look at the inputs. -/
theorem bare?_modifyNode (identified : g.Identified)
    (apart : ∀ n, { f n with valuesIn := Dict.empty } = f { n with valuesIn := Dict.empty }) (i : Nat) :
    (g.modifyNode id f).bare? i = if i = id.toNat then (g.bare? i).map f else g.bare? i := by
  rw [bare?, identified.nodes_modifyNode, bare?]
  split
  · rw [Option.map_map, Option.map_map]
    exact congrArg (Option.map · _) (funext apart)
  · rfl

end Views

end Graph

/-- Inputs that are fed alike. -/
structure ValueInput.Alike (p : Pairing) (x x' : ValueInput) : Prop where
  literal : x'.literal = x.literal
  source : Option.Rel p.Output x.source x'.source

/-- Nodes that differ in their inputs at most. -/
structure Node.Alike (p : Pairing) (n n' : Node) : Prop where
  op : n'.op = n.op
  configuration : n'.configuration = n.configuration
  valuesOut : n'.valuesOut = n.valuesOut
  flowsIn : n'.flowsIn = n.flowsIn
  flowsOut : ∀ socket, Option.Rel (fun o o' => List.Forall₂ p.Joins o.targets o'.targets)
    (n.flowsOut.find? socket) (n'.flowsOut.find? socket)

theorem Node.Alike.mono {p q : Pairing} {n n' : Node} (alike : n.Alike p n') (le : p.Le q) : n.Alike q n' :=
  { alike with
    flowsOut := fun socket => rel_imp (alike.flowsOut socket) fun _ _ targets =>
      targets.imp fun _ _ joins => joins.mono le }

/-- The inputs of a graph by place and name. -/
abbrev Inputs := Nat → String → Option ValueInput

/-- The second factor of a flip is constant signs. -/
def Inputs.Flip (inputs : Inputs) (i : Nat) : Prop :=
  ∃ factor, (factor = positionFlip ∨ factor = rotationFlip) ∧ inputs i "b" = some { literal := some factor }

/-- What a node that both runs made is fed with. -/
structure Inputs.Kept (roles : List Role) (inputs inputs' : Inputs) (i : Nat) (id : NodeId) (sink : Option String) :
    Prop where
  restrictions : ∀ socket, (inputs' i socket).map (·.restriction) = (inputs id.toNat socket).map (·.restriction)
  alike : ∀ socket, sink ≠ some socket →
    Option.Rel (ValueInput.Alike (.apart roles)) (inputs id.toNat socket) (inputs' i socket)
  /-- The input that is fed through a flip has one, or is still blank. -/
  sink : ∀ socket, sink = some socket → (∃ j : Nat, roles[j]? = some (.writing ⟨id, socket⟩)) ∨
    ∃ restriction, inputs id.toNat socket = some { restriction } ∧ inputs' i socket = some { restriction }

/-- What a flip is fed with that stands for an output. -/
structure Inputs.Reading (roles : List Role) (inputs' : Inputs) (i : Nat) (output : SocketAddress) : Prop where
  flip : Inputs.Flip inputs' i
  source : ∃ source, inputs' i "a" = some { source := some source } ∧ (Pairing.apart roles).Joins output source

/-- What a flip is fed with that stands for an input, and what the input is fed with. -/
structure Inputs.Writing (roles : List Role) (inputs inputs' : Inputs) (i : Nat) (input : SocketAddress) : Prop where
  flip : Inputs.Flip inputs' i
  alike : ∃ x x', inputs input.node.toNat input.socket = some x ∧ inputs' i "a" = some x' ∧ x.Alike (.apart roles) x'
  sink : ∃ (j : Nat) (restriction : Option TypeRestriction), roles[j]? = some (.kept input.node (some input.socket)) ∧
    inputs' j input.socket = some { source := some ⟨.ofNat i, "value"⟩, restriction }

/-- What the node with a role is fed with. -/
def Role.Fed (roles : List Role) (inputs inputs' : Inputs) (i : Nat) : Role → Prop
  | kept id sink => Inputs.Kept roles inputs inputs' i id sink
  | reading output => Inputs.Reading roles inputs' i output
  | writing input => Inputs.Writing roles inputs inputs' i input

/-- The node of the other run. -/
def Role.node? : Role → Option NodeId
  | kept id _ => some id
  | _ => none

/-- The nodes of the other run have the roles of nodes, in their order. -/
structure Role.Lists (roles : List Role) (size : Nat) : Prop where
  numbered : roles.filterMap Role.node? = (List.range size).map .ofNat
  ordered : ∀ {i j : Nat} {id id' : NodeId} {sink sink' : Option String}, roles[i]? = some (.kept id sink) →
    roles[j]? = some (.kept id' sink') → i < j → id.toNat < id'.toNat

/-- A run without conversion and one with it, at the same step. -/
structure Twins (roles : List Role) (c c' : Context) : Prop where
  plain : c.options.spaceConversion = false
  converting : c'.options.spaceConversion = true
  small : c'.Small
  identified : c.graph.Identified
  identified' : c'.graph.Identified
  size : c'.graph.nodes.size = roles.length
  lists : Role.Lists roles c.graph.nodes.size
  kept : ∀ {i : Nat} {id : NodeId} {sink : Option String}, roles[i]? = some (.kept id sink) →
    ∃ n n', c.graph.bare? id.toNat = some n ∧ c'.graph.bare? i = some n' ∧ n.Alike (.apart roles) n'
  flips : ∀ {i : Nat} {role : Role}, roles[i]? = some role → role.node? = none →
    ∃ n', c'.graph.bare? i = some n' ∧ n'.op = .mathMul
  fed : ∀ {i : Nat} {role : Role}, roles[i]? = some role → role.Fed roles c.graph.input? c'.graph.input? i

section Changes

variable {roles roles' : List Role} {size : Nat} {inputs inputs' : Inputs}

theorem Role.Lists.place_eq (lists : Role.Lists roles size) {i j : Nat} {id : NodeId} {sink sink' : Option String}
    (first : roles[i]? = some (.kept id sink)) (second : roles[j]? = some (.kept id sink')) : i = j := by
  rcases Nat.lt_trichotomy i j with before | same | after
  · exact absurd (lists.ordered first second before) (Nat.lt_irrefl _)
  · exact same
  · exact absurd (lists.ordered second first after) (Nat.lt_irrefl _)

theorem Role.Lists.sink_eq (lists : Role.Lists roles size) {i j : Nat} {id : NodeId} {sink sink' : Option String}
    (first : roles[i]? = some (.kept id sink)) (second : roles[j]? = some (.kept id sink')) : sink = sink' := by
  obtain rfl := lists.place_eq first second
  rw [first] at second
  cases second
  rfl

theorem Role.Lists.place_eq_iff (lists : Role.Lists roles size) {i j : Nat} {id id' : NodeId}
    {sink sink' : Option String} (first : roles[i]? = some (.kept id sink))
    (second : roles[j]? = some (.kept id' sink')) : i = j ↔ id.toNat = id'.toNat := by
  constructor
  · rintro rfl
    rw [first] at second
    cases second
    rfl
  · intro same
    rw [NodeId.toNat_inj same] at first
    exact lists.place_eq first second

/-- Something happens to one input. -/
def Inputs.change (inputs : Inputs) (i : Nat) (socket : String) (f : ValueInput → ValueInput) : Inputs :=
  fun j other => if j = i ∧ other = socket then some (f ((inputs j other).getD {})) else inputs j other

theorem Inputs.change_self (inputs : Inputs) (i : Nat) (socket : String) (f : ValueInput → ValueInput) :
    inputs.change i socket f i socket = some (f ((inputs i socket).getD {})) := if_pos ⟨rfl, rfl⟩

theorem Inputs.change_of_ne (inputs : Inputs) {i j : Nat} {socket other : String} (f : ValueInput → ValueInput)
    (apart : ¬ (j = i ∧ other = socket)) : inputs.change i socket f j other = inputs j other := if_neg apart

/-- Inputs are fed alike anew. -/
structure ValueInput.Feeds (p : Pairing) (f f' : ValueInput → ValueInput) : Prop where
  restriction : ∀ x, (f x).restriction = x.restriction
  restriction' : ∀ x, (f' x).restriction = x.restriction
  alike : ∀ x x' : ValueInput, x.Alike p x' → (f x).Alike p (f' x')

theorem ValueInput.alike_blank (p : Pairing) : ({} : ValueInput).Alike p {} := ⟨rfl, .none⟩

theorem ValueInput.alike_getD {p : Pairing} {x? x'? : Option ValueInput} (alike : Option.Rel (Alike p) x? x'?) :
    (x?.getD {}).Alike p (x'?.getD {}) := by
  cases alike with
  | some alike => exact alike
  | none => exact alike_blank p

variable {f f' : ValueInput → ValueInput}

theorem Role.ne_of_ne {i j : Nat} {role role' : Role} (first : roles[i]? = some role)
    (second : roles[j]? = some role') (different : role ≠ role') : i ≠ j := by
  rintro rfl
  rw [first] at second
  exact different (Option.some.inj second)

/-- What happens to a node that was kept does not happen to a flip. -/
theorem Inputs.change_of_flip {i₀ : Nat} {id₀ : NodeId} {sink₀ : Option String}
    (role₀ : roles[i₀]? = some (.kept id₀ sink₀)) (socket₀ : String) {j : Nat} {role : Role}
    (there : roles[j]? = some role) (flip : role.node? = none) (socket : String) :
    inputs'.change i₀ socket₀ f j socket = inputs' j socket :=
  Inputs.change_of_ne _ _ fun both => Role.ne_of_ne there role₀ (by rintro rfl; cases flip) both.1

/-- A flip stays one as long as its second factor does. -/
theorem Inputs.Flip.congr {inputs₁ : Inputs} {i : Nat} (same : inputs₁ i "b" = inputs i "b")
    (flip : Inputs.Flip inputs i) : Inputs.Flip inputs₁ i := by
  obtain ⟨factor, signs, second⟩ := flip
  exact ⟨factor, signs, same.trans second⟩

theorem Inputs.Reading.congr {inputs₁ : Inputs} {i : Nat} {output : SocketAddress}
    (same : ∀ socket, inputs₁ i socket = inputs' i socket) (reading : Inputs.Reading roles inputs' i output) :
    Inputs.Reading roles inputs₁ i output := by
  obtain ⟨flip, source, first, joins⟩ := reading
  exact ⟨flip.congr (same "b"), source, (same "a").trans first, joins⟩

/-- An input of a node that was kept is fed anew, in both runs. -/
theorem Role.Fed.feed_kept (lists : Role.Lists roles size) {i₀ : Nat} {id₀ : NodeId} {sink₀ : Option String}
    {socket₀ : String} (role₀ : roles[i₀]? = some (.kept id₀ sink₀)) (free : sink₀ ≠ some socket₀)
    (feeds : ValueInput.Feeds (.apart roles) f f') {i : Nat} {role : Role} (here : roles[i]? = some role)
    (fed : role.Fed roles inputs inputs' i) :
    role.Fed roles (inputs.change id₀.toNat socket₀ f) (inputs'.change i₀ socket₀ f') i := by
  -- The input of the one run and that of the other one are met together.
  have meet {j : Nat} {id : NodeId} {sink : Option String} (there : roles[j]? = some (.kept id sink)) :
      j = i₀ ↔ id.toNat = id₀.toNat := lists.place_eq_iff there role₀
  have sinkApart {j : Nat} {id : NodeId} {socket : String} (there : roles[j]? = some (.kept id (some socket))) :
      ¬ (j = i₀ ∧ socket = socket₀) ∧ ¬ (id.toNat = id₀.toNat ∧ socket = socket₀) := by
    have different : ¬ (j = i₀ ∧ socket = socket₀) := by
      rintro ⟨rfl, rfl⟩
      rw [role₀] at there
      cases there
      exact free rfl
    exact ⟨different, fun both => different ⟨(meet there).2 both.1, both.2⟩⟩
  cases role with
  | kept id sink =>
    refine ⟨fun socket => ?_, fun socket other => ?_, fun socket same => ?_⟩
    · by_cases hit : i = i₀ ∧ socket = socket₀
      · obtain ⟨rfl, rfl⟩ := hit
        rw [(meet here).1 rfl, Inputs.change_self, Inputs.change_self, Option.map_some, Option.map_some,
          feeds.restriction, feeds.restriction']
        have old := fed.restrictions socket
        rw [(meet here).1 rfl] at old
        cases plain : inputs id₀.toNat socket <;> cases converting : inputs' i socket <;>
          simp_all
      · rw [Inputs.change_of_ne _ _ hit, Inputs.change_of_ne _ _ fun both => hit ⟨(meet here).2 both.1, both.2⟩]
        exact fed.restrictions socket
    · by_cases hit : i = i₀ ∧ socket = socket₀
      · obtain ⟨rfl, rfl⟩ := hit
        have old := fed.alike socket other
        rw [(meet here).1 rfl] at old ⊢
        rw [Inputs.change_self, Inputs.change_self]
        exact .some (feeds.alike _ _ (ValueInput.alike_getD old))
      · rw [Inputs.change_of_ne _ _ hit, Inputs.change_of_ne _ _ fun both => hit ⟨(meet here).2 both.1, both.2⟩]
        exact fed.alike socket other
    · subst same
      obtain ⟨apart', apart⟩ := sinkApart here
      rw [Inputs.change_of_ne _ _ apart, Inputs.change_of_ne _ _ apart']
      exact fed.sink socket rfl
  | reading output => exact fed.congr (Inputs.change_of_flip role₀ _ here rfl)
  | writing input =>
    obtain ⟨flip, ⟨x, x', taken, taken', alike⟩, j, restriction, there, feeding⟩ := fed
    have untouched (other : String) : inputs'.change i₀ socket₀ f' i other = inputs' i other :=
      Inputs.change_of_flip role₀ _ here rfl other
    obtain ⟨apart', apart⟩ := sinkApart there
    exact ⟨flip.congr (untouched "b"),
      ⟨x, x', (Inputs.change_of_ne _ _ apart).trans taken, (untouched "a").trans taken', alike⟩,
      j, restriction, there, (Inputs.change_of_ne _ _ apart').trans feeding⟩

/-- An input that is fed through a flip is fed anew: in the converting run that is done to the flip. -/
theorem Role.Fed.feed_flipped (lists : Role.Lists roles size) (short : roles.length ≤ 0x100000000)
    (all : ∀ {i : Nat} {role : Role}, roles[i]? = some role → role.Fed roles inputs inputs' i) {i₀ : Nat}
    {a : SocketAddress} (role₀ : roles[i₀]? = some (.writing a)) (feeds : ValueInput.Feeds (.apart roles) f f')
    {i : Nat} {role : Role} (here : roles[i]? = some role) :
    role.Fed roles (inputs.change a.node.toNat a.socket f) (inputs'.change i₀ "a" f') i := by
  have fed := all here
  obtain ⟨_, ⟨x, x', taken, taken', alike⟩, j₀, restriction₀, there₀, feeding₀⟩ := all role₀
  have elsewhere {j : Nat} {role : Role} (there : roles[j]? = some role) (other : role ≠ .writing a) (socket : String) :
      inputs'.change i₀ "a" f' j socket = inputs' j socket :=
    Inputs.change_of_ne _ _ fun both => Role.ne_of_ne there role₀ other both.1
  cases role with
  | kept id sink =>
    refine ⟨fun socket => ?_, fun socket other => ?_, fun socket same => ?_⟩
    · rw [elsewhere here (by simp)]
      refine (fed.restrictions socket).trans ?_
      by_cases hit : id.toNat = a.node.toNat ∧ socket = a.socket
      · obtain ⟨node, rfl⟩ := hit
        rw [node, Inputs.change_self, taken, Option.map_some, Option.map_some, feeds.restriction, Option.getD_some]
      · rw [Inputs.change_of_ne _ _ hit]
    · rw [elsewhere here (by simp)]
      refine (Inputs.change_of_ne inputs f fun hit => ?_) ▸ fed.alike socket other
      -- The input is the sink of its node.
      obtain ⟨node, rfl⟩ := hit
      rw [NodeId.toNat_inj node] at here
      exact other (lists.sink_eq here there₀)
    · by_cases hit : id.toNat = a.node.toNat ∧ socket = a.socket
      · obtain ⟨node, rfl⟩ := hit
        obtain rfl := NodeId.toNat_inj node
        exact .inl ⟨i₀, role₀⟩
      · rw [Inputs.change_of_ne _ _ hit, elsewhere here (by simp)]
        exact fed.sink socket same
  | reading output => exact fed.congr (elsewhere here (by simp))
  | writing input =>
    obtain ⟨flip, ⟨y, y', given, given', alike'⟩, j, restriction, there, feeding⟩ := fed
    have second : inputs'.change i₀ "a" f' i "b" = inputs' i "b" :=
      Inputs.change_of_ne _ _ fun both => absurd both.2 (by decide)
    have feeding : inputs'.change i₀ "a" f' j input.socket =
        some { source := some ⟨.ofNat i, "value"⟩, restriction } := (elsewhere there (by simp) _).trans feeding
    refine ⟨flip.congr second, ?_, j, restriction, there, feeding⟩
    by_cases same : i = i₀
    · subst same
      rw [role₀] at here
      cases here
      exact ⟨f x, f' x', by rw [Inputs.change_self, taken, Option.getD_some],
        by rw [Inputs.change_self, taken', Option.getD_some], feeds.alike x x' alike⟩
    · refine ⟨y, y', (Inputs.change_of_ne _ _ fun hit => ?_).trans given,
        (Inputs.change_of_ne _ _ fun both => same both.1).trans given', alike'⟩
      -- One flip only feeds the input.
      obtain ⟨node, socket⟩ := hit
      rw [NodeId.toNat_inj node, socket] at there
      obtain rfl := lists.place_eq there there₀
      rw [elsewhere there₀ (by simp), socket, feeding₀] at feeding
      have number : NodeId.ofNat i₀ = .ofNat i := by simpa using congrArg (·.map (·.source.map (·.node))) feeding
      have small : i < 0x100000000 := (List.getElem?_eq_some_iff.1 here).1.trans_le short
      have small₀ : i₀ < 0x100000000 := (List.getElem?_eq_some_iff.1 role₀).1.trans_le short
      rw [← NodeId.toNat_ofNat small, ← number, NodeId.toNat_ofNat small₀] at same
      exact same rfl

/-- An input of a node that was kept is restricted, in both runs. -/
theorem Role.Fed.restrict (lists : Role.Lists roles size) {i₀ : Nat} {id₀ : NodeId} {sink₀ : Option String}
    {socket₀ : String} (role₀ : roles[i₀]? = some (.kept id₀ sink₀)) (r : TypeRestriction) {i : Nat} {role : Role}
    (here : roles[i]? = some role) (fed : role.Fed roles inputs inputs' i) :
    role.Fed roles (inputs.change id₀.toNat socket₀ ({ · with restriction := some r }))
      (inputs'.change i₀ socket₀ ({ · with restriction := some r })) i := by
  have meet {j : Nat} {id : NodeId} {sink : Option String} (there : roles[j]? = some (.kept id sink)) :
      j = i₀ ↔ id.toNat = id₀.toNat := lists.place_eq_iff there role₀
  cases role with
  | kept id sink =>
    by_cases at₀ : i = i₀
    · subst at₀
      have plain := (meet here).1 rfl
      refine ⟨fun socket => ?_, fun socket other => ?_, fun socket same => ?_⟩
      · by_cases hit : socket = socket₀
        · subst hit
          rw [plain, Inputs.change_self, Inputs.change_self]
          rfl
        · rw [Inputs.change_of_ne _ _ fun both => hit both.2, Inputs.change_of_ne _ _ fun both => hit both.2]
          exact fed.restrictions socket
      · have old := fed.alike socket other
        by_cases hit : socket = socket₀
        · subst hit
          rw [plain] at old ⊢
          rw [Inputs.change_self, Inputs.change_self]
          have alike := ValueInput.alike_getD old
          exact .some ⟨alike.literal, alike.source⟩
        · rw [Inputs.change_of_ne _ _ fun both => hit both.2, Inputs.change_of_ne _ _ fun both => hit both.2]
          exact old
      · rcases fed.sink socket same with written | ⟨restriction, blank, blank'⟩
        · exact .inl written
        · by_cases hit : socket = socket₀
          · subst hit
            rw [plain] at blank ⊢
            exact .inr ⟨some r, by rw [Inputs.change_self, blank]; rfl, by rw [Inputs.change_self, blank']; rfl⟩
          · rw [Inputs.change_of_ne _ _ fun both => hit both.2, Inputs.change_of_ne _ _ fun both => hit both.2]
            exact .inr ⟨restriction, blank, blank'⟩
    · have elsewhere (socket : String) : ¬ (i = i₀ ∧ socket = socket₀) ∧ ¬ (id.toNat = id₀.toNat ∧ socket = socket₀) :=
        ⟨fun both => at₀ both.1, fun both => at₀ ((meet here).2 both.1)⟩
      refine ⟨fun socket => ?_, fun socket other => ?_, fun socket same => ?_⟩
      · rw [Inputs.change_of_ne _ _ (elsewhere socket).1, Inputs.change_of_ne _ _ (elsewhere socket).2]
        exact fed.restrictions socket
      · rw [Inputs.change_of_ne _ _ (elsewhere socket).1, Inputs.change_of_ne _ _ (elsewhere socket).2]
        exact fed.alike socket other
      · rw [Inputs.change_of_ne _ _ (elsewhere socket).1, Inputs.change_of_ne _ _ (elsewhere socket).2]
        exact fed.sink socket same
  | reading output => exact fed.congr (Inputs.change_of_flip role₀ _ here rfl)
  | writing input =>
    obtain ⟨flip, ⟨x, x', taken, taken', alike⟩, j, restriction, there, feeding⟩ := fed
    have untouched (other : String) :
        inputs'.change i₀ socket₀ ({ · with restriction := some r }) i other = inputs' i other :=
      Inputs.change_of_flip role₀ _ here rfl other
    refine ⟨flip.congr (untouched "b"), ?_, ?_⟩
    · by_cases hit : input.node.toNat = id₀.toNat ∧ input.socket = socket₀
      · obtain ⟨node, rfl⟩ := hit
        rw [node] at taken ⊢
        exact ⟨{ x with restriction := some r }, x', by rw [Inputs.change_self, taken]; rfl,
          (untouched "a").trans taken', alike.literal, alike.source⟩
      · exact ⟨x, x', (Inputs.change_of_ne _ _ hit).trans taken, (untouched "a").trans taken', alike⟩
    · by_cases hit : j = i₀ ∧ input.socket = socket₀
      · obtain ⟨rfl, rfl⟩ := hit
        exact ⟨j, some r, there, by rw [Inputs.change_self, feeding]; rfl⟩
      · exact ⟨j, restriction, there, (Inputs.change_of_ne _ _ hit).trans feeding⟩

/-- More nodes are made. -/
theorem Role.Fed.grow {inputs₁ inputs₁' : Inputs} (grow : roles <+: roles')
    (inside : ∀ {i : Nat} {id : NodeId} {sink : Option String}, roles[i]? = some (.kept id sink) → id.toNat < size)
    (same : ∀ i < size, inputs₁ i = inputs i) (same' : ∀ i < roles.length, inputs₁' i = inputs' i) {i : Nat}
    {role : Role} (here : roles[i]? = some role) (fed : role.Fed roles inputs inputs' i) :
    role.Fed roles' inputs₁ inputs₁' i := by
  have le : (Pairing.apart roles).Le (.apart roles') := .apart grow
  have at' := same' i (List.getElem?_eq_some_iff.1 here).1
  have alike {x x' : ValueInput} (alike : x.Alike (.apart roles) x') : x.Alike (.apart roles') x' :=
    ⟨alike.literal, rel_imp alike.source fun _ _ output => output.mono le⟩
  cases role with
  | kept id sink =>
    have at₁ := same id.toNat (inside here)
    refine ⟨fun socket => ?_, fun socket other => ?_, fun socket sink => ?_⟩
    · rw [at₁, at']
      exact fed.restrictions socket
    · rw [at₁, at']
      exact rel_imp (fed.alike socket other) fun _ _ => alike
    · rw [at₁, at']
      rcases fed.sink socket sink with ⟨j, there⟩ | blank
      · exact .inl ⟨j, Pairing.getElem?_of_grow grow there⟩
      · exact .inr blank
  | reading output =>
    obtain ⟨flip, source, first, joins⟩ := fed
    exact ⟨flip.congr (congrFun at' "b"), source, by rw [at', first], joins.mono le⟩
  | writing input =>
    obtain ⟨flip, ⟨x, x', taken, taken', alike'⟩, j, restriction, there, feeding⟩ := fed
    refine ⟨flip.congr (congrFun at' "b"), ⟨x, x', ?_, by rw [at', taken'], alike alike'⟩,
      j, restriction, Pairing.getElem?_of_grow grow there, ?_⟩
    · rw [same _ (inside there), taken]
    · rw [same' j (List.getElem?_eq_some_iff.1 there).1, feeding]

/-- The input of a node is fed through a flip from now on. -/
theorem Role.Fed.attach {i₀ k : Nat} {a : SocketAddress}
    (role₀ : roles[i₀]? = some (.kept a.node (some a.socket))) (flip : roles[k]? = some (.writing a))
    (restriction : ∀ x, (f x).restriction = x.restriction) {x₀ : ValueInput} (present : inputs' i₀ a.socket = some x₀)
    {i : Nat} {role : Role} (here : roles[i]? = some role) (other : role ≠ .writing a)
    (fed : role.Fed roles inputs inputs' i) : role.Fed roles inputs (inputs'.change i₀ a.socket f) i := by
  cases role with
  | kept id sink =>
    refine ⟨fun socket => ?_, fun socket free => ?_, fun socket same => ?_⟩
    · by_cases hit : i = i₀ ∧ socket = a.socket
      · obtain ⟨rfl, rfl⟩ := hit
        rw [Inputs.change_self, ← fed.restrictions, present, Option.map_some, restriction, Option.getD_some]
        rfl
      · rw [Inputs.change_of_ne _ _ hit]
        exact fed.restrictions socket
    · rw [Inputs.change_of_ne _ _ fun hit => ?_]
      · exact fed.alike socket free
      · obtain ⟨rfl, rfl⟩ := hit
        rw [role₀] at here
        cases here
        exact free rfl
    · by_cases hit : i = i₀ ∧ socket = a.socket
      · obtain ⟨rfl, rfl⟩ := hit
        rw [role₀] at here
        cases here
        exact .inl ⟨k, flip⟩
      · rw [Inputs.change_of_ne _ _ hit]
        exact fed.sink socket same
  | reading output => exact fed.congr (Inputs.change_of_flip role₀ _ here rfl)
  | writing input =>
    obtain ⟨flip, ⟨x, x', taken, taken', alike⟩, j, restriction, there, feeding⟩ := fed
    have untouched (other : String) : inputs'.change i₀ a.socket f i other = inputs' i other :=
      Inputs.change_of_flip role₀ _ here rfl other
    refine ⟨flip.congr (untouched "b"), ⟨x, x', taken, (untouched "a").trans taken', alike⟩,
      j, restriction, there, ?_⟩
    refine (Inputs.change_of_ne _ _ fun hit => ?_).trans feeding
    obtain ⟨rfl, socket⟩ := hit
    rw [role₀] at there
    simp only [Option.some.injEq, Role.kept.injEq] at there
    obtain ⟨node, -⟩ := there
    cases a
    cases input
    cases node
    cases socket
    exact other rfl

end Changes

end ScriptGraph
