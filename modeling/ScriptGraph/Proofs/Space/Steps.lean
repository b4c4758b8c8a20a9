import Mathlib
import ScriptGraph.Proofs.Space.Twins

/-!
Steps that both runs take, and the flips that only one of them makes.

What happens to a node that was kept happens in both runs. A flip is placed in the converting run only: the other
run then goes on with what the flip stands for.
-/

namespace ScriptGraph

open Pattern

namespace Twins

variable {roles : List Role} {c c' : Context}

section Places

theorem length_le (twins : Twins roles c c') : roles.length ≤ NodeId.placeholderBase := twins.size ▸ twins.small.1

theorem inside (twins : Twins roles c c') {i : Nat} {id : NodeId} {sink : Option String}
    (role : roles[i]? = some (.kept id sink)) : id.toNat < c.graph.nodes.size := by
  obtain ⟨n, _, found, _⟩ := twins.kept role
  obtain ⟨_, there, _⟩ := Option.map_eq_some_iff.1 found
  exact (Array.getElem?_eq_some_iff.1 there).1

theorem inside' (twins : Twins roles c c') {i : Nat} {role : Role} (here : roles[i]? = some role) :
    i < c'.graph.nodes.size :=
  twins.size ▸ (List.getElem?_eq_some_iff.1 here).1

theorem size_le (twins : Twins roles c c') : c.graph.nodes.size ≤ roles.length := by
  have numbered := congrArg List.length twins.lists.numbered
  rw [List.length_map, List.length_range] at numbered
  exact numbered ▸ List.length_filterMap_le _ _

theorem isPlaceholder_new (twins : Twins roles c c') (room : c'.graph.nodes.size < NodeId.placeholderBase) :
    (NodeId.ofNat c.graph.nodes.size).isPlaceholder = false ∧
      (NodeId.ofNat c'.graph.nodes.size).isPlaceholder = false := by
  have le := twins.size_le
  have size := twins.size
  have base : NodeId.placeholderBase = 0x40000000 := rfl
  constructor
  · rw [NodeId.isPlaceholder, NodeId.toNat_ofNat (by omega)]
    simp only [decide_eq_false_iff_not]
    omega
  · rw [NodeId.isPlaceholder, NodeId.toNat_ofNat (by omega)]
    simp only [decide_eq_false_iff_not]
    omega

end Places

section Edits

/-- What is changed in both runs without a look at the inputs. -/
theorem edit (twins : Twins roles c c') {sink : Option String} {id id' : NodeId}
    (keeps : (Pairing.apart roles).Keeps sink id id') (f f' : Node → Node) (index : ∀ n, (f n).index = n.index)
    (index' : ∀ n, (f' n).index = n.index) (inputs : ∀ n, (f n).valuesIn = n.valuesIn)
    (inputs' : ∀ n, (f' n).valuesIn = n.valuesIn)
    (apart : ∀ n, { f n with valuesIn := Dict.empty } = f { n with valuesIn := Dict.empty })
    (apart' : ∀ n, { f' n with valuesIn := Dict.empty } = f' { n with valuesIn := Dict.empty })
    (alike : ∀ n n', n.Alike (.apart roles) n' → (f n).Alike (.apart roles) (f' n')) :
    Twins roles (c.modifyNode id f) (c'.modifyNode id' f') := by
  cases keeps with | kept role₀ _ _ =>
  have same : (c.modifyNode id f).graph.input? = c.graph.input? :=
    funext fun i => funext fun socket => Graph.input?_modifyNode twins.identified inputs i socket
  have same' : (c'.modifyNode id' f').graph.input? = c'.graph.input? :=
    funext fun i => funext fun socket => Graph.input?_modifyNode twins.identified' inputs' i socket
  exact
    { plain := twins.plain
      converting := twins.converting
      small := ⟨(Graph.size_modifyNode ..).trans_le twins.small.1, twins.small.2⟩
      identified := twins.identified.modifyNode id index
      identified' := twins.identified'.modifyNode id' index'
      size := (Graph.size_modifyNode ..).trans twins.size
      lists := (Graph.size_modifyNode c.graph id f).symm ▸ twins.lists
      kept := fun {i other sink} here => by
        obtain ⟨n, n', found, found', old⟩ := twins.kept here
        have met := twins.lists.place_eq_iff here role₀
        simp only [Context.modifyNode, Graph.bare?_modifyNode twins.identified apart,
          Graph.bare?_modifyNode twins.identified' apart', ← met, found, found']
        split
        · exact ⟨f n, f' n', rfl, rfl, alike n n' old⟩
        · exact ⟨n, n', rfl, rfl, old⟩
      flips := fun {i role} here flip => by
        obtain ⟨n', found', op⟩ := twins.flips here flip
        have other : i ≠ id'.toNat := Role.ne_of_ne here role₀ (by rintro rfl; cases flip)
        refine ⟨n', ?_, op⟩
        rw [Context.modifyNode, Graph.bare?_modifyNode twins.identified' apart', if_neg other, found']
      fed := fun here => by
        rw [same, same']
        exact twins.fed here }

/-- Inputs are changed, in each run one. -/
theorem changeInputs (twins : Twins roles c c') (a a' : SocketAddress) {f f' : ValueInput → ValueInput}
    (inside : a.node.toNat < c.graph.nodes.size) (inside' : a'.node.toNat < c'.graph.nodes.size)
    (fed : ∀ {i : Nat} {role : Role}, roles[i]? = some role → role.Fed roles
      (Inputs.change c.graph.input? a.node.toNat a.socket f)
      (Inputs.change c'.graph.input? a'.node.toNat a'.socket f') i) :
    Twins roles (c.modifyNode a.node (·.changeInput a.socket f))
      (c'.modifyNode a'.node (·.changeInput a'.socket f')) := by
  have changed : (c.modifyNode a.node (·.changeInput a.socket f)).graph.input? =
      Inputs.change c.graph.input? a.node.toNat a.socket f :=
    funext fun i => funext fun socket => Graph.input?_changeInput twins.identified inside a.socket f i socket
  have changed' : (c'.modifyNode a'.node (·.changeInput a'.socket f')).graph.input? =
      Inputs.change c'.graph.input? a'.node.toNat a'.socket f' :=
    funext fun i => funext fun socket => Graph.input?_changeInput twins.identified' inside' a'.socket f' i socket
  exact
    { plain := twins.plain
      converting := twins.converting
      small := ⟨(Graph.size_modifyNode ..).trans_le twins.small.1, twins.small.2⟩
      identified := twins.identified.modifyNode a.node fun _ => rfl
      identified' := twins.identified'.modifyNode a'.node fun _ => rfl
      size := (Graph.size_modifyNode ..).trans twins.size
      lists := (Graph.size_modifyNode c.graph a.node _).symm ▸ twins.lists
      kept := fun {i id sink} here => by
        simp only [Context.modifyNode, Graph.bare?_changeInput twins.identified,
          Graph.bare?_changeInput twins.identified']
        exact twins.kept here
      flips := fun {i role} here flip => by
        simp only [Context.modifyNode, Graph.bare?_changeInput twins.identified']
        exact twins.flips here flip
      fed := fun here => by
        rw [changed, changed']
        exact fed here }

/-- An input is fed anew in both runs. -/
theorem feed (twins : Twins roles c c') {a a' : SocketAddress} (input : (Pairing.apart roles).Input a a')
    {f f' : ValueInput → ValueInput} (feeds : ValueInput.Feeds (.apart roles) f f') :
    Twins roles (c.modifyNode a.node (·.changeInput a.socket f))
      (c'.modifyNode a'.node (·.changeInput a'.socket f')) := by
  cases input with
  | kept keeps socket free =>
    cases keeps with | kept role₀ _ _ =>
    exact twins.changeInputs _ _ (twins.inside role₀) (twins.inside' role₀) fun here =>
      Role.Fed.feed_kept twins.lists role₀ free feeds here (twins.fed here)
  | flipped role₀ =>
    obtain ⟨_, _, j, _, there, _⟩ := twins.fed role₀
    have short : roles.length ≤ 0x100000000 := twins.length_le.trans (by decide)
    exact twins.changeInputs _ _ (twins.inside there) (twins.inside' role₀) fun here =>
      Role.Fed.feed_flipped twins.lists short twins.fed role₀ feeds here

/-- An input is restricted in both runs. -/
theorem restrict (twins : Twins roles c c') {sink : Option String} {id id' : NodeId}
    (keeps : (Pairing.apart roles).Keeps sink id id') (socket : String) (r : TypeRestriction) :
    Twins roles (c.modifyNode id (·.changeInput socket ({ · with restriction := some r })))
      (c'.modifyNode id' (·.changeInput socket ({ · with restriction := some r }))) := by
  cases keeps with | kept role₀ _ _ =>
  exact twins.changeInputs ⟨id, socket⟩ ⟨id', socket⟩ (twins.inside role₀) (twins.inside' role₀)
    fun here => Role.Fed.restrict twins.lists role₀ r here (twins.fed here)

/-- Nothing happens to the nodes. -/
theorem aside (twins : Twins roles c c') {c₁ c₁' : Context} (nodes : c₁.graph.nodes = c.graph.nodes)
    (nodes' : c₁'.graph.nodes = c'.graph.nodes) (options : c₁.options = c.options) (options' : c₁'.options = c'.options)
    (small : c₁'.Small) : Twins roles c₁ c₁' := by
  have bare : c₁.graph.bare? = c.graph.bare? := funext fun i => by rw [Graph.bare?, nodes, Graph.bare?]
  have bare' : c₁'.graph.bare? = c'.graph.bare? := funext fun i => by rw [Graph.bare?, nodes', Graph.bare?]
  have input : c₁.graph.input? = c.graph.input? :=
    funext fun i => funext fun socket => by rw [Graph.input?, nodes, Graph.input?]
  have input' : c₁'.graph.input? = c'.graph.input? :=
    funext fun i => funext fun socket => by rw [Graph.input?, nodes', Graph.input?]
  exact
    { plain := options ▸ twins.plain
      converting := options' ▸ twins.converting
      small
      identified := fun i n found => twins.identified i n (nodes ▸ found)
      identified' := fun i n found => twins.identified' i n (nodes' ▸ found)
      size := nodes' ▸ twins.size
      lists := nodes ▸ twins.lists
      kept := fun here => by rw [bare, bare']; exact twins.kept here
      flips := fun here flip => by rw [bare']; exact twins.flips here flip
      fed := fun here => by rw [input, input']; exact twins.fed here }

end Edits

section Growth

/-- One more node is made in the converting run, and one or none in the other run. -/
theorem extend (twins : Twins roles c c') {c₁ c₁' : Context} {role : Role} (options : c₁.options = c.options)
    (options' : c₁'.options = c'.options) (small : c₁'.Small) (identified : c₁.graph.Identified)
    (identified' : c₁'.graph.Identified) (size' : c₁'.graph.nodes.size = roles.length + 1)
    (lists : Role.Lists (roles ++ [role]) c₁.graph.nodes.size)
    (bare : ∀ i < c.graph.nodes.size, c₁.graph.bare? i = c.graph.bare? i)
    (bare' : ∀ i < roles.length, c₁'.graph.bare? i = c'.graph.bare? i)
    (kept : ∀ id sink, role = .kept id sink → ∃ n n', c₁.graph.bare? id.toNat = some n ∧
      c₁'.graph.bare? roles.length = some n' ∧ n.Alike (.apart (roles ++ [role])) n')
    (flip : role.node? = none → ∃ n', c₁'.graph.bare? roles.length = some n' ∧ n'.op = .mathMul)
    (fed : ∀ {i : Nat} {older : Role}, roles[i]? = some older →
      older.Fed (roles ++ [role]) c₁.graph.input? c₁'.graph.input? i)
    (new : role.Fed (roles ++ [role]) c₁.graph.input? c₁'.graph.input? roles.length) :
    Twins (roles ++ [role]) c₁ c₁' := by
  have cases {i : Nat} {role' : Role} (here : (roles ++ [role])[i]? = some role') :
      roles[i]? = some role' ∨ i = roles.length ∧ role' = role := by
    rcases Nat.lt_or_ge i roles.length with old | last
    · exact .inl (by rwa [List.getElem?_append_left old] at here)
    · have inside := (List.getElem?_eq_some_iff.1 here).1
      rw [List.length_append, List.length_singleton] at inside
      obtain rfl : i = roles.length := by omega
      rw [List.getElem?_concat_length] at here
      exact .inr ⟨rfl, (Option.some.inj here).symm⟩
  exact
    { plain := options ▸ twins.plain
      converting := options' ▸ twins.converting
      small, identified, identified', lists
      size := by rw [size', List.length_append, List.length_singleton]
      kept := fun {i id sink} here => by
        rcases cases here with old | ⟨rfl, same⟩
        · obtain ⟨n, n', found, found', alike⟩ := twins.kept old
          exact ⟨n, n', (bare _ (twins.inside old)).trans found,
            (bare' i (List.getElem?_eq_some_iff.1 old).1).trans found', alike.mono (Pairing.Le.append roles role)⟩
        · exact kept id sink same.symm
      flips := fun {i role'} here flipped => by
        rcases cases here with old | ⟨rfl, rfl⟩
        · obtain ⟨n', found', op⟩ := twins.flips old flipped
          exact ⟨n', (bare' i (List.getElem?_eq_some_iff.1 old).1).trans found', op⟩
        · exact flip flipped
      fed := fun {i role'} here => by
        rcases cases here with old | ⟨rfl, rfl⟩
        · exact fed old
        · exact new }

theorem bare?_place_of_lt {g : Graph} {n : Node} {i : Nat} (inside : i < g.nodes.size) :
    (g.place n).bare? i = g.bare? i := by rw [Graph.bare?_place, if_neg (Nat.ne_of_lt inside)]

theorem input?_place_of_lt {g : Graph} {n : Node} {i : Nat} (inside : i < g.nodes.size) :
    (g.place n).input? i = g.input? i :=
  funext fun socket => by rw [Graph.input?_place, if_neg (Nat.ne_of_lt inside)]

theorem lists_append_flip {size : Nat} (lists : Role.Lists roles size) {role : Role} (flip : role.node? = none) :
    Role.Lists (roles ++ [role]) size where
  numbered := by rw [List.filterMap_append, List.filterMap_cons_none flip, List.filterMap_nil, List.append_nil,
    lists.numbered]
  ordered {i j id id' sink sink'} first second before := by
    have older {k : Nat} {id : NodeId} {sink : Option String} (here : (roles ++ [role])[k]? = some (.kept id sink)) :
        roles[k]? = some (.kept id sink) := by
      rcases Nat.lt_or_ge k roles.length with old | last
      · rwa [List.getElem?_append_left old] at here
      · have inside := (List.getElem?_eq_some_iff.1 here).1
        rw [List.length_append, List.length_singleton] at inside
        obtain rfl : k = roles.length := by omega
        rw [List.getElem?_concat_length] at here
        cases here
        cases flip
    exact lists.ordered (older first) (older second) before

theorem lists_append_kept {size : Nat} (lists : Role.Lists roles size) (small : size < 0x100000000)
    (inside : ∀ {i : Nat} {id : NodeId} {sink : Option String}, roles[i]? = some (.kept id sink) → id.toNat < size)
    (sink : Option String) : Role.Lists (roles ++ [.kept (.ofNat size) sink]) (size + 1) where
  numbered := by
    rw [List.filterMap_append, lists.numbered, List.range_succ, List.map_append]
    rfl
  ordered {i j id id' sink sink'} first second before := by
    have inside' := (List.getElem?_eq_some_iff.1 second).1
    rw [List.length_append, List.length_singleton] at inside'
    have old : i < roles.length := by omega
    rw [List.getElem?_append_left old] at first
    rcases Nat.lt_or_ge j roles.length with older | last
    · rw [List.getElem?_append_left older] at second
      exact lists.ordered first second before
    · obtain rfl : j = roles.length := by omega
      rw [List.getElem?_concat_length] at second
      cases second
      rw [NodeId.toNat_ofNat small]
      exact inside first

theorem alike_new (p : Pairing) (id id' : NodeId) (op : Op) :
    Node.Alike p { Node.new id op with valuesIn := Dict.empty } { Node.new id' op with valuesIn := Dict.empty } where
  op := rfl
  configuration := rfl
  valuesOut := rfl
  flowsIn := rfl
  flowsOut socket := by
    have idle := (Node.unwired_new id op).idle socket
    have same : (Node.new id' op).flowsOut = (Node.new id op).flowsOut := rfl
    rw [Node.targets] at idle
    show Option.Rel _ ((Node.new id op).flowsOut.find? socket) ((Node.new id' op).flowsOut.find? socket)
    rw [same]
    cases found : (Node.new id op).flowsOut.find? socket with
    | none => exact .none
    | some output =>
      rw [found] at idle
      have none : output.targets = [] := idle
      exact .some (by rw [none]; exact .nil)

/-- Both runs make a node. -/
theorem place (twins : Twins roles c c') (room : c'.graph.nodes.size < NodeId.placeholderBase) (op : Op)
    {sink : Option String} (has : ∀ socket, sink = some socket → socket ∈ op.schema.valuesIn) :
    Twins (roles ++ [.kept (.ofNat c.graph.nodes.size) sink]) (c.place (.new (.ofNat c.graph.nodes.size) op))
      (c'.place (.new (.ofNat c'.graph.nodes.size) op)) := by
  have size := twins.size
  have le := twins.size_le
  have base : NodeId.placeholderBase = 0x40000000 := rfl
  have number : (NodeId.ofNat c.graph.nodes.size).toNat = c.graph.nodes.size := NodeId.toNat_ofNat (by omega)
  have grow : roles <+: roles ++ [.kept (.ofNat c.graph.nodes.size) sink] := List.prefix_append ..
  have same (socket : String) : (Node.new (.ofNat c'.graph.nodes.size) op).valueIn? socket =
      (Node.new (.ofNat c.graph.nodes.size) op).valueIn? socket := rfl
  refine twins.extend rfl rfl ⟨?_, twins.small.2⟩ (twins.identified.place rfl) (twins.identified'.place rfl) ?_ ?_
    (fun i inside => bare?_place_of_lt inside) (fun i inside => bare?_place_of_lt (size ▸ inside)) ?_ ?_ ?_ ?_
  · simp only [Context.place, Graph.place, Array.size_push]
    omega
  · simp only [Context.place, Graph.place, Array.size_push, size]
  · simp only [Context.place, Graph.place, Array.size_push]
    exact lists_append_kept twins.lists (by omega) twins.inside sink
  · rintro id sink ⟨rfl, rfl⟩
    refine ⟨_, _, ?_, ?_, alike_new _ (.ofNat c.graph.nodes.size) (.ofNat c'.graph.nodes.size) op⟩
    · rw [number, Context.place, Graph.bare?_place, if_pos rfl]
    · rw [← size, Context.place, Graph.bare?_place, if_pos rfl]
  · intro flip
    cases flip
  · intro i older here
    exact Role.Fed.grow grow twins.inside (fun i inside => input?_place_of_lt inside)
      (fun i inside => input?_place_of_lt (size ▸ inside)) here (twins.fed here)
  · refine ⟨fun socket => ?_, fun socket _ => ?_, fun socket here => .inr ⟨none, ?_⟩⟩
    · rw [number, ← size, Context.place, Graph.input?_place, if_pos rfl, Context.place, Graph.input?_place, if_pos rfl,
        same]
    · rw [number, ← size, Context.place, Graph.input?_place, if_pos rfl, Context.place, Graph.input?_place, if_pos rfl,
        same]
      cases found : (Node.new (.ofNat c.graph.nodes.size) op).valueIn? socket with
      | none => exact .none
      | some x =>
        obtain ⟨_, rfl⟩ := Node.valueIn?_new found
        exact .some (ValueInput.alike_blank _)
    · have blank : (Node.new (.ofNat c.graph.nodes.size) op).valueIn? socket = some {} := by
        have present : (Node.new (.ofNat c.graph.nodes.size) op).valuesIn.contains socket = true :=
          (Dict.contains_ofList _ _).2 (by simpa using has socket here)
        obtain ⟨x, found⟩ := Option.isSome_iff_exists.1 present
        obtain ⟨_, rfl⟩ := Node.valueIn?_new found
        exact found
      rw [number, ← size, Context.place, Graph.input?_place, if_pos rfl, Context.place, Graph.input?_place, if_pos rfl,
        same]
      exact ⟨blank, blank⟩

end Growth

section Flips

/-- A multiplication by constant signs, with nothing to multiply yet. -/
def signed (id : NodeId) (factor : Literal) : Node :=
  (Node.new id .mathMul).changeInput "b" ({ · with literal := some factor })

/-- A flip of what comes from a source. -/
def flipped (id : NodeId) (factor : Literal) (source : SocketAddress) : Node :=
  (signed id factor).changeInput "a" ({ · with source := some source })

theorem valueIn?_signed (id : NodeId) (factor : Literal) :
    (signed id factor).valueIn? "a" = some {} ∧ (signed id factor).valueIn? "b" = some { literal := some factor } := by
  have first : (Node.new (.ofNat 0) .mathMul).valuesIn.find? "a" = some {} := by decide +kernel
  have second : (Node.new (.ofNat 0) .mathMul).valuesIn.find? "b" = some {} := by decide +kernel
  have same : (Node.new id .mathMul).valuesIn = (Node.new (.ofNat 0) .mathMul).valuesIn := rfl
  simp only [signed, Node.changeInput, Node.valueIn?, Dict.find?_update, same, first, second]
  exact ⟨rfl, rfl⟩

theorem valueIn?_flipped (id : NodeId) (factor : Literal) (source : SocketAddress) :
    (flipped id factor source).valueIn? "a" = some { source := some source } ∧
      (flipped id factor source).valueIn? "b" = some { literal := some factor } := by
  obtain ⟨first, second⟩ := valueIn?_signed id factor
  constructor
  · rw [flipped, Node.valueIn?, Node.changeInput, Dict.find?_update, if_pos rfl,
      show (signed id factor).valuesIn.find? "a" = some {} from first]
    rfl
  · rw [flipped, Node.valueIn?, Node.changeInput, Dict.find?_update, if_neg (by decide)]
    exact second

/-- The converting run makes a flip of what an output carries. -/
theorem placeReading (twins : Twins roles c c') (room : c'.graph.nodes.size < NodeId.placeholderBase)
    {factor : Literal} (signs : factor = positionFlip ∨ factor = rotationFlip) {a a' : SocketAddress}
    (joins : (Pairing.apart roles).Joins a a') :
    Twins (roles ++ [.reading a]) c (c'.place (flipped (.ofNat c'.graph.nodes.size) factor a')) := by
  have size := twins.size
  have grow : roles <+: roles ++ [.reading a] := List.prefix_append ..
  obtain ⟨first, second⟩ := valueIn?_flipped (.ofNat c'.graph.nodes.size) factor a'
  refine twins.extend rfl rfl ⟨?_, twins.small.2⟩ twins.identified (twins.identified'.place rfl) ?_
    (lists_append_flip twins.lists rfl) (fun _ _ => rfl) (fun i inside => bare?_place_of_lt (size ▸ inside)) ?_ ?_ ?_ ?_
  · simp only [Context.place, Graph.place, Array.size_push]
    omega
  · simp only [Context.place, Graph.place, Array.size_push, size]
  · rintro _ _ ⟨⟩
  · intro _
    refine ⟨{ flipped (.ofNat c'.graph.nodes.size) factor a' with valuesIn := Dict.empty }, ?_, rfl⟩
    rw [← size, Context.place, Graph.bare?_place, if_pos rfl]
  · intro i older here
    exact Role.Fed.grow grow twins.inside (fun _ _ => rfl) (fun i inside => input?_place_of_lt (size ▸ inside)) here
      (twins.fed here)
  · refine ⟨⟨factor, signs, ?_⟩, a', ?_, joins.mono (Pairing.Le.append roles _)⟩
    · rw [← size, Context.place, Graph.input?_place, if_pos rfl, second]
    · rw [← size, Context.place, Graph.input?_place, if_pos rfl, first]

/-- The converting run makes a flip of what an input takes. -/
theorem placeWriting (twins : Twins roles c c') (room : c'.graph.nodes.size < NodeId.placeholderBase)
    {factor : Literal} (signs : factor = positionFlip ∨ factor = rotationFlip) {id id' : NodeId} {socket : String}
    (keeps : (Pairing.apart roles).Keeps (some socket) id id')
    (unfed : ∀ j : Nat, roles[j]? ≠ some (.writing ⟨id, socket⟩)) :
    Twins (roles ++ [.writing ⟨id, socket⟩]) c
      ((c'.place (signed (.ofNat c'.graph.nodes.size) factor)).modifyNode id'
        (·.changeInput socket ({ · with source := some ⟨.ofNat c'.graph.nodes.size, "value"⟩ }))) := by
  cases keeps with | kept role₀ _ _ =>
  have size := twins.size
  have inside := twins.inside' role₀
  have grow : roles <+: roles ++ [.writing ⟨id, socket⟩] := List.prefix_append ..
  obtain ⟨first, second⟩ := valueIn?_signed (.ofNat c'.graph.nodes.size) factor
  let placed := c'.place (signed (.ofNat c'.graph.nodes.size) factor)
  let feeding (x : ValueInput) : ValueInput := { x with source := some ⟨.ofNat c'.graph.nodes.size, "value"⟩ }
  have identified : placed.graph.Identified := twins.identified'.place rfl
  have total : placed.graph.nodes.size = c'.graph.nodes.size + 1 := Array.size_push ..
  have atFlip (other : String) : placed.graph.input? roles.length other =
      (signed (.ofNat c'.graph.nodes.size) factor).valueIn? other :=
    (Graph.input?_place ..).trans (if_pos size.symm)
  have before {i : Nat} (old : i < roles.length) : placed.graph.input? i = c'.graph.input? i :=
    input?_place_of_lt (size ▸ old)
  have role₁ : (roles ++ [.writing ⟨id, socket⟩])[id'.toNat]? = some (.kept id (some socket)) :=
    Pairing.getElem?_of_grow grow role₀
  have here : (roles ++ [.writing ⟨id, socket⟩])[roles.length]? = some (.writing ⟨id, socket⟩) :=
    List.getElem?_concat_length
  -- The input is blank, since no flip feeds it.
  have unwritten : ¬ ∃ j : Nat, roles[j]? = some (.writing ⟨id, socket⟩) := not_exists.2 unfed
  obtain ⟨restriction, blank, blank'⟩ := (Inputs.Kept.sink (twins.fed role₀) socket rfl).resolve_left unwritten
  have present : placed.graph.input? id'.toNat socket = some { restriction } := by
    rw [before (size ▸ inside), blank']
  have changed : (placed.modifyNode id' (·.changeInput socket feeding)).graph.input? =
      Inputs.change placed.graph.input? id'.toNat socket feeding :=
    funext fun i => funext fun other => Graph.input?_changeInput identified (by omega) socket feeding i other
  have bare (i : Nat) : (placed.modifyNode id' (·.changeInput socket feeding)).graph.bare? i = placed.graph.bare? i :=
    Graph.bare?_changeInput identified socket feeding i
  have number : (placed.modifyNode id' (·.changeInput socket feeding)).graph.nodes.size = roles.length + 1 := by
    rw [Context.modifyNode, Graph.size_modifyNode, total, size]
  refine twins.extend rfl rfl ⟨?_, twins.small.2⟩ twins.identified (identified.modifyNode id' fun _ => rfl) number
    (lists_append_flip twins.lists rfl) (fun _ _ => rfl) (fun i old => ?_) ?_ ?_ ?_ ?_
  · exact number.trans_le (size ▸ room)
  · exact (bare i).trans (bare?_place_of_lt (size ▸ old))
  · rintro _ _ ⟨⟩
  · intro _
    refine ⟨{ signed (.ofNat c'.graph.nodes.size) factor with valuesIn := Dict.empty }, ?_, rfl⟩
    exact (bare _).trans ((Graph.bare?_place ..).trans (if_pos size.symm))
  · intro i older old
    have grown : older.Fed (roles ++ [.writing ⟨id, socket⟩]) c.graph.input? placed.graph.input? i :=
      Role.Fed.grow grow twins.inside (fun _ _ => rfl) (fun i old => before old) old (twins.fed old)
    rw [changed]
    exact Role.Fed.attach (a := ⟨id, socket⟩) (f := feeding) role₁ here (fun _ => rfl) present
      (Pairing.getElem?_of_grow grow old) (fun same => unfed i (same ▸ old)) grown
  · have apart (other : String) : ¬ (roles.length = id'.toNat ∧ other = socket) := fun both => by omega
    rw [changed]
    refine ⟨⟨factor, signs, ?_⟩, ⟨{ restriction }, {}, blank, ?_, rfl, .none⟩, id'.toNat, restriction, role₁, ?_⟩
    · rw [Inputs.change_of_ne _ _ (apart _), atFlip, second]
    · rw [Inputs.change_of_ne _ _ (apart _), atFlip, first]
    · rw [Inputs.change_self, present, ← size]
      rfl

end Flips

end Twins

end ScriptGraph
