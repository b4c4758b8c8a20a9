import Mathlib
import ScriptGraph.Proofs.Compile.Findings

/-!
The type at a value output as the end of a chain.

An output has a type of its own, or that of an input of its node, which another output may feed in turn.
Following the chain gives its only possible outcome (`Graph.LeadsTo`), on graphs with circles as well: an
address that comes up again ends the search, so there are no more links to follow than outputs.
-/

namespace ScriptGraph

namespace Graph

/-- The value output at an address. -/
def outputAt? (g : Graph) (a : SocketAddress) : Option ValueOutput :=
  (g.node? a.node).bind (·.valuesOut.find? a.socket)

/-- The value input at an address. -/
def inputAt? (g : Graph) (a : SocketAddress) : Option ValueInput :=
  (g.node? a.node).bind (·.valueIn? a.socket)

/-- Why an input has no type to share. -/
inductive Typeless (g : Graph) : Option ValueInput → Prop
  | absent : g.Typeless none
  | dangling {input : ValueInput} (dangling : input.isDangling = true) : g.Typeless (some input)
  | conflicting {input : ValueInput} (conflicting : input.isConflicting = true) : g.Typeless (some input)
  | placeholder {input : ValueInput} {source : SocketAddress} (single : input.literal = none)
      (fed : input.source = some source) (placeholder : source.node.isPlaceholder = true) :
      g.Typeless (some input)
  | missingNode {input : ValueInput} {source : SocketAddress} (single : input.literal = none)
      (fed : input.source = some source) (missing : g.node? source.node = none) : g.Typeless (some input)
  | missingOutput {input : ValueInput} {source : SocketAddress} {n : Node} (single : input.literal = none)
      (fed : input.source = some source) (found : g.node? source.node = some n)
      (missing : n.valuesOut.contains source.socket = false) : g.Typeless (some input)

/-- What the last output of a chain says: its type is its own or that of a constant on the input it shares with,
or it is not declared, or that input has none. -/
inductive EndsAs (g : Graph) (a : SocketAddress) : TypeLookup → Prop
  | exact {type : ValueType} (output : g.outputAt? a = some ⟨some (.exact type)⟩) : g.EndsAs a (.known type)
  | constant {name : String} {input : ValueInput} {literal : Literal}
      (output : g.outputAt? a = some ⟨some (.fromInput name)⟩) (found : g.inputAt? ⟨a.node, name⟩ = some input)
      (holds : input.literal = some literal) (single : input.source = none) :
      g.EndsAs a (.known literal.valueType)
  | undeclared (output : g.outputAt? a = some ⟨none⟩) : g.EndsAs a .undetermined
  | stuck {name : String} (output : g.outputAt? a = some ⟨some (.fromInput name)⟩)
      (typeless : g.Typeless (g.inputAt? ⟨a.node, name⟩)) : g.EndsAs a .blocked

/-- The chain goes on: the output shares its type with an input that only another output feeds. -/
def TypeFrom (g : Graph) (a b : SocketAddress) : Prop :=
  ∃ name input, g.outputAt? a = some ⟨some (.fromInput name)⟩ ∧ g.inputAt? ⟨a.node, name⟩ = some input ∧
    input.literal = none ∧ input.source = some b ∧ b.node.isPlaceholder = false ∧ (g.outputAt? b).isSome = true

/-- Where the chain from an address leads: to its end, or in a circle. -/
inductive LeadsTo (g : Graph) (source : SocketAddress) : TypeLookup → Prop
  | ends {a : SocketAddress} {result : TypeLookup} (path : Relation.ReflTransGen g.TypeFrom source a)
      (ends : g.EndsAs a result) : g.LeadsTo source result
  | circle {a : SocketAddress} (path : Relation.ReflTransGen g.TypeFrom source a)
      (again : Relation.TransGen g.TypeFrom a a) : g.LeadsTo source .undetermined

section Lookups

variable {g : Graph}

theorem mem_of_node? {id : NodeId} {n : Node} (found : g.node? id = some n) : n ∈ g.nodes ∧ n.index = id := by
  obtain ⟨position, here, there⟩ := Option.bind_eq_some_iff.1 found
  obtain ⟨inside, same, _⟩ := Array.findIdx?_eq_some_iff_getElem.1 here
  rw [Array.getElem?_eq_getElem inside] at there
  obtain rfl := Option.some.inj there
  exact ⟨Array.getElem_mem inside, by simpa using same⟩

theorem mem_outputs_of_outputAt? {a : SocketAddress} (there : (g.outputAt? a).isSome = true) : a ∈ g.outputs := by
  obtain ⟨output, found⟩ := Option.isSome_iff_exists.1 there
  obtain ⟨n, node, socket⟩ := Option.bind_eq_some_iff.1 found
  obtain ⟨member, index⟩ := mem_of_node? node
  have listed : a.socket ∈ n.valuesOut.keys := Dict.mem_keys_of_contains (Option.isSome_iff_exists.2 ⟨_, socket⟩)
  refine List.mem_flatMap.2 ⟨n, Array.mem_toList_iff.2 member, List.mem_map.2 ⟨a.socket, listed, ?_⟩⟩
  rw [index]

/-- A connection is in order if it comes from an output of a node. -/
theorem connectionProblem?_eq_none_iff {source : SocketAddress} :
    g.connectionProblem? source = none ↔
      source.node.isPlaceholder = false ∧ (g.outputAt? source).isSome = true := by
  unfold connectionProblem? outputAt?
  cases source.node.isPlaceholder with
  | true => simp
  | false =>
    cases g.node? source.node with
    | none => simp
    | some feeder => cases found : feeder.valuesOut.find? source.socket <;> simp [Dict.contains, found]

/-- A connection with a problem has no type to share. -/
theorem typeless_of_problem {input : ValueInput} {source : SocketAddress} (single : input.literal = none)
    (fed : input.source = some source) (problem : (g.connectionProblem? source).isSome = true) :
    g.Typeless (some input) := by
  unfold connectionProblem? at problem
  split at problem
  · next placeholder => exact .placeholder single fed placeholder
  · split at problem
    · next missing => exact .missingNode single fed missing
    · next feeder found =>
      split at problem
      · cases problem
      · next missing => exact .missingOutput single fed found (by simpa using missing)

end Lookups

section Chain

variable {g : Graph} {a b source : SocketAddress}

/-- One link of the search: it is the last one, or it goes on with the next. -/
theorem outputTypeWithin_cases {visited : List SocketAddress} (there : (g.outputAt? source).isSome = true)
    (new : source ∉ visited) (fuel : Nat) :
    g.EndsAs source (g.outputTypeWithin (fuel + 1) visited source) ∨
    ∃ next, g.TypeFrom source next ∧
      g.outputTypeWithin (fuel + 1) visited source = g.outputTypeWithin fuel (source :: visited) next := by
  obtain ⟨⟨expected⟩, output⟩ := Option.isSome_iff_exists.1 there
  obtain ⟨feeder, node, socket⟩ := Option.bind_eq_some_iff.1 output
  simp only [outputTypeWithin, List.contains_iff_mem, new, if_false, node, socket, Option.bind_some]
  cases expected with
  | none => exact .inl (.undeclared output)
  | some expected =>
  cases expected with
  | exact type => exact .inl (.exact output)
  | fromInput name =>
  dsimp only
  have inputs : g.inputAt? ⟨source.node, name⟩ = feeder.valueIn? name := by rw [inputAt?, node, Option.bind_some]
  have stuck (typeless : g.Typeless (feeder.valueIn? name)) : g.EndsAs source .blocked :=
    .stuck output (inputs ▸ typeless)
  cases found : feeder.valueIn? name with
  | none => exact .inl (stuck (found ▸ .absent))
  | some input =>
  rw [found] at inputs stuck
  obtain ⟨literal?, source?, _⟩ := input
  cases literal? with
  | none =>
    cases source? with
    | none => exact .inl (stuck (.dangling rfl))
    | some next =>
      dsimp only
      split
      · next problem => exact .inl (stuck (typeless_of_problem rfl rfl problem))
      · next whole =>
        have reached := connectionProblem?_eq_none_iff.1 (Option.not_isSome_iff_eq_none.1 whole)
        exact .inr ⟨next, ⟨name, _, output, inputs, rfl, rfl, reached⟩, rfl⟩
  | some literal =>
    cases source? with
    | none => exact .inl (.constant output inputs rfl rfl)
    | some next => exact .inl (stuck (.conflicting rfl))

theorem LeadsTo.head {result : TypeLookup} (link : g.TypeFrom a b) (leads : g.LeadsTo b result) :
    g.LeadsTo a result := by
  cases leads with
  | ends path ends => exact .ends (path.head link) ends
  | circle path again => exact .circle (path.head link) again

/-- The search finds where the chain leads, as long as there is fuel for the outputs not visited yet. Every
visited address leads to the present one, so an address that comes up again lies on a circle. -/
theorem leadsTo_outputTypeWithin (fuel : Nat) (visited : List SocketAddress) (source : SocketAddress)
    (there : (g.outputAt? source).isSome = true) (nodup : visited.Nodup) (known : ∀ v ∈ visited, v ∈ g.outputs)
    (behind : ∀ v ∈ visited, Relation.TransGen g.TypeFrom v source)
    (enough : g.outputs.length < fuel + visited.length) :
    g.LeadsTo source (g.outputTypeWithin fuel visited source) := by
  induction fuel generalizing visited source with
  | zero =>
    have few : visited.length ≤ g.outputs.length := (List.Nodup.subperm nodup known).length_le
    omega
  | succ fuel ih =>
    by_cases again : source ∈ visited
    · have stops : g.outputTypeWithin (fuel + 1) visited source = .undetermined := by
        simp only [outputTypeWithin, List.contains_iff_mem, again, if_true]
      rw [stops]
      exact .circle .refl (behind source again)
    · rcases outputTypeWithin_cases there again fuel with ends | ⟨next, link, goes⟩
      · exact .ends .refl ends
      · rw [goes]
        have there' : (g.outputAt? next).isSome = true := by
          obtain ⟨_, _, _, _, _, _, _, there'⟩ := link
          exact there'
        refine .head link (ih (source :: visited) next there' (List.nodup_cons.2 ⟨again, nodup⟩) ?_ ?_ ?_)
        · exact List.forall_mem_cons.2 ⟨mem_outputs_of_outputAt? there, known⟩
        · exact List.forall_mem_cons.2 ⟨.single link, fun v member => (behind v member).tail link⟩
        · rw [List.length_cons]
          omega

end Chain

section Unique

variable {g : Graph} {a b c source : SocketAddress} {result result' : TypeLookup}

/-- An address has one successor at most. -/
theorem rightUnique_typeFrom : Relator.RightUnique g.TypeFrom := by
  rintro a b c ⟨name, input, output, found, _, fed, _⟩ ⟨name', input', output', found', _, fed', _⟩
  obtain rfl : name = name' := by simpa [output] using output'
  obtain rfl : input = input' := by simpa [found] using found'
  exact Option.some.inj (fed.symm.trans fed')

/-- An input with no type to share feeds no chain. -/
theorem Typeless.not_fed {input : ValueInput} {next : SocketAddress} (typeless : g.Typeless (some input))
    (single : input.literal = none) (fed : input.source = some next) :
    ¬ (next.node.isPlaceholder = false ∧ (g.outputAt? next).isSome = true) := by
  rintro ⟨real, there⟩
  obtain ⟨output, found⟩ := Option.isSome_iff_exists.1 there
  obtain ⟨n, node, socket⟩ := Option.bind_eq_some_iff.1 found
  cases typeless with
  | dangling dangling => simp [ValueInput.isDangling, fed] at dangling
  | conflicting conflicting => simp [ValueInput.isConflicting, single] at conflicting
  | placeholder _ fed' placeholder =>
    obtain rfl := Option.some.inj (fed.symm.trans fed')
    simp [real] at placeholder
  | missingNode _ fed' missing =>
    obtain rfl := Option.some.inj (fed.symm.trans fed')
    simp [node] at missing
  | missingOutput _ fed' node' missing =>
    obtain rfl := Option.some.inj (fed.symm.trans fed')
    obtain rfl := Option.some.inj (node.symm.trans node')
    simp [Dict.contains, socket] at missing

theorem Typeless.not_constant {input : ValueInput} {literal : Literal} (typeless : g.Typeless (some input))
    (holds : input.literal = some literal) : input.source ≠ none := by
  intro single
  cases typeless with
  | dangling dangling => simp [ValueInput.isDangling, holds] at dangling
  | conflicting conflicting => simp [ValueInput.isConflicting, single] at conflicting
  | placeholder none | missingNode none | missingOutput none => simp [holds] at none

/-- Where a chain ends it does not go on. -/
theorem EndsAs.not_typeFrom (ends : g.EndsAs a result) : ¬ g.TypeFrom a b := by
  rintro ⟨name, input, output, found, single, fed, reached⟩
  cases ends with
  | exact output' => simp [output] at output'
  | constant output' found' holds =>
    obtain rfl : name = _ := by simpa [output] using output'
    obtain rfl : input = _ := by simpa [found] using found'
    simp [single] at holds
  | undeclared output' => simp [output] at output'
  | stuck output' typeless =>
    obtain rfl : name = _ := by simpa [output] using output'
    rw [found] at typeless
    exact typeless.not_fed single fed reached

theorem EndsAs.unique (ends : g.EndsAs a result) (ends' : g.EndsAs a result') : result = result' := by
  cases ends with
  | exact output =>
    cases ends' with
    | exact output' => simpa [output] using output'
    | constant output' | undeclared output' | stuck output' => simp [output] at output'
  | constant output found holds single =>
    cases ends' with
    | exact output' | undeclared output' => simp [output] at output'
    | constant output' found' holds' =>
      obtain rfl : _ = _ := by simpa [output] using output'
      obtain rfl : _ = _ := by simpa [found] using found'
      obtain rfl := Option.some.inj (holds.symm.trans holds')
      rfl
    | stuck output' typeless =>
      obtain rfl : _ = _ := by simpa [output] using output'
      rw [found] at typeless
      exact absurd single (typeless.not_constant holds)
  | undeclared output =>
    cases ends' with
    | undeclared => rfl
    | exact output' | constant output' | stuck output' => simp [output] at output'
  | stuck output typeless =>
    cases ends' with
    | exact output' | undeclared output' => simp [output] at output'
    | constant output' found holds single =>
      obtain rfl : _ = _ := by simpa [output] using output'
      rw [found] at typeless
      exact absurd single (typeless.not_constant holds)
    | stuck => rfl

/-- What is reached from a circle lies on it. -/
theorem circle_of_path (again : Relation.TransGen g.TypeFrom a a) (path : Relation.ReflTransGen g.TypeFrom a b) :
    Relation.TransGen g.TypeFrom b b := by
  induction path with
  | refl => exact again
  | tail _ link ih =>
    obtain ⟨next, link', back⟩ := Relation.TransGen.head'_iff.1 ih
    obtain rfl := rightUnique_typeFrom link link'
    exact .tail' back link

/-- A chain that ends has no other end, and does not go in a circle. -/
theorem eq_end_of_path (path : Relation.ReflTransGen g.TypeFrom source a) (ends : g.EndsAs a result)
    (path' : Relation.ReflTransGen g.TypeFrom source b) : Relation.ReflTransGen g.TypeFrom b a := by
  rcases path.total_of_right_unique rightUnique_typeFrom path' with on | back
  · rcases on.cases_head with rfl | ⟨next, link, _⟩
    · exact .refl
    · exact absurd link ends.not_typeFrom
  · exact back

theorem LeadsTo.unique (leads : g.LeadsTo source result) (leads' : g.LeadsTo source result') :
    result = result' := by
  have apart {a b : SocketAddress} {result : TypeLookup} (path : Relation.ReflTransGen g.TypeFrom source a)
      (ends : g.EndsAs a result) (path' : Relation.ReflTransGen g.TypeFrom source b)
      (again : Relation.TransGen g.TypeFrom b b) : False := by
    obtain ⟨next, link, _⟩ := Relation.TransGen.head'_iff.1 (circle_of_path again (eq_end_of_path path ends path'))
    exact ends.not_typeFrom link
  cases leads with
  | ends path ends =>
    cases leads' with
    | ends path' ends' =>
      rcases (eq_end_of_path path ends path').cases_head with rfl | ⟨next, link, _⟩
      · exact ends.unique ends'
      · exact absurd link ends'.not_typeFrom
    | circle path' again => exact (apart path ends path' again).elim
  | circle path again =>
    cases leads' with
    | ends path' ends' => exact (apart path' ends' path again).elim
    | circle => rfl

end Unique

theorem leadsTo_outputType {g : Graph} {source : SocketAddress} (there : (g.outputAt? source).isSome = true) :
    g.LeadsTo source (g.outputType source) :=
  leadsTo_outputTypeWithin _ [] source there List.nodup_nil (by simp) (by simp) (by simp)

/-- The search for a type tells where the chain leads: to a type, to nothing that decides it, or to an input that
has none. It needs no more fuel than there are outputs. -/
theorem outputType_eq_iff_leadsTo {g : Graph} {source : SocketAddress} (there : (g.outputAt? source).isSome = true) :
    (∀ result, g.outputType source = result ↔ g.LeadsTo source result) ∧
      ∀ fuel, g.outputs.length < fuel → g.outputTypeWithin fuel [] source = g.outputType source := by
  have leads (fuel : Nat) (enough : g.outputs.length < fuel) :
      g.LeadsTo source (g.outputTypeWithin fuel [] source) :=
    leadsTo_outputTypeWithin fuel [] source there List.nodup_nil (by simp) (by simp) (by simpa using enough)
  have found := leadsTo_outputType there
  refine ⟨fun result => ⟨?_, fun leads => found.unique leads⟩, fun fuel enough => (leads fuel enough).unique found⟩
  rintro rfl
  exact found

/-- Two negations that feed each other, and two in a row behind a constant. -/
def negations : Graph :=
  let negation (n : Nat) (f : ValueInput → ValueInput) : Node := (Node.new (.ofNat n) .mathNeg).changeInput "a" f
  { nodes := #[negation 0 (·.fedBy ⟨.ofNat 1, "value"⟩), negation 1 (·.fedBy ⟨.ofNat 0, "value"⟩),
      negation 2 (·.holding (.int 3)), negation 3 (·.fedBy ⟨.ofNat 2, "value"⟩)] }

/-- The circle decides nothing, and the row has the type of its constant. -/
theorem negations_leadsTo :
    (negations.outputAt? ⟨.ofNat 0, "value"⟩).isSome = true ∧
      negations.LeadsTo ⟨.ofNat 0, "value"⟩ .undetermined ∧
      (negations.outputAt? ⟨.ofNat 3, "value"⟩).isSome = true ∧
      negations.LeadsTo ⟨.ofNat 3, "value"⟩ (.known .int) := by
  have circle : (negations.outputAt? ⟨.ofNat 0, "value"⟩).isSome = true := by cbv
  have row : (negations.outputAt? ⟨.ofNat 3, "value"⟩).isSome = true := by cbv
  exact ⟨circle, ((outputType_eq_iff_leadsTo circle).1 _).1 (by cbv), row,
    ((outputType_eq_iff_leadsTo row).1 _).1 (by cbv)⟩

end Graph

end ScriptGraph
