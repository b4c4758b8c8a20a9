import Mathlib.Logic.Relation
import ScriptGraph.Proofs.Construction.Knowledge

/-!
What every run of legal steps leaves in order.

No value depends on itself: an edge is drawn from a new node to an older one, or across a border that no
edge crosses the other way. Sockets are those that the operation of their node declares, no flow leads to
two places, and where a flow leads there is an input for it.
-/

namespace ScriptGraph

/-- An edit of a placed node by a legal step. -/
inductive Node.Edited : Node → Node → Prop
  | feed {n : Node} {socket : String} {source : SocketAddress}
      (takes : n.Takes socket ∨ n.Unlabeled)
      (unset : ∀ input, n.valueIn? socket = some input → input.literal = none) :
      Edited n (n.changeInput socket (·.fedBy source))
  | put {n : Node} {socket : String} {value : Literal} (takes : n.Takes socket)
      (unfed : ∀ input, n.valueIn? socket = some input → input.source = none) :
      Edited n (n.changeInput socket (·.holding value))
  | label {n : Node} {name : String} {value : ConfigValue} (isLog : n.op = .debugLog) :
      Edited n (n.configure name value)
  | lead {n : Node} {socket : String} {target : SocketAddress}
      (declared : Validation.hasFlowOutput n socket = true) (free : n.targets socket = []) :
      Edited n (n.addTarget socket target)
  | enter {n : Node} {socket : String} (admits : Validation.takesFlowInput n socket = true) :
      Edited n (n.addFlowIn socket)

/-- The sockets of a node are declared, its inputs have one feed each, its flows one target each. The
inputs of a log node are declared by its message, which comes last. -/
structure Node.Tidy (n : Node) : Prop where
  narrow : ∀ socket, (n.targets socket).length ≤ 1
  leads : ∀ socket, n.flowsOut.contains socket = true → Validation.hasFlowOutput n socket = true
  enters : ∀ socket, n.flowsIn.contains socket = true → Validation.takesFlowInput n socket = true
  single : ∀ socket input, n.valueIn? socket = some input → input.literal = none ∨ input.source = none
  takes : n.op ≠ .debugLog → ∀ socket, n.valuesIn.contains socket = true → n.Takes socket

namespace Node

theorem contains_of_update {α : Type} {d : Dict α} {key other : String} {f : Option α → α}
    (member : (d.update key f).contains other = true) : other = key ∨ d.contains other = true := by
  rw [Dict.contains, Dict.find?_update] at member
  split at member
  · next same => exact .inl same
  · exact .inr member

theorem Tidy.edited {n n' : Node} (tidy : n.Tidy) (edited : n.Edited n') : n'.Tidy := by
  cases edited with
  | @feed socket source takes unset =>
    refine { tidy with single := fun other input found => ?_, takes := fun notLog other member => ?_ }
    · rw [valueIn?_changeInput] at found
      split at found
      · obtain rfl := Option.some.inj found
        left
        rcases before : n.valueIn? socket with _ | earlier
        · rfl
        · exact unset earlier before
      · exact tidy.single other input found
    · rcases contains_of_update member with rfl | old
      · exact takes_congr rfl rfl (takes.resolve_right fun unlabeled => notLog unlabeled.1)
      · exact takes_congr rfl rfl (tidy.takes notLog other old)
  | @put socket value takes unfed =>
    refine { tidy with single := fun other input found => ?_, takes := fun notLog other member => ?_ }
    · rw [valueIn?_changeInput] at found
      split at found
      · obtain rfl := Option.some.inj found
        right
        rcases before : n.valueIn? socket with _ | earlier
        · rfl
        · exact unfed earlier before
      · exact tidy.single other input found
    · rcases contains_of_update member with rfl | old
      · exact takes_congr rfl rfl takes
      · exact takes_congr rfl rfl (tidy.takes notLog other old)
  | label isLog => exact { tidy with takes := fun notLog => absurd isLog notLog }
  | @lead socket target declared free =>
    refine { tidy with narrow := fun other => ?_, leads := fun other member => ?_ }
    · rw [targets_addTarget]
      split
      · simp [free]
      · exact tidy.narrow other
    · rcases contains_of_update member with rfl | old
      · exact declared
      · exact tidy.leads other old
  | enter admits =>
    refine { tidy with enters := fun other member => ?_ }
    rcases contains_of_update member with rfl | old
    · exact admits
    · exact tidy.enters other old

theorem Tidy.edits {n n' : Node} (tidy : n.Tidy) (edits : Relation.ReflTransGen Edited n n') :
    n'.Tidy := by
  induction edits with
  | refl => exact tidy
  | tail _ edited ih => exact ih.edited edited

end Node

namespace Graph

/-- No value depends on itself. -/
def Acyclic (g : Graph) : Prop := ∀ i, ¬ Relation.TransGen g.Reads i i

/-- Where a flow leads there is an input for it. -/
def Landed (g : Graph) : Prop :=
  ∀ (i : Nat) (n : Node) (socket : String) (target : SocketAddress), g.nodes[i]? = some n →
    target ∈ n.targets socket → g.At target.node.toNat (·.flowsIn.contains target.socket = true)

/-- Every node is tidy, flows land, and no value depends on itself. -/
structure Ordered (g : Graph) : Prop where
  tidy : ∀ (i : Nat) (n : Node), g.nodes[i]? = some n → n.Tidy
  landed : g.Landed
  acyclic : g.Acyclic

/-- Edges that start in a set that nothing outside reads, and end outside of it, close no circle. -/
theorem Acyclic.across {g g' : Graph} (acyclic : g.Acyclic) {block : Nat → Prop} (apart : g.Apart block)
    (edges : ∀ m n, g'.Reads m n → g.Reads m n ∨ (block m ∧ ¬ block n)) : g'.Acyclic := by
  -- A path that starts outside stays outside, and there it is a path of `g`.
  have outside {m n : Nat} (path : Relation.TransGen g'.Reads m n) :
      ¬ block m → ¬ block n ∧ Relation.TransGen g.Reads m n := by
    induction path with
    | single edge =>
      intro out
      have old := (edges _ _ edge).resolve_right fun new => out new.1
      exact ⟨fun inside => out (apart _ _ old inside), .single old⟩
    | tail _ edge ih =>
      intro out
      obtain ⟨out', before⟩ := ih out
      have old := (edges _ _ edge).resolve_right fun new => out' new.1
      exact ⟨fun inside => out' (apart _ _ old inside), before.tail old⟩
  have inside {m n : Nat} (path : Relation.TransGen g'.Reads m n) :
      block n → Relation.TransGen g.Reads m n := by
    induction path using Relation.TransGen.head_induction_on with
    | single edge =>
      intro there
      exact .single ((edges _ _ edge).resolve_right fun new => new.2 there)
    | head edge rest ih =>
      intro there
      refine .head ((edges _ _ edge).resolve_right fun new => ?_) (ih there)
      exact (outside rest new.2).1 there
  intro i cycle
  by_cases there : block i
  · exact acyclic i (inside cycle there)
  · exact acyclic i (outside cycle there).2

end Graph

namespace Context

variable {cls : ScriptClass} {sources : Nat → Prop} {base : Nat} {c c' : Context}

theorem Draft.tidy {n : Node} (draft : c.Draft cls sources n) : n.Tidy where
  narrow socket := by simp [draft.idle socket]
  leads := draft.flowsOut
  enters := draft.flowsIn
  single := draft.single
  takes _ socket member := by
    obtain ⟨input, found⟩ := Option.isSome_iff_exists.1 member
    exact draft.takes socket input found

/-- A node after a step is new, or it is an old one with edits. -/
theorem Step.node_origin (step : Step cls sources base c c') (identified : c.graph.Identified)
    {i : Nat} {n' : Node} (found : c'.graph.nodes[i]? = some n') :
    c.Draft cls sources n' ∨
      ∃ n, c.graph.nodes[i]? = some n ∧ Relation.ReflTransGen Node.Edited n n' := by
  cases step with
  | place draft =>
    rcases Graph.of_place found with ⟨_, rfl⟩ | ⟨_, old⟩
    · exact .inl draft
    · exact .inr ⟨n', old, .refl⟩
  | feed _ there takes unset =>
    rcases identified.of_modifyNode found with ⟨rfl, n, old, rfl⟩ | ⟨_, old⟩
    · obtain rfl := Option.some.inj (old.symm.trans there)
      exact .inr ⟨n, old, .single (.feed takes unset)⟩
    · exact .inr ⟨n', old, .refl⟩
  | put _ there takes unfed =>
    rcases identified.of_modifyNode found with ⟨rfl, n, old, rfl⟩ | ⟨_, old⟩
    · obtain rfl := Option.some.inj (old.symm.trans there)
      exact .inr ⟨n, old, .single (.put takes unfed)⟩
    · exact .inr ⟨n', old, .refl⟩
  | label _ there isLog =>
    rcases identified.of_modifyNode found with ⟨rfl, n, old, rfl⟩ | ⟨_, old⟩
    · obtain rfl := Option.some.inj (old.symm.trans there)
      exact .inr ⟨n, old, .single (.label isLog)⟩
    · exact .inr ⟨n', old, .refl⟩
  | @lead start target from' to' there declared free entered admits =>
    have led := identified.modifyNode start.address.node
      fun n => n.index_addTarget start.address.socket target.address
    have first {m : Node} (atM : (c.modifyNode start.address.node
        (·.addTarget start.address.socket target.address)).graph.nodes[i]? = some m) :
        ∃ n, c.graph.nodes[i]? = some n ∧ m.op = n.op ∧ Relation.ReflTransGen Node.Edited n m := by
      rcases identified.of_modifyNode atM with ⟨rfl, n, old, rfl⟩ | ⟨_, old⟩
      · obtain rfl := Option.some.inj (old.symm.trans there)
        exact ⟨n, old, rfl, .single (.lead declared free)⟩
      · exact ⟨m, old, rfl, .refl⟩
    rcases led.of_modifyNode found with ⟨rfl, m, atM, rfl⟩ | ⟨_, atM⟩
    · obtain ⟨n, old, op, edits⟩ := first atM
      obtain rfl := Option.some.inj (old.symm.trans entered)
      refine .inr ⟨n, old, edits.tail (.enter ?_)⟩
      rwa [Validation.takesFlowInput, op]
    · obtain ⟨n, old, _, edits⟩ := first atM
      exact .inr ⟨n, old, edits⟩
  | book same => exact .inr ⟨n', same ▸ found, .refl⟩

/-- A target of a flow was there before, or the step leads there. -/
theorem Step.target_origin (step : Step cls sources base c c') (identified : c.graph.Identified)
    {i : Nat} {n' : Node} {socket : String} {target : SocketAddress}
    (found : c'.graph.nodes[i]? = some n') (leads : target ∈ n'.targets socket) :
    (∃ n, c.graph.nodes[i]? = some n ∧ target ∈ n.targets socket) ∨
      c'.graph.At target.node.toNat (·.flowsIn.contains target.socket = true) := by
  cases step with
  | place draft =>
    rcases Graph.of_place found with ⟨_, rfl⟩ | ⟨_, old⟩
    · simp [draft.idle socket] at leads
    · exact .inl ⟨n', old, leads⟩
  | feed =>
    rcases identified.of_modifyNode found with ⟨_, n, old, rfl⟩ | ⟨_, old⟩
    · exact .inl ⟨n, old, leads⟩
    · exact .inl ⟨n', old, leads⟩
  | put =>
    rcases identified.of_modifyNode found with ⟨_, n, old, rfl⟩ | ⟨_, old⟩
    · exact .inl ⟨n, old, leads⟩
    · exact .inl ⟨n', old, leads⟩
  | label =>
    rcases identified.of_modifyNode found with ⟨_, n, old, rfl⟩ | ⟨_, old⟩
    · exact .inl ⟨n, old, leads⟩
    · exact .inl ⟨n', old, leads⟩
  | @lead start into from' to' there declared free entered admits =>
    have led := identified.modifyNode start.address.node
      fun n => n.index_addTarget start.address.socket into.address
    have first {m : Node} (atM : (c.modifyNode start.address.node
        (·.addTarget start.address.socket into.address)).graph.nodes[i]? = some m)
        (leads : target ∈ m.targets socket) :
        (∃ n, c.graph.nodes[i]? = some n ∧ target ∈ n.targets socket) ∨ target = into.address := by
      rcases identified.of_modifyNode atM with ⟨rfl, n, old, rfl⟩ | ⟨_, old⟩
      · obtain rfl := Option.some.inj (old.symm.trans there)
        rw [Node.targets_addTarget] at leads
        split at leads
        · exact .inr (by simpa [free] using leads)
        · exact .inl ⟨n, old, leads⟩
      · exact .inl ⟨m, old, leads⟩
    have origin : (∃ n, c.graph.nodes[i]? = some n ∧ target ∈ n.targets socket) ∨
        target = into.address := by
      rcases led.of_modifyNode found with ⟨_, m, atM, rfl⟩ | ⟨_, atM⟩ <;> exact first atM leads
    refine origin.imp_right ?_
    rintro rfl
    have there : c.graph.At into.address.node.toNat fun _ => True := ⟨to', entered, trivial⟩
    obtain ⟨m, atM, _⟩ : (c.modifyNode start.address.node
        (·.addTarget start.address.socket into.address)).graph.At into.address.node.toNat fun _ => True :=
      there.modifyNode identified fun _ _ _ => trivial
    refine ⟨m.addFlowIn into.address.socket, ?_, ?_⟩
    · refine (led.nodes_modifyNode into.address.node _ into.address.node.toNat).trans ?_
      rw [if_pos rfl]
      exact congrArg (Option.map _) atM
    · have entry : (m.flowsIn.insert into.address.socket ()).find? into.address.socket = some () := by
        rw [Dict.find?_insert, if_pos rfl]
      exact Option.isSome_iff_exists.2 ⟨_, entry⟩
  | book same => exact .inl ⟨n', same ▸ found, leads⟩

/-- New edges of a step cross a border, in one direction, that no old edge crosses in the other. -/
theorem Step.crosses (step : Step cls sources base c c') (identified : c.graph.Identified)
    (supplied : c.graph.Supplied cls) :
    ∃ block, c.graph.Apart block ∧
      ∀ m n, c'.graph.Reads m n → c.graph.Reads m n ∨ (block m ∧ ¬ block n) := by
  have none : c.graph.Apart fun _ => False := fun _ _ _ => False.elim
  cases step with
  | place draft =>
    refine ⟨(· = c.graph.nodes.size), fun m n reads last => ?_, ?_⟩
    · obtain ⟨node, socket, input, source, found, atSocket, fed, real, rfl⟩ := reads
      have inside := (supplied m node socket input source found atSocket fed).among.resolve_left
        (by simp [real])
      exact absurd last (Nat.ne_of_lt inside)
    · rintro m _ ⟨node, socket, input, source, found, atSocket, fed, real, rfl⟩
      rcases Graph.of_place found with ⟨last, rfl⟩ | ⟨_, old⟩
      · have inside := (draft.offered socket input source atSocket fed).1.among.resolve_left
          (by simp [real])
        exact .inr ⟨last, Nat.ne_of_lt inside⟩
      · exact .inl ⟨node, socket, input, source, old, atSocket, fed, real, rfl⟩
  | feed _ _ _ _ _ _ severed =>
    obtain ⟨block, apart, inside, out⟩ := severed
    refine ⟨block, apart, ?_⟩
    rintro m _ ⟨node, socket, input, source, found, atSocket, fed, real, rfl⟩
    rcases identified.of_modifyNode found with ⟨rfl, n, old, rfl⟩ | ⟨_, old⟩
    · rw [Node.valueIn?_changeInput] at atSocket
      split at atSocket
      · obtain rfl := Option.some.inj atSocket
        obtain rfl := Option.some.inj fed
        exact .inr ⟨inside, out.resolve_left (by simp [real])⟩
      · exact .inl ⟨n, socket, input, source, old, atSocket, fed, real, rfl⟩
    · exact .inl ⟨node, socket, input, source, old, atSocket, fed, real, rfl⟩
  | @put a _ n _ there _ unfed =>
    refine ⟨_, none, ?_⟩
    rintro m _ ⟨node, socket, input, source, found, atSocket, fed, real, rfl⟩
    rcases identified.of_modifyNode found with ⟨rfl, n, old, rfl⟩ | ⟨_, old⟩
    · rw [Node.valueIn?_changeInput] at atSocket
      split at atSocket
      · obtain rfl := Option.some.inj atSocket
        obtain rfl := Option.some.inj (old.symm.trans there)
        rcases before : n.valueIn? a.socket with _ | earlier
        · simp [before, ValueInput.holding] at fed
        · simp [before, ValueInput.holding, unfed earlier before] at fed
      · exact .inl ⟨n, socket, input, source, old, atSocket, fed, real, rfl⟩
    · exact .inl ⟨node, socket, input, source, old, atSocket, fed, real, rfl⟩
  | label =>
    refine ⟨_, none, ?_⟩
    rintro m _ ⟨node, socket, input, source, found, atSocket, fed, real, rfl⟩
    rcases identified.of_modifyNode found with ⟨_, n, old, rfl⟩ | ⟨_, old⟩
    · exact .inl ⟨n, socket, input, source, old, atSocket, fed, real, rfl⟩
    · exact .inl ⟨node, socket, input, source, old, atSocket, fed, real, rfl⟩
  | @lead start target =>
    refine ⟨_, none, ?_⟩
    rintro m _ ⟨node, socket, input, source, found, atSocket, fed, real, rfl⟩
    have led := identified.modifyNode start.address.node
      fun n => n.index_addTarget start.address.socket target.address
    rcases led.of_modifyNode found with ⟨_, m, old, rfl⟩ | ⟨_, old⟩ <;>
      rcases identified.of_modifyNode old with ⟨_, n, older, rfl⟩ | ⟨_, older⟩
    all_goals exact .inl ⟨_, socket, input, source, older, atSocket, fed, real, rfl⟩
  | book same =>
    refine ⟨_, none, ?_⟩
    rintro m _ ⟨node, socket, input, source, found, rest⟩
    exact .inl ⟨node, socket, input, source, same ▸ found, rest⟩

theorem Step.ordered (step : Step cls sources base c c') (wired : c.Wired cls)
    (ordered : c.graph.Ordered) : c'.graph.Ordered where
  tidy i n' found := by
    rcases step.node_origin wired.identified found with draft | ⟨n, old, edits⟩
    · exact draft.tidy
    · exact (ordered.tidy i n old).edits edits
  landed i n' socket target found leads := by
    rcases step.target_origin wired.identified found leads with ⟨n, old, led⟩ | lands
    · obtain ⟨m, there, enters⟩ := ordered.landed i n socket target old led
      obtain ⟨m', there', evolves⟩ := step.advances wired.identified _ m there
      exact ⟨m', there', evolves.flowsIn _ enters⟩
    · exact lands
  acyclic := by
    obtain ⟨block, apart, edges⟩ := step.crosses wired.identified wired.supplied
    exact ordered.acyclic.across apart edges

/-- Order is kept by any number of legal steps. -/
theorem Run.ordered (run : Run cls sources base c c') (wired : c.Wired cls)
    (ordered : c.graph.Ordered) : c'.graph.Ordered := by
  induction run with
  | refl => exact ordered
  | next run step ih => exact step.ordered (run.wired wired) ih

end Context

end ScriptGraph
