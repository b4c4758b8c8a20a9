import Mathlib
import ScriptGraph.Pattern.Transform
import ScriptGraph.Proofs.Pattern.Plain
import ScriptGraph.Proofs.Rotation.Quantities
import ScriptGraph.Proofs.Runtime.Builders

/-!
What the patterns of rotations leave to a runtime, and what it computes there.
-/

namespace ScriptGraph

open Pattern
open scoped Quaternion

variable {R M : Type} [CommRing R]

/-- A rotation in the other space, where spaces are converted. -/
def mirrored (converts : Bool) (q : ℍ[R]) : ℍ[R] := if converts then ⟨q.re, q.imI, -q.imJ, -q.imK⟩ else q

theorem mirrored_mirrored (converts : Bool) (q : ℍ[R]) : mirrored converts (mirrored converts q) = q := by
  cases converts
  · rfl
  · ext <;> simp [mirrored]

namespace Pattern.Pointer

theorem names_rotation : Template.names rotation = [nodeIndex] := by decide +kernel

theorem names_globalMatrix : Template.names globalMatrix = [nodeIndex] := by decide +kernel

end Pattern.Pointer

namespace Context

/-- A change of an input that a runtime does not see. -/
theorem program_changeInput_unseen {c : Context} (identified : c.graph.Identified) (a : SocketAddress)
    {f : ValueInput → ValueInput} (unseen : ∀ input, (f input).feed? = input.feed?) :
    (c.modifyNode a.node (·.changeInput a.socket f)).program = c.program := by
  cases found : c.graph.node? a.node with
  | none =>
    rw [identified.node?, Array.getElem?_eq_none_iff] at found
    rw [modifyNode, Graph.modifyNode, identified.position?, if_neg (Nat.not_lt.2 found)]
  | some n =>
    have shows := shows_of_node? found
    refine program_modifyNode identified (fun n => n.index_changeInput ..) found
      ⟨shows.op, shows.parameter, fun socket => ?_, shows.next⟩
      (fun j other => ⟨rfl, fun _ => rfl, fun _ => rfl, fun _ => rfl⟩) rfl
    rw [shows.feed, Node.valueIn?_changeInput]
    by_cases here : socket = a.socket
    · subst here
      rw [if_pos rfl, Option.bind_some, unseen]
      cases n.valueIn? a.socket <;> rfl
    · rw [if_neg here]

end Context

namespace Program

/-- A node reads or writes through a path. -/
structure Points (p : Program) (node : NodeId) (kind : Op) (path : String) : Prop where
  real : node.isPlaceholder = false
  op : p.op? node = some kind
  parameter : p.parameter? node "pointer" = some (.text path)

/-- The terminals of a read are those of a node that reads through the path. -/
structure Fetches (p : Program) (read : PointerGet) (path : String) : Prop where
  points : p.Points read.node .pointerGet path
  target : read.target = read.node.valueIn Pointer.nodeIndex
  value : read.value = read.node.valueOut "value"

/-- The terminals of a write are those of a node that writes through the path. -/
structure Deposits (p : Program) (write : PointerSet) (path : String) : Prop where
  points : p.Points write.node .pointerSet path
  target : write.target = write.node.valueIn Pointer.nodeIndex
  value : write.value = write.node.valueIn "value"
  flowIn : write.flowIn = write.node.flowIn "in"

/-- An output is the rotation of what the world matrix of an object is taken apart into. -/
structure Decomposes (p : Program) (matrix : PointerGet) (parts : NodeId) : Prop where
  fetches : p.Fetches matrix Pointer.globalMatrix
  real : parts.isPlaceholder = false
  op : p.op? parts = some .mathMatDecompose
  fed : p.feed? ⟨parts, "a"⟩ = some (.output matrix.value.address)

/-- A node multiplies what comes to its first input by constant signs. -/
structure Flips (p : Program) (factor : Literal) (node : NodeId) : Prop where
  real : node.isPlaceholder = false
  op : p.op? node = some .mathMul
  second : p.feed? ⟨node, "b"⟩ = some (.constant factor)

/-- An output is another one after the conversion. -/
def ConvertsTo (p : Program) (converts : Bool) (factor : Literal) (v u : ValueOut) : Prop :=
  if converts then
    ∃ node, p.Flips factor node ∧ p.feed? ⟨node, "a"⟩ = some (.output v.address) ∧ u = node.valueOut "value"
  else u = v

/-- What comes to an input goes to another one after the conversion. -/
def ConvertsInto (p : Program) (converts : Bool) (factor : Literal) (input sink : ValueIn) : Prop :=
  if converts then
    ∃ node, p.Flips factor node ∧ input = node.valueIn "a" ∧ p.Feeds sink (.output ⟨node, "value"⟩)
  else input = sink

section Yields

variable {p : Program} {n : Numerics R M} {scene : Scene R M} {q q' : ℍ[R]} {a b v u : ValueOut} {object : Int32}

theorem obtainsAll_valueIn {id : NodeId} {name : String} {x : Quantity R M} :
    p.ObtainsAll n scene (id.valueIn name) x ↔ p.Obtains n scene ⟨id, name⟩ x := by
  simp [ObtainsAll]

theorem Feeds.obtainsAll {t : ValueIn} {feed : Feed} {x : Quantity R M} (feeds : p.Feeds t feed)
    (yields : p.Yields n scene feed x) : p.ObtainsAll n scene t x :=
  fun a member => ⟨feed, feeds a member, yields⟩

/-- A read yields what stands at its path for the object that it is given. -/
theorem Fetches.yields {read : PointerGet} {path : String} {x : Quantity R M} (fetches : p.Fetches read path)
    (names : Template.names path = [Pointer.nodeIndex])
    (target : p.ObtainsAll n scene read.target (.index object)) (there : scene path [object] = some x) :
    p.Yields n scene (.output read.value.address) x := by
  rw [fetches.target, obtainsAll_valueIn] at target
  obtain ⟨feed, fed, yields⟩ := target
  rw [fetches.value]
  have known : scene path ((Template.names path).map fun _ => object) = some x := by rw [names]; exact there
  refine .pointer fetches.points.real fetches.points.op rfl fetches.points.parameter ?_ (fun _ _ => yields) known
  rw [names, List.forall_mem_singleton]
  exact fed

theorem Decomposes.yields {matrix : PointerGet} {parts : NodeId} {m : M} (decomposes : p.Decomposes matrix parts)
    (target : p.ObtainsAll n scene matrix.target (.index object))
    (there : scene Pointer.globalMatrix [object] = some (.matrix m)) :
    p.Yields n scene (.output ⟨parts, "rotation"⟩) (.ofRotation (n.rotation m)) := by
  have yields := decomposes.fetches.yields Pointer.names_globalMatrix target there
  exact .unary decomposes.real decomposes.op rfl ⟨_, decomposes.fed, yields⟩ rfl

/-- An operation yields what it computes from what its input has. -/
theorem AppliesUnary.yields {op : Op} {x z : Quantity R M} (applies : p.AppliesUnary op v u)
    (inputs : op.schema.valuesIn = ["a"]) (first : p.Yields n scene (.output v.address) x)
    (result : n.compute? op u.address.socket [x] = some z) : p.Yields n scene (.output u.address) z :=
  .unary applies.real applies.op inputs ⟨_, applies.first, first⟩ result

theorem Applies.yields {op : Op} {x y z : Quantity R M} (applies : p.Applies op a b u)
    (inputs : op.schema.valuesIn = ["a", "b"]) (first : p.Yields n scene (.output a.address) x)
    (second : p.Yields n scene (.output b.address) y) (result : n.compute? op u.address.socket [x, y] = some z) :
    p.Yields n scene (.output u.address) z :=
  .binary applies.real applies.op inputs ⟨_, applies.first, first⟩ ⟨_, applies.second, second⟩ result

theorem AppliesTo.yields {op : Op} {value : Literal} {x y z : Quantity R M} (applies : p.AppliesTo op v value u)
    (inputs : op.schema.valuesIn = ["a", "b"]) (first : p.Yields n scene (.output v.address) x)
    (means : n.quantity? value = some y) (result : n.compute? op u.address.socket [x, y] = some z) :
    p.Yields n scene (.output u.address) z :=
  .binary applies.real applies.op inputs ⟨_, applies.first, first⟩ ⟨_, applies.second, .constant means⟩ result

theorem AppliesTo.yields_conjugate (applies : p.AppliesTo .mathMul v conjugateFlip u)
    (yields : p.Yields n scene (.output v.address) (.ofRotation q)) :
    p.Yields n scene (.output u.address) (.ofRotation (star q)) := by
  refine applies.yields rfl yields (n.quantity?_quadruple ..) ?_
  rw [n.compute?_mathMul]
  congr 2
  ext <;> simp [n.number_one, n.number_minusOne]

theorem Applies.yields_product (applies : p.Applies .mathQuatMul a b u)
    (first : p.Yields n scene (.output a.address) (.ofRotation q))
    (second : p.Yields n scene (.output b.address) (.ofRotation q')) :
    p.Yields n scene (.output u.address) (.ofRotation (q * q')) :=
  applies.yields rfl first second (n.compute?_mathQuatMul ..)

theorem Flips.yields {node : NodeId} (flips : p.Flips rotationFlip node)
    (obtains : p.Obtains n scene ⟨node, "a"⟩ (.ofRotation q)) :
    p.Yields n scene (.output ⟨node, "value"⟩) (.ofRotation (mirrored true q)) := by
  refine .binary flips.real flips.op rfl obtains ⟨_, flips.second, .constant (n.quantity?_quadruple ..)⟩ ?_
  rw [n.compute?_mathMul]
  congr 2
  ext <;> simp [mirrored, n.number_one, n.number_minusOne]

theorem ConvertsTo.yields {converts : Bool} (conversion : p.ConvertsTo converts rotationFlip v u)
    (yields : p.Yields n scene (.output v.address) (.ofRotation q)) :
    p.Yields n scene (.output u.address) (.ofRotation (mirrored converts q)) := by
  cases converts with
  | false =>
    obtain rfl : u = v := conversion
    exact yields
  | true =>
    obtain ⟨node, flips, fed, rfl⟩ : ∃ _, _ := conversion
    exact flips.yields ⟨_, fed, yields⟩

theorem ConvertsInto.obtainsAll {converts : Bool} {input sink : ValueIn}
    (conversion : p.ConvertsInto converts rotationFlip input sink)
    (obtains : p.ObtainsAll n scene input (.ofRotation q)) :
    p.ObtainsAll n scene sink (.ofRotation (mirrored converts q)) := by
  cases converts with
  | false =>
    obtain rfl : input = sink := conversion
    exact obtains
  | true =>
    obtain ⟨node, flips, rfl, feeds⟩ : ∃ _, _ := conversion
    exact feeds.obtainsAll (flips.yields (obtainsAll_valueIn.1 obtains))

end Yields

end Program

namespace Plan

variable {start c : Context} {blanks idles : List SocketAddress} {holding : Program → Prop}

theorem restrict (plan : Plan start blanks idles holding c) (t : ValueIn) (restriction : TypeRestriction) :
    Ensures (Build.restrict t restriction) c fun _ c' => Plan start blanks idles holding c' := by
  have general : ∀ (sockets : List SocketAddress) {c : Context}, Plan start blanks idles holding c →
      Plan start blanks idles holding { c with graph := sockets.foldl (fun g a => g.modifyNode a.node
        (·.changeInput a.socket fun input => { input with restriction := some restriction })) c.graph } := by
    intro sockets
    induction sockets with
    | nil => exact fun plan => plan
    | cons a sockets ih =>
      intro c plan
      refine ih (c := c.modifyNode a.node _) (plan.unseen ⟨Nat.le_of_eq (Graph.size_modifyNode ..).symm, Nat.le_refl _⟩
        fun identified => ⟨identified.modifyNode a.node fun n => n.index_changeInput .., ?_⟩)
      exact Context.program_changeInput_unseen identified a fun _ => rfl
  exact general t.sockets plan

theorem restrictTokens (node : NodeId) : ∀ (names : List String) {c : Context},
    Plan start blanks idles holding c →
      Ensures (Pattern.restrictTokens node names) c fun _ c' => Plan start blanks idles holding c'
  | [], _, plan => .pure plan
  | _ :: names, _, plan => (plan.restrict _ _).bind fun _ _ plan => restrictTokens node names plan

/-- A parameter of a node that was just placed; another one may still be set. -/
theorem configureFirst (plan : Plan start blanks idles holding c) {id : NodeId} (bare : c.Bare id)
    {name name' : String} (different : name' ≠ name) (value : ConfigValue) :
    Ensures (Build.configure id name value) c fun _ c' =>
      Plan start blanks idles (fun q => q.parameter? id name = some value ∧ holding q) c' ∧
        (c'.Small → c'.program.op? id ≠ none ∧ c'.program.parameter? id name' = none) := by
  refine ⟨plan.configure bare name value, fun small => ?_⟩
  have size : (Build.configure id name value c).2.graph.nodes.size = c.graph.nodes.size := Graph.size_modifyNode ..
  have small : c.Small := ⟨size ▸ small.1, small.2⟩
  obtain ⟨exist, none⟩ := bare small
  rw [show (Build.configure id name value c).2 = c.modifyNode id (·.configure name value) from rfl,
    Context.program_configure (plan.sound small).1 exist]
  refine ⟨exist, ?_⟩
  rw [Program.parameter?_configuring, if_neg fun same => different same.2, none name']

theorem configurePointer (plan : Plan start blanks idles holding c) {id : NodeId} (bare : c.Bare id) (path : String)
    (type : ValueType) :
    Ensures (Pattern.configurePointer id path type) c fun _ c' =>
      Plan start blanks idles (fun q => q.parameter? id "pointer" = some (.text path) ∧ holding q) c' := by
  have first := plan.configureFirst bare (show "type" ≠ "pointer" by decide) (.text path)
  refine first.bind fun _ _ ⟨plan, unset⟩ => ?_
  refine (plan.configureUnset unset (.text type.name)).bind fun _ _ plan => ?_
  exact restrictTokens id _ (plan.mono fun _ facts => facts.2)

theorem pointerGet (plan : Plan start blanks idles holding c) (path : String) (type : ValueType) :
    Ensures (Pattern.pointerGet path type) c fun read c' =>
      Plan start (read.target.sockets ++ blanks) idles (fun q => q.Fetches read path ∧ holding q) c' := by
  refine (plan.createNode [Pointer.nodeIndex] [] (by decide)).bind fun node _ ⟨plan, bare⟩ => ?_
  refine (plan.configurePointer bare path type).bind fun _ _ plan => ?_
  refine (plan.expect _ _).bind fun _ _ plan => .pure ?_
  exact plan.mono fun q ⟨parameter, stands, old⟩ => ⟨⟨⟨stands.real, stands.op, parameter⟩, rfl, rfl⟩, old⟩

theorem pointerSet (plan : Plan start blanks idles holding c) (path : String) (type : ValueType) :
    Ensures (Pattern.pointerSet path type) c fun write c' =>
      Plan start (write.target.sockets ++ (write.value.sockets ++ blanks))
        (write.flowOut.address :: ⟨write.node, "err"⟩ :: idles) (fun q => q.Deposits write path ∧ holding q) c' := by
  refine (plan.createNode [Pointer.nodeIndex, "value"] ["out", "err"] (by decide)).bind fun node _ ⟨plan, bare⟩ => ?_
  refine (plan.configurePointer bare path type).bind fun _ _ plan => ?_
  refine (plan.restrict _ _).bind fun _ _ plan => .pure ?_
  exact plan.mono fun q ⟨parameter, stands, old⟩ =>
    ⟨⟨⟨stands.real, stands.op, parameter⟩, rfl, rfl, rfl⟩, old⟩

theorem worldMatrix (plan : Plan start blanks idles holding c) :
    Ensures Pattern.worldMatrix c fun (matrix, parts) c' =>
      Plan start (matrix.target.sockets ++ blanks) idles (fun q => q.Decomposes matrix parts ∧ holding q) c' := by
  refine (plan.pointerGet _ _).bind fun matrix _ plan => ?_
  refine (plan.createNode ["a"] [] (by decide)).bind fun parts _ ⟨plan, _⟩ => ?_
  refine (plan.connect (t := parts.valueIn "a") matrix.value (.refl _)).bind fun _ _ plan => .pure ?_
  exact plan.mono fun q ⟨fed, stands, fetches, old⟩ =>
    ⟨⟨fetches, stands.real, stands.op, fed ⟨parts, "a"⟩ (by simp)⟩, old⟩

theorem flip (plan : Plan start blanks idles holding c) (factor : Literal) :
    Ensures (Pattern.flip factor) c fun (input, output) c' => ∃ node : NodeId, input = node.valueIn "a" ∧
      output = node.valueOut "value" ∧
      Plan start (⟨node, "a"⟩ :: blanks) idles (fun q => q.Flips factor node ∧ holding q) c' := by
  refine (plan.createNode ["a", "b"] [] (by decide)).bind fun node _ ⟨plan, _⟩ => ?_
  refine (plan.setLiteral (t := node.valueIn "b") factor (.swap _ _ _)).bind fun _ _ plan =>
    .pure ⟨node, rfl, rfl, ?_⟩
  exact plan.mono fun q ⟨second, stands, old⟩ =>
    ⟨⟨stands.real, stands.op, second ⟨node, "b"⟩ (by simp)⟩, old⟩

theorem convert (plan : Plan start blanks idles holding c) (factor : Literal) (v : ValueOut) :
    Ensures (Pattern.convert factor v) c fun u c' =>
      Plan start blanks idles (fun q => q.ConvertsTo c'.options.spaceConversion factor v u ∧ holding q) c' := by
  rw [Ensures, (Build.plain_convert factor v c).1.options]
  change Ensures (Pattern.convert factor v) c fun u c' =>
    Plan start blanks idles (fun q => q.ConvertsTo c.options.spaceConversion factor v u ∧ holding q) c'
  refine .getBind ?_
  split
  · next converts =>
    refine (plan.flip factor).bind ?_
    rintro ⟨_, _⟩ _ ⟨node, rfl, rfl, plan⟩
    refine (plan.connect (t := node.valueIn "a") v (.refl _)).bind fun _ _ plan => .pure ?_
    rw [converts]
    refine plan.mono fun q facts => ?_
    obtain ⟨fed, flips, old⟩ := facts
    exact ⟨⟨node, flips, fed ⟨node, "a"⟩ (by simp), rfl⟩, old⟩
  · next direct =>
    rw [Bool.not_eq_true] at direct
    exact .pure (plan.mono fun q old => ⟨by rw [direct]; rfl, old⟩)

theorem convertInto (plan : Plan start blanks idles holding c) (factor : Literal) (sink : ValueIn)
    {rest : List SocketAddress} (perm : (sink.sockets ++ rest).Perm blanks) :
    Ensures (Pattern.convertInto factor sink) c fun input c' =>
      Plan start (input.sockets ++ rest) idles
        (fun q => q.ConvertsInto c'.options.spaceConversion factor input sink ∧ holding q) c' := by
  rw [Ensures, (Build.plain_convertInto factor sink c).1.options]
  change Ensures (Pattern.convertInto factor sink) c fun input c' => Plan start (input.sockets ++ rest) idles
    (fun q => q.ConvertsInto c.options.spaceConversion factor input sink ∧ holding q) c'
  refine .getBind ?_
  split
  · next converts =>
    refine (plan.flip factor).bind ?_
    rintro ⟨_, _⟩ _ ⟨node, rfl, rfl, plan⟩
    refine (plan.connect (t := sink) (node.valueOut "value")
      ((perm_front sink.sockets _ rest).symm.trans (perm.cons _))).bind fun _ _ plan => .pure ?_
    rw [converts]
    refine plan.mono fun q facts => ?_
    obtain ⟨feeds, flips, old⟩ := facts
    exact ⟨⟨node, flips, rfl, feeds⟩, old⟩
  · next direct =>
    rw [Bool.not_eq_true] at direct
    exact .pure ((plan.reorder perm (.refl _)).mono fun q old => ⟨by rw [direct]; rfl, old⟩)

end Plan

end ScriptGraph
