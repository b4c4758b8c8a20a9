import ScriptGraph.Proofs.Rotation.Patterns

/-!
A world rotation that is written is read back.

To write a world rotation is to write a local one: the inverse of the rotation of the parent, times the value.
The rotation of the parent is the world rotation times the inverse of the local one. While the parent stays as
it is, the world rotation becomes the value, and this is what a read yields. With `W` and `L` of norm one,
`(W * star L) * (star (W * star L) * v) = v`; the conversion of spaces undoes itself.
-/

namespace ScriptGraph

open Pattern
open scoped Quaternion

variable {R M : Type} [CommRing R]

/-- A quaternion of norm one is undone by its conjugate. -/
theorem Quaternion.mul_star_cancel {q : ℍ[R]} (unit : Quaternion.normSq q = 1) (v : ℍ[R]) : q * (star q * v) = v := by
  rw [← mul_assoc, Quaternion.self_mul_star, unit, Quaternion.coe_one, one_mul]

/-- An object of a scene has the given rotations, in the world and in its own space. -/
structure Scene.Poses (n : Numerics R M) (scene : Scene R M) (object : Int32) (world own : ℍ[R]) : Prop where
  world : ∃ m, scene Pointer.globalMatrix [object] = some (.matrix m) ∧ n.rotation m = world
  own : scene Pointer.rotation [object] = some (.ofRotation own)

namespace Program

variable {p q : Program} {n : Numerics R M} {scene : Scene R M}

/-- A flow that enters at `entry` writes the quantity to the path of the objects. -/
structure Deposit (p : Program) (n : Numerics R M) (scene : Scene R M) (entry : FlowIn) (path : String)
    (objects : List Int32) (x : Quantity R M) : Prop where
  op : p.op? entry.address.node = some .pointerSet
  parameter : p.parameter? entry.address.node "pointer" = some (.text path)
  names : List.Forall₂ (fun name object => p.Obtains n scene ⟨entry.address.node, name⟩ (.index object))
    (Template.names path) objects
  value : p.Obtains n scene ⟨entry.address.node, "value"⟩ x

end Program

/-- The nodes between the terminals of a write of a world rotation. -/
structure RotationWrite where
  matrix : PointerGet
  parts : NodeId
  own : PointerGet
  write : PointerSet
  ownInverse : ValueOut
  parent : ValueOut
  parentInverse : ValueOut
  product : NodeId

namespace Program

/-- The nodes of a write of a world rotation stand in the program. -/
structure WritesRotation (p : Program) (converts : Bool) (nodes : RotationWrite) (set : PropertySet) : Prop where
  decomposes : p.Decomposes nodes.matrix nodes.parts
  fetches : p.Fetches nodes.own Pointer.rotation
  deposits : p.Deposits nodes.write Pointer.rotation
  ownInverse : p.AppliesTo .mathMul nodes.own.value conjugateFlip nodes.ownInverse
  parent : p.Applies .mathQuatMul (nodes.parts.valueOut "rotation") nodes.ownInverse nodes.parent
  parentInverse : p.AppliesTo .mathMul nodes.parent conjugateFlip nodes.parentInverse
  real : nodes.product.isPlaceholder = false
  op : p.op? nodes.product = some .mathQuatMul
  first : p.feed? ⟨nodes.product, "a"⟩ = some (.output nodes.parentInverse.address)
  written : p.Feeds nodes.write.value (.output ⟨nodes.product, "value"⟩)
  second : p.ConvertsInto converts rotationFlip set.value (nodes.product.valueIn "b")
  target : set.target = .link [nodes.matrix.target, nodes.own.target, nodes.write.target]
  flowIn : set.flowIn = nodes.write.flowIn

/-- The nodes of a read of a world rotation stand in the program. -/
structure ReadsRotation (p : Program) (converts : Bool) (matrix : PointerGet) (parts : NodeId) (get : PropertyGet) :
    Prop where
  decomposes : p.Decomposes matrix parts
  value : p.ConvertsTo converts rotationFlip (parts.valueOut "rotation") get.value
  target : get.target = matrix.target

section Runtime

variable {p : Program} {n : Numerics R M} {scene : Scene R M} {converts : Bool} {object : Int32} {world own v : ℍ[R]}

/-- Into the path of the local rotation goes the value, seen from the parent. -/
theorem WritesRotation.deposit {nodes : RotationWrite} {set : PropertySet}
    (writes : p.WritesRotation converts nodes set) (poses : scene.Poses n object world own) (target : p.ObtainsAll n scene set.target (.index object))
    (value : p.ObtainsAll n scene set.value (.ofRotation v)) :
    p.Deposit n scene set.flowIn Pointer.rotation [object]
      (.ofRotation (star (world * star own) * mirrored converts v)) := by
  obtain ⟨m, here, rfl⟩ := poses.world
  have targets {t : ValueIn} (member : t ∈ [nodes.matrix.target, nodes.own.target, nodes.write.target]) :
      p.ObtainsAll n scene t (.index object) := fun a there =>
    target a (writes.target ▸ ValueIn.mem_link.2 ⟨t, member, there⟩)
  have turned := writes.decomposes.yields (targets (by simp)) here
  have local' := writes.fetches.yields Pointer.names_rotation (targets (by simp)) poses.own
  have parent := writes.parent.yields_product turned (writes.ownInverse.yields_conjugate local')
  have second := obtainsAll_valueIn.1 (writes.second.obtainsAll value)
  have product : p.Yields n scene (.output ⟨nodes.product, "value"⟩)
      (.ofRotation (star (n.rotation m * star own) * mirrored converts v)) :=
    .binary writes.real writes.op rfl ⟨_, writes.first, writes.parentInverse.yields_conjugate parent⟩ second
      (n.compute?_mathQuatMul ..)
  have stored := writes.written.obtainsAll product
  have given := targets (t := nodes.write.target) (by simp)
  rw [writes.deposits.value, obtainsAll_valueIn] at stored
  rw [writes.deposits.target, obtainsAll_valueIn] at given
  rw [writes.flowIn, writes.deposits.flowIn]
  refine ⟨writes.deposits.points.op, writes.deposits.points.parameter, ?_, stored⟩
  rw [Pointer.names_rotation]
  exact .cons given .nil

/-- A read of a world rotation yields the one of the object. -/
theorem ReadsRotation.yields {matrix : PointerGet} {parts : NodeId} {get : PropertyGet}
    (reads : p.ReadsRotation converts matrix parts get) (poses : scene.Poses n object world own)
    (target : p.ObtainsAll n scene get.target (.index object)) :
    p.Yields n scene (.output get.value.address) (.ofRotation (mirrored converts world)) := by
  obtain ⟨m, here, rfl⟩ := poses.world
  exact reads.value.yields (reads.decomposes.yields (reads.target ▸ target) here)

/-- What is written does not depend on where flows lead. -/
theorem Deposit.next {next? : SocketAddress → Option SocketAddress} {entry : FlowIn} {path : String}
    {objects : List Int32} {x : Quantity R M} (deposit : Deposit { p with next? } n scene entry path objects x) :
    p.Deposit n scene entry path objects x where
  op := deposit.op
  parameter := deposit.parameter
  names := deposit.names.imp fun _ _ => obtains_next.1
  value := obtains_next.1 deposit.value

theorem Deposit.unique {entry : FlowIn} {path : String} {objects : List Int32} {x y : Quantity R M}
    (first : p.Deposit n scene entry path objects x) (second : p.Deposit n scene entry path objects y) : x = y :=
  first.value.unique second.value

end Runtime

end Program

namespace Plan

variable {start c : Context} {blanks idles : List SocketAddress} {holding : Program → Prop}

theorem worldRotationGet (plan : Plan start blanks idles holding c) :
    Ensures Pattern.worldRotationGet c fun get c' => ∃ matrix parts,
      Plan start (get.target.sockets ++ blanks) idles
        (fun q => q.ReadsRotation c'.options.spaceConversion matrix parts get ∧ holding q) c' := by
  refine plan.worldMatrix.bind fun (matrix, parts) c' plan => ?_
  refine (plan.convert rotationFlip (parts.valueOut "rotation")).bind fun value _ plan => .pure ⟨matrix, parts, ?_⟩
  exact plan.mono fun q ⟨conversion, decomposes, old⟩ => ⟨⟨decomposes, conversion, rfl⟩, old⟩

theorem worldRotationSet (plan : Plan start blanks idles holding c) :
    Ensures Pattern.worldRotationSet c fun set c' => ∃ nodes,
      Plan start (set.target.sockets ++ (set.value.sockets ++ blanks)) (set.flowOut.address :: idles)
        (fun q => q.WritesRotation c'.options.spaceConversion nodes set ∧ holding q) c' := by
  refine plan.worldMatrix.bind fun (matrix, parts) _ plan => ?_
  refine (plan.pointerGet _ _).bind fun own _ plan => ?_
  refine (plan.pointerSet _ _).bind fun write _ plan => ?_
  refine (plan.binaryLiteralNode _ _ _).bind fun ownInverse _ plan => ?_
  refine (plan.binaryNode _ _ _).bind fun parent _ plan => ?_
  refine (plan.binaryLiteralNode _ _ _).bind fun parentInverse _ plan => ?_
  refine (plan.createNode ["a", "b"] [] (by decide)).bind fun product _ ⟨plan, _⟩ => ?_
  refine (plan.connect (t := product.valueIn "a") parentInverse (.refl _)).bind fun _ _ plan => ?_
  have front : (write.value.sockets ++ (⟨product, "b"⟩ :: (write.target.sockets ++ (own.target.sockets ++
      (matrix.target.sockets ++ blanks))))).Perm (⟨product, "b"⟩ :: (write.target.sockets ++
        (write.value.sockets ++ (own.target.sockets ++ (matrix.target.sockets ++ blanks))))) := by
    rw [List.perm_iff_count]
    intro a
    simp only [List.count_append, List.count_cons]
    omega
  refine (plan.connect (t := write.value) (product.valueOut "value") front).bind fun _ _ plan => ?_
  refine (plan.convertInto rotationFlip (product.valueIn "b") (.refl _)).bind fun value _ plan =>
    .pure ⟨⟨matrix, parts, own, write, ownInverse, parent, parentInverse, product⟩, ?_⟩
  have plan := plan.link [[matrix.target, own.target, write.target]] (value.sockets ++ blanks) ?_
  · refine (plan.drop ⟨_, .refl _, by simp⟩ ⟨_, List.Sublist.cons_cons _ (List.sublist_cons_self _ _), .refl _⟩).mono
      fun q facts => ?_
    obtain ⟨second, written, first, stands, parentInverse, parent, ownInverse, deposits, fetches, decomposes, old⟩ :=
      facts
    exact ⟨⟨decomposes, fetches, deposits, ownInverse, parent, parentInverse, stands.real, stands.op,
      first ⟨product, "a"⟩ (by simp), written, second, rfl, rfl⟩, old⟩
  · rw [List.perm_iff_count]
    intro a
    simp only [List.append_eq, List.flatMap_cons, List.flatMap_nil, List.count_append, List.count_nil]
    omega

end Plan

namespace Pattern

section Results

variable {c : Context} {p : Program} {n : Numerics R M} {scene : Scene R M} {object : Int32} {world own v : ℍ[R]}

theorem worldRotationSet_deposit (identified : c.graph.Identified) (small : (worldRotationSet c).2.Small)
    (larger : (worldRotationSet c).2.program.Extends p) (poses : scene.Poses n object world own)
    (target : p.ObtainsAll n scene (worldRotationSet c).1.target (.index object))
    (value : p.ObtainsAll n scene (worldRotationSet c).1.value (.ofRotation v)) :
    p.Deposit n scene (worldRotationSet c).1.flowIn Pointer.rotation [object]
      (.ofRotation (star (world * star own) * mirrored c.options.spaceConversion v)) := by
  obtain ⟨nodes, plan⟩ := (Plan.bare identified).worldRotationSet
  have writes := ((plan.sound small).2.ofExtends larger).1
  rw [(Build.plain_worldRotationSet c).1.options] at writes
  exact (writes.deposit poses (fun a member => Program.obtains_next.2 (target a member))
    fun a member => Program.obtains_next.2 (value a member)).next

theorem worldRotationGet_yields (identified : c.graph.Identified) (small : (worldRotationGet c).2.Small)
    (larger : (worldRotationGet c).2.program.Extends p) (poses : scene.Poses n object world own)
    (target : p.ObtainsAll n scene (worldRotationGet c).1.target (.index object)) :
    p.Yields n scene (.output (worldRotationGet c).1.value.address)
      (.ofRotation (mirrored c.options.spaceConversion world)) := by
  obtain ⟨matrix, parts, plan⟩ := (Plan.bare identified).worldRotationGet
  have reads := ((plan.sound small).2.ofExtends larger).1
  rw [(Build.plain_worldRotationGet c).1.options] at reads
  exact Program.yields_next.1 (reads.yields poses fun a member => Program.obtains_next.2 (target a member))

end Results

/-- A world rotation that is written to an object is read back from it: into the path of the local rotation goes
one quantity, a rotation, and wherever the object takes it while its parent stays as it is, a read yields what was
written and nothing else. -/
theorem worldRotation_readback {c d : Context} {p q : Program} {n : Numerics R M} {before : Scene R M}
    {object : Int32} {world own v : ℍ[R]} (identified : c.graph.Identified) (identified' : d.graph.Identified)
    (alike : d.options.spaceConversion = c.options.spaceConversion)
    (small : (worldRotationSet c).2.Small) (small' : (worldRotationGet d).2.Small)
    (larger : (worldRotationSet c).2.program.Extends p) (larger' : (worldRotationGet d).2.program.Extends q)
    (poses : before.Poses n object world own) (unitWorld : Quaternion.normSq world = 1)
    (unitOwn : Quaternion.normSq own = 1)
    (target : p.ObtainsAll n before (worldRotationSet c).1.target (.index object))
    (value : p.ObtainsAll n before (worldRotationSet c).1.value (.ofRotation v)) :
    ∃ r : ℍ[R],
      (∀ x, p.Deposit n before (worldRotationSet c).1.flowIn Pointer.rotation [object] x ↔ x = .ofRotation r) ∧
      ∀ after : Scene R M, after.Poses n object (world * star own * r) r →
        q.ObtainsAll n after (worldRotationGet d).1.target (.index object) →
        ∀ x, q.Yields n after (.output (worldRotationGet d).1.value.address) x ↔ x = .ofRotation v := by
  have parentUnit : Quaternion.normSq (world * star own) = 1 := by
    rw [map_mul, Quaternion.normSq_star, unitWorld, unitOwn, one_mul]
  have stored := worldRotationSet_deposit identified small larger poses target value
  refine ⟨_, fun x => ⟨fun other => other.unique stored, fun same => same ▸ stored⟩, fun after poses target x => ?_⟩
  have read := worldRotationGet_yields identified' small' larger' poses target
  rw [Quaternion.mul_star_cancel parentUnit, alike, mirrored_mirrored] at read
  exact ⟨fun other => other.unique read, fun same => same ▸ read⟩

end Pattern

/-- A program with something on value inputs that were blank. -/
def Program.supplying (p : Program) (sockets : List SocketAddress) (feed : Feed) : Program :=
  { p with feed? := fun a => if a ∈ sockets then some feed else p.feed? a }

theorem Program.extends_supplying {p : Program} {sockets : List SocketAddress} {feed : Feed}
    (blank : ∀ a ∈ sockets, p.feed? a = none) : p.Extends (p.supplying sockets feed) where
  op _ _ found := found
  parameter _ _ _ found := found
  feed a f found := by
    refine (if_neg fun member => ?_).trans found
    rw [blank a member] at found
    cases found
  next _ _ found := found
  constant _ _ found := found

namespace Turning

/-- Whole numbers, with rotations for matrices. -/
def numerics : Numerics ℤ ℍ[ℤ] where
  number s := if s = .one then 1 else if s = .minusOne then -1 else 0
  number_one := if_pos rfl
  number_minusOne := by decide +kernel
  sin _ := 0
  cos _ := 1
  rotation := id

/-- A scene with one object, the third. -/
def scene (world own : ℍ[ℤ]) : Scene ℤ ℍ[ℤ] := fun path objects =>
  if objects ≠ [3] then none
  else if path = Pointer.globalMatrix then some (.matrix world)
  else if path = Pointer.rotation then some (.ofRotation own)
  else none

theorem poses (world own : ℍ[ℤ]) : (scene world own).Poses numerics 3 world own where
  world := ⟨world, rfl, rfl⟩
  own := by
    have different : Pointer.rotation ≠ Pointer.globalMatrix := by decide +kernel
    simp [scene, different]

/-- A write of a world rotation to the third object. -/
def write : Program :=
  let (set, c) := worldRotationSet {}
  (c.program.supplying set.target.sockets (.constant (.int 3))).supplying set.value.sockets
    (.constant (.quadruple .one .minusOne .one .one))

/-- A read of the world rotation of the third object. -/
def read : Program :=
  let (get, c) := worldRotationGet {}
  c.program.supplying get.target.sockets (.constant (.int 3))

/-- A half turn about the first axis. -/
def first : ℍ[ℤ] := ⟨0, 1, 0, 0⟩

/-- A half turn about the second axis. -/
def second : ℍ[ℤ] := ⟨0, 0, 1, 0⟩

/-- What is written. -/
def written : ℍ[ℤ] := ⟨1, 1, -1, 1⟩

theorem write_readback : ∃ r : ℍ[ℤ],
    write.Deposit numerics (scene first second) (worldRotationSet {}).1.flowIn Pointer.rotation [3] (.ofRotation r) ∧
    read.Yields numerics (scene (first * star second * r) r) (.output (worldRotationGet {}).1.value.address)
      (.ofRotation written) := by
  have identified : ({} : Context).graph.Identified := fun i n found => by simp at found
  have small : (worldRotationSet {}).2.Small := ⟨by decide +kernel, by decide +kernel⟩
  have small' : (worldRotationGet {}).2.Small := ⟨by decide +kernel, by decide +kernel⟩
  have larger : (worldRotationSet {}).2.program.Extends write :=
    (Program.extends_supplying (by decide +kernel)).trans (Program.extends_supplying (by decide +kernel))
  have larger' : (worldRotationGet {}).2.program.Extends read := Program.extends_supplying (by decide +kernel)
  have object : ∀ a ∈ (worldRotationSet {}).1.target.sockets, write.feed? a = some (.constant (.int 3)) := by
    decide +kernel
  have object' : ∀ a ∈ (worldRotationGet {}).1.target.sockets, read.feed? a = some (.constant (.int 3)) := by
    decide +kernel
  have given : ∀ a ∈ (worldRotationSet {}).1.value.sockets,
      write.feed? a = some (.constant (.quadruple .one .minusOne .one .one)) := by decide +kernel
  have value : numerics.quantity? (.quadruple .one .minusOne .one .one) = some (.ofRotation written) := by
    rw [numerics.quantity?_quadruple, numerics.number_one, numerics.number_minusOne]
    rfl
  obtain ⟨r, stored, back⟩ := worldRotation_readback identified identified rfl small small' larger larger'
    (poses first second) (by rw [Quaternion.normSq_def']; rfl) (by rw [Quaternion.normSq_def']; rfl)
    (fun a member => ⟨_, object a member, .constant rfl⟩) (fun a member => ⟨_, given a member, .constant value⟩)
  exact ⟨r, (stored _).2 rfl, (back _ (poses _ _) (fun a member => ⟨_, object' a member, .constant rfl⟩) _).2 rfl⟩

end Turning

end ScriptGraph
