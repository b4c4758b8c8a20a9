import ScriptGraph.Proofs.Rotation.Patterns

/-!
A rotation that is built from Euler angles is the product of the rotations about the axes.

Half of each angle goes through a sine and a cosine. Each component of `qy * qx * qz` is a sum of two products of
three of these six numbers, so that the six vectors of the pattern, which hold one factor of each product, give
the components all at once: `a0 * a1 * a2 + b0 * b1 * b2 * (1, -1, -1, 1)`.
-/

namespace ScriptGraph

open Pattern
open scoped Quaternion

variable {R M : Type} [CommRing R]

/-- The rotation about the first axis, by the sine and the cosine of half its angle. -/
def aboutX (sin cos : R) : ℍ[R] := ⟨cos, sin, 0, 0⟩

/-- The rotation about the second axis, by the sine and the cosine of half its angle. -/
def aboutY (sin cos : R) : ℍ[R] := ⟨cos, 0, sin, 0⟩

/-- The rotation about the third axis, by the sine and the cosine of half its angle. -/
def aboutZ (sin cos : R) : ℍ[R] := ⟨cos, 0, 0, sin⟩

/-- About the third axis first, then about the first one, then about the second one. -/
theorem aboutY_mul_aboutX_mul_aboutZ (sx sy sz cx cy cz : R) :
    aboutY sy cy * aboutX sx cx * aboutZ sz cz =
      ⟨cx * cy * cz + sx * sy * sz, sx * cy * cz + cx * sy * sz, cx * sy * cz - sx * cy * sz,
        cx * cy * sz - sx * sy * cz⟩ := by
  ext
  all_goals
    simp only [Quaternion.re_mul, Quaternion.imI_mul, Quaternion.imJ_mul, Quaternion.imK_mul]
    simp only [aboutX, aboutY, aboutZ]
    ring

/-- The constant that angles are halved with is one half, `2 ^ 23 * 2 ^ (-24)`. -/
theorem Pattern.value_half : half.value = .finite false 0x800000 (-24) := rfl

/-- Half of a number. -/
def Numerics.halve (n : Numerics R M) (x : R) : R := x * n.number half

namespace Program

/-- A node takes a vector of three apart. -/
structure Splits (p : Program) (v : ValueOut) (node : NodeId) : Prop where
  real : node.isPlaceholder = false
  op : p.op? node = some .mathExtract3
  fed : p.feed? ⟨node, "a"⟩ = some (.output v.address)

/-- An output is the vector of four others. -/
structure Joins (p : Program) (a b c d v : ValueOut) : Prop where
  real : v.address.node.isPlaceholder = false
  op : p.op? v.address.node = some .mathCombine4
  first : p.feed? ⟨v.address.node, "a"⟩ = some (.output a.address)
  second : p.feed? ⟨v.address.node, "b"⟩ = some (.output b.address)
  third : p.feed? ⟨v.address.node, "c"⟩ = some (.output c.address)
  fourth : p.feed? ⟨v.address.node, "d"⟩ = some (.output d.address)

section Yields

variable {p : Program} {n : Numerics R M} {scene : Scene R M} {a b c d u v : ValueOut} {x y z w x' y' z' w' : R}

theorem Splits.yields {node : NodeId} (splits : p.Splits v node)
    (yields : p.Yields n scene (.output v.address) (.vector [x, y, z])) :
    p.Yields n scene (.output ⟨node, "0"⟩) (.vector [x]) ∧ p.Yields n scene (.output ⟨node, "1"⟩) (.vector [y]) ∧
      p.Yields n scene (.output ⟨node, "2"⟩) (.vector [z]) :=
  have fed : p.Obtains n scene ⟨node, "a"⟩ (.vector [x, y, z]) := ⟨_, splits.fed, yields⟩
  ⟨.unary splits.real splits.op rfl fed rfl, .unary splits.real splits.op rfl fed rfl,
    .unary splits.real splits.op rfl fed rfl⟩

theorem Joins.yields (joins : p.Joins a b c d v) (first : p.Yields n scene (.output a.address) (.vector [x]))
    (second : p.Yields n scene (.output b.address) (.vector [y]))
    (third : p.Yields n scene (.output c.address) (.vector [z]))
    (fourth : p.Yields n scene (.output d.address) (.vector [w])) :
    p.Yields n scene (.output v.address) (.vector [x, y, z, w]) := by
  have inputs : Op.mathCombine4.schema.valuesIn = ["a", "b", "c", "d"] := rfl
  refine .of_obtains (fun name =>
    if name = "a" then .vector [x] else if name = "b" then .vector [y] else if name = "c" then .vector [z]
    else .vector [w]) joins.real joins.op ?_ rfl
  rw [inputs]
  simpa using ⟨⟨_, joins.first, first⟩, ⟨_, joins.second, second⟩, ⟨_, joins.third, third⟩,
    ⟨_, joins.fourth, fourth⟩⟩

theorem Applies.yields_mul (applies : p.Applies .mathMul a b v)
    (first : p.Yields n scene (.output a.address) (.vector [x, y, z, w]))
    (second : p.Yields n scene (.output b.address) (.vector [x', y', z', w'])) :
    p.Yields n scene (.output v.address) (.vector [x * x', y * y', z * z', w * w']) :=
  applies.yields rfl first second rfl

end Yields

end Program

/-- The outputs between angles and their rotation. -/
structure EulerNodes where
  halved : ValueOut
  sin : ValueOut
  cos : ValueOut
  sines : NodeId
  cosines : NodeId
  a0 : ValueOut
  a1 : ValueOut
  a2 : ValueOut
  b0 : ValueOut
  b1 : ValueOut
  b2 : ValueOut
  a01 : ValueOut
  aTerm : ValueOut
  b01 : ValueOut
  b012 : ValueOut
  bTerm : ValueOut

namespace EulerNodes

variable (nodes : EulerNodes)

/-- The sine of half the first angle. -/
def sx : ValueOut := nodes.sines.valueOut "0"

/-- The sine of half the second angle. -/
def sy : ValueOut := nodes.sines.valueOut "1"

/-- The sine of half the third angle. -/
def sz : ValueOut := nodes.sines.valueOut "2"

/-- The cosine of half the first angle. -/
def cx : ValueOut := nodes.cosines.valueOut "0"

/-- The cosine of half the second angle. -/
def cy : ValueOut := nodes.cosines.valueOut "1"

/-- The cosine of half the third angle. -/
def cz : ValueOut := nodes.cosines.valueOut "2"

end EulerNodes

namespace Program

/-- The nodes of a rotation from Euler angles stand in the program. -/
structure Turns (p : Program) (nodes : EulerNodes) (euler v : ValueOut) : Prop where
  halved : p.AppliesTo .mathMul euler (.triple half half half) nodes.halved
  sin : p.AppliesUnary .mathSin nodes.halved nodes.sin
  cos : p.AppliesUnary .mathCos nodes.halved nodes.cos
  sines : p.Splits nodes.sin nodes.sines
  cosines : p.Splits nodes.cos nodes.cosines
  a0 : p.Joins nodes.sx nodes.cx nodes.cx nodes.cx nodes.a0
  a1 : p.Joins nodes.cy nodes.sy nodes.cy nodes.cy nodes.a1
  a2 : p.Joins nodes.cz nodes.cz nodes.sz nodes.cz nodes.a2
  b0 : p.Joins nodes.cx nodes.sx nodes.sx nodes.sx nodes.b0
  b1 : p.Joins nodes.sy nodes.cy nodes.sy nodes.sy nodes.b1
  b2 : p.Joins nodes.sz nodes.sz nodes.cz nodes.sz nodes.b2
  a01 : p.Applies .mathMul nodes.a0 nodes.a1 nodes.a01
  aTerm : p.Applies .mathMul nodes.a01 nodes.a2 nodes.aTerm
  b01 : p.Applies .mathMul nodes.b0 nodes.b1 nodes.b01
  b012 : p.Applies .mathMul nodes.b01 nodes.b2 nodes.b012
  bTerm : p.AppliesTo .mathMul nodes.b012 (.quadruple .one .minusOne .minusOne .one) nodes.bTerm
  sum : p.Applies .mathAdd nodes.aTerm nodes.bTerm v

variable {p : Program} {n : Numerics R M} {scene : Scene R M} {nodes : EulerNodes} {euler v : ValueOut} {x y z : R}

theorem Turns.yields_sines (turns : p.Turns nodes euler v)
    (angles : p.Yields n scene (.output euler.address) (.vector [x, y, z])) :
    p.Yields n scene (.output nodes.sx.address) (.vector [n.sin (n.halve x)]) ∧
      p.Yields n scene (.output nodes.sy.address) (.vector [n.sin (n.halve y)]) ∧
        p.Yields n scene (.output nodes.sz.address) (.vector [n.sin (n.halve z)]) :=
  turns.sines.yields (turns.sin.yields rfl (turns.halved.yields rfl angles rfl rfl) rfl)

theorem Turns.yields_cosines (turns : p.Turns nodes euler v)
    (angles : p.Yields n scene (.output euler.address) (.vector [x, y, z])) :
    p.Yields n scene (.output nodes.cx.address) (.vector [n.cos (n.halve x)]) ∧
      p.Yields n scene (.output nodes.cy.address) (.vector [n.cos (n.halve y)]) ∧
        p.Yields n scene (.output nodes.cz.address) (.vector [n.cos (n.halve z)]) :=
  turns.cosines.yields (turns.cos.yields rfl (turns.halved.yields rfl angles rfl rfl) rfl)

/-- What the six vectors come to is the product of the three rotations. -/
theorem Turns.yields (turns : p.Turns nodes euler v)
    (angles : p.Yields n scene (.output euler.address) (.vector [x, y, z])) :
    p.Yields n scene (.output v.address)
      (.ofRotation (aboutY (n.sin (n.halve y)) (n.cos (n.halve y)) * aboutX (n.sin (n.halve x)) (n.cos (n.halve x)) *
        aboutZ (n.sin (n.halve z)) (n.cos (n.halve z)))) := by
  obtain ⟨sx, sy, sz⟩ := turns.yields_sines angles
  obtain ⟨cx, cy, cz⟩ := turns.yields_cosines angles
  have a0 := turns.a0.yields sx cx cx cx
  have a1 := turns.a1.yields cy sy cy cy
  have a2 := turns.a2.yields cz cz sz cz
  have b0 := turns.b0.yields cx sx sx sx
  have b1 := turns.b1.yields sy cy sy sy
  have b2 := turns.b2.yields sz sz cz sz
  have aTerm := turns.aTerm.yields_mul (turns.a01.yields_mul a0 a1) a2
  have b012 := turns.b012.yields_mul (turns.b01.yields_mul b0 b1) b2
  have bTerm := turns.bTerm.yields rfl b012 (n.quantity?_quadruple ..) rfl
  refine turns.sum.yields rfl aTerm bTerm ?_
  rw [aboutY_mul_aboutX_mul_aboutZ, n.number_one, n.number_minusOne]
  simp only [Numerics.compute?, Quantity.componentwise, Quantity.ofRotation]
  simp [sub_eq_add_neg]

end Program

namespace Plan

variable {start c : Context} {blanks idles : List SocketAddress} {holding : Program → Prop}

theorem extract3 (plan : Plan start blanks idles holding c) (v : ValueOut) :
    Ensures (Pattern.extract3 v) c fun parts c' => ∃ node : NodeId,
      parts = (node.valueOut "0", node.valueOut "1", node.valueOut "2") ∧
        Plan start blanks idles (fun q => q.Splits v node ∧ holding q) c' := by
  refine (plan.createNode ["a"] [] (by decide)).bind fun node _ ⟨plan, _⟩ => ?_
  refine (plan.connect (t := node.valueIn "a") v (.refl _)).bind fun _ _ plan => .pure ⟨node, rfl, ?_⟩
  exact plan.mono fun q ⟨fed, stands, old⟩ => ⟨⟨stands.real, stands.op, fed ⟨node, "a"⟩ (by simp)⟩, old⟩

theorem combine4 (plan : Plan start blanks idles holding c) (x y z w : ValueOut) :
    Ensures (Pattern.combine4 x y z w) c fun v c' =>
      Plan start blanks idles (fun q => q.Joins x y z w v ∧ holding q) c' := by
  refine (plan.createNode componentSockets [] (by decide)).bind fun node c ⟨plan, _⟩ => ?_
  have joined : Ensures (Pattern.connectAll node componentSockets [x, y, z, w]) c fun _ c' =>
      Plan start blanks idles (fun q => q.Joins x y z w (node.valueOut "value") ∧ holding q) c' := by
    refine (plan.connect (t := node.valueIn "a") x (.refl _)).bind fun _ _ plan => ?_
    refine (plan.connect (t := node.valueIn "b") y (.refl _)).bind fun _ _ plan => ?_
    refine (plan.connect (t := node.valueIn "c") z (.refl _)).bind fun _ _ plan => ?_
    refine (plan.connect (t := node.valueIn "d") w (.refl _)).bind fun _ _ plan => .pure ?_
    exact plan.mono fun q ⟨fourth, third, second, first, stands, old⟩ =>
      ⟨⟨stands.real, stands.op, first ⟨node, "a"⟩ (by simp), second ⟨node, "b"⟩ (by simp),
        third ⟨node, "c"⟩ (by simp), fourth ⟨node, "d"⟩ (by simp)⟩, old⟩
  exact joined.bind fun _ _ plan => .pure plan

theorem fromEulerRadians (plan : Plan start blanks idles holding c) (euler : ValueOut) :
    Ensures (Pattern.fromEulerRadians euler) c fun v c' => ∃ nodes,
      Plan start blanks idles (fun q => q.Turns nodes euler v ∧ holding q) c' := by
  refine (plan.binaryLiteralNode _ _ _).bind fun halved _ plan => ?_
  refine (plan.unaryNode _ _).bind fun sin _ plan => ?_
  refine (plan.unaryNode _ _).bind fun cos _ plan => ?_
  refine (plan.extract3 _).bind ?_
  rintro _ _ ⟨sines, rfl, plan⟩
  refine (plan.extract3 _).bind ?_
  rintro _ _ ⟨cosines, rfl, plan⟩
  refine (plan.combine4 _ _ _ _).bind fun a0 _ plan => ?_
  refine (plan.combine4 _ _ _ _).bind fun a1 _ plan => ?_
  refine (plan.combine4 _ _ _ _).bind fun a2 _ plan => ?_
  refine (plan.combine4 _ _ _ _).bind fun b0 _ plan => ?_
  refine (plan.combine4 _ _ _ _).bind fun b1 _ plan => ?_
  refine (plan.combine4 _ _ _ _).bind fun b2 _ plan => ?_
  refine (plan.binaryNode _ _ _).bind fun a01 _ plan => ?_
  refine (plan.binaryNode _ _ _).bind fun aTerm _ plan => ?_
  refine (plan.binaryNode _ _ _).bind fun b01 _ plan => ?_
  refine (plan.binaryNode _ _ _).bind fun b012 _ plan => ?_
  refine (plan.binaryLiteralNode _ _ _).bind fun bTerm _ plan => ?_
  refine (plan.binaryNode _ _ _).mono fun v _ plan =>
    ⟨⟨halved, sin, cos, sines, cosines, a0, a1, a2, b0, b1, b2, a01, aTerm, b01, b012, bTerm⟩, ?_⟩
  refine plan.mono fun q facts => ?_
  obtain ⟨sum, turnedB, allB, pairB, allA, pairA, secondB, firstB, zerothB, secondA, firstA, zerothA, split', split,
    cosine, sine, half, old⟩ := facts
  exact ⟨⟨half, sine, cosine, split, split', zerothA, firstA, secondA, zerothB, firstB, secondB, pairA, allA, pairB,
    allB, turnedB, sum⟩, old⟩

end Plan

namespace Pattern

/-- From Euler angles comes the product of the rotations about the second, the first and the third axis, which turns
about the third one first; and nothing else comes from them. -/
theorem fromEulerRadians_product {c : Context} {p : Program} {n : Numerics R M} {scene : Scene R M} {euler : ValueOut}
    {x y z : R} (identified : c.graph.Identified) (small : (fromEulerRadians euler c).2.Small)
    (larger : (fromEulerRadians euler c).2.program.Extends p)
    (angles : p.Yields n scene (.output euler.address) (.vector [x, y, z])) (q : Quantity R M) :
    p.Yields n scene (.output (fromEulerRadians euler c).1.address) q ↔
      q = .ofRotation (aboutY (n.sin (n.halve y)) (n.cos (n.halve y)) *
        aboutX (n.sin (n.halve x)) (n.cos (n.halve x)) * aboutZ (n.sin (n.halve z)) (n.cos (n.halve z))) := by
  obtain ⟨nodes, plan⟩ := (Plan.bare identified).fromEulerRadians euler
  have turns := ((plan.sound small).2.ofExtends larger).1
  have yields := Program.yields_next.1 (turns.yields (Program.yields_next.2 angles))
  exact ⟨fun other => other.unique yields, fun same => same ▸ yields⟩

end Pattern

/-- The real number that a single stands for; zero where it stands for none. -/
noncomputable def Single.toReal (s : Single) : ℝ :=
  match s.value with
  | .finite negative significand exponent => (if negative then -1 else 1) * significand * 2 ^ exponent
  | _ => 0

theorem Single.toReal_eq {s : Single} {negative : Bool} {significand : Nat} {exponent : Int}
    (value : s.value = .finite negative significand exponent) :
    s.toReal = (if negative then -1 else 1) * significand * 2 ^ exponent := by
  rw [toReal, value]

theorem Pattern.toReal_half : half.toReal = 1 / 2 := by
  rw [Single.toReal_eq value_half]
  norm_num

namespace HalfTurns

/-- Real numbers, with rotations for matrices. -/
noncomputable def numerics : Numerics ℝ ℍ[ℝ] where
  number := Single.toReal
  number_one := by
    rw [Single.toReal_eq (show Single.one.value = .finite false 0x800000 (-23) from rfl)]
    norm_num
  number_minusOne := by
    rw [Single.toReal_eq (show Single.minusOne.value = .finite true 0x800000 (-23) from rfl)]
    norm_num
  sin := Real.sin
  cos := Real.cos
  rotation := id

/-- Where the angles stand. -/
def path : String := "/angles"

/-- Half a turn about the first axis and half a turn about the second one. -/
noncomputable def scene : Scene ℝ ℍ[ℝ] := fun _ _ => some (.vector [Real.pi, Real.pi, 0])

/-- The angles and what reads them. -/
def angles : PointerGet × Context := pointerGet path .float3 {}

/-- Both half turns together are half a turn about the third axis, the other way round. -/
theorem yields_half_turn :
    (fromEulerRadians angles.1.value angles.2).2.program.Yields numerics scene
      (.output (fromEulerRadians angles.1.value angles.2).1.address) (.ofRotation ⟨0, 0, 0, -1⟩) := by
  have bare : ({} : Context).graph.Identified := fun i n found => by simp at found
  have plan := (Plan.bare bare).pointerGet path .float3
  have identified : angles.2.graph.Identified := (Plan.sound plan ⟨by decide +kernel, by decide +kernel⟩).1
  have small : (fromEulerRadians angles.1.value angles.2).2.Small := ⟨by decide +kernel, by decide +kernel⟩
  have read : (fromEulerRadians angles.1.value angles.2).2.program.Yields numerics scene
      (.output angles.1.value.address) (.vector [Real.pi, Real.pi, 0]) := by
    have tokenless : Template.names path = [] := by decide +kernel
    have parameter : (fromEulerRadians angles.1.value angles.2).2.program.parameter? angles.1.value.address.node
        "pointer" = some (.text path) := by decide +kernel
    refine @Program.Yields.pointer _ _ _ _ _ _ _ path (fun _ => .constant (.int 0)) (fun _ => 0) _ (by decide +kernel)
      (by decide +kernel) rfl parameter ?_ ?_ rfl
    all_goals simp [tokenless]
  have half : numerics.halve Real.pi = Real.pi / 2 := by
    rw [Numerics.halve, show numerics.number Pattern.half = 1 / 2 from toReal_half]
    ring
  have straight : numerics.halve 0 = 0 := zero_mul _
  refine (fromEulerRadians_product identified small (.refl _) read _).2 ?_
  rw [half, straight, aboutY_mul_aboutX_mul_aboutZ]
  simp [numerics]

end HalfTurns

end ScriptGraph
