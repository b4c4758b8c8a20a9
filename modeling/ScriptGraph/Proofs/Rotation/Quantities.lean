import Mathlib.Algebra.Quaternion
import ScriptGraph.Pattern.Pointer
import ScriptGraph.Pattern.Quaternion
import ScriptGraph.Proofs.Runtime.Program

/-!
What value nodes compute over a ring.

Numbers belong to a commutative ring, so that what is proved of a pattern is an identity of polynomials and
holds whatever the rounding. A vector is the list of its components; a rotation is a vector of four, the real
part last. Matrices are taken as they come from the world: all that is asked of one is the rotation in it.
-/

namespace ScriptGraph

open scoped Quaternion

/-- What a value output has. -/
inductive Quantity (R M : Type) where
  /-- The number of an object. -/
  | index (i : Int32)
  | vector (components : List R)
  | matrix (entries : M)

/-- How a runtime computes with numbers of `R` and matrices of `M`. -/
structure Numerics (R M : Type) [CommRing R] where
  /-- The number that a constant stands for. -/
  number : Single → R
  number_one : number .one = 1
  number_minusOne : number .minusOne = -1
  sin : R → R
  cos : R → R
  /-- The rotation in a matrix. -/
  rotation : M → ℍ[R]

/-- What stands at the paths of a scene, given the objects that the tokens of a path name. -/
abbrev Scene (R M : Type) := String → List Int32 → Option (Quantity R M)

variable {R M : Type}

namespace Quantity

/-- Two vectors of one length, component by component. -/
def componentwise (f : R → R → R) (x y : List R) : Option (Quantity R M) :=
  if x.length = y.length then some (.vector (List.zipWith f x y)) else none

variable [CommRing R]

/-- A quaternion as a vector. -/
def ofRotation (q : ℍ[R]) : Quantity R M := .vector [q.imI, q.imJ, q.imK, q.re]

end Quantity

namespace Numerics

variable [CommRing R] (n : Numerics R M)

/-- A constant as a quantity. -/
def quantity? : Literal → Option (Quantity R M)
  | .int i => some (.index i)
  | .bool _ | .float4x4 _ => none
  | vector => some (.vector (vector.components.map n.number))

/-- What an output of an operation on vectors has, given what its inputs have. -/
def compute? : Op → String → List (Quantity R M) → Option (Quantity R M)
  | .mathAdd, _, [.vector x, .vector y] => Quantity.componentwise (· + ·) x y
  | .mathMul, _, [.vector x, .vector y] => Quantity.componentwise (· * ·) x y
  | .mathSin, _, [.vector x] => some (.vector (x.map n.sin))
  | .mathCos, _, [.vector x] => some (.vector (x.map n.cos))
  | .mathCombine4, _, [.vector [x], .vector [y], .vector [z], .vector [w]] => some (.vector [x, y, z, w])
  | .mathExtract3, socket, [.vector [x, y, z]] =>
    if socket = "0" then some (.vector [x])
    else if socket = "1" then some (.vector [y])
    else if socket = "2" then some (.vector [z])
    else none
  | .mathQuatMul, _, [.vector [x, y, z, w], .vector [x', y', z', w']] =>
    some (.ofRotation (⟨w, x, y, z⟩ * ⟨w', x', y', z'⟩))
  | .mathMatDecompose, socket, [.matrix m] =>
    if socket = "rotation" then some (.ofRotation (n.rotation m)) else none
  | _, _, _ => none

theorem quantity?_quadruple (x y z w : Single) :
    n.quantity? (.quadruple x y z w) = some (.vector [n.number x, n.number y, n.number z, n.number w]) :=
  rfl

theorem compute?_mathMul {socket : String} (q : ℍ[R]) (x y z w : R) :
    n.compute? .mathMul socket [.ofRotation q, .vector [x, y, z, w]] =
      some (.ofRotation ⟨q.re * w, q.imI * x, q.imJ * y, q.imK * z⟩) :=
  rfl

theorem compute?_mathQuatMul {socket : String} (q q' : ℍ[R]) :
    n.compute? .mathQuatMul socket [.ofRotation q, .ofRotation q'] = some (.ofRotation (q * q')) :=
  rfl

end Numerics

namespace Program

variable [CommRing R] {p q : Program} {n : Numerics R M} {scene : Scene R M}

/-- A feed has a quantity in a scene. -/
inductive Yields (p : Program) (n : Numerics R M) (scene : Scene R M) : Feed → Quantity R M → Prop
  | constant {value : Literal} {x : Quantity R M} (means : n.quantity? value = some x) :
      Yields p n scene (.constant value) x
  | placeholder {a : SocketAddress} {value : Literal} {x : Quantity R M} (isPlaceholder : a.node.isPlaceholder = true)
      (known : p.constant? a = some value) (means : n.quantity? value = some x) : Yields p n scene (.output a) x
  | pointer {a : SocketAddress} {path : String} {feeds : String → Feed} {objects : String → Int32}
      {x : Quantity R M} (real : a.node.isPlaceholder = false) (op : p.op? a.node = some .pointerGet)
      (socket : a.socket = "value") (parameter : p.parameter? a.node "pointer" = some (.text path))
      (fed : ∀ name ∈ Template.names path, p.feed? ⟨a.node, name⟩ = some (feeds name))
      (names : ∀ name ∈ Template.names path, Yields p n scene (feeds name) (.index (objects name)))
      (there : scene path ((Template.names path).map objects) = some x) : Yields p n scene (.output a) x
  | compute {a : SocketAddress} {kind : Op} {feeds : String → Feed} {values : String → Quantity R M}
      {x : Quantity R M} (real : a.node.isPlaceholder = false) (op : p.op? a.node = some kind)
      (fed : ∀ name ∈ kind.schema.valuesIn, p.feed? ⟨a.node, name⟩ = some (feeds name))
      (yields : ∀ name ∈ kind.schema.valuesIn, Yields p n scene (feeds name) (values name))
      (result : n.compute? kind a.socket (kind.schema.valuesIn.map values) = some x) :
      Yields p n scene (.output a) x

/-- A value input has a quantity in a scene. -/
def Obtains (p : Program) (n : Numerics R M) (scene : Scene R M) (a : SocketAddress) (x : Quantity R M) : Prop :=
  ∃ feed, p.feed? a = some feed ∧ p.Yields n scene feed x

/-- All sockets of a value input have a quantity in a scene. -/
def ObtainsAll (p : Program) (n : Numerics R M) (scene : Scene R M) (t : ValueIn) (x : Quantity R M) : Prop :=
  ∀ a ∈ t.sockets, p.Obtains n scene a x

variable {x y z : Quantity R M}

/-- Quantities do not depend on where flows lead. -/
theorem yields_next {feed : Feed} {next? : SocketAddress → Option SocketAddress} :
    Yields { p with next? } n scene feed x ↔ p.Yields n scene feed x := by
  constructor
  all_goals
    intro yields
    induction yields with
    | constant means => exact .constant means
    | placeholder isPlaceholder known means => exact .placeholder isPlaceholder known means
    | pointer real op socket parameter fed _ there names => exact .pointer real op socket parameter fed names there
    | compute real op fed _ result yields => exact .compute real op fed yields result

theorem obtains_next {a : SocketAddress} {next? : SocketAddress → Option SocketAddress} :
    Obtains { p with next? } n scene a x ↔ p.Obtains n scene a x := by
  simp only [Obtains, yields_next]

/-- A node yields what comes from what its inputs obtain. -/
theorem Yields.of_obtains {a : SocketAddress} {kind : Op} (values : String → Quantity R M)
    (real : a.node.isPlaceholder = false) (op : p.op? a.node = some kind)
    (obtains : ∀ name ∈ kind.schema.valuesIn, p.Obtains n scene ⟨a.node, name⟩ (values name))
    (result : n.compute? kind a.socket (kind.schema.valuesIn.map values) = some x) :
    p.Yields n scene (.output a) x := by
  have feeds (name : String) : ∃ feed, name ∈ kind.schema.valuesIn →
      p.feed? ⟨a.node, name⟩ = some feed ∧ p.Yields n scene feed (values name) := by
    by_cases member : name ∈ kind.schema.valuesIn
    · obtain ⟨feed, fed, yields⟩ := obtains name member
      exact ⟨feed, fun _ => ⟨fed, yields⟩⟩
    · exact ⟨.output a, fun there => absurd there member⟩
  choose feed here using feeds
  exact .compute real op (fun name member => (here name member).1) (fun name member => (here name member).2) result

theorem Yields.unary {a : SocketAddress} {kind : Op} (real : a.node.isPlaceholder = false)
    (op : p.op? a.node = some kind) (inputs : kind.schema.valuesIn = ["a"])
    (first : p.Obtains n scene ⟨a.node, "a"⟩ x) (result : n.compute? kind a.socket [x] = some z) :
    p.Yields n scene (.output a) z := by
  refine .of_obtains (fun _ => x) real op ?_ (by rw [inputs]; exact result)
  rw [inputs]
  simpa using first

theorem Yields.binary {a : SocketAddress} {kind : Op} (real : a.node.isPlaceholder = false)
    (op : p.op? a.node = some kind) (inputs : kind.schema.valuesIn = ["a", "b"])
    (first : p.Obtains n scene ⟨a.node, "a"⟩ x) (second : p.Obtains n scene ⟨a.node, "b"⟩ y)
    (result : n.compute? kind a.socket [x, y] = some z) : p.Yields n scene (.output a) z := by
  refine .of_obtains (fun name => if name = "a" then x else y) real op ?_ (by rw [inputs]; exact result)
  rw [inputs]
  simpa using ⟨first, second⟩

/-- A feed has at most one quantity. -/
theorem Yields.unique {feed : Feed} (first : p.Yields n scene feed x) (second : p.Yields n scene feed y) : x = y := by
  induction first generalizing y with
  | constant means =>
    cases second with
    | constant means' => exact Option.some.inj (means.symm.trans means')
  | placeholder isPlaceholder known means =>
    cases second with
    | placeholder _ known' means' =>
      obtain rfl := Option.some.inj (known.symm.trans known')
      exact Option.some.inj (means.symm.trans means')
    | _ => simp_all
  | @pointer a path feeds objects x real op socket parameter fed _ there ih =>
    cases second with
    | placeholder isPlaceholder => simp_all
    | @pointer _ _ _ objects' _ _ _ _ parameter' fed' names' there' =>
      obtain rfl := ConfigValue.text.inj (Option.some.inj (parameter.symm.trans parameter'))
      have same (name : String) (member : name ∈ Template.names path) : objects name = objects' name := by
        have feeds := Option.some.inj ((fed name member).symm.trans (fed' name member))
        exact Quantity.index.inj (ih name member (feeds ▸ names' name member))
      rw [List.map_congr_left same] at there
      exact Option.some.inj (there.symm.trans there')
    | compute _ op' _ _ result =>
      obtain rfl := Option.some.inj (op.symm.trans op')
      simp [Numerics.compute?] at result
  | @compute a kind feeds values x real op fed _ result ih =>
    cases second with
    | placeholder isPlaceholder => simp_all
    | pointer _ op' =>
      obtain rfl := Option.some.inj (op.symm.trans op')
      simp [Numerics.compute?] at result
    | @compute _ _ _ values' _ _ op' fed' yields' result' =>
      obtain rfl := Option.some.inj (op.symm.trans op')
      have same (name : String) (member : name ∈ kind.schema.valuesIn) : values name = values' name := by
        have feeds := Option.some.inj ((fed name member).symm.trans (fed' name member))
        exact ih name member (feeds ▸ yields' name member)
      rw [List.map_congr_left same] at result
      exact Option.some.inj (result.symm.trans result')

theorem Obtains.unique {a : SocketAddress} (first : p.Obtains n scene a x) (second : p.Obtains n scene a y) :
    x = y := by
  obtain ⟨feed, fed, yields⟩ := first
  obtain ⟨feed', fed', yields'⟩ := second
  obtain rfl := Option.some.inj (fed.symm.trans fed')
  exact yields.unique yields'

end Program

end ScriptGraph
