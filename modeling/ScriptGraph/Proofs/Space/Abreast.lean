import Mathlib
import ScriptGraph.Proofs.Space.Steps

/-!
Steps of two runs that keep pace.

A step keeps pace with itself when, begun by twins, it leaves twins and returns values that play the same part, as
long as the identities of the converting run suffice. That no node is lost is told apart from the comparison, so
that a run whose identities do not suffice in the end need not be followed to the end.
-/

namespace ScriptGraph

open Pattern

/-- The tables and settings of two contexts are the same, but for the conversion. -/
structure Context.Shares (c c' : Context) : Prop where
  vars : c'.graph.vars = c.graph.vars
  events : c'.graph.events = c.graph.events
  placeholders : c'.placeholders = c.placeholders
  counters : c'.counters = c.counters
  targets : c'.targets = c.targets
  diagnostics : c'.diagnostics = c.diagnostics
  options : c'.options = { c.options with spaceConversion := c'.options.spaceConversion }

instance : Paired Context where
  pairs _ c c' := c.Shares c'
  mono shares _ := shares
  refl _ := ⟨rfl, rfl, rfl, rfl, rfl, rfl, rfl⟩

/-- States with a context in them. -/
class Machine (σ : Type) extends Paired σ where
  context : σ → Context

instance : Machine Context := { context := id }

open Machine (context)

/-- The runs are at the same step. -/
def Pairing.Sim {σ : Type} [Machine σ] (s s' : σ) : Pairing → Prop
  | .apart roles => Twins roles (context s) (context s') ∧ Pair (.apart roles) s s'
  | .lost => False

/-- Different inputs are not paired with the same one. -/
def Pairing.Sound : Pairing → Prop
  | .apart roles => ∀ a a' b b' : SocketAddress, (Pairing.apart roles).Input a a' →
      (Pairing.apart roles).Input b b' → (a = b ↔ a' = b')
  | .lost => False

section Soundness

variable {roles : List Role} {c c' : Context}

theorem Twins.writing_eq (twins : Twins roles c c') {i j : Nat} {a : SocketAddress}
    (first : roles[i]? = some (.writing a)) (second : roles[j]? = some (.writing a)) : i = j := by
  obtain ⟨_, _, k, _, there, feeding⟩ := twins.fed first
  obtain ⟨_, _, l, _, there', feeding'⟩ := twins.fed second
  obtain rfl := twins.lists.place_eq there there'
  rw [feeding] at feeding'
  have number : NodeId.ofNat i = .ofNat j := by simpa using congrArg (·.map (·.source.map (·.node))) feeding'
  have short := twins.length_le
  have base : NodeId.placeholderBase = 0x40000000 := rfl
  have inside := (List.getElem?_eq_some_iff.1 first).1
  have inside' := (List.getElem?_eq_some_iff.1 second).1
  rw [← NodeId.toNat_ofNat (n := i) (by omega), number, NodeId.toNat_ofNat (by omega)]

theorem Twins.sound (twins : Twins roles c c') : (Pairing.apart roles).Sound := by
  intro a a' b b' first second
  constructor
  · rintro rfl
    cases first with
    | kept keeps socket free =>
      cases keeps with | kept role =>
      cases second with
      | kept keeps' =>
        cases keeps' with | kept role' =>
        rw [NodeId.toNat_inj (twins.lists.place_eq role role')]
      | flipped role' =>
        obtain ⟨_, _, k, _, there, _⟩ := twins.fed role'
        exact absurd (twins.lists.sink_eq role there) free
    | flipped role =>
      cases second with
      | kept keeps' socket free =>
        cases keeps' with | kept role' =>
        obtain ⟨_, _, k, _, there, _⟩ := twins.fed role
        exact absurd (twins.lists.sink_eq role' there) free
      | flipped role' => rw [NodeId.toNat_inj (twins.writing_eq role role')]
  · rintro rfl
    cases first with
    | kept keeps socket free =>
      cases keeps with | kept role =>
      cases second with
      | kept keeps' =>
        cases keeps' with | kept role' =>
        rw [role] at role'
        cases role'
        rfl
      | flipped role' =>
        rw [role] at role'
        cases role'
    | flipped role =>
      cases second with
      | kept keeps' =>
        cases keeps' with | kept role' =>
        rw [role] at role'
        cases role'
      | flipped role' =>
        rw [role] at role'
        cases role'
        rfl

theorem Twins.joins_eq_iff (twins : Twins roles c c') {a a' b b' : SocketAddress}
    (first : (Pairing.apart roles).Joins a a') (second : (Pairing.apart roles).Joins b b') : a = b ↔ a' = b' := by
  cases first with | kept keeps socket =>
  cases second with | kept keeps' socket' =>
  cases keeps with | kept role =>
  cases keeps' with | kept role' =>
  have met := twins.lists.place_eq_iff role role'
  simp only [SocketAddress.mk.injEq]
  refine and_congr_left fun _ => ⟨fun same => ?_, fun same => ?_⟩
  · exact NodeId.toNat_inj (met.2 (congrArg NodeId.toNat same))
  · exact NodeId.toNat_inj (met.1 (congrArg NodeId.toNat same))

end Soundness

section Links

variable {p : Pairing}

theorem pairs_addNew (sound : p.Sound) {known known' more more' : List SocketAddress}
    (old : List.Forall₂ p.Input known known') (new : List.Forall₂ p.Input more more') :
    List.Forall₂ p.Input (ValueIn.addNew known more) (ValueIn.addNew known' more') := by
  cases p with
  | lost => exact sound.elim
  | apart roles =>
  induction new generalizing known known' with
  | nil => exact old
  | @cons a a' rest rest' input _ ih =>
    have member : a ∈ known ↔ a' ∈ known' := by
      clear ih
      induction old with
      | nil => simp
      | cons first _ ih => simp only [List.mem_cons, ih, sound _ _ _ _ input first]
    rw [ValueIn.addNew, ValueIn.addNew]
    refine ih ?_
    simp only [List.contains_iff_mem, member]
    split
    · exact old
    · exact List.rel_append old (.cons input .nil)

theorem pairs_link (sound : p.Sound) {inputs inputs' : List ValueIn} (pair : Pair p inputs inputs') :
    Pair p (ValueIn.link inputs) (ValueIn.link inputs') :=
  pairs_addNew sound .nil (List.rel_flatMap pair fun _ _ input => input)

end Links

/-- The steps keep pace, and what they return is related. -/
structure Abreast {σ α : Type} [Machine σ] (p : Pairing) (q : Pairing → α → α → Prop) (x y : StateM σ α) : Prop where
  grows : ∀ s, (context s).Before (context (y s).2)
  twins : ∀ s s', p.Sim s s' → (context (y s').2).Small →
    ∃ p', p.Le p' ∧ p'.Sim (x s).2 (y s').2 ∧ q p' (x s).1 (y s').1

/-- The steps keep pace, and what they return plays the same part. -/
abbrev Tracks {σ α : Type} [Machine σ] [Paired α] (p : Pairing) (x y : StateM σ α) : Prop :=
  Abreast p Paired.pairs x y

/-- The same nodes as before, or no comparison. -/
def Pairing.Stays {α : Type} (p p' : Pairing) (_ _ : α) : Prop := p' = p ∨ p' = .lost

theorem Pairing.Stays.trans {α : Type} {p p' p'' : Pairing} {a b a' b' : α} (first : p.Stays p' a b)
    (second : p'.Stays p'' a' b') : p.Stays p'' a' b' := by
  rcases first with rfl | rfl
  · exact second
  · rcases second with rfl | rfl <;> exact .inr rfl

namespace Abreast

variable {σ α β : Type} [Machine σ] {p : Pairing} {q : Pairing → α → α → Prop} {r : Pairing → β → β → Prop}
  {x y : StateM σ α} {f g : α → StateM σ β}

/-- One step follows another. Where the identities do not suffice, the second step is looked at for its growth only. -/
theorem follow (first : Abreast p q x y) (refl : ∀ a, q .lost a a)
    (second : ∀ p' a b, p.Next p' → q p' a b → Abreast p' r (f a) (g b)) : Abreast p r (x >>= f) (y >>= g) where
  grows s := (first.grows s).trans ((second .lost _ _ ⟨.lost⟩ (refl _)).grows _)
  twins s s' sim small := by
    have before := (second .lost _ _ ⟨.lost⟩ (refl (y s').1)).grows (y s').2
    obtain ⟨p', le, sim', related⟩ := first.twins s s' sim (before.small small)
    obtain ⟨p'', le', sim'', related'⟩ := (second p' _ _ ⟨le⟩ related).twins _ _ sim' small
    exact ⟨p'', le.trans le', sim'', related'⟩

theorem bind [Paired α] {x y : StateM σ α} (first : Tracks p x y)
    (second : ∀ p' a b, p.Next p' → Pair p' a b → Abreast p' r (f a) (g b)) : Abreast p r (x >>= f) (y >>= g) :=
  first.follow Paired.refl second

/-- A step that only does something. -/
theorem andThen {x y : StateM σ Unit} {f g : Unit → StateM σ β} (first : Tracks p x y)
    (second : ∀ p', p.Next p' → Abreast p' r (f ()) (g ())) : Abreast p r (x >>= f) (y >>= g) :=
  first.bind fun p' _ _ le _ => second p' le

theorem weaken {q' : Pairing → α → α → Prop} (abreast : Abreast p q x y)
    (imp : ∀ p' a b, p.Le p' → q p' a b → q' p' a b) : Abreast p q' x y where
  grows := abreast.grows
  twins s s' sim small := by
    obtain ⟨p', le, sim', related⟩ := abreast.twins s s' sim small
    exact ⟨p', le, sim', imp p' _ _ le related⟩

/-- What is returned need only be related while the runs are compared. -/
theorem returns {a b : α} (related : p.Sound → q p a b) : Abreast p q (Pure.pure a : StateM σ α) (Pure.pure b) where
  grows s := .refl _
  twins s s' sim _ := by
    cases p with
    | lost => exact sim.elim
    | apart roles => exact ⟨_, .refl _, sim, related sim.1.sound⟩

theorem pure {a b : α} (related : q p a b) : Abreast p q (Pure.pure a : StateM σ α) (Pure.pure b) :=
  returns fun _ => related

/-- The state is read. -/
theorem read : Tracks p (get : StateM σ σ) get where
  grows s := .refl _
  twins s s' sim _ := by
    cases p with
    | lost => exact sim.elim
    | apart roles => exact ⟨_, .refl _, sim, sim.2⟩

theorem forget {x y : StateM σ Unit} (stays : Abreast p p.Stays x y) : Tracks p x y :=
  stays.weaken fun _ _ _ _ _ => rfl

end Abreast

end ScriptGraph
