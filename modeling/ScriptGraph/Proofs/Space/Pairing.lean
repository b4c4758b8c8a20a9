import Mathlib
import ScriptGraph.Proofs.Runtime.Plan
import ScriptGraph.Lower.Class

/-!
Handles of two runs that play the same part.

A run that converts between the spaces makes the nodes of a run that does not, in the same order, and flips
among them. Each node of the converting run has a role: it is a node of the other run, or it is a flip and stands
for an output that is read or for an input that is written. The roles grow while the runs go on, and what is paired
stays paired. Once the runs are no longer compared, next to nothing is asked of handles; so anything is paired with
itself in the end.
-/

namespace ScriptGraph

open Pattern

/-- What a node of the converting run is to the other run. -/
inductive Role where
  /-- A node of the other run. One of its inputs may be fed through a flip. -/
  | kept (node : NodeId) (sink : Option String)
  /-- A flip of what an output carries. -/
  | reading (output : SocketAddress)
  /-- A flip of what an input takes. -/
  | writing (input : SocketAddress)

/-- How far two runs have come, by the roles of the nodes of the converting one, or that they are no longer
compared. -/
inductive Pairing where
  | apart (roles : List Role)
  | lost

namespace Pairing

/-- The roles grow, and are lost in the end. -/
class inductive Le : Pairing → Pairing → Prop
  | apart {roles roles' : List Role} (grow : roles <+: roles') : Le (apart roles) (apart roles')
  | lost {p : Pairing} : Le p lost

namespace Le

variable {p q r : Pairing}

instance refl (p : Pairing) : p.Le p := by
  cases p with
  | apart roles => exact .apart (List.prefix_refl roles)
  | lost => exact .lost

protected theorem trans (first : p.Le q) (second : q.Le r) : p.Le r := by
  cases second with
  | apart grow' =>
    cases first with
    | apart grow => exact .apart (grow.trans grow')
  | lost => exact .lost

protected theorem append (roles : List Role) (role : Role) :
    (Pairing.apart roles).Le (.apart (roles ++ [role])) :=
  .apart (List.prefix_append roles [role])

end Le

/-- The pairing that a step is begun with. It is found as an instance, and so is what a pairing has grown out of. -/
class Next (p : outParam Pairing) (q : Pairing) : Prop where
  le : p.Le q

instance (priority := low) Le.next {p q r : Pairing} [last : q.Next r] [before : p.Le q] : p.Le r :=
  before.trans last.le

/-- A node of the converting run is one of the other run. -/
inductive Keeps : Pairing → Option String → NodeId → NodeId → Prop
  | kept {roles : List Role} {sink : Option String} {id id' : NodeId}
      (role : roles[id'.toNat]? = some (.kept id sink)) (real : id.isPlaceholder = false)
      (real' : id'.isPlaceholder = false) : Keeps (apart roles) sink id id'
  | lost {sink : Option String} {id id' : NodeId} (same : id'.isPlaceholder = id.isPlaceholder) :
      Keeps lost sink id id'

/-- Sockets of one name, of the same node. -/
inductive Joins (p : Pairing) : SocketAddress → SocketAddress → Prop
  | kept {sink : Option String} {id id' : NodeId} (keeps : p.Keeps sink id id') (socket : String) :
      Joins p ⟨id, socket⟩ ⟨id', socket⟩

/-- Outputs that carry the same, but for flips. -/
inductive Output : Pairing → SocketAddress → SocketAddress → Prop
  | kept {p : Pairing} {sink : Option String} {id id' : NodeId} (keeps : p.Keeps sink id id') (socket : String) :
      Output p ⟨id, socket⟩ ⟨id', socket⟩
  | constant {p : Pairing} {a : SocketAddress} (placeholder : a.node.isPlaceholder = true) : Output p a a
  | flipped {roles : List Role} {a : SocketAddress} {id' : NodeId} (role : roles[id'.toNat]? = some (.reading a))
      (real : a.node.isPlaceholder = false) (real' : id'.isPlaceholder = false) :
      Output (apart roles) a ⟨id', "value"⟩
  | lost {a a' : SocketAddress} (same : a'.node.isPlaceholder = a.node.isPlaceholder) : Output lost a a'

/-- Inputs that take the same, but for flips. An input that is fed through a flip is left alone. -/
inductive Input : Pairing → SocketAddress → SocketAddress → Prop
  | kept {p : Pairing} {sink : Option String} {id id' : NodeId} (keeps : p.Keeps sink id id') (socket : String)
      (free : sink ≠ some socket) : Input p ⟨id, socket⟩ ⟨id', socket⟩
  | flipped {roles : List Role} {a : SocketAddress} {id' : NodeId} (role : roles[id'.toNat]? = some (.writing a)) :
      Input (apart roles) a ⟨id', "a"⟩
  | lost {a a' : SocketAddress} : Input lost a a'

section Growth

variable {p q : Pairing} {sink : Option String} {id id' : NodeId} {a a' : SocketAddress}

theorem getElem?_of_grow {roles roles' : List Role} (grow : roles <+: roles') {i : Nat} {role : Role}
    (found : roles[i]? = some role) : roles'[i]? = some role := by
  obtain ⟨more, rfl⟩ := grow
  rw [List.getElem?_append_left (List.getElem?_eq_some_iff.1 found).1, found]

theorem Keeps.isPlaceholder (keeps : p.Keeps sink id id') : id'.isPlaceholder = id.isPlaceholder := by
  cases keeps with
  | kept _ real real' => rw [real, real']
  | lost same => exact same

theorem Output.isPlaceholder (output : p.Output a a') : a'.node.isPlaceholder = a.node.isPlaceholder := by
  cases output with
  | kept keeps => exact keeps.isPlaceholder
  | constant => rfl
  | flipped _ real real' => rw [real, real']
  | lost same => exact same

theorem Keeps.mono (keeps : p.Keeps sink id id') (le : p.Le q) : q.Keeps sink id id' := by
  cases le with
  | apart grow =>
    cases keeps with
    | kept role real real' => exact .kept (getElem?_of_grow grow role) real real'
  | lost => exact .lost keeps.isPlaceholder

theorem Joins.mono (joins : p.Joins a a') (le : p.Le q) : q.Joins a a' := by
  cases joins with
  | kept keeps socket => exact .kept (keeps.mono le) socket

theorem Joins.refl (a : SocketAddress) : lost.Joins a a := .kept (.lost rfl : lost.Keeps none a.node a.node) a.socket

theorem Joins.output (joins : p.Joins a a') : p.Output a a' := by
  cases joins with
  | kept keeps socket => exact .kept keeps socket

theorem Output.mono (output : p.Output a a') (le : p.Le q) : q.Output a a' := by
  cases le with
  | apart grow =>
    cases output with
    | kept keeps socket => exact .kept (keeps.mono (.apart grow)) socket
    | constant placeholder => exact .constant placeholder
    | flipped role real real' => exact .flipped (getElem?_of_grow grow role) real real'
  | lost => exact .lost output.isPlaceholder

theorem Input.mono (input : p.Input a a') (le : p.Le q) : q.Input a a' := by
  cases le with
  | apart grow =>
    cases input with
    | kept keeps socket free => exact .kept (keeps.mono (.apart grow)) socket free
    | flipped role => exact .flipped (getElem?_of_grow grow role)
  | lost => exact .lost

end Growth

end Pairing

theorem rel_imp {α β : Type} {r r' : α → β → Prop} {a? : Option α} {b? : Option β} (rel : Option.Rel r a? b?)
    (imp : ∀ a b, r a b → r' a b) : Option.Rel r' a? b? := by
  cases rel with
  | some rel => exact .some (imp _ _ rel)
  | none => exact .none

/-- Values with handles in them, and when two of them play the same part. -/
class Paired (α : Type) where
  pairs : Pairing → α → α → Prop
  mono : ∀ {p q : Pairing} {a b : α}, pairs p a b → p.Le q → pairs q a b
  refl : ∀ a : α, pairs .lost a a

namespace Paired

/-- Values without handles. -/
@[reducible] def equal (α : Type) : Paired α := ⟨fun _ a b => b = a, fun same _ => same, fun _ => rfl⟩

/-- Values that consist of others. -/
@[reducible] def via {α β : Type} [Paired β] (f : α → β) : Paired α :=
  ⟨fun p a b => pairs p (f a) (f b), mono, fun a => refl (f a)⟩

end Paired

/-- Two values play the same part. -/
abbrev Pair {α : Type} [Paired α] (p : Pairing) (a b : α) : Prop := Paired.pairs p a b

theorem Pair.lift {α : Type} [Paired α] {p q : Pairing} [le : p.Le q] {a b : α} (pair : Pair p a b) : Pair q a b :=
  Paired.mono pair le

section Instances

variable {α β : Type} [Paired α] [Paired β]

instance : Paired Unit := .equal Unit

instance : Paired Nat := .equal Nat

instance : Paired UInt32 := .equal UInt32

instance : Paired String := .equal String

instance : Paired NodeId where
  pairs p id id' := p.Keeps none id id'
  mono := .mono
  refl _ := .lost rfl

instance : Paired ValueOut where
  pairs p v v' := p.Output v.address v'.address
  mono := .mono
  refl _ := .lost rfl

instance : Paired FlowIn where
  pairs p f f' := p.Joins f.address f'.address
  mono := .mono
  refl f := .refl f.address

instance : Paired FlowOut where
  pairs p f f' := p.Joins f.address f'.address
  mono := .mono
  refl f := .refl f.address

instance : Paired ValueIn where
  pairs p t t' := List.Forall₂ p.Input t.sockets t'.sockets
  mono pair le := pair.imp fun _ _ input => input.mono le
  refl _ := List.forall₂_same.2 fun _ _ => .lost

instance : Paired (Option α) where
  pairs p := Option.Rel (Pair p)
  mono pair le := rel_imp pair fun _ _ pair => Paired.mono pair le
  refl a? := by
    cases a? with
    | some a => exact .some (Paired.refl a)
    | none => exact .none

instance : Paired (List α) where
  pairs p := List.Forall₂ (Pair p)
  mono pair le := pair.imp fun _ _ pair => Paired.mono pair le
  refl _ := List.forall₂_same.2 fun a _ => Paired.refl a

instance : Paired (α × β) where
  pairs p a b := Pair p a.1 b.1 ∧ Pair p a.2 b.2
  mono pair le := ⟨Paired.mono pair.1 le, Paired.mono pair.2 le⟩
  refl a := ⟨Paired.refl a.1, Paired.refl a.2⟩

instance : Paired (Dict α) where
  pairs p d d' := ∀ name, Pair p (d.find? name) (d'.find? name)
  mono pair le name := Paired.mono (pair name) le
  refl d name := Paired.refl (d.find? name)

instance : Paired (Except ListError Unit) := .equal _

end Instances

section Terminals

instance : Paired VariableSet := .via fun s => (s.node, s.value, s.flowIn, s.flowOut)

/-- What is read comes from the node itself, through no flip. -/
instance : Paired PointerGet where
  pairs p g g' := Pair p g.node g'.node ∧ Pair p g.target g'.target ∧ p.Joins g.value.address g'.value.address ∧
    p.Joins g.isValid.address g'.isValid.address
  mono pair le := ⟨pair.1.lift, pair.2.1.lift, pair.2.2.1.mono le, pair.2.2.2.mono le⟩
  refl _ := ⟨Paired.refl _, Paired.refl _, .refl _, .refl _⟩

instance : Paired PointerSet := .via fun s => (s.node, s.target, s.value, s.flowIn, s.flowOut)

instance : Paired PropertyGet := .via fun g => (g.target, g.value)

instance : Paired PropertySet := .via fun s => (s.target, s.value, s.flowIn, s.flowOut)

instance : Paired TransformAction := .via fun t => (t.target, t.flowIn, t.flowOut)

instance : Paired ForLoop :=
  .via fun l => (l.node, l.start, l.stop, l.index, l.flowIn, l.loopBody, l.completed)

instance : Paired SteppedFor := .via fun l =>
  (l.start, l.stop, l.step, l.flowIn, l.nextStep, l.index, l.counter, l.loopBody, l.completed)

instance : Paired SteppedWhile := .via fun l => (l.condition, l.flowIn, l.body, l.step, l.completed)

instance : Paired TickChain := .via fun t => (t.event, t.sequence, t.nextOutput)

instance : Paired Wait := .via fun w => (w.condition, w.flowIn, w.flowOut)

instance : Paired Delay := .via fun d => (d.node, d.duration, d.flowIn, d.started, d.done)

instance : Paired Guard := .via fun g => (g.flowIn, g.pass, g.flowOut)

instance : Paired ListSet := .via fun s => (s.index, s.value, s.flowIn, s.flowOut)

instance : Paired ListAdd := .via fun a => (a.value, a.flowIn, a.flowOut)

instance : Paired ListRemove := .via fun r => (r.index, r.flowIn, r.flowOut)

/-- The variables of a list are the same; the nodes that its uses share play the same part. -/
instance : Paired BoundedList where
  pairs p l l' := ∃ switch reads count, l' = { l with writeSwitch := switch, slotReads := reads, countRead := count } ∧
    Pair p l.writeSwitch switch ∧ Pair p l.slotReads reads ∧ Pair p l.countRead count
  mono := by
    rintro p q l _ ⟨switch', reads', count', rfl, switch, reads, count⟩ le
    exact ⟨switch', reads', count', rfl, switch.lift, reads.lift, count.lift⟩
  refl l := ⟨l.writeSwitch, l.slotReads, l.countRead, rfl, Paired.refl _, Paired.refl _, Paired.refl _⟩

end Terminals

end ScriptGraph
