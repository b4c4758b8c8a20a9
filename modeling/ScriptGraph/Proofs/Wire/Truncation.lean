import ScriptGraph.Proofs.Wire.RoundTrip

/-!
A cut binary form is refused.

Every reader of the format looks only at the bytes it takes, so it gives the same answer whatever follows
them. A beginning that were accepted on its own would hence be accepted again at the front of the whole,
with the bytes cut off left over; but reading the whole leaves nothing over.
-/

namespace ScriptGraph

namespace Wire

/-- What is taken off the front does not depend on the bytes behind it. -/
def Reader.Local {α : Type} (read : Reader α) : Prop :=
  ∀ bytes v rest, read bytes = some (v, rest) → ∀ more, read (bytes ++ more) = some (v, rest ++ more)

namespace Reader.Local

variable {α β : Type}

theorem refuse : Reader.Local fun _ => (none : Option (α × List UInt8)) := by
  intro bytes v rest read
  cases read

theorem accept (v : α) : Reader.Local fun bytes => some (v, bytes) := by
  intro bytes w rest read more
  cases read
  rfl

/-- One reader after another, which may depend on what the first has read. -/
theorem bind {first : Reader α} {second : α × List UInt8 → Option (β × List UInt8)} (left : first.Local)
    (right : ∀ a, Reader.Local fun rest => second (a, rest)) :
    Reader.Local fun bytes => (first bytes).bind second := by
  intro bytes v rest read more
  obtain ⟨⟨a, between⟩, readFirst, readSecond⟩ := Option.bind_eq_some_iff.1 read
  have firstAgain := left bytes a between readFirst more
  have secondAgain := right a between v rest readSecond more
  simp only [firstAgain, Option.bind_some, secondAgain]

theorem map {read : Reader α} (inner : read.Local) (f : α → β) :
    Reader.Local fun bytes => (read bytes).map fun (v, rest) => (f v, rest) := by
  simp only [Option.map_eq_bind]
  exact inner.bind fun a => accept (f a)

/-- The last step of a reader that checks what it has read. -/
theorem check (v : Option α) : Reader.Local fun bytes => v.bind fun a => some (a, bytes) := by
  cases v with
  | none => exact refuse
  | some a => exact accept a

/-- A reader that looks at one byte first. -/
theorem head {read : Reader α} (empty : read [] = none) (behind : ∀ b, Reader.Local fun bytes => read (b :: bytes)) :
    read.Local := by
  intro bytes v rest found more
  cases bytes with
  | nil => simp [empty] at found
  | cons b bytes => exact behind b bytes v rest found more

end Reader.Local

namespace Codec

open Reader

variable {α β : Type}

/-- The codec reads no further than the bytes it takes. -/
abbrev Local (codec : Codec α) : Prop := codec.read.Local

theorem Local.pair {first : Codec α} {second : Codec β} (left : first.Local) (right : second.Local) :
    (first.pair second).Local :=
  Reader.Local.bind left fun a => right.bind fun b => .accept (a, b)

theorem Local.via {codec : Codec α} {unpack : β → α} {pack : α → Option β} (inner : codec.Local) :
    (codec.via unpack pack).Local :=
  Reader.Local.bind inner fun a => .check (pack a)

theorem Local.iso {codec : Codec α} {unpack : β → α} {pack : α → β} (inner : codec.Local) :
    (codec.iso unpack pack).Local :=
  inner.via

theorem local_byte : byte.Local := .head rfl fun b => .accept b

theorem local_readDigits (count : Nat) : (readDigits count).Local := by
  induction count with
  | zero => exact .accept 0
  | succ count ih => exact .head rfl fun b => ih.bind fun rest => .accept (b.toNat + 256 * rest)

theorem local_natural (width : Nat) : (natural width).Local := by
  refine .head rfl fun marker => ?_
  simp only [natural]
  split
  · exact .accept marker.toNat
  · split
    · exact local_readDigits 2
    · split
      · exact local_readDigits 4
      · split
        · exact local_readDigits 8
        · exact .refuse

theorem local_word : word.Local := (local_natural 4).iso

theorem local_int : int.Local := (local_natural 4).iso

theorem local_bool : bool.Local := local_byte.via

theorem local_bits : bits.Local := (local_readDigits 4).bind fun n => .accept (UInt32.ofNat n)

theorem Local.readMany {codec : Codec α} (inner : codec.Local) (count : Nat) :
    (codec.readMany count).Local := by
  induction count with
  | zero => exact .accept []
  | succ count ih => exact Reader.Local.bind inner fun a => ih.bind fun rest => .accept (a :: rest)

theorem Local.list {codec : Codec α} (inner : codec.Local) : codec.list.Local :=
  (local_natural 8).bind inner.readMany

theorem Local.exactly {codec : Codec α} (inner : codec.Local) (count : Nat) :
    (codec.exactly count).Local :=
  inner.readMany count

theorem Local.option {codec : Codec α} (inner : codec.Local) : codec.option.Local := by
  refine .head rfl fun tag => ?_
  simp only [Codec.option]
  split
  · exact .accept none
  · split
    · exact Reader.Local.bind inner fun a => .accept (some a)
    · exact .refuse

/-- Bytes that suffice suffice the more with others behind them. -/
theorem local_take (count : Nat) : (take count).Local := by
  intro bytes content rest found more
  simp only [take, Option.ite_none_right_eq_some, Option.some.injEq, List.splitAt_eq] at found ⊢
  obtain ⟨enough, same⟩ := found
  obtain ⟨rfl, rfl⟩ := Prod.mk.inj same
  refine ⟨by simp only [List.length_append]; omega, ?_⟩
  rw [List.take_append_of_le_length enough, List.drop_append_of_le_length enough]

theorem local_text : text.Local :=
  (local_natural 8).bind fun count => (local_take count).bind fun content =>
    .check (String.fromUTF8? content.toByteArray)

theorem local_index : index.Local := local_natural 4

theorem local_ofAll [BEq α] (all : List α) : (ofAll all).Local := local_index.via

end Codec

open Codec Reader.Local

theorem local_single : single.Local := .iso local_bits

theorem local_dict {α : Type} {codec : Codec α} (inner : codec.Local) : (dict codec).Local :=
  .iso (.list (.pair local_text inner))

theorem local_nameSet : nameSet.Local := .iso (.list local_text)

theorem local_valueType : valueType.Local := local_ofAll ValueType.all

theorem local_op : op.Local := local_ofAll Op.all

theorem local_findingKind : findingKind.Local := local_ofAll FindingKind.all

theorem local_nodeId : nodeId.Local := .iso local_word

theorem local_components (type : ValueType) : (components type).Local :=
  (local_single.exactly type.componentCount).via

theorem local_literal : literal.Local := by
  refine Reader.Local.bind local_valueType fun type => ?_
  cases type with
  | bool => exact local_bool.iso
  | int => exact local_int.iso
  | float | float2 | float3 | float4 | float4x4 => exact local_components _

theorem local_configValue : configValue.Local := by
  refine Reader.Local.bind local_index fun tag => ?_
  match tag with
  | 0 => exact local_int.map ConfigValue.int
  | 1 => exact local_int.list.map ConfigValue.intList
  | 2 => exact local_bool.map ConfigValue.bool
  | 3 => exact local_single.map ConfigValue.float
  | 4 => exact local_text.map ConfigValue.text
  | _ + 5 => exact refuse

theorem local_expectedType : expectedType.Local := by
  refine Reader.Local.bind local_index fun tag => ?_
  match tag with
  | 0 => exact local_valueType.map ExpectedType.exact
  | 1 => exact local_text.map ExpectedType.fromInput
  | _ + 2 => exact refuse

theorem local_restriction : restriction.Local := by
  refine Reader.Local.bind local_index fun tag => ?_
  match tag with
  | 0 => exact local_valueType.map TypeRestriction.only
  | 1 => exact local_valueType.list.map TypeRestriction.oneOf
  | 2 => exact local_text.map TypeRestriction.sameAsInput
  | _ + 3 => exact refuse

theorem local_address : address.Local := .iso (.pair local_nodeId local_text)

theorem local_valueInput : valueInput.Local :=
  .iso (.pair (.option local_literal) (.pair (.option local_address) (.option local_restriction)))

theorem local_valueOutput : valueOutput.Local := .iso (.option local_expectedType)

theorem local_flowOutput : flowOutput.Local := .iso (.list local_address)

theorem local_node : node.Local :=
  .iso (.pair local_nodeId (.pair local_op (.pair (local_dict (.option local_configValue))
    (.pair (local_dict local_valueInput) (.pair (local_dict local_valueOutput)
      (.pair local_nameSet (local_dict local_flowOutput)))))))

theorem local_variableRecord : variableRecord.Local :=
  .iso (.pair local_text (.pair local_valueType (.option local_literal)))

theorem local_event : event.Local := .iso (.pair local_text (.list (.iso (.pair local_text local_valueType))))

theorem local_graph : graph.Local :=
  .iso (.pair (.list local_node) (.pair (.list local_variableRecord) (.list local_event)))

theorem local_report : report.Local :=
  .iso (.list (.iso (.pair local_nodeId (.pair local_op (.pair (.option local_text)
    (.pair local_findingKind local_text))))))

theorem local_compiled : compiled.Local := .iso (.pair local_text (.pair local_graph local_report))

/-- What is written without loss and read without looking further is refused once its end is missing. -/
theorem Codec.Local.read_eq_none {α : Type} {codec : Codec α} (inner : codec.Local)
    {v : α} (restores : codec.Restores v) (short : (codec.write v).length < capacity) {kept cut : List UInt8}
    (whole : kept ++ cut = codec.write v) (missing : cut ≠ []) : codec.read kept = none := by
  cases found : codec.read kept with
  | none => rfl
  | some p =>
    have again : codec.read (kept ++ cut) = some (p.1, p.2 ++ cut) := inner kept p.1 p.2 found cut
    have nothingLeft : codec.read (codec.write v) = some (v, []) := by
      simpa only [List.append_nil] using restores [] short
    rw [whole, nothingLeft] at again
    have left : [] = p.2 ++ cut := congrArg Prod.snd (Option.some.inj again)
    exact absurd (List.append_eq_nil_iff.1 left.symm).2 missing

end Wire

namespace Compiled

/-- Of the beginnings of a binary form all but the whole are refused. -/
theorem decode_isPrefix_toBytes (c : Compiled) (short : c.toBytes.length < Wire.capacity)
    {p : List UInt8} (front : p <+: c.toBytes) :
    decode p = .error .undecodable ↔ p ≠ c.toBytes := by
  have restores := Wire.Codec.Lossless.restores Wire.lossless_compiled c
  constructor
  · rintro refused rfl
    have read : Wire.compiled.read c.toBytes = some (c, []) := by
      simpa only [List.append_nil] using! restores [] short
    simp [decode, ofBytes?, read] at refused
  · intro strict
    obtain ⟨cut, whole⟩ := front
    have missing : cut ≠ [] := by
      rintro rfl
      exact strict (by rwa [List.append_nil] at whole)
    have read := Wire.local_compiled.read_eq_none restores short whole missing
    simp [decode, ofBytes?, read]

/-- The graph with constants at the ends of their ranges cannot do without its last byte. -/
theorem decode_boundaries_dropLast : boundaries.toBytes.length = 115 ∧
    boundaries.toBytes.dropLast <+: boundaries.toBytes ∧
    decode boundaries.toBytes.dropLast = .error .undecodable := by
  have length : boundaries.toBytes.length = 115 := by cbv
  have front : boundaries.toBytes.dropLast <+: boundaries.toBytes := List.dropLast_prefix _
  have strict : boundaries.toBytes.dropLast ≠ boundaries.toBytes := by
    intro same
    have shorter := congrArg List.length same
    rw [List.length_dropLast, length] at shorter
    exact absurd shorter (by decide)
  refine ⟨length, front, (decode_isPrefix_toBytes boundaries ?_ front).2 strict⟩
  rw [length]
  decide

end Compiled

end ScriptGraph
