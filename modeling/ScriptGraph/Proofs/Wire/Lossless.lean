import Mathlib
import ScriptGraph.Wire.Codec

/-!
Codecs that read back what they write.

A length is written in eight bytes at most, so nothing is promised of values whose bytes are too many
to be counted in eight bytes. Every value takes a byte at least; hence a list is never longer than its
bytes, and one bound on the bytes of the whole covers the lengths of all its parts.
-/

namespace ScriptGraph.Wire

/-- The number of bytes from which on a length can no longer be written. -/
def capacity : Nat := 2 ^ 64

namespace Codec

variable {α β : Type}

/-- The value is read back from the front of its bytes, whatever follows them. -/
def Restores (codec : Codec α) (v : α) : Prop :=
  ∀ rest, (codec.write v).length < capacity → codec.read (codec.write v ++ rest) = some (v, rest)

/-- Every value is read back, and none is written as nothing. -/
structure Lossless (codec : Codec α) : Prop where
  restores (v : α) : codec.Restores v
  length_pos (v : α) : 0 < (codec.write v).length

theorem Restores.pair {first : Codec α} {second : Codec β} {v : α × β} (left : first.Restores v.1)
    (right : second.Restores v.2) : (first.pair second).Restores v := by
  intro rest short
  simp only [Codec.pair, List.length_append] at short
  have readLeft := left (second.write v.2 ++ rest) (by omega)
  have readRight := right rest (by omega)
  simp [Codec.pair, readLeft, readRight]

theorem Lossless.pair {first : Codec α} {second : Codec β} (left : first.Lossless)
    (right : second.Lossless) : (first.pair second).Lossless where
  restores v := (left.restores v.1).pair (right.restores v.2)
  length_pos v := by
    have := left.length_pos v.1
    simp only [Codec.pair, List.length_append]
    omega

theorem Restores.via {codec : Codec α} {unpack : β → α} {pack : α → Option β} {v : β}
    (inner : codec.Restores (unpack v)) (packed : pack (unpack v) = some v) :
    (codec.via unpack pack).Restores v := by
  intro rest short
  have read := inner rest short
  simp [Codec.via, read, packed]

theorem Restores.iso {codec : Codec α} {unpack : β → α} {pack : α → β} {v : β}
    (inner : codec.Restores (unpack v)) (packed : pack (unpack v) = v) : (codec.iso unpack pack).Restores v :=
  inner.via (congrArg some packed)

theorem read_iso (codec : Codec α) (unpack : β → α) (pack : α → β) (bytes : List UInt8) :
    (codec.iso unpack pack).read bytes = (codec.read bytes).map fun (v, rest) => (pack v, rest) := by
  simp only [Codec.iso, Codec.via]
  cases codec.read bytes <;> rfl

theorem Lossless.via {codec : Codec α} {unpack : β → α} {pack : α → Option β}
    (inner : codec.Lossless) (packed : ∀ v, pack (unpack v) = some v) :
    (codec.via unpack pack).Lossless where
  restores v := (inner.restores (unpack v)).via (packed v)
  length_pos v := inner.length_pos (unpack v)

theorem Lossless.iso {codec : Codec α} {unpack : β → α} {pack : α → β} (inner : codec.Lossless)
    (packed : ∀ v, pack (unpack v) = v) : (codec.iso unpack pack).Lossless :=
  inner.via fun v => congrArg some (packed v)

/-- A value behind a tag is read back if the tag leads to the reader of what follows it. -/
theorem Restores.tagged {γ : Type} {codec : Codec β} {tag : Codec γ} {inner : Codec α} {t : γ} {v : α}
    {f : α → β} (first : tag.Restores t) (second : inner.Restores v)
    (written : codec.write (f v) = tag.write t ++ inner.write v)
    (leads : ∀ bytes rest, tag.read bytes = some (t, rest) →
      codec.read bytes = (inner.read rest).map fun (v, rest) => (f v, rest)) :
    codec.Restores (f v) := by
  intro rest short
  rw [written, List.length_append] at short
  have readTag := first (inner.write v ++ rest) (by omega)
  have readRest := second rest (by omega)
  rw [written, List.append_assoc, leads _ _ readTag, readRest, Option.map_some]

theorem lossless_byte : byte.Lossless where
  restores _ _ _ := rfl
  length_pos _ := Nat.one_pos

@[simp] theorem length_digits (count n : Nat) : (digits count n).length = count := by
  induction count generalizing n with
  | zero => rfl
  | succ count ih => simp [digits, ih]

theorem readDigits_digits {count n : Nat} (small : n < 256 ^ count) (rest : List UInt8) :
    readDigits count (digits count n ++ rest) = some (n, rest) := by
  induction count generalizing n with
  | zero =>
    have zero : n = 0 := by simpa using small
    rw [zero]
    rfl
  | succ count ih =>
    have quotient : n / 256 < 256 ^ count := by
      rw [Nat.pow_succ] at small
      exact Nat.div_lt_of_lt_mul (by omega)
    have lowest : (UInt8.ofNat (n % 256)).toNat = n % 256 :=
      UInt8.toNat_ofNat_of_lt' (Nat.mod_lt n (by decide))
    have whole : n % 256 + 256 * (n / 256) = n := Nat.mod_add_div n 256
    simp [digits, readDigits, ih quotient, lowest, whole]

theorem length_pos_natural (width n : Nat) : 0 < ((natural width).write n).length := by
  simp only [natural]
  split
  · simp
  · split
    · simp
    · split <;> simp

/-- A number is read back if it needs no more bytes than the reader takes. -/
theorem restores_natural {width n : Nat} (small : n < 256 ^ 8) (narrow : n < 256 ^ 4 ∨ 8 ≤ width) :
    (natural width).Restores n := by
  intro rest _
  by_cases single : n < 251
  · have same : (UInt8.ofNat (n % 256)).toNat = n := by
      rw [UInt8.toNat_ofNat_of_lt' (Nat.mod_lt n (by decide))]
      exact Nat.mod_eq_of_lt (Nat.lt_trans single (by decide))
    have lowest : UInt8.ofNat (n % 256) < 251 := by rwa [UInt8.lt_iff_toNat_lt, same]
    simp only [natural, if_pos single, digits, List.cons_append, List.nil_append, if_pos lowest, same]
  by_cases two : n < 0x10000
  · simp only [natural, if_neg single, if_pos two]
    exact readDigits_digits two rest
  by_cases four : n < 0x100000000
  · simp only [natural, if_neg single, if_neg two, if_pos four]
    exact readDigits_digits four rest
  · have taken : 8 ≤ width := narrow.resolve_left four
    have marker : ¬(253 : UInt8) < 251 ∧ ¬(253 : UInt8) = 251 ∧ ¬(253 : UInt8) = 252 := by decide
    simp only [natural, if_neg single, if_neg two, if_neg four, List.cons_append, marker, taken, and_self,
      if_true, if_false]
    exact readDigits_digits small rest

theorem lossless_word : word.Lossless where
  restores v := by
    have small : v.toNat < 256 ^ 4 := v.toNat_lt
    unfold word
    refine Restores.iso ?_ UInt32.ofNat_toNat
    exact restores_natural (Nat.lt_trans small (by decide)) (.inl small)
  length_pos v := length_pos_natural 4 v.toNat

theorem unfold_fold (n : Int) : unfold (fold n) = n := by
  unfold unfold fold
  split <;> split <;> omega

theorem fold_lt (n : Int32) : fold n.toInt < 256 ^ 4 := by
  have lower := n.le_toInt
  have upper := n.toInt_lt
  unfold fold
  split <;> omega

theorem lossless_int : int.Lossless where
  restores v := by
    have back : Int32.ofInt (unfold (fold v.toInt)) = v := by rw [unfold_fold, Int32.ofInt_toInt]
    unfold int
    refine Restores.iso ?_ back
    exact restores_natural (Nat.lt_trans (fold_lt v) (by decide)) (.inl (fold_lt v))
  length_pos v := length_pos_natural 4 (fold v.toInt)

theorem lossless_bool : bool.Lossless :=
  lossless_byte.via fun b => by cases b <;> rfl

theorem lossless_bits : bits.Lossless where
  restores v rest _ := by
    have small : v.toNat < 256 ^ 4 := v.toNat_lt
    have read := readDigits_digits small rest
    simp [bits, read]
  length_pos v := by simp [bits]

theorem length_le_length_flatMap {codec : Codec α} (lossless : codec.Lossless) (values : List α) :
    values.length ≤ (values.flatMap codec.write).length := by
  induction values with
  | nil => exact Nat.zero_le _
  | cons v values ih =>
    have := lossless.length_pos v
    simp only [List.flatMap_cons, List.length_append, List.length_cons]
    omega

theorem readMany_flatMap {codec : Codec α} (lossless : codec.Lossless) (values : List α)
    (rest : List UInt8) (short : (values.flatMap codec.write).length < capacity) :
    codec.readMany values.length (values.flatMap codec.write ++ rest) = some (values, rest) := by
  induction values with
  | nil => rfl
  | cons v values ih =>
    simp only [List.flatMap_cons, List.length_append] at short
    have first := lossless.restores v (values.flatMap codec.write ++ rest) (by omega)
    have later := ih (by omega)
    simp [readMany, first, later]

theorem restores_length {n : Nat} (small : n < capacity) : length.Restores n :=
  restores_natural small (.inr (Nat.le_refl 8))

theorem length_pos_length (n : Nat) : 0 < (length.write n).length :=
  length_pos_natural 8 n

/-- The bound on all bytes covers the length that stands before them. -/
theorem Lossless.list {codec : Codec α} (lossless : codec.Lossless) : codec.list.Lossless where
  restores values rest short := by
    simp only [Codec.list, List.length_append] at short
    have count : values.length < capacity := by
      have := length_le_length_flatMap lossless values
      omega
    have counted := restores_length count (values.flatMap codec.write ++ rest) (by omega)
    have read := readMany_flatMap lossless values rest (by omega)
    simp [Codec.list, counted, read]
  length_pos values := by
    have := length_pos_length values.length
    simp only [Codec.list, List.length_append]
    omega

theorem Lossless.exactly {codec : Codec α} (lossless : codec.Lossless) {count : Nat} {values : List α}
    (all : values.length = count) : (codec.exactly count).Restores values := by
  intro rest short
  subst all
  exact readMany_flatMap lossless values rest short

theorem Lossless.option {codec : Codec α} (lossless : codec.Lossless) : codec.option.Lossless where
  restores v rest short := by
    cases v with
    | none => rfl
    | some a =>
      simp only [Codec.option, List.length_cons] at short
      have read := lossless.restores a rest (by omega)
      simp [Codec.option, read]
  length_pos v := by cases v <;> simp [Codec.option]

theorem take_append (content rest : List UInt8) :
    take content.length (content ++ rest) = some (content, rest) := by
  simp [take]

theorem toList_loop (bytes : ByteArray) (i : Nat) (done : List UInt8) :
    ByteArray.toList.loop bytes i done = done.reverse ++ bytes.data.toList.drop i := by
  fun_induction ByteArray.toList.loop bytes i done with
  | case1 i done within ih =>
    have inside : i < bytes.data.toList.length := by simpa using within
    have same : bytes.get! i = bytes.data.toList[i] := by
      rw [Array.getElem_toList]
      exact getElem!_pos bytes.data i within
    rw [ih, List.drop_eq_getElem_cons inside, same]
    simp
  | case2 i done beyond =>
    rw [List.drop_eq_nil_of_le (by simpa using beyond), List.append_nil]

theorem toList_eq_data (bytes : ByteArray) : bytes.toList = bytes.data.toList := by
  rw [ByteArray.toList, toList_loop]
  rfl

theorem fromUTF8?_toList (s : String) : String.fromUTF8? s.toUTF8.toList.toByteArray = some s := by
  have same : s.toUTF8.toList.toByteArray = s.toByteArray := by
    apply ByteArray.ext
    rw [toList_eq_data, List.data_toByteArray, Array.toArray_toList, String.toUTF8_eq_toByteArray]
  rw [same, String.fromUTF8?, dif_pos s.isValidUTF8]
  rfl

theorem lossless_text : text.Lossless where
  restores s rest short := by
    have size : s.toUTF8.toList.length = s.utf8ByteSize := by
      rw [toList_eq_data]
      exact Array.length_toList
    simp only [text, List.length_append] at short
    have count : s.utf8ByteSize < capacity := by omega
    have counted := restores_length count (s.toUTF8.toList ++ rest) (by omega)
    have content := take_append s.toUTF8.toList rest
    rw [size] at content
    simp only [text, List.append_assoc, counted, content, fromUTF8?_toList, Option.bind_eq_bind,
      Option.bind_some, Option.pure_def]
  length_pos s := by
    have := length_pos_length s.utf8ByteSize
    simp only [text, List.length_append]
    omega

theorem restores_index {n : Nat} (small : n < 256 ^ 4) : index.Restores n :=
  restores_natural (Nat.lt_trans small (by decide)) (.inl small)

theorem length_pos_index (n : Nat) : 0 < (index.write n).length := length_pos_natural 4 n

/-- A value is read back from its place in a list of fewer than 2³² values. -/
theorem lossless_ofAll [BEq α] [LawfulBEq α] {all : List α} (complete : ∀ a, a ∈ all)
    (few : all.length < 256 ^ 4) : (ofAll all).Lossless where
  restores a := by
    have place : all.idxOf a < all.length := List.idxOf_lt_length_of_mem (complete a)
    exact Restores.via (restores_index (Nat.lt_trans place few)) (List.getElem?_idxOf (complete a))
  length_pos a := length_pos_index (all.idxOf a)

end Codec

end ScriptGraph.Wire
