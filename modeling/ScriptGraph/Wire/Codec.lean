/-!
Binary codecs: a writer of bytes and a reader that takes a value off the front.

Whole numbers have a variable length: below 251 one byte, else a marker byte and two, four or eight
bytes, lowest first. A reader takes longer forms of small numbers too, but no marker beyond the
width it reads. Signed numbers are folded onto natural ones, so that small magnitudes stay short.
-/

namespace ScriptGraph.Wire

/-- Takes a value off the front of the bytes. -/
abbrev Reader (α : Type) := List UInt8 → Option (α × List UInt8)

/-- How values of a type are written and read. -/
structure Codec (α : Type) where
  write : α → List UInt8
  read : Reader α

namespace Codec

variable {α β : Type}

/-- Two values, one after the other. -/
def pair (first : Codec α) (second : Codec β) : Codec (α × β) where
  write v := first.write v.1 ++ second.write v.2
  read bytes := do
    let (a, bytes) ← first.read bytes
    let (b, bytes) ← second.read bytes
    return ((a, b), bytes)

/-- The same bytes for another type; what `pack` refuses is not read. -/
def via (codec : Codec α) (unpack : β → α) (pack : α → Option β) : Codec β where
  write v := codec.write (unpack v)
  read bytes := do
    let (a, bytes) ← codec.read bytes
    return (← pack a, bytes)

/-- The same bytes for an equivalent type. -/
def iso (codec : Codec α) (unpack : β → α) (pack : α → β) : Codec β :=
  codec.via unpack fun a => some (pack a)

/-- One byte. -/
def byte : Codec UInt8 where
  write b := [b]
  read
    | [] => none
    | b :: bytes => some (b, bytes)

/-- The lowest `count` bytes of a number, lowest first. -/
def digits : Nat → Nat → List UInt8
  | 0, _ => []
  | count + 1, n => UInt8.ofNat (n % 256) :: digits count (n / 256)

/-- A number of `count` bytes, lowest first. -/
def readDigits : Nat → Reader Nat
  | 0, bytes => some (0, bytes)
  | _ + 1, [] => none
  | count + 1, b :: bytes => do
    let (rest, bytes) ← readDigits count bytes
    return (b.toNat + 256 * rest, bytes)

/-- A natural number of variable length, read up to the given number of bytes. -/
def natural (width : Nat) : Codec Nat where
  write n :=
    if n < 251 then digits 1 n
    else if n < 0x10000 then 251 :: digits 2 n
    else if n < 0x100000000 then 252 :: digits 4 n
    else 253 :: digits 8 n
  read
    | [] => none
    | marker :: bytes =>
      if marker < 251 then some (marker.toNat, bytes)
      else if marker = 251 then readDigits 2 bytes
      else if marker = 252 then readDigits 4 bytes
      else if marker = 253 ∧ 8 ≤ width then readDigits 8 bytes
      else none

/-- A length. -/
def length : Codec Nat := natural 8

/-- The place of a constructor. -/
def index : Codec Nat := natural 4

/-- An unsigned 32-bit number. -/
def word : Codec UInt32 := (natural 4).iso UInt32.toNat UInt32.ofNat

/-- Folds signed numbers onto natural ones: 0, -1, 1, -2, 2, … -/
def fold (n : Int) : Nat := if 0 ≤ n then 2 * n.toNat else 2 * (-n).toNat - 1

/-- Undoes `fold`. -/
def unfold (n : Nat) : Int := if n % 2 = 0 then (n / 2 : Nat) else -((n / 2 : Nat) : Int) - 1

/-- A signed 32-bit number. -/
def int : Codec Int32 := (natural 4).iso (fun n => fold n.toInt) (fun n => Int32.ofInt (unfold n))

/-- A truth value as one byte. -/
def bool : Codec Bool :=
  byte.via (fun b => if b then 1 else 0) fun b =>
    if b = 0 then some false else if b = 1 then some true else none

/-- The four bytes of a 32-bit pattern, lowest first. -/
def bits : Codec UInt32 where
  write n := digits 4 n.toNat
  read bytes := do
    let (n, bytes) ← readDigits 4 bytes
    return (UInt32.ofNat n, bytes)

/-- Reads `count` values. -/
def readMany (codec : Codec α) : Nat → Reader (List α)
  | 0, bytes => some ([], bytes)
  | count + 1, bytes => do
    let (a, bytes) ← codec.read bytes
    let (rest, bytes) ← readMany codec count bytes
    return (a :: rest, bytes)

/-- A list, its length first. -/
def list (codec : Codec α) : Codec (List α) where
  write values := length.write values.length ++ values.flatMap codec.write
  read bytes := do
    let (count, bytes) ← length.read bytes
    codec.readMany count bytes

/-- A list of known length. -/
def exactly (count : Nat) (codec : Codec α) : Codec (List α) where
  write values := values.flatMap codec.write
  read := codec.readMany count

/-- A value or nothing, after one byte that tells which. -/
def option (codec : Codec α) : Codec (Option α) where
  write
    | none => [0]
    | some a => 1 :: codec.write a
  read
    | [] => none
    | tag :: bytes =>
      if tag = 0 then some (none, bytes)
      else if tag = 1 then do
        let (a, bytes) ← codec.read bytes
        return (some a, bytes)
      else none

/-- Splits off as many bytes as asked for. -/
def take (count : Nat) : Reader (List UInt8) := fun bytes =>
  if count ≤ bytes.length then some (bytes.splitAt count) else none

/-- A text: the number of its bytes, then the bytes. -/
def text : Codec String where
  write s := length.write s.utf8ByteSize ++ s.toUTF8.toList
  read bytes := do
    let (count, bytes) ← length.read bytes
    let (content, bytes) ← take count bytes
    return (← String.fromUTF8? content.toByteArray, bytes)

/-- A value of a closed list, as its place in it. -/
def ofAll [BEq α] (all : List α) : Codec α :=
  index.via (fun a => all.idxOf a) fun n => all[n]?

end Codec

end ScriptGraph.Wire
