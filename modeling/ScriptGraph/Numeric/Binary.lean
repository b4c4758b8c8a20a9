/-!
Binary floating-point words, decoded into exact rationals and rounded back.

A word is held as a natural number of bits. Nothing here uses the machine's own floats, so every
value, and the rounding of every quotient, is a fact about natural numbers.
-/

namespace ScriptGraph

/-- A binary interchange format: `precision` counts the leading bit, `bias` is the number of
doublings between the smallest unit and the unit `1`. -/
structure BinaryFormat where
  /-- Bits of the significand, the leading one included. -/
  precision : Nat
  /-- The smallest positive value is `2 ^ (-unit)`. -/
  unit : Nat
  /-- The exponent field with all bits set, which no finite value has. -/
  topField : Nat

/-- What a word stands for. A finite value is `significand * 2 ^ exponent`. -/
inductive BinaryValue where
  | nan
  | infinite (negative : Bool)
  | finite (negative : Bool) (significand : Nat) (exponent : Int)

namespace BinaryFormat

/-- The 32-bit format. -/
def single : BinaryFormat := ⟨24, 149, 255⟩

/-- The 64-bit format. -/
def double : BinaryFormat := ⟨53, 1074, 2047⟩

/-- The weight of the lowest bit of the exponent field. -/
def fieldUnit (f : BinaryFormat) : Nat := Nat.pow 2 (f.precision - 1)

/-- The word of positive infinity; every finite magnitude is below it. -/
def infinity (f : BinaryFormat) : Nat := f.topField * f.fieldUnit

/-- The weight of the sign bit. -/
def signUnit (f : BinaryFormat) : Nat := (f.topField + 1) * f.fieldUnit

/-- Reads a word. -/
def decode (f : BinaryFormat) (bits : Nat) : BinaryValue :=
  let negative := f.signUnit ≤ bits
  let magnitude := bits % f.signUnit
  let field := magnitude / f.fieldUnit
  let fraction := magnitude % f.fieldUnit
  if field = f.topField then
    if fraction = 0 then .infinite negative else .nan
  else if field = 0 then .finite negative fraction (-f.unit)
  else .finite negative (f.fieldUnit + fraction) ((field : Int) - 1 - f.unit)

/-- The word with the given sign and magnitude. -/
def withSign (f : BinaryFormat) (negative : Bool) (magnitude : Nat) : Nat :=
  if negative then f.signUnit + magnitude else magnitude

/-- The greatest `k` with `2 ^ k ≤ num / den`, for positive `num` and `den`. -/
def floorLog (num den : Nat) : Int :=
  let estimate : Int := (num.log2 : Int) - den.log2
  let reaches : Bool :=
    if 0 ≤ estimate then den * Nat.pow 2 estimate.toNat ≤ num
    else den ≤ num * Nat.pow 2 (-estimate).toNat
  if reaches then estimate else estimate - 1

/-- Divides to the nearest whole number; a half goes to the even neighbour. -/
def divNearestEven (num den : Nat) : Nat :=
  let quotient := num / den
  let twice := 2 * (num % den)
  if twice < den then quotient
  else if den < twice then quotient + 1
  else if quotient % 2 = 0 then quotient
  else quotient + 1

/-- The magnitude nearest to `num / den`; a half goes to the even significand, and what lies beyond
the largest finite value becomes infinity. A significand that rounds up to the next power of two
carries into the exponent field by itself. -/
def roundQuotient (f : BinaryFormat) (num den : Nat) : Nat :=
  if num = 0 then 0
  else
    let steps : Int := max 0 (floorLog num den - (f.precision - 1 : Nat) + f.unit)
    let shift : Int := steps - f.unit
    let significand :=
      if 0 ≤ shift then divNearestEven num (den * Nat.pow 2 shift.toNat)
      else divNearestEven (num * Nat.pow 2 (-shift).toNat) den
    min f.infinity (steps.toNat * f.fieldUnit + significand)

/-- Rounds `significand * 2 ^ exponent` to the format. -/
def roundScaled (f : BinaryFormat) (significand : Nat) (exponent : Int) : Nat :=
  if 0 ≤ exponent then f.roundQuotient (significand * Nat.pow 2 exponent.toNat) 1
  else f.roundQuotient significand (Nat.pow 2 (-exponent).toNat)

/-- Rounds a whole number to the format. -/
def roundInt (f : BinaryFormat) (value : Int) : Nat :=
  f.withSign (value < 0) (f.roundQuotient value.natAbs 1)

end BinaryFormat

end ScriptGraph
