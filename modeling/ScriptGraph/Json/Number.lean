import ScriptGraph.Numeric.Float

/-!
What a JSON number token means.

A token without fraction and exponent is a whole number as long as 64 bits hold it. Every other
token is a double: its digits are gathered into a 64-bit significand, digits that no longer fit
only count as places, and one multiplication or division by a power of ten follows. The result can
therefore differ from the nearest double in its last bit.
-/

namespace ScriptGraph

/-- The value of a number token. -/
inductive JsonNumber where
  /-- A natural number below `2 ^ 64`. -/
  | natural (value : Nat)
  /-- A negative number from `-2 ^ 63` on. -/
  | negative (value : Int)
  | real (value : Double)

namespace JsonNumber

/-- The largest significand. -/
def maxSignificand : Nat := 0xFFFFFFFFFFFFFFFF

/-- The largest power of ten that is a finite double. -/
def maxPower : Nat := 308

/-- The value of a digit. -/
def digitValue (c : Char) : Nat := c.toNat - 48

/-- Gathers whole digits: those that still fit, then only their places. -/
def gatherWhole : List Char → Nat → Nat × Nat
  | [], significand => (significand, 0)
  | c :: cs, significand =>
    let next := significand * 10 + digitValue c
    if next ≤ maxSignificand then gatherWhole cs next else (significand, cs.length + 1)

/-- Gathers digits of a fraction, counting those taken; the first that does not fit ends it. -/
def gatherFraction : List Char → Nat → Nat → Nat × Nat
  | [], significand, taken => (significand, taken)
  | c :: cs, significand, taken =>
    let next := significand * 10 + digitValue c
    if next ≤ maxSignificand then gatherFraction cs next (taken + 1) else (significand, taken)

/-- The exact value of a non-negative double as a fraction. -/
def fractionOf (d : Double) : Nat × Nat :=
  match d.value with
  | .finite _ significand exponent =>
    (significand * Nat.pow 2 exponent.toNat, Nat.pow 2 (-exponent).toNat)
  | _ => (0, 1)

/-- The double nearest to a power of ten. -/
def powerOfTen (k : Nat) : Double := .ofQuotient (Nat.pow 10 k) 1

/-- Multiplies by a power of ten, rounding once; `none` when the result is infinite. -/
def scaleUp? (d : Double) (k : Nat) : Option Double :=
  let (a, b) := fractionOf d
  let (p, q) := fractionOf (powerOfTen k)
  let result := Double.ofQuotient (a * p) (b * q)
  if result.isFinite then some result else none

/-- Divides by a power of ten, rounding once. -/
def scaleDown (d : Double) (k : Nat) : Double :=
  let (a, b) := fractionOf d
  let (p, q) := fractionOf (powerOfTen k)
  .ofQuotient (a * q) (b * p)

/-- Divides by growing powers of ten until the rest is one division. -/
def scaleFarDown : Nat → Double → Nat → Double
  | 0, d, _ => d
  | fuel + 1, d, k =>
    if k ≤ maxPower then scaleDown d k
    else if d.bits = 0 then d
    else scaleFarDown fuel (scaleDown d maxPower) (k - maxPower)

/-- `significand * 10 ^ exponent`; `none` when that is out of range. Four divisions by the largest
power take every significand to zero. -/
def realOf? (significand : Nat) (exponent : Int) : Option Double :=
  let d := Double.ofQuotient significand 1
  if 0 ≤ exponent then
    if exponent ≤ maxPower then scaleUp? d exponent.toNat
    else if significand = 0 then some d
    else none
  else some (scaleFarDown 8 d (-exponent).toNat)

/-- The largest exponent that is still counted. -/
def maxExponent : Nat := 0x7FFFFFFF

/-- The value of a token with the given digits. -/
def ofParts? (isNegative : Bool) (whole : List Char) (fraction : Option (List Char))
    (exponent : Option (Bool × List Char)) : Option JsonNumber :=
  let (significand, places) := gatherWhole whole 0
  let signed (d : Double) : JsonNumber := .real (if isNegative then d.neg else d)
  if fraction.isNone && exponent.isNone && places = 0 then
    if !isNegative then some (.natural significand)
    else if significand = 0 || 0x8000000000000000 < significand then
      some (.real (Double.ofInt significand).neg)
    else some (.negative (-(significand : Int)))
  else
    let (significand, taken) := gatherFraction (fraction.getD []) significand 0
    let start : Int := (places : Int) - taken
    match exponent with
    | none => (realOf? significand start).map signed
    | some (down, digits) =>
      let size := digits.foldl (fun n c => n * 10 + digitValue c) 0
      if maxExponent < size then
        if significand ≠ 0 && !down then none else some (signed (.ofInt 0))
      else (realOf? significand (if down then start - size else start + size)).map signed

/-- The value of a token; `none` when it is too large for a double. -/
def ofToken? (token : String) : Option JsonNumber :=
  let cs := token.toList
  let (isNegative, cs) := match cs with
    | '-' :: rest => (true, rest)
    | cs => (false, cs)
  let whole := cs.takeWhile Char.isDigit
  let cs := cs.dropWhile Char.isDigit
  let (fraction, cs) := match cs with
    | '.' :: rest => (some (rest.takeWhile Char.isDigit), rest.dropWhile Char.isDigit)
    | cs => (none, cs)
  let exponent := match cs with
    | _ :: '-' :: digits => some (true, digits)
    | _ :: '+' :: digits => some (false, digits)
    | _ :: digits => some (false, digits)
    | [] => none
  ofParts? isNegative whole fraction exponent

/-- The value as a whole number; a real is none, even without a fraction. -/
def toInt? : JsonNumber → Option Int
  | natural value => some value
  | negative value => some value
  | real _ => none

/-- The nearest double. -/
def toDouble : JsonNumber → Double
  | natural value => .ofInt value
  | negative value => .ofInt value
  | real value => value

/-- The nearest single; a real is rounded from its double. -/
def toSingle : JsonNumber → Single
  | natural value => .ofInt value
  | negative value => .ofInt value
  | real value => .ofDouble value

end JsonNumber

end ScriptGraph
