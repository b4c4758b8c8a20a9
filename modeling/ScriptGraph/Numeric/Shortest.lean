import ScriptGraph.Numeric.Binary

/-!
The fewest decimal digits that read back to a binary float.

All the reals that round to a word form an interval around its value. The written form is the
decimal with the fewest digits in that interval, and among those the nearest to the value.
-/

namespace ScriptGraph

/-- A positive decimal `0.d₁d₂… * 10 ^ point`, the digits without trailing zeros. -/
structure DecimalDigits where
  digits : List Nat
  point : Int

/-- Which of two equally near decimals is written. -/
inductive TieRule where
  | up
  | toEven

namespace Shortest

/-- The decimal digits of a number, highest first; `0` has none. -/
def digitsOf (n : Nat) : List Nat :=
  if n = 0 then [] else (Nat.toDigits 10 n).map fun c => c.toNat - 48

/-- Drops trailing zeros. -/
def trimZeros (digits : List Nat) : List Nat :=
  (digits.reverse.dropWhile (· = 0)).reverse

/-- The reals `(value ± margins) / den` that round to one word. `closed` tells whether the ends
belong to it. -/
structure Interval where
  value : Nat
  below : Nat
  above : Nat
  den : Nat
  closed : Bool

/-- The interval of `significand * 2 ^ exponent`. Below a power of two the words stand twice as
dense, except where the exponent is already the lowest. -/
def interval (f : BinaryFormat) (significand : Nat) (exponent : Int) : Interval :=
  let narrow := significand = f.fieldUnit ∧ exponent ≠ -f.unit
  let up := exponent.toNat
  let down := (-exponent).toNat
  { value := 4 * significand * Nat.pow 2 up
    below := (if narrow then 1 else 2) * Nat.pow 2 up
    above := 2 * Nat.pow 2 up
    den := 4 * Nat.pow 2 down
    closed := significand % 2 = 0 }

/-- Multiplies `n` by `10 ^ k` when `k` is positive. -/
def scaleUp (n : Nat) (k : Int) : Nat := n * Nat.pow 10 k.toNat

/-- The least `point` with `value / den < 10 ^ point`, looked for from `start` on. -/
def pointFrom (value den : Nat) : Nat → Int → Int
  | 0, start => start
  | fuel + 1, start =>
    if scaleUp value (-start) < scaleUp den start then start
    else pointFrom value den fuel (start + 1)

/-- The decimal point of `value / den`: the number of digits before it. -/
def decimalPoint (value den : Nat) : Int :=
  let estimate : Int := ((value.log2 : Int) - den.log2 - 1) * 30103 / 100000 - 1
  pointFrom value den 5 estimate

/-- The decimal of `count` digits that lies in the interval, if there is one: of the two
neighbours of the value on that grid the nearer, of equally near ones the one `tie` says. -/
def ofLength? (tie : TieRule) (i : Interval) (point : Int) (count : Nat) : Option Nat :=
  let grid : Int := point - count
  -- everything is measured in units of `10 ^ grid / den'`
  let unit := scaleUp i.den grid
  let value := scaleUp i.value (-grid)
  let below := scaleUp i.below (-grid)
  let above := scaleUp i.above (-grid)
  let lower := value / unit
  let fits (distance margin : Nat) : Bool :=
    if i.closed then distance ≤ margin else distance < margin
  let down := value - lower * unit
  let up := (lower + 1) * unit - value
  let lowerFits := fits down below
  let upperFits := fits up above
  if lowerFits && upperFits then
    if down < up then some lower
    else if up < down then some (lower + 1)
    else match tie with
      | .up => some (lower + 1)
      | .toEven => some (if lower % 2 = 0 then lower else lower + 1)
  else if lowerFits then some lower
  else if upperFits then some (lower + 1)
  else none

/-- Tries growing digit counts. -/
def search (tie : TieRule) (i : Interval) (point : Int) : Nat → Nat → Nat × Nat
  | 0, count => (scaleUp i.value (count - point) / scaleUp i.den (point - count), count)
  | fuel + 1, count =>
    match ofLength? tie i point count with
    | some digits => (digits, count)
    | none => search tie i point fuel (count + 1)

/-- The shortest decimal of a positive finite value. Seventeen digits always suffice. -/
def ofFinite (f : BinaryFormat) (tie : TieRule) (significand : Nat) (exponent : Int) :
    DecimalDigits :=
  let i := interval f significand exponent
  let point := decimalPoint i.value i.den
  let (number, count) := search tie i point 17 1
  let digits := digitsOf number
  { digits := trimZeros digits, point := point + ((digits.length : Int) - count) }

end Shortest

end ScriptGraph
