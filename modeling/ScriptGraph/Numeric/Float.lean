import ScriptGraph.Numeric.Binary

/-!
The two floating-point types of the library, kept bit for bit: `Single` is what a graph stores,
`Double` is what a source document writes.
-/

namespace ScriptGraph

/-- A 32-bit float. Two singles are equal when their bits are. -/
structure Single where
  bits : UInt32
deriving DecidableEq

/-- A 64-bit float. Two doubles are equal when their bits are. -/
structure Double where
  bits : UInt64
deriving DecidableEq

namespace Double

/-- The value a double stands for. -/
def value (d : Double) : BinaryValue :=
  BinaryFormat.double.decode d.bits.toNat

/-- The double with the given sign and magnitude word. -/
def ofMagnitude (negative : Bool) (magnitude : Nat) : Double :=
  ⟨UInt64.ofNat (BinaryFormat.double.withSign negative magnitude)⟩

/-- The double nearest to a whole number. -/
def ofInt (value : Int) : Double :=
  ⟨UInt64.ofNat (BinaryFormat.double.roundInt value)⟩

/-- Flips the sign bit. -/
def neg (d : Double) : Double :=
  ⟨d.bits ^^^ 0x8000000000000000⟩

/-- The magnitude nearest to `num / den`, as a non-negative double. -/
def ofQuotient (num den : Nat) : Double :=
  ofMagnitude false (BinaryFormat.double.roundQuotient num den)

/-- Whether the double is a number other than the infinities. -/
def isFinite (d : Double) : Bool :=
  match d.value with
  | .finite .. => true
  | _ => false

/-- The whole number that a finite double is, if it has no fractional part. -/
def toInt? (d : Double) : Option Int :=
  match d.value with
  | .finite negative significand exponent =>
    let magnitude : Option Nat :=
      if 0 ≤ exponent then some (significand * Nat.pow 2 exponent.toNat)
      else
        let unit := Nat.pow 2 (-exponent).toNat
        if significand % unit = 0 then some (significand / unit) else none
    magnitude.map fun m => if negative then -(m : Int) else m
  | _ => none

/-- The largest whole number toward zero of a finite double. -/
def truncate? (d : Double) : Option Int :=
  match d.value with
  | .finite negative significand exponent =>
    let magnitude : Nat :=
      if 0 ≤ exponent then significand * Nat.pow 2 exponent.toNat
      else significand / Nat.pow 2 (-exponent).toNat
    some (if negative then -(magnitude : Int) else magnitude)
  | _ => none

end Double

namespace Single

/-- The value a single stands for. -/
def value (s : Single) : BinaryValue :=
  BinaryFormat.single.decode s.bits.toNat

/-- The single with the given sign and magnitude word. -/
def ofMagnitude (negative : Bool) (magnitude : Nat) : Single :=
  ⟨UInt32.ofNat (BinaryFormat.single.withSign negative magnitude)⟩

/-- The single nearest to a whole number. -/
def ofInt (value : Int) : Single :=
  ⟨UInt32.ofNat (BinaryFormat.single.roundInt value)⟩

/-- The single nearest to a double; a magnitude beyond the largest single becomes infinite. -/
def ofDouble (d : Double) : Single :=
  match d.value with
  | .nan => ⟨0x7FC00000⟩
  | .infinite negative => ofMagnitude negative BinaryFormat.single.infinity
  | .finite negative significand exponent =>
    ofMagnitude negative (BinaryFormat.single.roundScaled significand exponent)

/-- Flips the sign bit. -/
def neg (s : Single) : Single :=
  ⟨s.bits ^^^ 0x80000000⟩

/-- Positive zero. -/
def zero : Single := ⟨0⟩

/-- The number one. -/
def one : Single := ⟨0x3F800000⟩

end Single

end ScriptGraph
