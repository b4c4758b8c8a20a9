import ScriptGraph.Numeric.Float
import ScriptGraph.Numeric.Shortest

/-!
How numbers are written: a `NumberStyle` lists the decisions, `render` lays out the shortest digits
accordingly.
-/

namespace ScriptGraph

/-- The decisions behind one way to write floats. -/
structure NumberStyle where
  /-- Which of two equally near shortest decimals is written. -/
  tie : TieRule
  /-- A number with more digits than this before the point takes an exponent. -/
  maxPoint : Option Int
  /-- A number whose first digit stands below this place takes an exponent. -/
  minPoint : Option Int
  /-- Whether a whole number keeps `.0`. -/
  keepFraction : Bool
  /-- The text of an infinity and of a value that is no number; `none` writes `null`. -/
  infinite : Option String
  /-- The text of a value that is no number. -/
  notNumber : String

namespace NumberStyle

/-- Floats inside texts: an exponent from `1e16` on and below `1e-4`, whole numbers end in `.0`. -/
def listing : NumberStyle :=
  { tie := .up, maxPoint := some 16, minPoint := some (-3), keepFraction := true
    infinite := some "inf", notNumber := "NaN" }

/-- Floats inside messages: never an exponent, and whole numbers have no fraction. -/
def plain : NumberStyle :=
  { tie := .up, maxPoint := none, minPoint := none, keepFraction := false
    infinite := some "inf", notNumber := "NaN" }

/-- Singles inside documents: an exponent from `1e13` on and below `1e-6`, always a fraction or an
exponent, and `null` for what is not finite. -/
def document : NumberStyle :=
  { tie := .toEven, maxPoint := some 13, minPoint := some (-5), keepFraction := true
    infinite := none, notNumber := "null" }

/-- Doubles inside documents: as singles, but an exponent from `1e16` on and below `1e-5`. -/
def wideDocument : NumberStyle :=
  { document with maxPoint := some 16, minPoint := some (-4) }

/-- Digits as text. -/
def digitText (digits : List Nat) : String :=
  String.ofList (digits.map fun d => Char.ofNat (48 + d))

/-- A row of zeros. -/
def zeros (count : Nat) : String := String.ofList (List.replicate count '0')

/-- `d.ddd` followed by the exponent. -/
def scientific (d : DecimalDigits) : String :=
  let exponent := d.point - 1
  let mantissa := match d.digits with
    | [] => "0"
    | [single] => digitText [single]
    | first :: rest => digitText [first] ++ "." ++ digitText rest
  mantissa ++ "e" ++ toString exponent

/-- All digits at their places around the point. -/
def positional (keepFraction : Bool) (d : DecimalDigits) : String :=
  let whole := if keepFraction then ".0" else ""
  if d.point ≤ 0 then "0." ++ zeros (-d.point).toNat ++ digitText d.digits
  else
    let before := d.point.toNat
    if d.digits.length ≤ before then
      digitText d.digits ++ zeros (before - d.digits.length) ++ whole
    else digitText (d.digits.take before) ++ "." ++ digitText (d.digits.drop before)

/-- Writes the digits of a positive number. -/
def renderDigits (style : NumberStyle) (d : DecimalDigits) : String :=
  let tooLarge := style.maxPoint.any fun top => top < d.point
  let tooSmall := style.minPoint.any fun low => d.point < low
  if tooLarge || tooSmall then scientific d else positional style.keepFraction d

/-- Writes a decoded value of the given format. -/
def render (style : NumberStyle) (f : BinaryFormat) : BinaryValue → String
  | .nan => style.notNumber
  | .infinite negative =>
    match style.infinite with
    | some text => if negative then "-" ++ text else text
    | none => style.notNumber
  | .finite negative significand exponent =>
    let text :=
      if significand = 0 then if style.keepFraction then "0.0" else "0"
      else style.renderDigits (Shortest.ofFinite f style.tie significand exponent)
    if negative then "-" ++ text else text

end NumberStyle

/-- Writes a single. -/
def Single.render (style : NumberStyle) (s : Single) : String :=
  style.render .single s.value

/-- Writes a double. -/
def Double.render (style : NumberStyle) (d : Double) : String :=
  style.render .double d.value

end ScriptGraph
