import CwebHighlight.Decimal.Shortest
import CwebHighlight.Text.Digits

/-!
# Decimals as text

Two ways of writing a floating point number by its shortest decimal: with all its places, or with
an exponent where the places would be many. Reading goes the other way, from digits and an
exponent to the nearest floating point number.
-/

namespace CwebHighlight

namespace Decimal

def sign (d : Decimal) : String := if d.negative then "-" else ""

/-- The digits without trailing zeros, and the power of ten of the last of them. -/
def significant (d : Decimal) : List Char × Int :=
  let digits := Nat.toDigits 10 d.digits
  let zeros := (digits.reverse.takeWhile (· = '0')).length
  (digits.take (digits.length - zeros), d.exponent + zeros)

/-- All places before the point, and all after it up to the last that is not zero. -/
def places (d : Decimal) : String × String :=
  let (digits, e) := d.significant
  if d.digits = 0 then ("0", "")
  else if 0 ≤ e then (String.ofList (digits ++ List.replicate e.toNat '0'), "")
  else
    let after := (-e).toNat
    let padded := List.replicate (after + 1 - digits.length) '0' ++ digits
    (String.ofList (padded.take (padded.length - after)),
      String.ofList (padded.drop (padded.length - after)))

/-- All places, with a point only if there are places after it. -/
def plainText (d : Decimal) : String :=
  let (whole, fraction) := d.places
  d.sign ++ if fraction.isEmpty then whole else whole ++ "." ++ fraction

/-- All places, with at least one after the point. -/
def pointedText (d : Decimal) : String :=
  let (whole, fraction) := d.places
  d.sign ++ whole ++ "." ++ if fraction.isEmpty then "0" else fraction

/-- Positional for numbers from `10⁻⁵` up to `10¹⁶`, with an exponent outside. -/
def compactText (d : Decimal) : String :=
  let (digits, e) := d.significant
  let point := (digits.length : Int) + e
  if d.digits = 0 || (-5 < point && point ≤ 16) then d.pointedText
  else
    let mantissa := match digits with
      | [] => "0"
      | [c] => c.toString
      | c :: rest => c.toString ++ "." ++ String.ofList rest
    d.sign ++ mantissa ++ "e" ++ toString (point - 1)

end Decimal

/-- A floating point number as settings show it: all its places. -/
def floatPlainText (x : Float) : String :=
  match FloatView.ofBits x.toBits with
  | .infinite negative => if negative then "-inf" else "inf"
  | .notANumber => "NaN"
  | v => (v.decimal?.map (·.plainText)).getD ""

/-- A floating point number as messages show it: a finite one has a point. -/
def floatPointedText (x : Float) : String :=
  match FloatView.ofBits x.toBits with
  | .infinite negative => if negative then "-inf" else "inf"
  | .notANumber => "NaN"
  | v => (v.decimal?.map (·.pointedText)).getD ""

/-- The floating point number nearest to `digits · 10 ^ exponent`. Numbers that are far too large
or too small for the format are not worked out. -/
def floatOfDecimal (negative : Bool) (digits : Nat) (exponent : Int) : Float :=
  let length : Int := (Nat.toDigits 10 digits).length
  let size :=
    if digits = 0 || length + exponent < -400 then 0.0
    else if 400 < length + exponent then 1.0 / 0.0
    else if 0 ≤ exponent then Float.ofScientific digits false exponent.toNat
    else Float.ofScientific digits true (-exponent).toNat
  if negative then -size else size

end CwebHighlight
