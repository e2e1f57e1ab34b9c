/-!
# The shortest decimal of a binary fraction

A positive binary64 number is `m · 2 ^ q`. Among the decimals that round to it, the one shown is
on the coarsest decimal grid, and of the decimals on that grid the nearest.

**The interval.** The reals that round to `m · 2 ^ q` reach half a step up, and half a step down
or, above a power of two, a quarter; the ends belong to it if `m` is even. All quantities are kept
as natural numbers over one denominator: four times the number is `num / den`.

**The grids.** For 1, 2, … 17 digits, only the two neighbours of the number on the grid have to
be looked at.
-/

namespace CwebHighlight

/-- A decimal number: a sign, an integer and a power of ten. -/
structure Decimal where
  negative : Bool
  digits : Nat
  exponent : Int
  deriving DecidableEq, Repr

/-- A positive binary fraction `m · 2 ^ q`; `atPower` says that `m` is the least significand of
its binade, below which the numbers lie twice as close. -/
structure BinaryFraction where
  m : Nat
  q : Int
  atPower : Bool
  deriving DecidableEq, Repr

namespace BinaryFraction

def den (x : BinaryFraction) : Nat := 4 * Nat.pow 2 (-x.q).toNat

/-- The number that is `k / 4` steps above `m`, over the denominator. -/
def quarter (x : BinaryFraction) (k : Int) : Nat :=
  (4 * (x.m : Int) + k).toNat * Nat.pow 2 x.q.toNat

/-- Whether `n · 10 ^ e` rounds to the fraction. -/
def rounds (x : BinaryFraction) (n : Nat) (e : Int) : Bool :=
  let value := n * Nat.pow 10 e.toNat * x.den
  let scale := Nat.pow 10 (-e).toNat
  let low := x.quarter (if x.atPower then -1 else -2) * scale
  let high := x.quarter 2 * scale
  if x.m % 2 = 0 then low ≤ value && value ≤ high else low < value && value < high

/-- The integer part of the fraction divided by `10 ^ e`. -/
def floorDiv (x : BinaryFraction) (e : Int) : Nat :=
  x.quarter 0 * Nat.pow 10 (-e).toNat / (x.den * Nat.pow 10 e.toNat)

/-- Whether the fraction is nearer to `(n + 1) · 10 ^ e` than to `n · 10 ^ e`, or as near and `n`
odd, where it lies between the two. -/
def nearerUp (x : BinaryFraction) (n : Nat) (e : Int) : Bool :=
  let twice := 2 * x.quarter 0 * Nat.pow 10 (-e).toNat
  let middle := (2 * n + 1) * x.den * Nat.pow 10 e.toNat
  middle < twice || (middle == twice && n % 2 == 1)

/-- The power of ten at the first digit: `10 ^ e` is at most the fraction and `10 ^ (e + 1)` is
above it. -/
def magnitude (x : BinaryFraction) : Int :=
  let whole := x.floorDiv 0
  if 0 < whole then ((Nat.toDigits 10 whole).length : Int) - 1
  else
    .negOfNat (((List.range 400).find? fun (k : Nat) => 0 < x.floorDiv (.negOfNat k)).getD 0)

/-- The neighbour of the fraction on the grid of `10 ^ e` that rounds to it, the nearer of two. -/
def onGrid? (x : BinaryFraction) (e : Int) : Option Nat :=
  let n := x.floorDiv e
  match x.rounds n e, x.rounds (n + 1) e with
  | true, true => some (if x.nearerUp n e then n + 1 else n)
  | true, false => some n
  | false, true => some (n + 1)
  | false, false => none

/-- The first grid with a hit, from 1 digit on. -/
def shortest (x : BinaryFraction) : Nat × Int :=
  let top := x.magnitude
  ((List.range 18).findSome? fun (k : Nat) =>
    let e := top - k
    (x.onGrid? e).map fun n => (n, e)).getD (0, 0)

end BinaryFraction

/-! ## Floating point numbers -/

/-- What a floating point number is: an infinity, no number, or a signed finite number. -/
inductive FloatView where
  | infinite (negative : Bool)
  | notANumber
  | zero (negative : Bool)
  | finite (negative : Bool) (fraction : BinaryFraction)
  deriving DecidableEq, Repr

/-- The binary64 number with the given bits. -/
def FloatView.ofBits (bits : UInt64) : FloatView :=
  let negative := bits >>> 63 == 1
  let exponent := ((bits >>> 52) &&& 0x7FF).toNat
  let mantissa := (bits &&& 0xFFFFFFFFFFFFF).toNat
  if exponent = 0x7FF then if mantissa = 0 then .infinite negative else .notANumber
  else if exponent = 0 then
    if mantissa = 0 then .zero negative else .finite negative ⟨mantissa, -1074, false⟩
  else .finite negative
    ⟨mantissa + 0x10000000000000, (exponent : Int) - 1075, mantissa == 0 && 1 < exponent⟩

/-- The shortest decimal of a finite number. -/
def FloatView.decimal? : FloatView → Option Decimal
  | .infinite _ | .notANumber => none
  | .zero negative => some ⟨negative, 0, 0⟩
  | .finite negative x =>
    let (n, e) := x.shortest
    some ⟨negative, n, e⟩

end CwebHighlight
