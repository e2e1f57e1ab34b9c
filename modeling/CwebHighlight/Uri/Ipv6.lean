import CwebHighlight.Uri.Ipv4

/-!
# Addresses of eight pieces

An address of eight pieces of 16 bits is written in hexadecimal with colons between the pieces. Two
colons stand for one or more pieces that are 0, and the last two pieces may be written as four
decimal bytes.

Of all the ways to write an address one is chosen: no needless zeros, and two colons for the first
of the longest runs of zero pieces, if it has two pieces or more.
-/

namespace CwebHighlight.Uri

/-! ## Reading -/

def ipv6Piece? (cs : List Char) : Option Nat :=
  if 1 ≤ cs.length ∧ cs.length ≤ 4 ∧ cs.all (isDigitOf 16) then some (numberOfDigits 16 cs)
  else none

/-- A decimal byte without needless zeros. -/
def decimalByte? (cs : List Char) : Option Nat :=
  if cs.all isDecimalDigit && !cs.isEmpty && (cs.head? ≠ some '0' || cs.length = 1) &&
      numberOfDigits 10 cs < 256 then some (numberOfDigits 10 cs)
  else none

/-- The two pieces that four decimal bytes are. -/
def decimalPieces? (cs : List Char) : Option (List Nat) := do
  match ← (cutAt (· = '.') cs).mapM decimalByte? with
  | [a, b, c, d] => some [a * 256 + b, c * 256 + d]
  | _ => none

/-- The pieces of a text between colons; the last may be four decimal bytes. -/
def ipv6Pieces? : List (List Char) → Option (List Nat)
  | [] => some []
  | [last] => if '.' ∈ last then decimalPieces? last else (ipv6Piece? last).map ([·])
  | piece :: rest => do return (← ipv6Piece? piece) :: (← ipv6Pieces? rest)

/-- What stands before and after the first two colons. -/
def splitColons : List Char → Option (List Char × List Char)
  | ':' :: ':' :: rest => some ([], rest)
  | c :: rest => (splitColons rest).map fun (before, after) => (c :: before, after)
  | [] => none

/-- The pieces between colons of a text that may be empty. -/
def colonPieces (cs : List Char) : List (List Char) :=
  if cs.isEmpty then [] else cutAt (· = ':') cs

/-- The eight pieces of an address. -/
def ipv6Parse? (cs : List Char) : Option (List Nat) :=
  match splitColons cs with
  | none => do
    let pieces ← ipv6Pieces? (colonPieces cs)
    guard (pieces.length = 8)
    return pieces
  | some (before, after) => do
    let before ← (colonPieces before).mapM ipv6Piece?
    let after ← ipv6Pieces? (colonPieces after)
    guard (before.length + after.length < 8)
    return before ++ List.replicate (8 - before.length - after.length) 0 ++ after

/-! ## Writing -/

/-- How many pieces are 0 from the front on. -/
def zeroRun (pieces : List Nat) : Nat := (pieces.takeWhile (· = 0)).length

/-- The first place of a longest run of zeros. -/
def longestZeros (pieces : List Nat) : Nat × Nat :=
  (List.range pieces.length).foldl (fun best i =>
    let run := zeroRun (pieces.drop i)
    if best.2 < run then (i, run) else best) (0, 0)

def piecesText (pieces : List Nat) : List Char :=
  (":".intercalate (pieces.map (hexText 1))).toList

/-- The chosen way to write eight pieces. -/
def ipv6Text (pieces : List Nat) : List Char :=
  let (start, run) := longestZeros pieces
  if run < 2 then piecesText pieces
  else piecesText (pieces.take start) ++ "::".toList ++ piecesText (pieces.drop (start + run))

end CwebHighlight.Uri
