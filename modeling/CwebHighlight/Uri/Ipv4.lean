import CwebHighlight.Text.Cut
import CwebHighlight.Text.Digits

/-!
# Addresses of four bytes

A host whose last part is a number is an address. Its parts are numbers; each but the last is one
byte, and the last fills the bytes that are left. A full stop may follow.
-/

namespace CwebHighlight.Uri

/-- A number: decimal, or octal after `0`, or hexadecimal after `0x`. -/
def ipv4Number? (cs : List Char) : Option Nat :=
  let (base, digits) := match cs with
    | '0' :: 'x' :: rest | '0' :: 'X' :: rest => (16, rest)
    | '0' :: c :: rest => (8, c :: rest)
    | _ => (10, cs)
  if !cs.isEmpty && digits.all (isDigitOf base) then some (numberOfDigits base digits) else none

/-- The parts of a host between its full stops, without an empty one at the end. -/
def hostParts (host : List Char) : List (List Char) :=
  let parts := cutAt (· = '.') host
  if parts.getLast? = some [] && 1 < parts.length then parts.dropLast else parts

/-- Whether a host is an address of four bytes, well-formed or not. -/
def endsInNumber (host : List Char) : Bool :=
  (hostParts host).getLast?.any fun part =>
    (!part.isEmpty && part.all isDecimalDigit) || (ipv4Number? part).isSome

/-- The four bytes of an address. -/
def ipv4Bytes? (host : List Char) : Option (List Nat) := do
  let parts := hostParts host
  guard (parts.length ≤ 4)
  let numbers ← parts.mapM ipv4Number?
  let firsts := numbers.dropLast
  let last ← numbers.getLast?
  guard (firsts.all (· < 256) && last < Nat.pow 256 (4 - firsts.length))
  let filled := (List.range (4 - firsts.length)).map fun i => last / Nat.pow 256 i % 256
  return firsts ++ filled.reverse

def ipv4Text (bytes : List Nat) : List Char := (".".intercalate (bytes.map toString)).toList

end CwebHighlight.Uri
