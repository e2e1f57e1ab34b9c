import CwebHighlight.Text.Digits

/-!
# Percent escapes

A part of an address must not hold certain characters as such. They are written byte by byte, each
as a percent sign and two digits; which characters they are depends on the part.
-/

namespace CwebHighlight.Uri

/-! ## Sets -/

/-- Control characters, and all that is not ASCII. -/
def isControl (c : Char) : Bool := c.val < 0x20 || 0x7E < c.val

def inFragmentSet (c : Char) : Bool := isControl c || c ∈ [' ', '"', '<', '>', '`']

def inQuerySet (special : Bool) (c : Char) : Bool :=
  isControl c || c ∈ [' ', '"', '#', '<', '>'] || (special && c == '\'')

def inPathSet (c : Char) : Bool := inFragmentSet c || c ∈ ['#', '?', '{', '}']

def inUserSet (c : Char) : Bool :=
  inPathSet c || c ∈ ['/', ':', ';', '=', '@', '[', '\\', ']', '^', '|']

/-! ## Writing and reading -/

def escapeByte (b : UInt8) : List Char :=
  '%' :: ((hexText 2 b.toNat).toList.map Char.toUpper)

def utf8Bytes (c : Char) : List UInt8 := (String.singleton c).toUTF8.toList

/-- Write the characters of a set as escapes of their bytes. -/
def escape (set : Char → Bool) (cs : List Char) : List Char :=
  cs.flatMap fun c => if set c then (utf8Bytes c).flatMap escapeByte else [c]

/-- The bytes of a text whose escapes are read. -/
def unescape : List Char → List UInt8
  | '%' :: a :: b :: rest =>
    if isDigitOf 16 a && isDigitOf 16 b then
      UInt8.ofNat (numberOfDigits 16 [a, b]) :: unescape rest
    else utf8Bytes '%' ++ unescape (a :: b :: rest)
  | c :: rest => utf8Bytes c ++ unescape rest
  | [] => []

end CwebHighlight.Uri
