/-!
# Korean syllables

A syllable is made of a leading consonant, a vowel and perhaps a trailing consonant. The letters
and the syllables are numbered so that one can be computed from the others.
-/

namespace CwebHighlight.Domain

/-- A syllable by the numbers of its letters; trailing letter 0 is none. -/
structure Syllable where
  leading : Nat
  vowel : Nat
  trailing : Nat
  deriving DecidableEq, Repr

namespace Syllable

def firstSyllable : Nat := 0xAC00

def firstLeading : Nat := 0x1100

def firstVowel : Nat := 0x1161

/-- The code point before the first trailing letter. -/
def noTrailing : Nat := 0x11A7

def leadingCount : Nat := 19

def vowelCount : Nat := 21

def trailingCount : Nat := 28

def char (s : Syllable) : Char :=
  Char.ofNat (firstSyllable + (s.leading * vowelCount + s.vowel) * trailingCount + s.trailing)

def letters (s : Syllable) : List Char :=
  [Char.ofNat (firstLeading + s.leading), Char.ofNat (firstVowel + s.vowel)] ++
    if s.trailing = 0 then [] else [Char.ofNat (noTrailing + s.trailing)]

/-- The place of a character in a run of `count` characters. -/
def placeIn? (first count : Nat) (c : Char) : Option Nat :=
  if first ≤ c.toNat ∧ c.toNat < first + count then some (c.toNat - first) else none

def ofChar? (c : Char) : Option Syllable :=
  (placeIn? firstSyllable (leadingCount * vowelCount * trailingCount) c).map fun n =>
    ⟨n / trailingCount / vowelCount, n / trailingCount % vowelCount, n % trailingCount⟩

/-- A leading letter with a vowel, or a syllable without a trailing letter with one. -/
def composite? (a b : Char) : Option Char :=
  match placeIn? firstLeading leadingCount a, placeIn? firstVowel vowelCount b with
  | some leading, some vowel => some (char ⟨leading, vowel, 0⟩)
  | _, _ =>
    match ofChar? a, placeIn? noTrailing trailingCount b with
    | some ⟨leading, vowel, 0⟩, some (trailing + 1) => some (char ⟨leading, vowel, trailing + 1⟩)
    | _, _ => none

end Syllable

end CwebHighlight.Domain
