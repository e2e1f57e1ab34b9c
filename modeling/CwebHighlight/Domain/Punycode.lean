import CwebHighlight.Text.Digits

/-!
# Labels in ASCII

A label with other characters is written in ASCII: first its ASCII characters and a hyphen, then
where the others go. These are put in one by one, in ascending order, and for each the number of
places passed over since the last one is written: places of the label as it is so far, once around
for every code point skipped.

**Numbers** are written in base 36, the lowest digit first. A digit below the threshold of its
position ends the number, and thresholds follow a bias, which adapts to how large the last numbers
were.
-/

namespace CwebHighlight.Domain.Punycode

/-! ## Digits and thresholds -/

def digit (d : Nat) : Char :=
  if d < 26 then Char.ofNat ('a'.toNat + d) else Char.ofNat ('0'.toNat + d - 26)

def digitValue? (c : Char) : Option Nat :=
  if 'a' ≤ c ∧ c ≤ 'z' then some (c.toNat - 'a'.toNat)
  else if 'A' ≤ c ∧ c ≤ 'Z' then some (c.toNat - 'A'.toNat)
  else if isDecimalDigit c then some (c.toNat - '0'.toNat + 26)
  else none

/-- The threshold of the digit at a position, counted in steps of 36 from 36 on. -/
def threshold (bias position : Nat) : Nat := max 1 (min 26 (position - bias))

theorem one_le_threshold (bias position : Nat) : 1 ≤ threshold bias position := by
  simp only [threshold]; omega

theorem threshold_le (bias position : Nat) : threshold bias position ≤ 26 := by
  simp only [threshold]; omega

/-- How often a number is divided by 35 until it is at most 455, in steps of 36, and what is
left. -/
def reduce (n steps : Nat) : Nat × Nat :=
  if 455 < n then reduce (n / 35) (steps + 36) else (n, steps)
termination_by n
decreasing_by omega

/-- The bias after the number `n`, with which the label came to hold `size` characters. -/
def adapt (n size : Nat) (isFirst : Bool) : Nat :=
  let n := if isFirst then n / 700 else n / 2
  let (rest, steps) := reduce (n + n / size) 0
  steps + 36 * rest / (rest + 38)

def firstBias : Nat := 72

/-- The first code point that is not ASCII. -/
def firstOther : Nat := 0x80

/-! ## Writing -/

/-- The digits of a number from a position on. -/
def number (bias position n : Nat) : List Char :=
  let t := threshold bias position
  if n < t then [digit n]
  else digit (t + (n - t) % (36 - t)) :: number bias (position + 36) ((n - t) / (36 - t))
termination_by n
decreasing_by
  have := one_le_threshold bias position
  have := Nat.div_le_self (n - threshold bias position) (36 - threshold bias position)
  omega

/-- A label that is being written: the digits so far, the places passed over since the last
number, the bias, and how many characters are in. -/
structure Writer where
  digits : List Char
  passed : Nat
  bias : Nat
  size : Nat
  deriving DecidableEq, Repr

/-- Pass over one character of the label, or put it in, while the characters with code point
`code` are put in. -/
def Writer.place (basic code : Nat) (w : Writer) (c : Char) : Writer :=
  if c.toNat < code then { w with passed := w.passed + 1 }
  else if c.toNat = code then
    ⟨w.digits ++ number w.bias 36 w.passed, 0, adapt w.passed (w.size + 1) (w.size = basic),
      w.size + 1⟩
  else w

/-- Put in the characters with the given code points, which ascend from `next` on. -/
def writeOthers (label : List Char) (basic next : Nat) (w : Writer) : List Nat → List Char
  | [] => w.digits
  | code :: rest =>
    let w := { w with passed := w.passed + (code - next) * (w.size + 1) }
    let w := label.foldl (Writer.place basic code) w
    writeOthers label basic (code + 1) { w with passed := w.passed + 1 } rest

def isBasic (c : Char) : Bool := c.toNat < firstOther

/-- A label in ASCII. -/
def encode (label : List Char) : List Char :=
  let basic := label.filter isBasic
  let others := (((label.filter (!isBasic ·)).map (·.toNat)).mergeSort).eraseDups
  (if basic.isEmpty then [] else basic ++ ['-']) ++
    writeOthers label basic.length firstOther ⟨[], 0, firstBias, basic.length⟩ others

/-! ## Reading -/

/-- Read a number of weight `weight` at a position, and add it. -/
def readNumber? (bias position weight sum : Nat) : List Char → Option (Nat × List Char)
  | [] => none
  | c :: rest => do
    let d ← digitValue? c
    let t := threshold bias position
    if d < t then return (sum + d * weight, rest)
    else readNumber? bias (position + 36) (weight * (36 - t)) (sum + d * weight) rest

theorem length_of_readNumber? {bias position weight sum n : Nat} {cs rest : List Char}
    (h : readNumber? bias position weight sum cs = some (n, rest)) : rest.length < cs.length := by
  induction cs generalizing position weight sum with
  | nil => simp [readNumber?] at h
  | cons c cs ih =>
    cases hd : digitValue? c with
    | none => simp [readNumber?, hd] at h
    | some d =>
      simp only [readNumber?, hd, Option.bind_eq_bind, Option.bind_some] at h
      split at h
      · simp only [Option.pure_def, Option.some.injEq, Prod.mk.injEq] at h
        simp [← h.2]
      · have := ih h
        simp only [List.length_cons]
        omega

/-- The character with a code point, if there is one. -/
def char? (n : Nat) : Option Char := if n.isValidChar then some (Char.ofNat n) else none

/-- Put further characters into a label: `place` is the place after the last one, and `code` its
code point. -/
def readOthers? (bias code place : Nat) (label : List Char) (cs : List Char) :
    Option (List Char) :=
  match cs with
  | [] => some label
  | c :: cs =>
    match _h : readNumber? bias 36 1 place (c :: cs) with
    | none => none
    | some (n, rest) => do
      let size := label.length + 1
      let code := code + n / size
      let d ← char? code
      readOthers? (adapt (n - place) size (place = 0)) code (n % size + 1)
        (label.insertIdx (n % size) d) rest
termination_by cs.length
decreasing_by exact length_of_readNumber? _h

/-- The ASCII characters before the last hyphen, and the digits after it. A hyphen at the front is
no such hyphen. -/
def splitBasic (cs : List Char) : List Char × List Char :=
  let digits := (cs.reverse.takeWhile (· ≠ '-')).reverse
  let basic := cs.take (cs.length - digits.length - 1)
  if basic.isEmpty then ([], cs) else (basic, digits)

/-- The label that an ASCII text stands for. -/
def decode? (cs : List Char) : Option (List Char) :=
  let (basic, digits) := splitBasic cs
  if basic.all isBasic then readOthers? firstBias firstOther 0 basic digits else none

end CwebHighlight.Domain.Punycode
