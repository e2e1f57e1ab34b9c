/-!
# UTF-8

A machine reads bytes one by one. Between characters it takes a lead byte, which says how many
bytes follow and between which bounds the next one lies; the bounds rule out overlong forms,
surrogates and code points beyond the last. A byte out of bounds ends the sequence under way as
ill-formed, and is then read as a lead byte itself.

So every ill-formed part is as long as it can be while it is the beginning of a character, and
`none` stands in the output for each of them. Lossy decoding puts U+FFFD there; strict decoding
refuses the bytes.
-/

namespace CwebHighlight

/-- A character under way: how many bytes are missing, the bounds of the next one, and the value
of the bytes so far. -/
structure Utf8Pending where
  missing : Nat
  low : UInt8
  high : UInt8
  value : Nat
  deriving DecidableEq, Repr

/-- What a byte between characters means: a character, the beginning of one, or nothing. -/
inductive Utf8Lead where
  | char (c : Char)
  | pending (p : Utf8Pending)
  | illFormed
  deriving DecidableEq, Repr

namespace Utf8Lead

def ofByte (b : UInt8) : Utf8Lead :=
  if b < 0x80 then char (Char.ofNat b.toNat)
  else if b < 0xC2 then illFormed
  else if b < 0xE0 then pending ⟨1, 0x80, 0xBF, b.toNat - 0xC0⟩
  else if b = 0xE0 then pending ⟨2, 0xA0, 0xBF, 0⟩
  else if b = 0xED then pending ⟨2, 0x80, 0x9F, 0xD⟩
  else if b < 0xF0 then pending ⟨2, 0x80, 0xBF, b.toNat - 0xE0⟩
  else if b = 0xF0 then pending ⟨3, 0x90, 0xBF, 0⟩
  else if b < 0xF4 then pending ⟨3, 0x80, 0xBF, b.toNat - 0xF0⟩
  else if b = 0xF4 then pending ⟨3, 0x80, 0x8F, 4⟩
  else illFormed

/-- What the machine puts out for a lead byte, and its next state. -/
def result : Utf8Lead → List (Option Char) × Option Utf8Pending
  | char c => ([some c], none)
  | pending p => ([], some p)
  | illFormed => ([none], none)

end Utf8Lead

/-- One byte, in the middle of a character or between characters. -/
def utf8Step (state : Option Utf8Pending) (b : UInt8) :
    List (Option Char) × Option Utf8Pending :=
  match state with
  | none => (Utf8Lead.ofByte b).result
  | some p =>
    if p.low ≤ b ∧ b ≤ p.high then
      let value := p.value * 64 + (b.toNat - 0x80)
      if p.missing ≤ 1 then ([some (Char.ofNat value)], none)
      else ([], some ⟨p.missing - 1, 0x80, 0xBF, value⟩)
    else
      let (out, next) := (Utf8Lead.ofByte b).result
      (none :: out, next)

/-- The characters and ill-formed parts of bytes, read from a state on. -/
def utf8Parts (state : Option Utf8Pending) : List UInt8 → List (Option Char)
  | [] => if state.isSome then [none] else []
  | b :: rest =>
    let (out, next) := utf8Step state b
    out ++ utf8Parts next rest

/-- The text of bytes, with U+FFFD for each ill-formed part. -/
def decodeLossy (bytes : List UInt8) : List Char :=
  (utf8Parts none bytes).map (·.getD '\uFFFD')

/-- The text of bytes, if they are well-formed. -/
def decodeStrict? (bytes : List UInt8) : Option (List Char) :=
  (utf8Parts none bytes).mapM id

end CwebHighlight
