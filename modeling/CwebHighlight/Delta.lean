import CwebHighlight.Encoding
import CwebHighlight.Scan

/-!
# Relative positions

On the wire each token's position is given relative to the token before it: the lines between
them, and the columns between them if they share a line. The first token is relative to the
origin.

**Building.** `DeltaList.push` appends a token. A token before the last one in reading order is
refused and leaves the list as it is.

**Reading.** `decodeDeltas` accumulates the positions again, starting from the origin.

**On the wire** (`Legend.wire`). A list of tokens is encoded and appended token by token, so of
two faults the one at the earlier token is reported.
-/

namespace CwebHighlight

/-- A token whose position is relative to the token before it. -/
structure DeltaToken where
  deltaLine : UInt32
  deltaStart : UInt32
  length : UInt32
  kindIndex : UInt32
  modifierBits : UInt32
  deriving DecidableEq, Repr

/-- The five words of a token. -/
def DeltaToken.words (t : DeltaToken) : List UInt32 :=
  [t.deltaLine, t.deltaStart, t.length, t.kindIndex, t.modifierBits]

/-- A place in a document. -/
structure Place where
  line : UInt32
  start : UInt32
  deriving DecidableEq, Repr

namespace Place

def origin : Place := ⟨0, 0⟩

/-- Reading order: by line, then by column. -/
def le (a b : Place) : Bool := a.line < b.line || (a.line == b.line && a.start ≤ b.start)

def text (p : Place) : String := toString p.line.toNat ++ ":" ++ toString p.start.toNat

end Place

def EncodedToken.place (t : EncodedToken) : Place := ⟨t.line, t.start⟩

/-- A token came before the one that was appended last. -/
structure OutOfOrder where
  place : Place
  last : Place
  deriving DecidableEq, Repr

def OutOfOrder.message (e : OutOfOrder) : String :=
  "semantic tokens pushed out of order: " ++ e.place.text ++ " after " ++ e.last.text

/-! ## Building -/

/-- Relative tokens and the place of the last one. -/
structure DeltaList where
  data : Array DeltaToken
  last : Place
  deriving DecidableEq, Repr

namespace DeltaList

def empty : DeltaList := ⟨#[], .origin⟩

def size (d : DeltaList) : Nat := d.data.size

def isEmpty (d : DeltaList) : Bool := d.data.isEmpty

def toList (d : DeltaList) : List DeltaToken := d.data.toList

/-- A token relative to a place that is not after it. -/
def relative (last : Place) (t : EncodedToken) : DeltaToken where
  deltaLine := t.line - last.line
  deltaStart := if t.line = last.line then t.start - last.start else t.start
  length := t.length
  kindIndex := t.kindIndex
  modifierBits := t.modifierBits

def push (d : DeltaList) (t : EncodedToken) : Except OutOfOrder DeltaList :=
  if d.isEmpty || d.last.le t.place then .ok ⟨d.data.push (relative d.last t), t.place⟩
  else .error ⟨t.place, d.last⟩

end DeltaList

/-! ## Reading -/

/-- The tokens that relative tokens stand for, seen from a place. -/
def decodeDeltas (from_ : Place) : List DeltaToken → List EncodedToken
  | [] => []
  | d :: rest =>
    let line := from_.line + d.deltaLine
    let start := if d.deltaLine = 0 then from_.start + d.deltaStart else d.deltaStart
    ⟨line, start, d.length, d.kindIndex, d.modifierBits⟩ :: decodeDeltas ⟨line, start⟩ rest

/-! ## On the wire -/

inductive WireError where
  | encoding (e : EncodeError)
  | order (e : OutOfOrder)
  deriving DecidableEq, Repr

def WireError.message : WireError → String
  | .encoding e => e.message
  | .order e => e.message

namespace Legend

/-- Encode tokens and append them to a list, one after the other. -/
def wireFrom (l : Legend) (d : DeltaList) : List Token → Except WireError DeltaList
  | [] => .ok d
  | t :: rest => do
    let encoded ← (l.encode t).mapError .encoding
    let d' ← (d.push encoded).mapError .order
    l.wireFrom d' rest

/-- The relative tokens that an editor gets for a token list. -/
def wire (l : Legend) (tokens : List Token) : Except WireError (List DeltaToken) :=
  (l.wireFrom .empty tokens).map (·.toList)

/-- The relative tokens of a document, scanned under a signal. -/
def highlight (l : Legend) (text : List Char) (signal : Signal) :
    Except WireError (List DeltaToken) :=
  l.wire (classify text signal)

end Legend

end CwebHighlight
