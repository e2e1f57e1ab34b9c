import CwebHighlight.Text.Cut
import CwebHighlight.Uri.Escape

/-!
# Paths

A path is read segment by segment, each with the slash that ends it. A segment `.` says nothing,
and `..` takes the last segment away, except that a drive letter is never taken away, nor the
slash that begins the path.

**Drive letters.** As the first segment of a `file` path a letter with a colon or bar is a drive:
the bar turns into a colon, and the address has no host. Of a `file` path only one slash is kept at
the front.

**Breaks.** Tabs and line breaks do not count. Only when one cuts a drive letter off from what
follows, that is a segment of its own, which is kept as it is.
-/

namespace CwebHighlight.Uri

/-! ## Characters -/

def isSlash (special : Bool) (c : Char) : Bool := c = '/' || (special && c = '\\')

def isBreak (c : Char) : Bool := c ∈ ['\t', '\n', '\r']

def withoutBreaks (cs : List Char) : List Char := cs.filter (!isBreak ·)

/-- The next character that counts, and what follows it. -/
def next? (cs : List Char) : Option (Char × List Char) :=
  match cs.dropWhile isBreak with
  | [] => none
  | c :: rest => some (c, rest)

/-! ## Segments -/

def isSingleDot (segment : List Char) : Bool :=
  ([".", "%2e"].map (·.toList)).contains (segment.map Char.toLower)

def isDoubleDot (segment : List Char) : Bool :=
  (["..", ".%2e", "%2e.", "%2e%2e"].map (·.toList)).contains (segment.map Char.toLower)

/-- A letter and a colon or bar. -/
def isDriveLetter : List Char → Bool
  | [c, d] => c.isAlpha && (d = ':' || d = '|')
  | _ => false

/-- A drive letter that a break cuts off from what follows, and what follows. -/
def cutDrive? (segment : List Char) : Option (List Char × List Char) := do
  let (c, afterLetter) ← next? segment
  let (d, rest) ← next? afterLetter
  guard (c.isAlpha && d = ':' && rest.head?.any isBreak && !(withoutBreaks rest).isEmpty)
  return ([c, d], withoutBreaks rest)

/-! ## Paths -/

/-- The text of a path so far, and whether a drive letter begins it. -/
structure Path where
  text : List Char
  onDrive : Bool
  deriving DecidableEq, Repr

namespace Path

/-- The path that is a slash. -/
def root : Path := ⟨['/'], false⟩

def empty : Path := ⟨[], false⟩

/-- The text up to the last slash before the one that ends it. -/
def parentText (text : List Char) : List Char :=
  (text.dropLast.reverse.dropWhile (· ≠ '/')).reverse

/-- The segment before the slash that ends the text. -/
def lastSegment (text : List Char) : List Char :=
  (text.dropLast.reverse.takeWhile (· ≠ '/')).reverse

/-- Go one segment up, from a path that ends in a slash. -/
def up (p : Path) : Path :=
  let parent := parentText p.text
  if parent.isEmpty || isDriveLetter (lastSegment p.text) then p else { p with text := parent }

/-- Add a segment as it is, and the slash that ends it unless it is the last. -/
def append (p : Path) (segment : List Char) (last : Bool) : Path :=
  { p with text := p.text ++ escape inPathSet segment ++ if last then [] else ['/'] }

/-- Add a segment by its meaning. -/
def addSegment (file : Bool) (p : Path) (segment : List Char) (last : Bool) : Path :=
  let isFirst := file && p.text.length = 1
  match if isFirst then cutDrive? segment else none with
  | some (drive, rest) => (p.append drive false).append rest last
  | none =>
    let segment := withoutBreaks segment
    if isDoubleDot segment then p.up
    else if isSingleDot segment then p
    else if isFirst && isDriveLetter segment then
      { p.append (segment.take 1 ++ [':']) last with onDrive := true }
    else p.append segment last

def addSegments (file : Bool) (p : Path) : List (List Char) → Path
  | [] => p
  | segment :: rest => (p.addSegment file segment rest.isEmpty).addSegments file rest

/-- The path that a text adds to another one. -/
def add (special file : Bool) (p : Path) (cs : List Char) : Path :=
  p.addSegments file (cutAt (isSlash special) cs)

/-- A path with one slash at the front. -/
def oneSlash (p : Path) : Path := { p with text := '/' :: p.text.dropWhile (· = '/') }

end Path

end CwebHighlight.Uri
