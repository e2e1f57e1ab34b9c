import CwebHighlight.Log
import CwebHighlight.Signal
import CwebHighlight.Text.Lines
import CwebHighlight.Text.Units
import CwebHighlight.Token

/-!
# The scan of a document

A literate program alternates between documentation, written in TeX, and program text. The scan
walks over the lines and keeps only the mode it is in; every line gives at most one token, which
starts at column 0 and has no modifiers.

**TeX mode.** The first rule that fits decides:

- `%` opens a comment, which covers the line;
- `@*` opens a titled section: a keyword up to the first full stop, or the whole line;
- `@ ` opens a section: a keyword of length 1;
- `@c`, `@<` and `@(` open program text: a keyword that covers the line, and code mode from the
  next line on;
- any other line is prose.

**Code mode.** A line that opens a section ends the program text, and the same line is read again
in TeX mode. Every other line is left to the program.

**Cancellation.** The signal is polled before each reading of a line, so a line that ends the
program text costs two polls. The first active poll ends the scan with what it has so far.
-/

namespace CwebHighlight

/-! ## Lines -/

/-- What the scan takes a line for: documentation or program text. -/
inductive Mode where
  | tex
  | code
  deriving DecidableEq, Repr

def isComment (line : List Char) : Bool := ['%'].isPrefixOf line

def opensTitledSection (line : List Char) : Bool := ['@', '*'].isPrefixOf line

def opensPlainSection (line : List Char) : Bool := ['@', ' '].isPrefixOf line

def opensSection (line : List Char) : Bool := opensTitledSection line || opensPlainSection line

def entersCode (line : List Char) : Bool :=
  ['@', 'c'].isPrefixOf line || ['@', '<'].isPrefixOf line || ['@', '('].isPrefixOf line

/-- The part of a section line that belongs to its title. -/
def titlePart (line : List Char) : List Char := line.takeWhile (· ≠ '.')

/-! ## Events and reports -/

inductive ScanEvent where
  | token (token : Token)
  | enteringCode (line : Nat)
  | leavingCode (line : Nat)
  | cancelled (line tokens : Nat)
  deriving DecidableEq, Repr

def ScanEvent.logEntry : ScanEvent → LogEntry
  | .token t => ⟨.trace, "token", [("token", t.logText)]⟩
  | .enteringCode i => ⟨.debug, "entering code mode", [("line", toString i)]⟩
  | .leavingCode i => ⟨.debug, "leaving code mode", [("line", toString i)]⟩
  | .cancelled i n =>
    ⟨.debug, "classification cancelled", [("line", toString i), ("tokens", toString n)]⟩

/-- What reading one line gives. -/
structure Reading where
  tokens : List Token
  events : List ScanEvent
  next : Mode
  deriving DecidableEq, Repr

/-- What a scan gives: its tokens, the number of polls, and its events in order. -/
structure Report where
  tokens : List Token
  polls : Nat
  events : List ScanEvent
  deriving DecidableEq, Repr

namespace Reading

/-- A line without a token. -/
def prose : Reading := ⟨[], [], .tex⟩

/-- A line with one token of the given length. -/
def ofSpan (i length : Nat) (kind : TokenKind) (next : Mode) : Reading :=
  let token : Token := ⟨UInt32.ofNat i, 0, UInt32.ofNat length, kind, []⟩
  ⟨[token], .token token :: (if next = .code then [.enteringCode i] else []), next⟩

/-- The reading of line `i` in TeX mode. -/
def ofTexLine (i : Nat) (line : List Char) : Reading :=
  if isComment line then ofSpan i (units16 line) .comment .tex
  else if opensTitledSection line then ofSpan i (units16 (titlePart line)) .keyword .tex
  else if opensPlainSection line then ofSpan i 1 .keyword .tex
  else if entersCode line then ofSpan i (units16 line) .keyword .code
  else prose

/-- The reading of line `i`, when it ends the program text. -/
def ofSectionLine (i : Nat) (line : List Char) : Reading :=
  let r := ofTexLine i line
  { r with events := .leavingCode i :: r.events }

/-- What a reading and the rest of the scan give together. -/
def andThen (r : Reading) (rest : Report) : Report :=
  ⟨r.tokens ++ rest.tokens, rest.polls, r.events ++ rest.events⟩

end Reading

/-- The end of a scan at line `i` by its signal. -/
def Report.cancelledAt (polls i n : Nat) : Report := ⟨[], polls, [.cancelled i n]⟩

/-! ## The scan -/

/-- The scan of the lines from line `i` on, after `p` polls and `n` tokens. -/
def scanFrom (signal : Signal) (mode : Mode) (p i n : Nat) : List (List Char) → Report
  | [] => ⟨[], p, []⟩
  | line :: rest =>
    if signal p then .cancelledAt (p + 1) i n
    else match mode with
      | .tex =>
        let r := Reading.ofTexLine i line
        r.andThen (scanFrom signal r.next (p + 1) (i + 1) (n + r.tokens.length) rest)
      | .code =>
        if opensSection line then
          if signal (p + 1) then
            (Reading.mk [] [.leavingCode i] .tex).andThen (.cancelledAt (p + 2) i n)
          else
            let r := Reading.ofSectionLine i line
            r.andThen (scanFrom signal r.next (p + 2) (i + 1) (n + r.tokens.length) rest)
        else scanFrom signal .code (p + 1) (i + 1) n rest

/-- The scan of a document under a signal. -/
def scan (text : List Char) (signal : Signal) : Report :=
  scanFrom signal .tex 0 0 0 (splitLines text)

def classify (text : List Char) (signal : Signal) : List Token := (scan text signal).tokens

/-- The tokens of a whole document. -/
def classifyAll (text : List Char) : List Token := classify text .never

/-- Polls and token counts of the scans under the signals that are active from poll 0, 1, 2, …
on, up to the first scan that ends before its signal is active. -/
def cancelSweep (text : List Char) : List (Nat × Nat) :=
  let total := (scan text .never).polls
  (List.range (total + 1)).map fun n =>
    let r := scan text (.after n)
    (r.polls, r.tokens.length)

end CwebHighlight
