/-!
# Readers

A reader takes a value off the front of a text and leaves the rest, or fails. Grammars are
written with readers; failure carries no message, because no answer of this library shows where
a text is malformed.

**Choice.** `p <|> q` reads with `q` what `p` refuses, from the same place. Grammars here mostly
look at the first character and commit, with `peek`.

**Repetition.** `repeatWhile` reads as long as the rest looks like another item; an item that
begins and then fails is a failure of the whole. Every item takes at least one character, so the
text itself bounds their number, and items that take none are refused in the end.
-/

namespace CwebHighlight

/-- Takes a value off the front of a text. -/
abbrev Reader (α : Type) := StateT (List Char) Option α

namespace Reader

/-- The next character, which is left in place. -/
def peek : Reader (Option Char) := fun cs => some (cs.head?, cs)

/-- The whole rest, which is left in place. -/
def rest : Reader (List Char) := fun cs => some (cs, cs)

/-- A character that passes a test. -/
def satisfy (test : Char → Bool) : Reader Char
  | c :: cs => if test c then some (c, cs) else none
  | [] => none

def char (c : Char) : Reader Unit
  | d :: cs => if d = c then some ((), cs) else none
  | [] => none

/-- A fixed word. -/
def word (w : List Char) : Reader Unit := fun cs =>
  if w.isPrefixOf cs then some ((), cs.drop w.length) else none

/-- The longest run of characters that pass a test. -/
def span (test : Char → Bool) : Reader (List Char) := fun cs =>
  some (cs.takeWhile test, cs.dropWhile test)

/-- A run of at least one character that passes a test. -/
def span1 (test : Char → Bool) : Reader (List Char) := do
  let run ← span test
  guard !run.isEmpty
  return run

/-- The end of the text. -/
def done : Reader Unit
  | [] => some ((), [])
  | _ :: _ => none

/-- Read with `p` as long as the rest passes a test, at most once for every character of `bound`. -/
def repeatBounded (test : List Char → Bool) (p : Reader α) :
    (bound cs : List Char) → Option (List α × List Char)
  | [], cs => if test cs then none else some ([], cs)
  | _ :: bound, cs =>
    if test cs then
      match p cs with
      | none => none
      | some (a, cs') =>
        (repeatBounded test p bound cs').map fun (as, cs'') => (a :: as, cs'')
    else some ([], cs)

/-- Read with `p` as long as the rest passes a test. -/
def repeatWhile (test : List Char → Bool) (p : Reader α) : Reader (List α) := fun cs =>
  repeatBounded test p cs cs

/-- Read a whole text. -/
def run? (p : Reader α) (text : List Char) : Option α := do
  let (a, []) ← p text | none
  return a

end Reader

/-- Whether a text begins with a character that passes a test. -/
def startsWith (test : Char → Bool) : List Char → Bool
  | c :: _ => test c
  | [] => false

end CwebHighlight
