/-!
# Lines of a document

A document is cut at its line feeds. A single carriage return right before a line feed belongs
to the line break and is dropped; the last line has no break, so a carriage return at the end of
the text stays.

**Layouts.** `Layout` is the inverse view: the lines together with the break that ends each but
the last. `Layout.text` puts a layout together, and `Layout.WellFormed` rules out the ambiguous
ones: a line holds no line feed, and a line ended by a bare line feed does not end in a carriage
return.
-/

namespace CwebHighlight

/-- The lines of a text, without their breaks. -/
def splitLines : List Char → List (List Char)
  | [] => [[]]
  | '\n' :: rest => [] :: splitLines rest
  | '\r' :: '\n' :: rest => [] :: splitLines rest
  | c :: rest => (splitLines rest).modifyHead (c :: ·)

theorem splitLines_ne_nil (text : List Char) : splitLines text ≠ [] := by
  fun_induction splitLines text <;> simp_all

/-! ## Layouts -/

/-- How a line that is not the last one ends. -/
inductive LineBreak where
  | lf
  | crlf
  deriving DecidableEq, Repr

def LineBreak.chars : LineBreak → List Char
  | .lf => ['\n']
  | .crlf => ['\r', '\n']

/-- A document as its lines and the breaks between them. -/
structure Layout where
  broken : List (List Char × LineBreak)
  last : List Char
  deriving DecidableEq, Repr

namespace Layout

/-- The text that a layout stands for. -/
def text (d : Layout) : List Char :=
  d.broken.flatMap (fun l => l.1 ++ l.2.chars) ++ d.last

def lines (d : Layout) : List (List Char) := d.broken.map (·.1) ++ [d.last]

/-- No line holds a line feed, and no bare line feed follows a carriage return. -/
structure WellFormed (d : Layout) : Prop where
  noLineFeed : ∀ l ∈ d.lines, '\n' ∉ l
  noBareReturn : ∀ l ∈ d.broken, l.2 = .lf → l.1.getLast? ≠ some '\r'

end Layout

end CwebHighlight
