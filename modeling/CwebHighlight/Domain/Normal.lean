import CwebHighlight.Domain.CombiningClass
import CwebHighlight.Domain.Compositions
import CwebHighlight.Domain.Syllable

/-!
# Composed text

One text can be written with composites, with letters and marks, and with the marks in another
order. The composed form is one for all of them: every composite is taken apart, the marks on a
letter are sorted by class, and letters and marks are put together again from left to right.

A mark goes with the letter before it unless a mark between the two is in its way, which is so if
that one's class is not below its own.
-/

namespace CwebHighlight.Domain

/-! ## Taking apart -/

/-- A character taken apart, at most `depth` marks. -/
def parts (depth : Nat) (c : Char) : List Char :=
  match depth, Syllable.ofChar? c, parts? c with
  | _, some s, _ => s.letters
  | depth + 1, none, some (letter, mark) => parts depth letter ++ [mark]
  | _, none, _ => [c]

/-- The most marks that a composite has. -/
def mostMarks : Nat := 4

/-! ## Sorting -/

/-- Put a mark among the marks after it. -/
def insertMark (c : Char) : List Char → List Char
  | [] => [c]
  | d :: rest =>
    if combiningClass d = 0 || combiningClass c ≤ combiningClass d then c :: d :: rest
    else d :: insertMark c rest

/-- Sort the marks on every letter. -/
def sortMarks (text : List Char) : List Char :=
  text.foldr (fun c rest => if combiningClass c = 0 then c :: rest else insertMark c rest) []

/-! ## Putting together -/

def composite? (a b : Char) : Option Char := Syllable.composite? a b <|> marked? a b

/-- Put a letter together with what follows it; `marks` are the marks on it so far that stand
alone. -/
def composeWith (letter : Char) (marks : List Char) : List Char → List Char
  | [] => letter :: marks
  | c :: rest =>
    let free := marks.getLast?.all (combiningClass · < combiningClass c)
    match if free then composite? letter c else none with
    | some d => composeWith d marks rest
    | none =>
      if combiningClass c = 0 then letter :: marks ++ composeWith c [] rest
      else composeWith letter (marks ++ [c]) rest

def compose : List Char → List Char
  | [] => []
  | c :: rest => if combiningClass c = 0 then composeWith c [] rest else c :: compose rest

/-- The composed form of a text. -/
def composed (text : List Char) : List Char := compose (sortMarks (text.flatMap (parts mostMarks)))

end CwebHighlight.Domain
