import CwebHighlight.Domain.MappedCharacters
import CwebHighlight.Domain.MappedWords
import CwebHighlight.Domain.Normal
import CwebHighlight.Domain.Repertoire
import CwebHighlight.Text.Lowercase

/-!
# How names are read

Before names are compared, each character is put in the form in which it counts: some are left
out, some stand for a word, some for another character, and all other letters are put in lower
case. The result is composed.
-/

namespace CwebHighlight.Domain

def mapCharacter (c : Char) : List Char :=
  if isIgnored c then []
  else match mappedWords.findSome? (·.word? c) with
    | some word => word
    | none =>
      match mappedCharacters.findSome? (·.character? c) with
      | some d => [d]
      | none => lowerChar c

/-- The form of a text in which it counts as a name. -/
def mapped (text : List Char) : List Char := composed (text.flatMap mapCharacter)

end CwebHighlight.Domain
