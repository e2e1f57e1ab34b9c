/-!
# Cutting texts

A text is cut at every character of a kind, which is dropped. There is always one more piece than
there are cuts.
-/

namespace CwebHighlight

/-- The pieces of a text between the characters at which it is cut. -/
def cutAt (isCut : Char → Bool) : List Char → List (List Char)
  | [] => [[]]
  | c :: rest =>
    if isCut c then [] :: cutAt isCut rest else (cutAt isCut rest).modifyHead (c :: ·)

theorem cutAt_ne_nil (isCut : Char → Bool) (text : List Char) : cutAt isCut text ≠ [] := by
  fun_induction cutAt isCut text <;> simp_all

end CwebHighlight
