/-!
# Sets of characters by their bounds

A set of characters is given by the code points at which membership changes: a character belongs
to it if an odd number of them is not above it.
-/

namespace CwebHighlight

def isWithin (bounds : List Nat) (c : Char) : Bool :=
  (bounds.takeWhile (· ≤ c.toNat)).length % 2 == 1

end CwebHighlight
