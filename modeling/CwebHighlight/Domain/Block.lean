import CwebHighlight.Text.Cut

/-!
# Blocks of a character table

A block says what consecutive characters stand for: one character each, or one word each, with the
words set apart by bars.
-/

namespace CwebHighlight.Domain

structure Block where
  first : Nat
  targets : String

namespace Block

/-- The entry of a character among those of the block. -/
def entry? {α : Type} (b : Block) (entries : List Char → List α) (c : Char) : Option α :=
  if b.first ≤ c.toNat then (entries b.targets.toList)[c.toNat - b.first]? else none

def character? (b : Block) (c : Char) : Option Char := b.entry? id c

def word? (b : Block) (c : Char) : Option (List Char) := b.entry? (cutAt (· = '|')) c

end Block

end CwebHighlight.Domain
