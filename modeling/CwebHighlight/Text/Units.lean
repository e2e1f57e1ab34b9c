/-!
# Lengths in UTF-16 units

Editors count columns in UTF-16 code units: one for a character of the basic plane, two for a
character above it. Token lengths are such counts, kept in 32 bits.
-/

namespace CwebHighlight

/-- The number of UTF-16 code units of a character. -/
def charUnits (c : Char) : Nat := if c.val ≤ 0xFFFF then 1 else 2

/-- The length of a text in UTF-16 code units. -/
def units16 (text : List Char) : Nat := text.foldr (fun c n => charUnits c + n) 0

@[simp] theorem units16_nil : units16 [] = 0 := rfl

@[simp] theorem units16_cons (c : Char) (text : List Char) :
    units16 (c :: text) = charUnits c + units16 text := rfl

@[simp] theorem units16_append (a b : List Char) :
    units16 (a ++ b) = units16 a + units16 b := by
  induction a with
  | nil => simp
  | cons c a ih => simp only [List.cons_append, units16_cons, ih, Nat.add_assoc]

theorem length_le_units16 (text : List Char) : text.length ≤ units16 text := by
  induction text with
  | nil => simp
  | cons c r ih =>
    have hc : 1 ≤ charUnits c := by unfold charUnits; split <;> omega
    simp only [List.length_cons, units16_cons]
    omega

end CwebHighlight
