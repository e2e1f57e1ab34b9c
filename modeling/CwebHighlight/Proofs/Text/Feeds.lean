import CwebHighlight.Proofs.Text.Utf8
import Mathlib.Algebra.Group.Nat.Defs

/-!
# Line feeds survive decoding

A line feed is one byte, which is no tail of any character. So it ends whatever is under way when
it comes, and the decoder is between characters after it (`utf8Step_feed`). And no other bytes are
read as a line feed: a character of more than one byte is beyond the characters of one byte,
since overlong encodings are ruled out by the bounds of the first tail.

`Utf8Pending.Beyond` is what the decoder keeps while it is in the middle of a character. It holds
after every lead byte, and every tail keeps it (`beyond_of_mem_utf8Step`).

So ill-formed bytes stay inside their line: bytes with a line feed between them are decoded on their
own (`decodeLossy_append_feed`), and the text has the line feeds of the bytes
(`count_feed_decodeLossy`).
-/

namespace CwebHighlight

/-! ## The character under way -/

namespace Utf8Pending

/-- The least code point that the character under way can have. -/
def least (p : Utf8Pending) : Nat :=
  (p.value * 64 + (p.low.toNat - 0x80)) * 64 ^ (p.missing - 1)

/-- The next byte must be a tail, and the character is none of a single byte. -/
structure Beyond (p : Utf8Pending) : Prop where
  lowTail : 0x80 ≤ p.low.toNat
  leastBeyond : 0x80 ≤ p.least

/-- A tail that is not the last one makes the least code point no smaller. -/
theorem Beyond.next {p : Utf8Pending} {b : UInt8} (h : p.Beyond) (hb : p.low.toNat ≤ b.toNat)
    (hmissing : 1 < p.missing) :
    Beyond ⟨p.missing - 1, 0x80, 0xBF, p.value * 64 + (b.toNat - 0x80)⟩ := by
  have hpow : 64 * 64 ^ (p.missing - 1 - 1) = 64 ^ (p.missing - 1) := by
    rw [← Nat.pow_succ']
    congr 1
    omega
  have hlow : (0x80 : UInt8).toNat - 0x80 = 0 := rfl
  have htail : p.value * 64 + (p.low.toNat - 0x80) ≤ p.value * 64 + (b.toNat - 0x80) := by omega
  refine ⟨Nat.le_refl 0x80, Nat.le_trans h.leastBeyond ?_⟩
  rw [least, least, hlow, Nat.add_zero, Nat.mul_assoc, hpow]
  exact Nat.mul_le_mul_right _ htail

theorem beyond_of_mem_none : ∀ p ∈ (none : Option Utf8Pending), p.Beyond :=
  fun _ hp => absurd hp (Option.not_mem_none _)

end Utf8Pending

theorem ofNat_eq_feed_iff {n : Nat} : Char.ofNat n = '\n' ↔ n = 0x0A := by
  constructor
  · intro h
    by_cases hvalid : n.isValidChar
    · have hn := toNat_val_ofNat hvalid
      rw [h] at hn
      exact hn.symm
    · rw [Char.ofNat, dif_neg hvalid] at h
      exact absurd h (by decide)
  · rintro rfl
    rfl

namespace Utf8Lead

theorem beyond_of_ofByte {b : UInt8} {p : Utf8Pending} (h : ofByte b = .pending p) :
    p.Beyond := by
  have hlead : ofByte b ≠ .illFormed := by
    rw [h]
    exact nofun
  rcases ofByte_cases b hlead with hone | ⟨n, hn, htwo, rfl⟩ | ⟨n, hn, rfl⟩ | ⟨n, hn, rfl⟩
  · rw [← UInt8.ofNat_toNat (x := b), ofByte_of_one hone] at h
    cases h
  · rw [ofByte_of_two n hn htwo] at h
    cases h
    refine ⟨Nat.le_refl 0x80, ?_⟩
    simp [Utf8Pending.least]
    omega
  · rw [ofByte_of_three n hn] at h
    cases h
    refine ⟨by dsimp only; split <;> decide, ?_⟩
    simp only [Utf8Pending.least]
    split <;> simp <;> omega
  · rw [ofByte_of_four n hn] at h
    cases h
    refine ⟨by dsimp only; split <;> decide, ?_⟩
    simp only [Utf8Pending.least]
    split <;> simp <;> omega

/-- Between characters, a line feed comes from its own byte. -/
theorem count_result_ofByte (b : UInt8) :
    (ofByte b).result.1.count (some '\n') = [b].count 0x0A := by
  have hbytes : ∀ n < 256, (ofByte (UInt8.ofNat n)).result.1.count (some '\n') =
      [UInt8.ofNat n].count 0x0A := by
    decide +kernel
  have hb := hbytes b.toNat b.toNat_lt
  rwa [UInt8.ofNat_toNat] at hb

end Utf8Lead

/-! ## One byte -/

variable {state : Option Utf8Pending}

/-- **What a byte keeps**: a character that is under way after it is beyond those of one byte. -/
theorem beyond_of_mem_utf8Step (hstate : ∀ p ∈ state, p.Beyond) (b : UInt8) :
    ∀ p ∈ (utf8Step state b).2, p.Beyond := by
  have hlead : ∀ p ∈ (Utf8Lead.ofByte b).result.2, p.Beyond := by
    intro p hp
    cases hb : Utf8Lead.ofByte b with
    | pending q =>
      rw [hb] at hp
      cases hp
      exact Utf8Lead.beyond_of_ofByte hb
    | char c | illFormed =>
      rw [hb] at hp
      cases hp
  cases state with
  | none => exact hlead
  | some p =>
    by_cases hbounds : p.low ≤ b ∧ b ≤ p.high
    · have hb : p.low.toNat ≤ b.toNat := UInt8.le_iff_toNat_le.1 hbounds.1
      intro q hq
      by_cases hlast : p.missing ≤ 1
      · simp [utf8Step, hbounds, hlast] at hq
      · simp only [utf8Step, hbounds, hlast] at hq
        cases hq
        exact (hstate p rfl).next hb (by omega)
    · simp only [utf8Step, hbounds]
      exact hlead

/-- A line feed comes from its own byte. -/
theorem count_utf8Step (hstate : ∀ p ∈ state, p.Beyond) (b : UInt8) :
    (utf8Step state b).1.count (some '\n') = [b].count 0x0A := by
  cases state with
  | none => exact Utf8Lead.count_result_ofByte b
  | some p =>
    obtain ⟨hlow, hleast⟩ := hstate p rfl
    by_cases hbounds : p.low ≤ b ∧ b ≤ p.high
    · have hb : p.low.toNat ≤ b.toNat := UInt8.le_iff_toNat_le.1 hbounds.1
      have hne : b ≠ 0x0A := by
        rintro rfl
        exact absurd (Nat.le_trans hlow hb) (by decide)
      rw [List.count_singleton, if_neg (by simpa using hne)]
      by_cases hlast : p.missing ≤ 1
      · have hvalue : 0x80 ≤ p.value * 64 + (b.toNat - 0x80) := by
          have hmissing : p.missing - 1 = 0 := by omega
          rw [Utf8Pending.least, hmissing] at hleast
          omega
        have hchar : Char.ofNat (p.value * 64 + (b.toNat - 0x80)) ≠ '\n' := by
          rw [Ne, ofNat_eq_feed_iff]
          omega
        simp [utf8Step, hbounds, hlast, hchar]
      · simp [utf8Step, hbounds, hlast]
    · have hlead := Utf8Lead.count_result_ofByte b
      simpa [utf8Step, hbounds] using hlead

/-- **A line feed ends what is under way**, and is read as itself. -/
theorem utf8Step_feed (hstate : ∀ p ∈ state, p.Beyond) :
    utf8Step state 0x0A = (utf8Parts state [] ++ [some '\n'], none) := by
  cases state with
  | none => rfl
  | some p =>
    have hbounds : ¬ (p.low ≤ 0x0A ∧ 0x0A ≤ p.high) := by
      rintro ⟨hlow, -⟩
      exact absurd (Nat.le_trans (hstate p rfl).lowTail (UInt8.le_iff_toNat_le.1 hlow)) (by decide)
    simp only [utf8Step, hbounds]
    rfl

/-! ## All bytes -/

/-- Bytes before a line feed and after it are read on their own. -/
theorem utf8Parts_append_feed (hstate : ∀ p ∈ state, p.Beyond) (a b : List UInt8) :
    utf8Parts state (a ++ 0x0A :: b) = utf8Parts state a ++ some '\n' :: utf8Parts none b := by
  induction a generalizing state with
  | nil =>
    rw [List.nil_append, utf8Parts.eq_2, utf8Step_feed hstate]
    simp
  | cons x a ih =>
    rw [List.cons_append, utf8Parts, utf8Parts]
    dsimp only
    rw [ih (beyond_of_mem_utf8Step hstate x), List.append_assoc]

theorem count_utf8Parts (hstate : ∀ p ∈ state, p.Beyond) (bytes : List UInt8) :
    (utf8Parts state bytes).count (some '\n') = bytes.count 0x0A := by
  induction bytes generalizing state with
  | nil => cases state <;> rfl
  | cons b bytes ih =>
    rw [utf8Parts]
    dsimp only
    rw [List.count_append, count_utf8Step hstate, ih (beyond_of_mem_utf8Step hstate b),
      ← List.count_append, List.singleton_append]

/-- **Ill-formed bytes stay inside their line.** What stands before a line feed and what stands
after it are decoded on their own. -/
theorem decodeLossy_append_feed (a b : List UInt8) :
    decodeLossy (a ++ 0x0A :: b) = decodeLossy a ++ '\n' :: decodeLossy b := by
  rw [decodeLossy, utf8Parts_append_feed Utf8Pending.beyond_of_mem_none, List.map_append,
    List.map_cons]
  rfl

/-- **No line feed is lost and none is made up.** -/
theorem count_feed_decodeLossy (bytes : List UInt8) :
    (decodeLossy bytes).count '\n' = bytes.count 0x0A := by
  have hparts : ∀ parts : List (Option Char),
      (parts.map (·.getD '\uFFFD')).count '\n' = parts.count (some '\n') := by
    intro parts
    induction parts with
    | nil => rfl
    | cons part parts ih =>
      rw [List.map_cons, List.count_cons, List.count_cons, ih]
      cases part with
      | none => rfl
      | some c => simp
  rw [decodeLossy, hparts, count_utf8Parts Utf8Pending.beyond_of_mem_none]

end CwebHighlight
