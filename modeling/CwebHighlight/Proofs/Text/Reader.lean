import CwebHighlight.Text.Digits
import CwebHighlight.Text.Reader
import Mathlib.Data.List.TakeDrop

/-!
# Reading what stands in front

What readers do with a text whose front is known. A grammar is followed step by step: each step
takes its part of the text and leaves the rest to the next one (`bind_of_eq`).

**Runs** end where the rest does not go on with them (`span_append`).

**Repetitions** are bounded by the length of the text. Items that take at least one character each
stay within that bound, so nobody has to count them (`Repeats`).

**Numbers.** The decimal digits of a number are read as this number, and they begin with a zero only
if it is alone.
-/

namespace CwebHighlight

/-! ## Digits -/

theorem ne_of_isDigit {c d : Char} (hc : c.isDigit = true) (hd : d.isDigit = false) : c ≠ d := by
  rintro rfl
  exact Bool.noConfusion (hc.symm.trans hd)

theorem isDecimalDigit_eq_isDigit (c : Char) : isDecimalDigit c = c.isDigit := by
  rw [Bool.eq_iff_iff]
  simp [isDecimalDigit, Char.isDigit, Char.le_def]

theorem digitValue?_of_isDigit {c : Char} (h : c.isDigit = true) :
    digitValue? c = some (c.toNat - '0'.toNat) := by
  have hrange : '0' ≤ c ∧ c ≤ '9' := by
    simpa [isDecimalDigit] using (isDecimalDigit_eq_isDigit c).trans h
  rw [digitValue?, if_pos hrange]

theorem foldl_digitValue? {digits : List Char} (h : ∀ c ∈ digits, c.isDigit = true) (start : Nat) :
    digits.foldl (fun n c => n * 10 + (digitValue? c).getD 0) start =
      Nat.ofDigitChars 10 digits start := by
  induction digits generalizing start with
  | nil => rfl
  | cons c digits ih =>
    rw [List.forall_mem_cons] at h
    rw [List.foldl_cons, digitValue?_of_isDigit h.1, Option.getD_some, Nat.mul_comm start, ih h.2]
    rfl

theorem isDigit_of_mem_toDigits {n : Nat} : ∀ c ∈ Nat.toDigits 10 n, c.isDigit = true :=
  fun _ hc => Nat.isDigit_of_mem_toDigits (by decide) (by decide) hc

theorem toDigits_eq_cons (n : Nat) : ∃ c cs, Nat.toDigits 10 n = c :: cs ∧ c.isDigit = true := by
  cases hcs : Nat.toDigits 10 n with
  | nil => exact absurd hcs Nat.toDigits_ne_nil
  | cons c cs => exact ⟨c, cs, rfl, isDigit_of_mem_toDigits c (hcs ▸ List.mem_cons_self)⟩

theorem numberOfDigits_toDigits (n : Nat) : numberOfDigits 10 (Nat.toDigits 10 n) = n := by
  rw [numberOfDigits, foldl_digitValue? isDigit_of_mem_toDigits,
    Nat.ofDigitChars_toDigits (by decide) (by decide)]

theorem head?_toDigits_ne_zero {n : Nat} (hn : n ≠ 0) : (Nat.toDigits 10 n).head? ≠ some '0' := by
  have hdigit : ∀ d < 10, d ≠ 0 → [d.digitChar].head? ≠ some '0' := by decide
  induction n using Nat.strongRecOn with
  | ind n ih =>
    by_cases hlt : n < 10
    · rw [Nat.toDigits_of_lt_base hlt]
      exact hdigit n hlt hn
    · have hhead : (Nat.toDigits 10 n).head? = (Nat.toDigits 10 (n / 10)).head? := by
        rw [Nat.toDigits_of_base_le (by decide) (by omega), List.head?_append,
          List.head?_eq_some_head Nat.toDigits_ne_nil, Option.some_or]
      rw [hhead]
      exact ih (n / 10) (by omega) (by omega)

namespace Reader

variable {α β : Type} {cs rest : List Char}

/-! ## Steps -/

theorem bind_of_eq {p : Reader α} {a : α} (h : p cs = some (a, rest)) (k : α → Reader β) :
    (p >>= k) cs = k a rest := by
  show (p cs).bind (fun r => k r.1 r.2) = k a rest
  rw [h]
  rfl

theorem optional_of_none {p : Reader α} (h : p cs = none) :
    optional p cs = some (none, cs) := by
  show ((p >>= fun a => pure (some a)) cs).orElse (fun _ => some (none, cs)) = some (none, cs)
  have hbind : (p >>= fun a => (pure (some a) : Reader (Option α))) cs = none := by
    show (p cs).bind _ = none
    rw [h]
    rfl
  rw [hbind]
  rfl

theorem run?_of_eq {p : Reader α} {a : α} (h : p cs = some (a, [])) : run? p cs = some a := by
  rw [run?, h]
  rfl

theorem guard_of {q : Prop} [Decidable q] (h : q) : (guard q : Reader Unit) cs = some ((), cs) := by
  rw [guard, if_pos h]
  rfl

theorem satisfy_cons {test : Char → Bool} {c : Char} (h : test c = true) :
    satisfy test (c :: cs) = some (c, cs) :=
  if_pos h

theorem char_cons (c : Char) : char c (c :: cs) = some ((), cs) := if_pos rfl

theorem char_cons_of_ne {c d : Char} (h : d ≠ c) : char c (d :: cs) = none := if_neg h

theorem word_append (w rest : List Char) : word w (w ++ rest) = some ((), rest) := by
  simp [word]

/-! ## Runs -/

theorem span_append {test : Char → Bool} {front : List Char} (hfront : ∀ c ∈ front, test c = true)
    (hrest : startsWith test rest = false) : span test (front ++ rest) = some (front, rest) := by
  have htake : rest.takeWhile test = [] ∧ rest.dropWhile test = rest := by
    cases rest with
    | nil => exact ⟨rfl, rfl⟩
    | cons c rest =>
      have hc : ¬test c = true := by simpa [startsWith] using hrest
      exact ⟨List.takeWhile_cons_of_neg hc, List.dropWhile_cons_of_neg hc⟩
  rw [span, List.takeWhile_append_of_pos hfront, List.dropWhile_append_of_pos hfront, htake.1,
    htake.2, List.append_nil]

theorem span1_append {test : Char → Bool} {front : List Char} (hne : front ≠ [])
    (hfront : ∀ c ∈ front, test c = true) (hrest : startsWith test rest = false) :
    span1 test (front ++ rest) = some (front, rest) := by
  have hempty : (!front.isEmpty) = true := by simpa using hne
  rw [span1, bind_of_eq (span_append hfront hrest), hempty]
  rfl

/-! ## Repetitions -/

/-- Every item after the first one has the separator before it. -/
theorem intercalate_cons (separator text : List Char) (items : List (List Char)) :
    separator.intercalate (text :: items) = text ++ items.flatMap (separator ++ ·) := by
  induction items generalizing text with
  | nil => simp
  | cons x items ih =>
    rw [List.intercalate_cons_cons, ih, List.flatMap_cons]
    simp

/-- From `cs` on, the items `as` are read, each of which the test announces, and then the test
fails at `rest`. -/
inductive Repeats (test : List Char → Bool) (p : Reader α) :
    List Char → List α → List Char → Prop
  | stop {cs : List Char} (htest : test cs = false) : Repeats test p cs [] cs
  | item {cs cs' rest : List Char} {a : α} {as : List α} (htest : test cs = true)
      (hp : p cs = some (a, cs')) (hlength : cs'.length < cs.length)
      (hrest : Repeats test p cs' as rest) :
      Repeats test p cs (a :: as) rest

variable {test : List Char → Bool} {p : Reader α} {as : List α}

theorem Repeats.repeatBounded (h : Repeats test p cs as rest) {bound : List Char}
    (hbound : cs.length ≤ bound.length) : repeatBounded test p bound cs = some (as, rest) := by
  induction h generalizing bound with
  | @stop cs htest =>
    cases bound with
    | nil => simp [Reader.repeatBounded, htest]
    | cons b bound => simp [Reader.repeatBounded, htest]
  | @item cs cs' rest a as htest hp hlength hrest ih =>
    cases bound with
    | nil =>
      have hcs : cs.length = 0 := Nat.le_zero.1 hbound
      omega
    | cons b bound =>
      have hbound : cs'.length ≤ bound.length := by
        rw [List.length_cons] at hbound
        omega
      rw [Reader.repeatBounded, if_pos htest, hp]
      simp only [ih hbound, Option.map_some]

theorem Repeats.repeatWhile (h : Repeats test p cs as rest) :
    repeatWhile test p cs = some (as, rest) :=
  h.repeatBounded (Nat.le_refl _)

end Reader

end CwebHighlight
