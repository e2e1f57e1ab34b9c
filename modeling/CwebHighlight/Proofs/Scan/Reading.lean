import CwebHighlight.Scan
import Mathlib.Algebra.Group.Nat.Defs

/-!
# The scan, line by line

A scan runs over the lines and carries a mode. All that is said about it comes from three functions
of a mode and a line:

- `Mode.after`: the mode in which the next line is read;
- `Mode.cost`: how many polls the line takes if none of them is active;
- `Mode.read`: what the line gives.

**One line.** A line whose polls are all silent gives its reading, and the scan goes on in the next
mode (`scanFrom_cons_of_silent`). A line with an active poll gives no token, also if the poll is
the second one of a line that ends the program text (`tokens_scanFrom_cons_of_active`).

**A whole scan.** `completed` counts the lines before the first one with an active poll, and
`tokensFrom` lists the tokens of lines read one after the other. The tokens of a scan are those of
its completed lines (`tokens_scanFrom`).
-/

namespace CwebHighlight

/-! ## Silent polls -/

namespace Signal

/-- The `k` polls from poll `p` on are all silent. -/
def SilentFor (s : Signal) (p k : Nat) : Prop := ∀ q < k, s (p + q) = false

instance (s : Signal) (p k : Nat) : Decidable (s.SilentFor p k) :=
  inferInstanceAs (Decidable (∀ q < k, s (p + q) = false))

theorem silentFor_zero (s : Signal) (p : Nat) : s.SilentFor p 0 := fun _ hq => by omega

theorem silentFor_one {s : Signal} {p : Nat} : s.SilentFor p 1 ↔ s p = false :=
  ⟨fun h => h 0 Nat.one_pos, fun h q hq => by rwa [Nat.lt_one_iff.1 hq]⟩

theorem silentFor_add {s : Signal} {p a b : Nat} :
    s.SilentFor p (a + b) ↔ s.SilentFor p a ∧ s.SilentFor (p + a) b := by
  constructor
  · intro h
    refine ⟨fun q hq => h q (by omega), fun q hq => ?_⟩
    rw [Nat.add_assoc]
    exact h (a + q) (by omega)
  · rintro ⟨ha, hb⟩ q hq
    by_cases hqa : q < a
    · exact ha q hqa
    · have := hb (q - a) (by omega)
      rwa [show p + a + (q - a) = p + q by omega] at this

theorem silentFor_two {s : Signal} {p : Nat} :
    s.SilentFor p 2 ↔ s p = false ∧ s (p + 1) = false := by
  rw [show 2 = 1 + 1 from rfl, silentFor_add, silentFor_one, silentFor_one]

theorem silentFor_never (p k : Nat) : never.SilentFor p k := fun _ _ => rfl

end Signal

/-! ## One line -/

/-- A line that enters the program text begins with `@`, so it is no comment, and its second
character rules out a section. -/
theorem entersCode_disjoint {line : List Char} (h : entersCode line = true) :
    isComment line = false ∧ opensTitledSection line = false ∧
      opensPlainSection line = false := by
  match line with
  | [] => simp [entersCode] at h
  | [_] => simp [entersCode] at h
  | c :: d :: _ =>
    simp only [entersCode, List.isPrefixOf, Bool.and_true, Bool.or_eq_true, Bool.and_eq_true,
      beq_iff_eq] at h
    rcases h with (⟨rfl, rfl⟩ | ⟨rfl, rfl⟩) | ⟨rfl, rfl⟩ <;>
      simp [isComment, opensTitledSection, opensPlainSection, List.isPrefixOf]

namespace Mode

/-- The mode in which the line after `line` is read. -/
def after (m : Mode) (line : List Char) : Mode :=
  if opensSection line then .tex else if m = .code ∨ entersCode line then .code else .tex

/-- A line that ends the program text is polled for twice, any other line once. -/
def cost (m : Mode) (line : List Char) : Nat := if m = .code ∧ opensSection line then 2 else 1

/-- What line `i` gives if no poll interrupts it. -/
def read (m : Mode) (i : Nat) (line : List Char) : Reading :=
  match m with
  | .tex => .ofTexLine i line
  | .code => if opensSection line then .ofSectionLine i line else ⟨[], [], .code⟩

end Mode

theorem next_ofTexLine (i : Nat) (line : List Char) :
    (Reading.ofTexLine i line).next = Mode.tex.after line := by
  cases he : entersCode line with
  | true =>
    obtain ⟨hc, ht, hp⟩ := entersCode_disjoint he
    simp [Reading.ofTexLine, Reading.ofSpan, Mode.after, opensSection, he, hc, ht, hp]
  | false =>
    simp only [Reading.ofTexLine, Reading.ofSpan, Reading.prose, Mode.after, he]
    repeat' split
    all_goals simp_all

theorem tex_of_opensSection {m : Mode} {line : List Char} (h : opensSection line = true) :
    m.after line = .tex := by
  rw [Mode.after, if_pos h]

theorem next_ofSectionLine (i : Nat) {line : List Char} (h : opensSection line = true) :
    (Reading.ofSectionLine i line).next = .tex := by
  rw [← tex_of_opensSection (m := .tex) h, ← next_ofTexLine i]
  rfl

theorem scanFrom_cons_of_silent {signal : Signal} {m : Mode} {p : Nat} {line : List Char}
    (h : signal.SilentFor p (m.cost line)) (i n : Nat) (rest : List (List Char)) :
    scanFrom signal m p i n (line :: rest) =
      (m.read i line).andThen (scanFrom signal (m.after line) (p + m.cost line) (i + 1)
        (n + (m.read i line).tokens.length) rest) := by
  cases m with
  | tex =>
    have hp : signal p = false := by simpa [Mode.cost, Signal.silentFor_one] using h
    simp [scanFrom, hp, Mode.read, Mode.cost, next_ofTexLine]
  | code =>
    by_cases hs : opensSection line = true
    · have hp : signal p = false ∧ signal (p + 1) = false := by
        simpa [Mode.cost, hs, Signal.silentFor_two] using h
      simp [scanFrom, hp, hs, Mode.read, Mode.cost, next_ofSectionLine i hs, tex_of_opensSection]
    · have hp : signal p = false := by simpa [Mode.cost, hs, Signal.silentFor_one] using h
      simp [scanFrom, hp, hs, Mode.read, Mode.cost, Mode.after, Reading.andThen]

theorem tokens_scanFrom_cons_of_active {signal : Signal} {m : Mode} {p : Nat} {line : List Char}
    (h : ¬ signal.SilentFor p (m.cost line)) (i n : Nat) (rest : List (List Char)) :
    (scanFrom signal m p i n (line :: rest)).tokens = [] := by
  by_cases hp : signal p = true
  · simp [scanFrom, hp, Report.cancelledAt]
  · by_cases hcode : m = .code ∧ opensSection line = true
    · -- The first poll is silent, so the active one is the second.
      obtain ⟨rfl, hs⟩ := hcode
      have hp' : signal (p + 1) = true := by
        simpa [Mode.cost, hs, Signal.silentFor_two, hp] using h
      simp [scanFrom, hp, hp', hs, Reading.andThen, Report.cancelledAt]
    · rw [Mode.cost, if_neg hcode, Signal.silentFor_one] at h
      exact absurd (by simpa using h) hp

/-- **At most one token per line**, which stands at the line's start and has no modifiers. -/
theorem tokens_read (m : Mode) (i : Nat) (line : List Char) :
    (m.read i line).tokens = [] ∨
      ∃ length kind,
        (m.read i line).tokens = [⟨UInt32.ofNat i, 0, UInt32.ofNat length, kind, []⟩] := by
  have htex : (Reading.ofTexLine i line).tokens = [] ∨
      ∃ length kind, (Reading.ofTexLine i line).tokens =
        [⟨UInt32.ofNat i, 0, UInt32.ofNat length, kind, []⟩] := by
    unfold Reading.ofTexLine
    repeat' split
    all_goals first | exact Or.inr ⟨_, _, rfl⟩ | exact Or.inl rfl
  cases m with
  | tex => exact htex
  | code =>
    by_cases hs : opensSection line = true
    · rw [Mode.read, if_pos hs]
      exact htex
    · rw [Mode.read, if_neg hs]
      exact Or.inl rfl

/-! ## A whole scan -/

/-- The mode after lines that are read one after the other. -/
def Mode.afterAll (m : Mode) (lines : List (List Char)) : Mode := lines.foldl Mode.after m

/-- The polls that lines take together if none of them is active. -/
def Mode.costs (m : Mode) : List (List Char) → Nat
  | [] => 0
  | line :: rest => m.cost line + (m.after line).costs rest

/-- The tokens of lines that are read one after the other, the first one as line `i`. -/
def tokensFrom (m : Mode) (i : Nat) : List (List Char) → List Token
  | [] => []
  | line :: rest => (m.read i line).tokens ++ tokensFrom (m.after line) (i + 1) rest

/-- How many lines a scan completes whose next poll is poll `p`. -/
def completed (signal : Signal) (m : Mode) (p : Nat) : List (List Char) → Nat
  | [] => 0
  | line :: rest =>
    if signal.SilentFor p (m.cost line) then
      completed signal (m.after line) (p + m.cost line) rest + 1
    else 0

/-- **A scan gives the tokens of its completed lines.** -/
theorem tokens_scanFrom (signal : Signal) (m : Mode) (p i n : Nat) (lines : List (List Char)) :
    (scanFrom signal m p i n lines).tokens =
      tokensFrom m i (lines.take (completed signal m p lines)) := by
  induction lines generalizing m p i n with
  | nil => simp [scanFrom, tokensFrom]
  | cons line rest ih =>
    by_cases h : signal.SilentFor p (m.cost line)
    · rw [scanFrom_cons_of_silent h, completed, if_pos h, List.take_succ_cons, tokensFrom,
        Reading.andThen, ih]
    · rw [tokens_scanFrom_cons_of_active h, completed, if_neg h, List.take_zero, tokensFrom]

theorem completed_never (m : Mode) (p : Nat) (lines : List (List Char)) :
    completed .never m p lines = lines.length := by
  induction lines generalizing m p with
  | nil => rfl
  | cons line rest ih =>
    rw [completed, if_pos (Signal.silentFor_never _ _), ih, List.length_cons]

theorem classify_eq_tokensFrom (text : List Char) (signal : Signal) :
    classify text signal =
      tokensFrom .tex 0 ((splitLines text).take (completed signal .tex 0 (splitLines text))) :=
  tokens_scanFrom signal .tex 0 0 0 (splitLines text)

theorem classifyAll_eq_tokensFrom (text : List Char) :
    classifyAll text = tokensFrom .tex 0 (splitLines text) := by
  rw [classifyAll, classify_eq_tokensFrom, completed_never, List.take_length]

/-! ## Reading in two parts -/

theorem Mode.afterAll_append (m : Mode) (a b : List (List Char)) :
    m.afterAll (a ++ b) = (m.afterAll a).afterAll b :=
  List.foldl_append

theorem Mode.costs_append (m : Mode) (a b : List (List Char)) :
    m.costs (a ++ b) = m.costs a + (m.afterAll a).costs b := by
  induction a generalizing m with
  | nil => simp [costs, afterAll]
  | cons line a ih =>
    rw [List.cons_append, costs, ih, costs, Nat.add_assoc]
    rfl

theorem tokensFrom_append (m : Mode) (i : Nat) (a b : List (List Char)) :
    tokensFrom m i (a ++ b) =
      tokensFrom m i a ++ tokensFrom (m.afterAll a) (i + a.length) b := by
  induction a generalizing m i with
  | nil => simp [tokensFrom, Mode.afterAll]
  | cons line a ih =>
    rw [List.cons_append, tokensFrom, ih, tokensFrom, List.append_assoc, List.length_cons,
      show i + 1 + a.length = i + (a.length + 1) by omega]
    rfl

/-! ## The lines of tokens -/

theorem line_of_mem_read {m : Mode} {i : Nat} {line : List Char} {t : Token} (hi : i < 2 ^ 32)
    (ht : t ∈ (m.read i line).tokens) : t.line.toNat = i := by
  rcases tokens_read m i line with h | ⟨length, kind, h⟩
  · rw [h] at ht
    exact absurd ht List.not_mem_nil
  · rw [h, List.mem_singleton] at ht
    rw [ht]
    exact UInt32.toNat_ofNat_of_lt' hi

theorem line_of_mem_tokensFrom {m : Mode} {i : Nat} {lines : List (List Char)} {t : Token}
    (hi : i + lines.length ≤ 2 ^ 32) (ht : t ∈ tokensFrom m i lines) :
    i ≤ t.line.toNat ∧ t.line.toNat < i + lines.length := by
  induction lines generalizing m i with
  | nil => exact absurd ht List.not_mem_nil
  | cons line rest ih =>
    rw [List.length_cons] at hi ⊢
    rcases List.mem_append.1 ht with ht | ht
    · have := line_of_mem_read (by omega) ht
      omega
    · have := ih (by omega) ht
      omega

/-- **Tokens come in the order of their lines.** -/
theorem pairwise_tokensFrom (m : Mode) {i : Nat} {lines : List (List Char)}
    (hi : i + lines.length ≤ 2 ^ 32) :
    (tokensFrom m i lines).Pairwise fun a b => a.line < b.line := by
  induction lines generalizing m i with
  | nil => exact List.Pairwise.nil
  | cons line rest ih =>
    rw [List.length_cons] at hi
    rw [tokensFrom, List.pairwise_append]
    refine ⟨?_, ih _ (by omega), fun a ha b hb => ?_⟩
    · rcases tokens_read m i line with h | ⟨length, kind, h⟩ <;> rw [h] <;> simp
    · have ha' := line_of_mem_read (by omega) ha
      have hb' := line_of_mem_tokensFrom (by omega) hb
      rw [UInt32.lt_iff_toNat_lt]
      omega

/-- The tokens of a document come in the order of their lines, whatever cuts the scan. -/
theorem pairwise_classify {text : List Char} (hlines : (splitLines text).length ≤ 2 ^ 32)
    (signal : Signal) : (classify text signal).Pairwise fun a b => a.line < b.line := by
  rw [classify_eq_tokensFrom]
  refine pairwise_tokensFrom .tex ?_
  rw [List.length_take]
  omega

/-! ## The modifiers of tokens -/

theorem modifiers_of_mem_tokensFrom {m : Mode} {i : Nat} {lines : List (List Char)} {t : Token}
    (ht : t ∈ tokensFrom m i lines) : t.modifiers = [] := by
  induction lines generalizing m i with
  | nil => exact absurd ht List.not_mem_nil
  | cons line rest ih =>
    rcases List.mem_append.1 ht with ht | ht
    · rcases tokens_read m i line with h | ⟨length, kind, h⟩
      · rw [h] at ht
        exact absurd ht List.not_mem_nil
      · rw [h, List.mem_singleton] at ht
        rw [ht]
    · exact ih ht

theorem modifiers_of_mem_classify {text : List Char} {signal : Signal} {t : Token}
    (ht : t ∈ classify text signal) : t.modifiers = [] := by
  rw [classify_eq_tokensFrom] at ht
  exact modifiers_of_mem_tokensFrom ht

end CwebHighlight
