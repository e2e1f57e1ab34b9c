import CwebHighlight.Proofs.Scan.Reading

/-!
# Which line gives which token

The scan carries a mode from line to line. Here the tokens are read off the document itself,
without a mode.

**Program text** (`InCode`). A line is program text if some earlier line enters it and no line
between the two opens a section.

**The account** (`account`). A line that opens a section gives its keyword wherever it stands. In
program text nothing else gives a token; elsewhere comments and lines that enter program text do.

Main result: `classifyAll_eq_account`. The step from the mode to the whole prefix of the document
is `afterAll_take_eq_code_iff`.
-/

namespace CwebHighlight

/-! ## Program text -/

/-- The line enters program text. -/
def Enters (line : List Char) : Prop :=
  ['@', 'c'] <+: line ∨ ['@', '<'] <+: line ∨ ['@', '('] <+: line

/-- The line opens a section. -/
def Opens (line : List Char) : Prop := ['@', '*'] <+: line ∨ ['@', ' '] <+: line

instance (line : List Char) : Decidable (Enters line) := inferInstanceAs (Decidable (_ ∨ _ ∨ _))

instance (line : List Char) : Decidable (Opens line) := inferInstanceAs (Decidable (_ ∨ _))

theorem entersCode_iff {line : List Char} : entersCode line = true ↔ Enters line := by
  simp only [entersCode, Enters, Bool.or_eq_true, List.isPrefixOf_iff_prefix, or_assoc]

theorem opensSection_iff {line : List Char} : opensSection line = true ↔ Opens line := by
  simp only [opensSection, opensTitledSection, opensPlainSection, Opens, Bool.or_eq_true,
    List.isPrefixOf_iff_prefix]

theorem Enters.not_opens {line : List Char} (h : Enters line) : ¬ Opens line := by
  obtain ⟨-, ht, hp⟩ := entersCode_disjoint (entersCode_iff.2 h)
  rw [← opensSection_iff, opensSection, ht, hp]
  exact Bool.false_ne_true

/-- Line `i` is program text: an earlier line enters it, and no line in between opens a section. -/
def InCode (lines : List (List Char)) (i : Nat) : Prop :=
  ∃ j < i, (∃ l ∈ lines[j]?, Enters l) ∧ ∀ k < i, j < k → ∀ l ∈ lines[k]?, ¬ Opens l

instance (lines : List (List Char)) (i : Nat) : Decidable (InCode lines i) := by
  unfold InCode; infer_instance

theorem not_inCode_zero (lines : List (List Char)) : ¬ InCode lines 0 := by
  rintro ⟨j, hj, -⟩
  exact absurd hj (Nat.not_lt_zero j)

/-- A line is followed by program text if it enters it, or is in it and does not open a section. -/
theorem inCode_succ_iff {lines : List (List Char)} {i : Nat} :
    InCode lines (i + 1) ↔
      (∃ l ∈ lines[i]?, Enters l) ∨ InCode lines i ∧ ∀ l ∈ lines[i]?, ¬ Opens l := by
  constructor
  · rintro ⟨j, hj, hent, hop⟩
    by_cases hji : j = i
    · exact Or.inl (hji ▸ hent)
    · have hlt : j < i := by omega
      exact Or.inr ⟨⟨j, hlt, hent, fun k hk => hop k (by omega)⟩, hop i (by omega) hlt⟩
  · rintro (hent | ⟨⟨j, hj, hent, hop⟩, hi⟩)
    · exact ⟨i, by omega, hent, fun k hk hik => absurd hik (by omega)⟩
    · refine ⟨j, by omega, hent, fun k hk hjk => ?_⟩
      by_cases hki : k = i
      · exact hki ▸ hi
      · exact hop k (by omega) hjk

theorem after_eq_code_iff {m : Mode} {line : List Char} :
    m.after line = .code ↔ Enters line ∨ m = .code ∧ ¬ Opens line := by
  simp only [Mode.after, opensSection_iff, entersCode_iff]
  by_cases ho : Opens line
  · have he : ¬ Enters line := fun h => h.not_opens ho
    rw [if_pos ho]
    simp [ho, he]
  · rw [if_neg ho]
    by_cases hm : m = .code ∨ Enters line
    · rw [if_pos hm]
      simpa [ho] using hm.symm
    · rw [if_neg hm]
      simp only [ho, not_false_eq_true, and_true, reduceCtorEq, false_iff]
      exact fun h => hm h.symm

/-- **The mode is a function of the document**: line `i` is reached in code mode exactly if it is
program text. -/
theorem afterAll_take_eq_code_iff (lines : List (List Char)) (i : Nat) :
    Mode.tex.afterAll (lines.take i) = .code ↔ InCode lines i := by
  induction i with
  | zero => simp [Mode.afterAll, not_inCode_zero]
  | succ i ih =>
    rw [List.take_add_one, Mode.afterAll_append, inCode_succ_iff, ← ih]
    cases h : lines[i]? with
    | none => simp [Mode.afterAll]
    | some l =>
      rw [Option.toList_some]
      show (Mode.tex.afterAll (lines.take i)).after l = .code ↔ _
      rw [after_eq_code_iff]
      simp

/-! ## The account -/

/-- A token by its numbers. -/
structure Span where
  line : Nat
  start : Nat
  length : Nat
  kind : TokenKind
  modifiers : List Modifier
  deriving DecidableEq, Repr

def Token.span (t : Token) : Span :=
  ⟨t.line.toNat, t.start.toNat, t.length.toNat, t.kind, t.modifiers⟩

/-- The token that keeps the numbers of a span in 32 bits. -/
def Span.token (s : Span) : Token :=
  ⟨UInt32.ofNat s.line, UInt32.ofNat s.start, UInt32.ofNat s.length, s.kind, s.modifiers⟩

theorem Span.span_token {s : Span} (hl : s.line < 2 ^ 32) (hs : s.start < 2 ^ 32)
    (hn : s.length < 2 ^ 32) : s.token.span = s := by
  obtain ⟨line, start, length, kind, modifiers⟩ := s
  rw [token, Token.span, UInt32.toNat_ofNat_of_lt' hl, UInt32.toNat_ofNat_of_lt' hs,
    UInt32.toNat_ofNat_of_lt' hn]

/-- A span at the start of line `i`. -/
def Span.ofLine (i length : Nat) (kind : TokenKind) : Span := ⟨i, 0, length, kind, []⟩

/-- The token that line `i` of a document gives. -/
def account (lines : List (List Char)) (i : Nat) (line : List Char) : Option Span :=
  if ['@', '*'] <+: line then some (.ofLine i (units16 (line.takeWhile (· ≠ '.'))) .keyword)
  else if ['@', ' '] <+: line then some (.ofLine i 1 .keyword)
  else if InCode lines i then none
  else if ['%'] <+: line then some (.ofLine i (units16 line) .comment)
  else if Enters line then some (.ofLine i (units16 line) .keyword)
  else none

/-- A comment begins with `%`, so it opens no section. -/
theorem not_opens_of_comment {line : List Char} (h : ['%'] <+: line) :
    ¬ ['@', '*'] <+: line ∧ ¬ ['@', ' '] <+: line := by
  obtain ⟨rest, rfl⟩ := h
  constructor <;> rintro ⟨rest', h'⟩ <;> simp at h'

/-- **One line**: its reading holds the token of the account, if the mode is the document's. -/
theorem tokens_read_eq_account {lines : List (List Char)} {m : Mode} {i : Nat}
    (hm : m = .code ↔ InCode lines i) (line : List Char) :
    (m.read i line).tokens = ((account lines i line).map Span.token).toList := by
  have hcom : ['%'] <+: line → ¬ ['@', '*'] <+: line ∧ ¬ ['@', ' '] <+: line :=
    not_opens_of_comment
  cases m with
  | tex =>
    have hin : ¬ InCode lines i := fun h => by cases hm.2 h
    simp only [Mode.read, Reading.ofTexLine, account, if_neg hin, isComment, opensTitledSection,
      opensPlainSection, List.isPrefixOf_iff_prefix, entersCode_iff]
    by_cases hc : ['%'] <+: line
    · simp only [hc, hcom hc, if_true, if_false]
      rfl
    · simp only [hc, if_false]
      split
      · rfl
      · split
        · rfl
        · split <;> rfl
  | code =>
    have hin : InCode lines i := hm.1 rfl
    simp only [Mode.read, Reading.ofSectionLine, Reading.ofTexLine, account, if_pos hin, isComment,
      opensSection_iff, Opens, opensTitledSection, opensPlainSection, List.isPrefixOf_iff_prefix]
    by_cases ht : ['@', '*'] <+: line
    · have hc : ¬ ['%'] <+: line := fun h => (hcom h).1 ht
      simp only [ht, hc, true_or, if_true, if_false]
      rfl
    · by_cases hp : ['@', ' '] <+: line
      · have hc : ¬ ['%'] <+: line := fun h => (hcom h).2 hp
        simp only [ht, hp, hc, or_true, if_true, if_false]
        rfl
      · simp [ht, hp]

/-- The tokens of the lines after the first `i`. -/
theorem tokensFrom_eq_account (lines : List (List Char)) (i : Nat) (rest : List (List Char))
    (hrest : lines.drop i = rest) :
    tokensFrom (Mode.tex.afterAll (lines.take i)) i rest =
      ((rest.zipIdx i).filterMap fun (line, j) => account lines j line).map Span.token := by
  induction rest generalizing i with
  | nil => rfl
  | cons line rest ih =>
    have hline : lines[i]? = some line := by
      rw [← Nat.add_zero i, ← List.getElem?_drop, hrest, List.getElem?_cons_zero]
    have hafter : (Mode.tex.afterAll (lines.take i)).after line =
        Mode.tex.afterAll (lines.take (i + 1)) := by
      rw [List.take_add_one, hline, Mode.afterAll_append]
      rfl
    have htail : lines.drop (i + 1) = rest := by
      rw [← List.tail_drop, hrest, List.tail_cons]
    rw [tokensFrom, tokens_read_eq_account (afterAll_take_eq_code_iff lines i), hafter,
      ih (i + 1) htail, List.zipIdx_cons, List.filterMap_cons]
    cases h : account lines i line <;> simp [h]

theorem classifyAll_eq_map_account (text : List Char) :
    classifyAll text = ((splitLines text).zipIdx.filterMap fun (line, i) =>
      account (splitLines text) i line).map Span.token := by
  rw [classifyAll_eq_tokensFrom]
  exact tokensFrom_eq_account (splitLines text) 0 (splitLines text) rfl

/-! ## Bounds -/

theorem units16_takeWhile_le (p : Char → Bool) (line : List Char) :
    units16 (line.takeWhile p) ≤ units16 line := by
  calc units16 (line.takeWhile p)
      ≤ units16 (line.takeWhile p) + units16 (line.dropWhile p) := Nat.le_add_right _ _
    _ = units16 line := by rw [← units16_append, List.takeWhile_append_dropWhile]

/-- A span of the account stands at the start of its line and is no longer than the line, or it
covers the one character that opens the section. -/
theorem bounds_of_account {lines : List (List Char)} {i : Nat} {line : List Char} {s : Span}
    (h : account lines i line = some s) :
    s.line = i ∧ s.start = 0 ∧ (s.length ≤ units16 line ∨ s.length = 1) := by
  unfold account at h
  split at h
  · cases h
    exact ⟨rfl, rfl, Or.inl (units16_takeWhile_le _ line)⟩
  · split at h
    · cases h
      exact ⟨rfl, rfl, Or.inr rfl⟩
    · split at h
      · cases h
      · split at h
        · cases h
          exact ⟨rfl, rfl, Or.inl (Nat.le_refl _)⟩
        · split at h
          · cases h
            exact ⟨rfl, rfl, Or.inl (Nat.le_refl _)⟩
          · cases h

/-- **The tokens of a document, line by line.** Every line gives the token of its account or none,
and the tokens stand in the order of their lines. -/
theorem classifyAll_eq_account (text : List Char) (hlines : (splitLines text).length < 2 ^ 32)
    (hunits : ∀ line ∈ splitLines text, units16 line < 2 ^ 32) :
    (classifyAll text).map Token.span =
        ((splitLines text).zipIdx.filterMap fun (line, i) => account (splitLines text) i line) ∧
      (classifyAll text).Pairwise fun a b => a.line < b.line := by
  refine ⟨?_, ?_⟩
  · rw [classifyAll_eq_map_account, List.map_map]
    refine (List.map_congr_left fun s hs => ?_).trans (List.map_id _)
    obtain ⟨⟨line, i⟩, hi, hs⟩ := List.mem_filterMap.1 hs
    have hlt : i < (splitLines text).length := by
      simpa using List.snd_lt_of_mem_zipIdx hi
    have hline := hunits line (List.fst_mem_of_mem_zipIdx hi)
    obtain ⟨rfl, hstart, hlength⟩ := bounds_of_account hs
    exact Span.span_token (by omega) (by omega) (by omega)
  · rw [classifyAll_eq_tokensFrom]
    exact pairwise_tokensFrom .tex (by omega)

/-- A carriage return before a line feed, a comment sign in program text, a title that ends at a
full stop, and a character of two units. -/
def mixedText : List Char :=
  ['@', 'c', '\r', '\n', '%', '\n', '@', '*', 'a', '.', '\n', '%', '𝄞', '\n', '@', ' ']

theorem classifyAll_eq_account_mixedText :
    (splitLines mixedText).length < 2 ^ 32 ∧
      (∀ line ∈ splitLines mixedText, units16 line < 2 ^ 32) ∧
      (classifyAll mixedText).map Token.span =
        [.ofLine 0 2 .keyword, .ofLine 2 3 .keyword, .ofLine 3 3 .comment, .ofLine 4 1 .keyword] ∧
      (classifyAll mixedText).Pairwise fun a b => a.line < b.line :=
  have h := classifyAll_eq_account mixedText (by decide) (by decide)
  ⟨by decide, by decide, h.1.trans (by decide), h.2⟩

end CwebHighlight
