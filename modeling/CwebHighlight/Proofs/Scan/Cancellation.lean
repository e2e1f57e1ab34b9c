import CwebHighlight.Proofs.LineFeeds
import CwebHighlight.Proofs.Scan.Account
import Mathlib.Data.ENat.Lattice

/-!
# What a cancelled scan gives

Polls and lines drift apart: a line that ends the program text is polled for twice. So where a
scan stops depends on the modes of all lines before, which `InCode` reads off the document.

**The cut.** `pollsBefore lines c` are the polls that the first `c` lines take together, and
`Signal.patience` is the number of silent answers before the first active one. A scan completes
the largest number of lines whose polls are within the patience of its signal
(`isGreatest_completed`). A line whose second poll is active is not completed.

**The result** (`classify_eq_completed`). The tokens are those of the completed lines: a prefix of
the tokens of the document, and all the tokens of the text cut after those lines.
-/

namespace CwebHighlight

/-! ## Patience -/

/-- The number of silent answers before the first active one, `⊤` if all answers are silent. -/
noncomputable def Signal.patience (s : Signal) : ℕ∞ := ⨅ i ∈ {i | s i = true}, (i : ℕ∞)

theorem Signal.le_patience_iff {s : Signal} {k : Nat} :
    (k : ℕ∞) ≤ s.patience ↔ s.SilentFor 0 k := by
  simp only [patience, le_iInf_iff, Set.mem_ofPred_eq, Nat.cast_le, SilentFor, Nat.zero_add]
  constructor
  · intro h q hq
    by_contra hs
    exact absurd (h q (by simpa using hs)) (by omega)
  · intro h i hi
    by_contra hlt
    rw [h i (by omega)] at hi
    exact Bool.false_ne_true hi

/-! ## Polls -/

/-- Line `i` takes two polls if it is program text and opens a section, else one. The scan is in
code mode at the lines that are program text (`afterAll_take_eq_code_iff`). -/
def lineCost (lines : List (List Char)) (i : Nat) : Nat :=
  if InCode lines i ∧ ∃ l ∈ lines[i]?, Opens l then 2 else 1

/-- The polls that the first `c` lines take together. -/
def pollsBefore (lines : List (List Char)) (c : Nat) : Nat :=
  ((List.range c).map (lineCost lines)).sum

theorem cost_eq_lineCost {lines : List (List Char)} {i : Nat} {line : List Char}
    (h : lines[i]? = some line) :
    (Mode.tex.afterAll (lines.take i)).cost line = lineCost lines i := by
  simp only [Mode.cost, lineCost, afterAll_take_eq_code_iff, opensSection_iff, h,
    Option.mem_some_iff, exists_eq_left']

theorem costs_take_eq_pollsBefore {lines : List (List Char)} {c : Nat} (hc : c ≤ lines.length) :
    Mode.tex.costs (lines.take c) = pollsBefore lines c := by
  induction c with
  | zero => rfl
  | succ c ih =>
    have hline : lines[c]? = some lines[c] := List.getElem?_eq_getElem (by omega)
    rw [List.take_add_one, hline, Mode.costs_append, ih (by omega), Option.toList_some, Mode.costs,
      Mode.costs, cost_eq_lineCost hline, pollsBefore, pollsBefore, List.range_succ]
    simp

/-! ## The cut -/

/-- **How far a scan comes**: it completes `c` lines exactly if all their polls are silent. -/
theorem le_completed_iff {signal : Signal} {m : Mode} {p c : Nat} {lines : List (List Char)}
    (hc : c ≤ lines.length) :
    c ≤ completed signal m p lines ↔ signal.SilentFor p (m.costs (lines.take c)) := by
  induction lines generalizing m p c with
  | nil =>
    obtain rfl : c = 0 := by simpa using hc
    simp [Mode.costs, Signal.silentFor_zero]
  | cons line rest ih =>
    cases c with
    | zero => simp [Mode.costs, Signal.silentFor_zero]
    | succ c =>
      rw [List.take_succ_cons, Mode.costs, Signal.silentFor_add, completed]
      by_cases h : signal.SilentFor p (m.cost line)
      · rw [if_pos h, Nat.add_le_add_iff_right, ih (by simpa using hc)]
        simp [h]
      · rw [if_neg h]
        simp [h]

theorem completed_le_length (signal : Signal) (m : Mode) (p : Nat) (lines : List (List Char)) :
    completed signal m p lines ≤ lines.length := by
  induction lines generalizing m p with
  | nil => exact Nat.le_refl 0
  | cons line rest ih =>
    rw [completed, List.length_cons]
    split
    · exact Nat.succ_le_succ (ih _ _)
    · exact Nat.zero_le _

theorem isGreatest_completed (signal : Signal) (lines : List (List Char)) :
    IsGreatest {c | c ≤ lines.length ∧ (pollsBefore lines c : ℕ∞) ≤ signal.patience}
      (completed signal .tex 0 lines) := by
  have hiff : ∀ c ≤ lines.length,
      (pollsBefore lines c : ℕ∞) ≤ signal.patience ↔ c ≤ completed signal .tex 0 lines := by
    intro c hc
    rw [Signal.le_patience_iff, ← costs_take_eq_pollsBefore hc, le_completed_iff hc]
  have hle := completed_le_length signal .tex 0 lines
  exact ⟨⟨hle, (hiff _ hle).2 le_rfl⟩, fun c hc => (hiff c hc.1).1 hc.2⟩

/-! ## The result -/

/-- The tokens of the first `c` lines are the tokens with lines below `c`. -/
theorem tokensFrom_take_eq_filter (m : Mode) {c : Nat} {lines : List (List Char)}
    (hc : c ≤ lines.length) (hn : lines.length ≤ 2 ^ 32) :
    tokensFrom m 0 (lines.take c) = (tokensFrom m 0 lines).filter (·.line.toNat < c) := by
  have hlen : (lines.take c).length = c := List.length_take_of_le hc
  conv_rhs => rw [← List.take_append_drop c lines, tokensFrom_append, List.filter_append, hlen]
  have hfirst : (tokensFrom m 0 (lines.take c)).filter (·.line.toNat < c) =
      tokensFrom m 0 (lines.take c) := by
    refine List.filter_eq_self.2 fun t ht => ?_
    have := line_of_mem_tokensFrom (by omega) ht
    simp only [decide_eq_true_eq]
    omega
  have hrest : (tokensFrom (m.afterAll (lines.take c)) (0 + c) (lines.drop c)).filter
      (·.line.toNat < c) = [] := by
    refine List.filter_eq_nil_iff.2 fun t ht => ?_
    have := line_of_mem_tokensFrom (by rw [List.length_drop]; omega) ht
    simp only [decide_eq_true_eq]
    omega
  rw [hfirst, hrest, List.append_nil]

theorem tokensFrom_concat_nil (m : Mode) (i : Nat) (lines : List (List Char)) :
    tokensFrom m i (lines ++ [[]]) = tokensFrom m i lines := by
  have hread : ∀ (m' : Mode) (j : Nat), (m'.read j []).tokens = [] := by
    intro m' j
    cases m' <;> rfl
  rw [tokensFrom_append, tokensFrom, hread]
  simp [tokensFrom]

/-- The tokens of the first `c` lines are the tokens of the text that is cut after them. -/
theorem classifyAll_upToFeed {c : Nat} {text : List Char} (hc : c ≤ (splitLines text).length) :
    classifyAll (upToFeed c text) = tokensFrom .tex 0 ((splitLines text).take c) := by
  rw [classifyAll_eq_tokensFrom]
  by_cases h : c < (splitLines text).length
  · rw [splitLines_upToFeed h, tokensFrom_concat_nil]
  · rw [upToFeed_of_length_le (by omega), List.take_of_length_le (by omega)]

/-- **Cancellation returns exactly the completed lines.** -/
theorem classify_eq_completed (text : List Char) (signal : Signal)
    (hlines : (splitLines text).length < 2 ^ 32) :
    ∃ c, IsGreatest {c | c ≤ (splitLines text).length ∧
          (pollsBefore (splitLines text) c : ℕ∞) ≤ signal.patience} c ∧
      classify text signal = (classifyAll text).filter (·.line.toNat < c) ∧
      classify text signal <+: classifyAll text ∧
      classify text signal = classifyAll (upToFeed c text) := by
  have hle := completed_le_length signal .tex 0 (splitLines text)
  refine ⟨completed signal .tex 0 (splitLines text), isGreatest_completed signal _, ?_, ?_, ?_⟩
  · rw [classify_eq_tokensFrom, tokensFrom_take_eq_filter .tex hle (by omega),
      ← classifyAll_eq_tokensFrom]
  · rw [classify_eq_tokensFrom, classifyAll_eq_tokensFrom]
    conv_rhs => rw [← List.take_append_drop (completed signal .tex 0 (splitLines text))
      (splitLines text), tokensFrom_append]
    exact List.prefix_append _ _
  · rw [classify_eq_tokensFrom, classifyAll_upToFeed hle]

/-- A section line after program text: its first poll is silent and its second one is active. -/
theorem classify_eq_completed_secondPoll :
    (splitLines ['@', 'c', '\n', '@', ' ', 'x']).length < 2 ^ 32 ∧
      ∃ c, classify ['@', 'c', '\n', '@', ' ', 'x'] (.only 2) =
          (classifyAll ['@', 'c', '\n', '@', ' ', 'x']).filter (·.line.toNat < c) ∧
        classify ['@', 'c', '\n', '@', ' ', 'x'] (.only 2) =
          classifyAll (upToFeed c ['@', 'c', '\n', '@', ' ', 'x']) ∧
        classify ['@', 'c', '\n', '@', ' ', 'x'] (.only 2) = [⟨0, 0, 2, .keyword, []⟩] := by
  have hlines : (splitLines ['@', 'c', '\n', '@', ' ', 'x']).length < 2 ^ 32 := by decide
  obtain ⟨c, -, hfilter, -, hcut⟩ :=
    classify_eq_completed ['@', 'c', '\n', '@', ' ', 'x'] (.only 2) hlines
  exact ⟨hlines, c, hfilter, hcut, by decide⟩

end CwebHighlight
