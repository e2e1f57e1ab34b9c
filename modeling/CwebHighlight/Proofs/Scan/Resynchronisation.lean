import CwebHighlight.Proofs.Scan.Cancellation

/-!
# Sections start afresh

A line that opens a section is read alike in both modes, and the next line is read in TeX mode
whatever came before (`tokensFrom_of_opens`). In code mode the line takes one more step, which
gives no token. So from such a line on, the scan of a document is the scan of the text that begins
there; only the lines have other numbers (`tokensFrom_add`).

Main result: `classifyAll_append_section`. A change ahead of a section moves the tokens of the
section and touches nothing else in them.
-/

namespace CwebHighlight

/-- The token on a line that is `k` lines further down. -/
def Token.down (k : Nat) (t : Token) : Token := { t with line := t.line + UInt32.ofNat k }

theorem Token.toNat_line_down {k : Nat} {t : Token} (h : t.line.toNat + k < 2 ^ 32) :
    (t.down k).line.toNat = t.line.toNat + k := by
  have hlt : k < 2 ^ 32 := by omega
  have hk : (UInt32.ofNat k).toNat = k := UInt32.toNat_ofNat_of_lt' hlt
  rw [down, UInt32.toNat_add, hk, Nat.mod_eq_of_lt h]

/-! ## Lines further down -/

theorem tokens_read_add (m : Mode) (i k : Nat) (line : List Char) :
    (m.read (i + k) line).tokens = (m.read i line).tokens.map (·.down k) := by
  have htex : (Reading.ofTexLine (i + k) line).tokens =
      (Reading.ofTexLine i line).tokens.map (·.down k) := by
    unfold Reading.ofTexLine
    repeat' split
    all_goals simp [Reading.ofSpan, Reading.prose, Token.down, UInt32.ofNat_add]
  cases m with
  | tex => exact htex
  | code =>
    by_cases hs : opensSection line = true
    · rw [Mode.read, Mode.read, if_pos hs, if_pos hs]
      exact htex
    · rw [Mode.read, Mode.read, if_neg hs, if_neg hs, List.map_nil]

/-- Lines that stand `k` lines further down give the same tokens, `k` lines further down. -/
theorem tokensFrom_add (m : Mode) (i k : Nat) (lines : List (List Char)) :
    tokensFrom m (i + k) lines = (tokensFrom m i lines).map (·.down k) := by
  induction lines generalizing m i with
  | nil => rfl
  | cons line rest ih =>
    rw [tokensFrom, tokensFrom, List.map_append, tokens_read_add, ← ih,
      show i + k + 1 = i + 1 + k by omega]

/-! ## Sections -/

/-- **A section is read alike in both modes**, and so is everything after it. -/
theorem tokensFrom_of_opens (m : Mode) (i : Nat) {line : List Char} (h : Opens line)
    (rest : List (List Char)) :
    tokensFrom m i (line :: rest) = tokensFrom .tex i (line :: rest) := by
  have hs : opensSection line = true := opensSection_iff.2 h
  have hread : (m.read i line).tokens = (Mode.tex.read i line).tokens := by
    cases m with
    | tex => rfl
    | code =>
      simp only [Mode.read, if_pos hs]
      rfl
  rw [tokensFrom, tokensFrom, hread, tex_of_opensSection hs, tex_of_opensSection hs]

/-- The first line of a text that begins with a section opens it. -/
theorem splitLines_of_opens {r : List Char} (h : Opens r) :
    ∃ line rest, splitLines r = line :: rest ∧ Opens line := by
  have hfirst : ∀ (c : Char) (s : List Char), c ≠ '\n' → c ≠ '\r' →
      ∃ line rest, splitLines ('@' :: c :: s) = line :: rest ∧ ['@', c] <+: line := by
    intro c s hfeed hreturn
    obtain ⟨line, rest, hs⟩ := List.exists_cons_of_ne_nil (splitLines_ne_nil s)
    refine ⟨'@' :: c :: line, rest, ?_, ⟨line, rfl⟩⟩
    rw [splitLines_cons (by decide) (by simp), splitLines_cons hfeed (by simp [hreturn]), hs]
    rfl
  rcases h with ⟨s, rfl⟩ | ⟨s, rfl⟩
  · obtain ⟨line, rest, hs, hline⟩ := hfirst '*' s (by decide) (by decide)
    exact ⟨line, rest, hs, Or.inl hline⟩
  · obtain ⟨line, rest, hs, hline⟩ := hfirst ' ' s (by decide) (by decide)
    exact ⟨line, rest, hs, Or.inr hline⟩

/-- **A line feed between two texts.** The tokens of the first text, ended by the line feed, come
first, whatever follows. The lines of the second text are read in the mode that is left. -/
theorem classifyAll_append_feed (p r : List Char) :
    ∃ m, classifyAll (p ++ '\n' :: r) =
      classifyAll (p ++ ['\n']) ++ tokensFrom m (splitLines p).length (splitLines r) := by
  obtain ⟨lines, hlen, hfeed⟩ := exists_lines_of_feed p
  have hbefore : classifyAll (p ++ ['\n']) = tokensFrom .tex 0 lines := by
    rw [classifyAll_eq_tokensFrom, hfeed, splitLines, tokensFrom_concat_nil]
  refine ⟨Mode.tex.afterAll lines, ?_⟩
  rw [classifyAll_eq_tokensFrom, hfeed, tokensFrom_append, hbefore, hlen, Nat.zero_add]

/-- After the line feed, a section starts afresh. -/
theorem classifyAll_append_feed_of_opens (p : List Char) {r : List Char} (h : Opens r) :
    classifyAll (p ++ '\n' :: r) =
      classifyAll (p ++ ['\n']) ++ (classifyAll r).map (·.down (splitLines p).length) := by
  obtain ⟨m, hseam⟩ := classifyAll_append_feed p r
  obtain ⟨line, rest, hr, hopens⟩ := splitLines_of_opens h
  rw [hseam, classifyAll_eq_tokensFrom r, hr, tokensFrom_of_opens m _ hopens, ← tokensFrom_add,
    Nat.zero_add]

/-- **Sections resynchronise the scan.** The tokens of a document with a section at the start of
line `k` are the tokens of the lines ahead, and then those of the text that begins with the section,
`k` lines further down. So the latter depend on the lines ahead only through their number. -/
theorem classifyAll_append_section (p r : List Char) (hsection : Opens r)
    (hlines : (splitLines (p ++ '\n' :: r)).length < 2 ^ 32) :
    let k := (splitLines p).length
    classifyAll (p ++ '\n' :: r) = classifyAll (p ++ ['\n']) ++ (classifyAll r).map (·.down k) ∧
      (∀ t ∈ classifyAll r, (t.down k).line.toNat = t.line.toNat + k) ∧
      (classifyAll (p ++ '\n' :: r)).filter (k ≤ ·.line.toNat) =
        (classifyAll r).map (·.down k) := by
  intro k
  obtain ⟨lines, hlen, hfeed⟩ := exists_lines_of_feed p
  obtain ⟨line, rest, hr, hopens⟩ := splitLines_of_opens hsection
  have htotal : k + (splitLines r).length < 2 ^ 32 := by
    rwa [hfeed, List.length_append, hlen] at hlines
  have hbefore : classifyAll (p ++ ['\n']) = tokensFrom .tex 0 lines := by
    rw [classifyAll_eq_tokensFrom, hfeed, splitLines, tokensFrom_concat_nil]
  have hseam : classifyAll (p ++ '\n' :: r) =
      classifyAll (p ++ ['\n']) ++ (classifyAll r).map (·.down k) := by
    rw [classifyAll_eq_tokensFrom, hfeed, tokensFrom_append, hbefore, hlen, hr,
      tokensFrom_of_opens _ _ hopens, tokensFrom_add, ← hr, classifyAll_eq_tokensFrom r]
  have hdown : ∀ t ∈ classifyAll r, (t.down k).line.toNat = t.line.toNat + k := by
    intro t ht
    rw [classifyAll_eq_tokensFrom] at ht
    have hline := line_of_mem_tokensFrom (by omega) ht
    exact Token.toNat_line_down (by omega)
  refine ⟨hseam, hdown, ?_⟩
  have hnone : (classifyAll (p ++ ['\n'])).filter (k ≤ ·.line.toNat) = [] := by
    refine List.filter_eq_nil_iff.2 fun t ht => ?_
    rw [hbefore] at ht
    have hline := line_of_mem_tokensFrom (by omega) ht
    simp only [decide_eq_true_eq]
    omega
  have hall : ((classifyAll r).map (·.down k)).filter (k ≤ ·.line.toNat) =
      (classifyAll r).map (·.down k) := by
    refine List.filter_eq_self.2 fun t ht => ?_
    obtain ⟨t', ht', rfl⟩ := List.mem_map.1 ht
    have hline := hdown t' ht'
    simp only [decide_eq_true_eq]
    omega
  rw [hseam, List.filter_append, hnone, hall, List.nil_append]

/-- Program text that ends in a carriage return, and a section with a comment after it. -/
theorem classifyAll_append_section_afterCode :
    Opens ['@', ' ', '\r', '\n', '%', 'x'] ∧
      (splitLines (['@', 'c', '\n', '%', '\r'] ++ '\n' :: ['@', ' ', '\r', '\n', '%', 'x'])).length <
        2 ^ 32 ∧
      classifyAll (['@', 'c', '\n', '%', '\r'] ++ '\n' :: ['@', ' ', '\r', '\n', '%', 'x']) =
        [⟨0, 0, 2, .keyword, []⟩] ++ [⟨2, 0, 1, .keyword, []⟩, ⟨3, 0, 2, .comment, []⟩] := by
  have hsection : Opens ['@', ' ', '\r', '\n', '%', 'x'] := by decide
  have hlines : (splitLines (['@', 'c', '\n', '%', '\r'] ++
      '\n' :: ['@', ' ', '\r', '\n', '%', 'x'])).length < 2 ^ 32 := by decide
  exact ⟨hsection, hlines, (classifyAll_append_section _ _ hsection hlines).1.trans (by decide)⟩

end CwebHighlight
