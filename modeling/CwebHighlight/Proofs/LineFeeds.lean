import CwebHighlight.Text.Lines

/-!
# Cutting a text at a line feed

A text that is cut right after one of its line feeds has the lines before the cut and an empty last
line (`splitLines_upToFeed`). The cut never falls between a carriage return and its line feed, so
no line before it changes.

The other way round, a line feed between two texts keeps their lines apart
(`exists_lines_of_feed`). It may take a carriage return from the end of the first text, but whether
it does depends on that text alone.
-/

namespace CwebHighlight

/-- A text up to its `c`-th line feed and with it, or the whole text if it has fewer. -/
def upToFeed : Nat → List Char → List Char
  | 0, _ => []
  | _ + 1, [] => []
  | c + 1, x :: rest => x :: upToFeed (if x = '\n' then c else c + 1) rest

theorem splitLines_cons {x : Char} {rest : List Char} (hx : x ≠ '\n')
    (hr : x = '\r' → rest.head? ≠ some '\n') :
    splitLines (x :: rest) = (splitLines rest).modifyHead (x :: ·) := by
  rw [splitLines]
  · exact hx
  · rintro r rfl rfl
    exact hr rfl rfl

theorem upToFeed_cons {x : Char} (hx : x ≠ '\n') (c : Nat) (rest : List Char) :
    upToFeed (c + 1) (x :: rest) = x :: upToFeed (c + 1) rest := by
  rw [upToFeed, if_neg hx]

theorem head?_upToFeed {c : Nat} {text : List Char} {x : Char}
    (h : (upToFeed c text).head? = some x) : text.head? = some x := by
  match c, text with
  | 0, _ => simp [upToFeed] at h
  | _ + 1, [] => simp [upToFeed] at h
  | _ + 1, _ :: _ => exact h

/-- A text with too few line feeds is not cut. -/
theorem upToFeed_of_length_le {c : Nat} {text : List Char} (h : (splitLines text).length ≤ c) :
    upToFeed c text = text := by
  fun_induction splitLines text generalizing c with
  | case1 => cases c <;> rfl
  | case2 rest ih =>
    obtain ⟨c, rfl⟩ : ∃ d, c = d + 1 := ⟨c - 1, by simp at h; omega⟩
    rw [upToFeed, if_pos rfl, ih (by simpa using h)]
  | case3 rest ih =>
    obtain ⟨c, rfl⟩ : ∃ d, c = d + 1 := ⟨c - 1, by simp at h; omega⟩
    rw [upToFeed_cons (by decide), upToFeed, if_pos rfl, ih (by simpa using h)]
  | case4 x rest hx hr ih =>
    rw [List.length_modifyHead] at h
    have hpos := List.length_pos_iff.2 (splitLines_ne_nil rest)
    obtain ⟨c, rfl⟩ : ∃ d, c = d + 1 := ⟨c - 1, by omega⟩
    rw [upToFeed_cons hx, ih h]

/-- **The lines of a cut text** are those before the cut and an empty one. -/
theorem splitLines_upToFeed {c : Nat} {text : List Char} (h : c < (splitLines text).length) :
    splitLines (upToFeed c text) = (splitLines text).take c ++ [[]] := by
  fun_induction splitLines text generalizing c with
  | case1 =>
    obtain rfl : c = 0 := by simpa using h
    rfl
  | case2 rest ih =>
    cases c with
    | zero => rfl
    | succ c =>
      rw [upToFeed, if_pos rfl, splitLines, ih (by simpa using h)]
      rfl
  | case3 rest ih =>
    cases c with
    | zero => rfl
    | succ c =>
      rw [upToFeed_cons (by decide), upToFeed, if_pos rfl, splitLines, ih (by simpa using h)]
      rfl
  | case4 x rest hx hr ih =>
    cases c with
    | zero => rfl
    | succ c =>
      rw [List.length_modifyHead] at h
      -- The cut is behind `x`, so what follows `x` is the same as before.
      have hcut : x = '\r' → (upToFeed (c + 1) rest).head? ≠ some '\n' := by
        intro hret hhead
        obtain ⟨r, hrest⟩ := List.head?_eq_some_iff.1 (head?_upToFeed hhead)
        exact hr r hret hrest
      rw [upToFeed_cons hx, splitLines_cons hx hcut, ih h]
      obtain ⟨l, ls, hls⟩ := List.exists_cons_of_ne_nil (splitLines_ne_nil rest)
      rw [hls]
      rfl

/-- **A line feed between two texts.** The lines of the first text, ended by the line feed, do not
depend on what follows; then come the lines of the second one. -/
theorem exists_lines_of_feed (p : List Char) :
    ∃ lines, lines.length = (splitLines p).length ∧
      ∀ r, splitLines (p ++ '\n' :: r) = lines ++ splitLines r := by
  fun_induction splitLines p with
  | case1 => exact ⟨[[]], rfl, fun r => rfl⟩
  | case2 rest ih =>
    obtain ⟨lines, hlen, hlines⟩ := ih
    refine ⟨[] :: lines, by simp [hlen], fun r => ?_⟩
    rw [List.cons_append, splitLines, hlines, List.cons_append]
  | case3 rest ih =>
    obtain ⟨lines, hlen, hlines⟩ := ih
    refine ⟨[] :: lines, by simp [hlen], fun r => ?_⟩
    rw [List.cons_append, List.cons_append, splitLines, hlines, List.cons_append]
  | case4 x rest hx hr ih =>
    by_cases hseam : x = '\r' ∧ rest = []
    · -- The carriage return at the end of the first text belongs to the line feed.
      obtain ⟨rfl, rfl⟩ := hseam
      exact ⟨[[]], rfl, fun r => rfl⟩
    · obtain ⟨lines, hlen, hlines⟩ := ih
      obtain ⟨l, ls, rfl⟩ : ∃ l ls, lines = l :: ls := by
        refine List.exists_cons_of_ne_nil fun hnil => splitLines_ne_nil rest ?_
        rw [hnil] at hlen
        exact List.length_eq_zero_iff.1 hlen.symm
      refine ⟨(x :: l) :: ls, by simpa using hlen, fun r => ?_⟩
      have hhead : x = '\r' → (rest ++ '\n' :: r).head? ≠ some '\n' := by
        intro hret hhead
        cases rest with
        | nil => exact hseam ⟨hret, rfl⟩
        | cons y rest => exact hr rest hret (by simpa using hhead)
      rw [List.cons_append, splitLines_cons hx hhead, hlines]
      rfl

end CwebHighlight
