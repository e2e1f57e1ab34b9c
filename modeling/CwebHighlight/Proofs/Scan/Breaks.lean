import CwebHighlight.Scan
import CwebHighlight.Proofs.LineFeeds

/-!
# Line breaks of other systems

Some systems end a line by a line feed, others put a carriage return before it, and a file can have
both kinds. `rebreak` gives each line feed of a text a break of its own.

**The lines stay** (`splitLines_rebreak`). A carriage return that was put in is dropped with its
line feed, and no other one is, as long as no line feed of the text has a carriage return right
before it. Returns elsewhere, also at the end of the text, belong to their lines before and after.

Main result: `scan_rebreak`.
-/

namespace CwebHighlight

/-- The text with break `breaks k` in the place of its line feed number `k`. -/
def rebreak (breaks : Nat → LineBreak) : List Char → List Char
  | [] => []
  | c :: rest =>
    if c = '\n' then (breaks 0).chars ++ rebreak (fun k => breaks (k + 1)) rest
    else c :: rebreak breaks rest

theorem rebreak_feed (breaks : Nat → LineBreak) (rest : List Char) :
    rebreak breaks ('\n' :: rest) = (breaks 0).chars ++ rebreak (fun k => breaks (k + 1)) rest := by
  rw [rebreak, if_pos rfl]

theorem rebreak_cons {c : Char} (hc : c ≠ '\n') (breaks : Nat → LineBreak) (rest : List Char) :
    rebreak breaks (c :: rest) = c :: rebreak breaks rest := by
  rw [rebreak, if_neg hc]

/-- A text that does not begin with a line feed begins with the same character after rebreaking. -/
theorem head?_rebreak_ne {text : List Char} (h : text.head? ≠ some '\n')
    (breaks : Nat → LineBreak) : (rebreak breaks text).head? ≠ some '\n' := by
  cases text with
  | nil => simp [rebreak]
  | cons c rest =>
    have hc : c ≠ '\n' := by simpa using h
    rw [rebreak_cons hc]
    exact h

/-- A break at the front of a text ends an empty line, whichever break it is. -/
theorem splitLines_break (b : LineBreak) (rest : List Char) :
    splitLines (b.chars ++ rest) = [] :: splitLines rest := by
  cases b <;> rfl

/-- **The breaks do not change the lines.** -/
theorem splitLines_rebreak {text : List Char} (h : ¬ ['\r', '\n'] <:+: text)
    (breaks : Nat → LineBreak) : splitLines (rebreak breaks text) = splitLines text := by
  fun_induction splitLines text generalizing breaks with
  | case1 => rfl
  | case2 rest ih =>
    have hrest : ¬ ['\r', '\n'] <:+: rest := fun hin => h (List.infix_cons hin)
    rw [rebreak_feed, splitLines_break, ih hrest]
  | case3 rest ih => exact absurd ⟨[], rest, rfl⟩ h
  | case4 c rest hc hr ih =>
    have hrest : ¬ ['\r', '\n'] <:+: rest := fun hin => h (List.infix_cons hin)
    have hhead : c = '\r' → rest.head? ≠ some '\n' := by
      rintro rfl hhead
      obtain ⟨r, rfl⟩ := List.head?_eq_some_iff.1 hhead
      exact h ⟨[], r, rfl⟩
    rw [rebreak_cons hc, splitLines_cons hc fun hret => head?_rebreak_ne (hhead hret) breaks,
      ih hrest]

/-- **The kind of line breaks does not matter.** If no line feed of a text has a carriage return
right before it, then any of them can get one: the scan gives the same tokens, polls as often and
logs the same events, under every signal. -/
theorem scan_rebreak {text : List Char} (h : ¬ ['\r', '\n'] <:+: text)
    (breaks : Nat → LineBreak) (signal : Signal) :
    classify (rebreak breaks text) signal = classify text signal ∧
      (scan (rebreak breaks text) signal).polls = (scan text signal).polls ∧
      (scan (rebreak breaks text) signal).events = (scan text signal).events := by
  have hscan : scan (rebreak breaks text) signal = scan text signal := by
    rw [scan, scan, splitLines_rebreak h]
  exact ⟨congrArg Report.tokens hscan, congrArg Report.polls hscan, congrArg Report.events hscan⟩

/-- A text with both kinds of breaks, with carriage returns in a comment and at its end. -/
theorem scan_rebreak_mixedBreaks :
    let text := ['%', '\r', 'x', '\n', '@', 'c', '\n', '@', '*', '\r']
    let breaks : Nat → LineBreak := fun k => if k = 1 then .crlf else .lf
    ¬ ['\r', '\n'] <:+: text ∧
      rebreak breaks text = ['%', '\r', 'x', '\n', '@', 'c', '\r', '\n', '@', '*', '\r'] ∧
      classify (rebreak breaks text) (.only 4) =
        [⟨0, 0, 3, .comment, []⟩, ⟨1, 0, 2, .keyword, []⟩, ⟨2, 0, 3, .keyword, []⟩] ∧
      (scan (rebreak breaks text) (.only 4)).polls = 4 := by
  intro text breaks
  have h : ¬ ['\r', '\n'] <:+: text := by decide
  obtain ⟨htokens, hpolls, -⟩ := scan_rebreak h breaks (.only 4)
  exact ⟨h, by decide, htokens.trans (by decide), hpolls.trans (by decide)⟩

/-- A carriage return that is there already becomes a part of its line. -/
example : classifyAll ['%', '\r', '\n'] ≠ classifyAll (rebreak (fun _ => .crlf) ['%', '\r', '\n']) := by
  decide

end CwebHighlight
