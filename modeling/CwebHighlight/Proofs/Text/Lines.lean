import CwebHighlight.Text.Cut
import CwebHighlight.Proofs.LineFeeds
import Mathlib.Data.List.Basic

/-!
# Lines and layouts

Every text has one layout that is well-formed, and the lines of this layout are the lines of the
text.

**Reading a layout** (`Layout.ofText`). A break starts a new first line, and any other character
goes to the front of the first line of what follows it.

**One layout** (`Layout.ofText_text`). A well-formed layout is read back from its text. So two
well-formed layouts of one text are equal: the rule for carriage returns settles where a line ends
and its break begins.

**Pieces** (`splitLines_eq_pieces`). Seen from the line feeds, a line is the piece of the text up to
its line feed, less one carriage return at the end of this piece. The last piece is a line as it
stands.

Main result: `splitLines_inverse`.
-/

namespace CwebHighlight

namespace Layout

variable {l : List Char} {b : LineBreak} {c : Char} {d : Layout}

/-! ## Layouts from the front -/

/-- A layout with one more line in front. -/
def push (l : List Char) (b : LineBreak) (d : Layout) : Layout := ⟨(l, b) :: d.broken, d.last⟩

/-- A layout with one more character in front, in the first line. -/
def consChar (c : Char) : Layout → Layout
  | ⟨[], last⟩ => ⟨[], c :: last⟩
  | ⟨(l, b) :: rest, last⟩ => ⟨(c :: l, b) :: rest, last⟩

@[simp] theorem text_push : (d.push l b).text = l ++ b.chars ++ d.text := by
  simp [push, text]

@[simp] theorem lines_push : (d.push l b).lines = l :: d.lines := rfl

@[simp] theorem text_consChar : (d.consChar c).text = c :: d.text := by
  obtain ⟨_ | ⟨⟨l, b⟩, rest⟩, last⟩ := d <;> rfl

@[simp] theorem lines_consChar : (d.consChar c).lines = d.lines.modifyHead (c :: ·) := by
  obtain ⟨_ | ⟨⟨l, b⟩, rest⟩, last⟩ := d <;> rfl

/-- The line holds no line feed, and its break is not a bare line feed after a carriage return. -/
def Breaks (l : List Char) (b : LineBreak) : Prop :=
  '\n' ∉ l ∧ (b = .lf → l.getLast? ≠ some '\r')

theorem wellFormed_push_iff : (d.push l b).WellFormed ↔ Breaks l b ∧ d.WellFormed := by
  constructor
  · rintro ⟨hfeed, hreturn⟩
    rw [lines_push, List.forall_mem_cons] at hfeed
    rw [push, List.forall_mem_cons] at hreturn
    exact ⟨⟨hfeed.1, hreturn.1⟩, hfeed.2, hreturn.2⟩
  · rintro ⟨⟨hl, hb⟩, hfeed, hreturn⟩
    refine ⟨?_, ?_⟩
    · rw [lines_push, List.forall_mem_cons]
      exact ⟨hl, hfeed⟩
    · rw [push, List.forall_mem_cons]
      exact ⟨hb, hreturn⟩

theorem wellFormed_nil_iff {last : List Char} : (Layout.mk [] last).WellFormed ↔ '\n' ∉ last :=
  ⟨fun h => h.noLineFeed last (by simp [lines]), fun h => ⟨by simpa [lines] using h, by simp⟩⟩

theorem wellFormed_consChar (hd : d.WellFormed) (hc : c ≠ '\n')
    (hreturn : c = '\r' → d.text.head? ≠ some '\n') : (d.consChar c).WellFormed := by
  obtain ⟨_ | ⟨⟨l, b⟩, rest⟩, last⟩ := d
  · rw [wellFormed_nil_iff] at hd
    exact wellFormed_nil_iff.2 (by simpa [hc.symm] using hd)
  · obtain ⟨⟨hl, hb⟩, hrest⟩ := (wellFormed_push_iff (d := ⟨rest, last⟩)).1 hd
    refine (wellFormed_push_iff (d := ⟨rest, last⟩)).2 ⟨⟨by simpa [hc.symm] using hl, ?_⟩, hrest⟩
    rintro rfl
    cases l with
    | nil =>
      -- The bare line feed stands right after `c`.
      rintro hlast
      exact hreturn (by simpa using hlast) rfl
    | cons x l =>
      rw [List.getLast?_cons_cons]
      exact hb rfl

/-! ## Reading a layout -/

/-- The layout that is read off a text. -/
def ofText : List Char → Layout
  | [] => ⟨[], []⟩
  | '\n' :: rest => (ofText rest).push [] .lf
  | '\r' :: '\n' :: rest => (ofText rest).push [] .crlf
  | c :: rest => (ofText rest).consChar c

theorem ofText_cons {rest : List Char} (hc : c ≠ '\n')
    (hreturn : c = '\r' → rest.head? ≠ some '\n') :
    ofText (c :: rest) = (ofText rest).consChar c := by
  rw [ofText]
  · exact hc
  · rintro r rfl rfl
    exact hreturn rfl rfl

theorem text_ofText (text : List Char) : (ofText text).text = text := by
  fun_induction ofText text with
  | case1 => rfl
  | case2 rest ih => simp [LineBreak.chars, ih]
  | case3 rest ih => simp [LineBreak.chars, ih]
  | case4 c rest _ _ ih => simp [ih]

/-- In the last case of reading, a carriage return is not followed by a line feed. -/
theorem head?_ne_of_not_crlf {rest : List Char}
    (h : ∀ r, c = '\r' → rest = '\n' :: r → False) : c = '\r' → rest.head? ≠ some '\n' := by
  intro hc hhead
  obtain ⟨r, hrest⟩ := List.head?_eq_some_iff.1 hhead
  exact h r hc hrest

theorem lines_ofText (text : List Char) : (ofText text).lines = splitLines text := by
  fun_induction ofText text with
  | case1 => rfl
  | case2 rest ih => rw [lines_push, ih, splitLines]
  | case3 rest ih => rw [lines_push, ih, splitLines]
  | case4 c rest hc hr ih =>
    rw [lines_consChar, ih, splitLines_cons hc (head?_ne_of_not_crlf hr)]

theorem wellFormed_ofText (text : List Char) : (ofText text).WellFormed := by
  fun_induction ofText text with
  | case1 => exact wellFormed_nil_iff.2 List.not_mem_nil
  | case2 rest ih => exact wellFormed_push_iff.2 ⟨⟨List.not_mem_nil, fun _ => by simp⟩, ih⟩
  | case3 rest ih => exact wellFormed_push_iff.2 ⟨⟨List.not_mem_nil, nofun⟩, ih⟩
  | case4 c rest hc hr ih =>
    refine wellFormed_consChar ih hc ?_
    rw [text_ofText]
    exact head?_ne_of_not_crlf hr

/-! ## One layout -/

/-- A line that is broken as it may be is read as one line. -/
theorem ofText_append (h : Breaks l b) (rest : List Char) :
    ofText (l ++ b.chars ++ rest) = (ofText rest).push l b := by
  obtain ⟨hl, hb⟩ := h
  induction l with
  | nil => cases b <;> rfl
  | cons c l ih =>
    have hc : c ≠ '\n' := fun hc => hl (hc ▸ List.mem_cons_self)
    have hl : '\n' ∉ l := fun hmem => hl (List.mem_cons_of_mem c hmem)
    have hreturn : c = '\r' → (l ++ b.chars ++ rest).head? ≠ some '\n' := by
      rintro rfl hhead
      cases l with
      | nil =>
        cases b with
        | lf => exact hb rfl rfl
        | crlf => simp [LineBreak.chars] at hhead
      | cons x l => exact hl (by simpa [eq_comm] using Or.inl hhead)
    have hlast : b = .lf → l.getLast? ≠ some '\r' := by
      intro hlf hlast
      cases l with
      | nil => cases hlast
      | cons x l => exact hb hlf (List.getLast?_cons_cons.trans hlast)
    rw [List.cons_append, List.cons_append, ofText_cons hc hreturn, ih hl hlast]
    rfl

theorem ofText_of_not_mem {last : List Char} (h : '\n' ∉ last) : ofText last = ⟨[], last⟩ := by
  induction last with
  | nil => rfl
  | cons c last ih =>
    have hc : c ≠ '\n' := fun hc => h (hc ▸ List.mem_cons_self)
    have hlast : '\n' ∉ last := fun hmem => h (List.mem_cons_of_mem c hmem)
    have hhead : last.head? ≠ some '\n' := fun hhead => hlast (List.mem_of_head? hhead)
    rw [ofText_cons hc fun _ => hhead, ih hlast]
    rfl

/-- **A well-formed layout is read back from its text.** -/
theorem ofText_text (h : d.WellFormed) : ofText d.text = d := by
  obtain ⟨broken, last⟩ := d
  induction broken with
  | nil => exact ofText_of_not_mem (wellFormed_nil_iff.1 h)
  | cons e rest ih =>
    obtain ⟨hbreaks, hrest⟩ := (wellFormed_push_iff (l := e.1) (d := ⟨rest, last⟩)).1 h
    have htext : (Layout.mk (e :: rest) last).text =
        e.1 ++ e.2.chars ++ (Layout.mk rest last).text := text_push (d := ⟨rest, last⟩)
    rw [htext, ofText_append hbreaks, ih hrest]
    rfl

theorem existsUnique_text (text : List Char) : ∃! d : Layout, d.WellFormed ∧ d.text = text := by
  refine ⟨ofText text, ⟨wellFormed_ofText text, text_ofText text⟩, ?_⟩
  rintro d ⟨hd, rfl⟩
  exact (ofText_text hd).symm

end Layout

/-! ## Pieces -/

/-- A text without a carriage return at its end, if it has one there. -/
def withoutReturn (piece : List Char) : List Char :=
  if piece.getLast? = some '\r' then piece.dropLast else piece

/-- The part of a break that is not its line feed. -/
def LineBreak.returns : LineBreak → List Char
  | .lf => []
  | .crlf => ['\r']

theorem LineBreak.chars_eq (b : LineBreak) : b.chars = b.returns ++ ['\n'] := by
  cases b <;> rfl

theorem cutAt_append {isCut : Char → Bool} {l : List Char} (h : ∀ c ∈ l, isCut c = false) {x : Char}
    (hx : isCut x = true) (rest : List Char) :
    cutAt isCut (l ++ x :: rest) = l :: cutAt isCut rest := by
  induction l with
  | nil => simp [cutAt, hx]
  | cons c l ih =>
    rw [List.forall_mem_cons] at h
    simp [cutAt, h.1, ih h.2]

theorem cutAt_of_forall {isCut : Char → Bool} {l : List Char} (h : ∀ c ∈ l, isCut c = false) :
    cutAt isCut l = [l] := by
  induction l with
  | nil => rfl
  | cons c l ih =>
    rw [List.forall_mem_cons] at h
    simp [cutAt, h.1, ih h.2]

namespace Layout

variable {l : List Char} {b : LineBreak} {d : Layout}

theorem withoutReturn_append (h : Breaks l b) : withoutReturn (l ++ b.returns) = l := by
  cases b with
  | lf =>
    have hlast : l.getLast? ≠ some '\r' := h.2 rfl
    simp [withoutReturn, LineBreak.returns, hlast]
  | crlf => simp [withoutReturn, LineBreak.returns]

/-- The pieces of a layout's text are its lines with the carriage returns of their breaks. -/
theorem cutAt_text (h : d.WellFormed) :
    cutAt (· = '\n') d.text = d.broken.map (fun e => e.1 ++ e.2.returns) ++ [d.last] := by
  obtain ⟨broken, last⟩ := d
  have hclean : ∀ {l : List Char}, '\n' ∉ l → ∀ c ∈ l, decide (c = '\n') = false := by
    intro l hl c hc
    exact decide_eq_false fun hfeed => hl (hfeed ▸ hc)
  induction broken with
  | nil => exact cutAt_of_forall (hclean (wellFormed_nil_iff.1 h))
  | cons e rest ih =>
    obtain ⟨⟨hl, -⟩, hrest⟩ := (wellFormed_push_iff (l := e.1) (d := ⟨rest, last⟩)).1 h
    have hpiece : '\n' ∉ e.1 ++ e.2.returns := by
      cases e.2 <;> simp [LineBreak.returns, hl]
    have htext : (Layout.mk (e :: rest) last).text =
        (e.1 ++ e.2.returns) ++ '\n' :: (Layout.mk rest last).text := by
      rw [show Layout.mk (e :: rest) last = (Layout.mk rest last).push e.1 e.2 from rfl,
        text_push, LineBreak.chars_eq]
      simp
    rw [htext, cutAt_append (hclean hpiece) (by simp), ih hrest]
    rfl

end Layout

/-- **Lines and pieces.** A line that is not the last one is the piece up to its line feed, less one
carriage return at the end of the piece. The last line is the last piece. -/
theorem splitLines_eq_pieces (text : List Char) :
    splitLines text = (cutAt (· = '\n') text).dropLast.map withoutReturn ++
      (cutAt (· = '\n') text).getLast?.toList := by
  have hd := Layout.wellFormed_ofText text
  have hpieces := Layout.cutAt_text hd
  rw [Layout.text_ofText] at hpieces
  rw [← Layout.lines_ofText, hpieces, List.dropLast_concat, List.getLast?_concat, List.map_map,
    Layout.lines, Option.toList_some]
  congr 1
  refine List.map_congr_left fun e he => (Layout.withoutReturn_append ⟨?_, ?_⟩).symm
  · exact hd.noLineFeed e.1 (List.mem_append_left _ (List.mem_map_of_mem he))
  · exact hd.noBareReturn e he

theorem length_splitLines (text : List Char) :
    (splitLines text).length = text.count '\n' + 1 := by
  fun_induction splitLines text with
  | case1 => rfl
  | case2 rest ih => simp [ih]
  | case3 rest ih => simp [ih]
  | case4 c rest hc _ ih =>
    rw [List.length_modifyHead, ih, List.count_cons_of_ne hc]

/-! ## The inverse -/

/-- **Cutting into lines is the inverse of putting lines together.** The lines of a well-formed
layout are those of its text, and every text has exactly one such layout. So a text has one line
more than line feeds, and all that is missing from its lines are the line feeds and, for each of
them, at most one carriage return right before it. -/
theorem splitLines_inverse :
    (∀ d : Layout, d.WellFormed → splitLines d.text = d.lines) ∧
      ∀ text : List Char,
        (∃! d : Layout, d.WellFormed ∧ d.text = text) ∧
        splitLines text ≠ [] ∧
        (splitLines text).length = text.count '\n' + 1 ∧
        splitLines text = (cutAt (· = '\n') text).dropLast.map withoutReturn ++
          (cutAt (· = '\n') text).getLast?.toList := by
  refine ⟨fun d hd => ?_, fun text => ⟨Layout.existsUnique_text text, splitLines_ne_nil text,
    length_splitLines text, splitLines_eq_pieces text⟩⟩
  rw [← Layout.lines_ofText, Layout.ofText_text hd]

/-- A carriage return before a line break that has its own, an empty line, and a carriage return at
the end of the text. -/
theorem splitLines_inverse_manyReturns :
    let d : Layout := ⟨[(['a', '\r'], .crlf), ([], .lf), (['\r', 'b'], .lf)], ['c', '\r']⟩
    d.WellFormed ∧ d.text = ['a', '\r', '\r', '\n', '\n', '\r', 'b', '\n', 'c', '\r'] ∧
      splitLines ['a', '\r', '\r', '\n', '\n', '\r', 'b', '\n', 'c', '\r'] =
        [['a', '\r'], [], ['\r', 'b'], ['c', '\r']] := by
  intro d
  have hd : d.WellFormed := ⟨by decide, by decide⟩
  have htext : d.text = ['a', '\r', '\r', '\n', '\n', '\r', 'b', '\n', 'c', '\r'] := by decide
  exact ⟨hd, htext, htext ▸ splitLines_inverse.1 d hd⟩

end CwebHighlight
