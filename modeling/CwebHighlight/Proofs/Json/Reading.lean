import CwebHighlight.Json.Grammar
import CwebHighlight.Json.Printer
import CwebHighlight.Proofs.Text.Reader
import Mathlib.Algebra.Group.Nat.Defs

/-!
# Reading what was written

A text is `Readable` as a value if the reader takes it back as this value, whatever blanks stand
around it and whatever delimiter comes after it. The digits of a number in 64 bits are, a text in
quotes is, and arrays and objects are readable if their parts are. Between brackets and commas there
may be blanks, so this covers the compact form and the indented form.

The fields of an object that was read are sorted, and each name leads to the last of its fields
(`field?_ofFields`).
-/

namespace CwebHighlight.Json

open Reader

/-- The characters that end a value. -/
def delimiters : List Char := [',', ']', '}']

/-- The characters that may stand around a value. -/
def blanks : List Char := [' ', '\n', '\r', '\t']

def Blank (cs : List Char) : Prop := ∀ c ∈ cs, c ∈ blanks

/-- Nothing, or something that begins with a delimiter. -/
def Ends (rest : List Char) : Prop := ∀ c ∈ rest.head?, c ∈ delimiters

/-- Nothing, or something that begins with a blank or a delimiter. -/
def Stops (rest : List Char) : Prop := ∀ c ∈ rest.head?, c ∈ blanks ++ delimiters

/-- The reader takes the text back from among blanks, and the text cannot be taken for a blank or a
delimiter. -/
structure Readable {α : Type} (p : Reader α) (text : List Char) (a : α) : Prop where
  reads : ∀ before after rest, Blank before → Blank after → Ends rest →
    p (before ++ (text ++ (after ++ rest))) = some (a, rest)
  opens : ∃ c cs, text = c :: cs ∧ isSpace c = false ∧ c ∉ delimiters

variable {α : Type} {before after rest : List Char}

theorem blank_nil : Blank [] := fun _ hc => absurd hc List.not_mem_nil

theorem blank_space : Blank [' '] := List.forall_mem_singleton.2 (by decide)

theorem isSpace_of_mem_blanks : ∀ c ∈ blanks, isSpace c = true := List.all_eq_true.1 rfl

theorem isSpace_of_mem_delimiters : ∀ c ∈ delimiters, isSpace c = false := by
  have hany : delimiters.any isSpace = false := rfl
  exact fun c hc => Bool.eq_false_iff.2 (List.any_eq_false.1 hany c hc)

theorem ends_nil : Ends [] := nofun

theorem ends_cons {c : Char} (h : c ∈ delimiters) : Ends (c :: rest) := by
  intro d hd
  cases hd
  exact h

/-- What comes after a value stops it, with blanks before the delimiter or without. -/
theorem Blank.stops (hafter : Blank after) (h : Ends rest) : Stops (after ++ rest) := by
  intro c hc
  cases after with
  | nil => exact List.mem_append_right _ (h c hc)
  | cons d after =>
    cases hc
    exact List.mem_append_left _ (hafter _ List.mem_cons_self)

/-- What no blank or delimiter passes, the rest does not begin with. -/
theorem Stops.startsWith (h : Stops rest) {test : Char → Bool}
    (htest : (blanks ++ delimiters).any test = false) : startsWith test rest = false := by
  cases rest with
  | nil => rfl
  | cons c rest => exact Bool.eq_false_iff.2 (List.any_eq_false.1 htest c (h c rfl))

theorem Blank.space (h : Blank before) (hrest : startsWith isSpace rest = false) :
    Json.space (before ++ rest) = some ((), rest) :=
  bind_of_eq (span_append (fun c hc => isSpace_of_mem_blanks c (h c hc)) hrest) _

theorem Blank.space_cons (h : Blank before) {c : Char} (hc : isSpace c = false) :
    Json.space (before ++ c :: rest) = some ((), c :: rest) :=
  h.space hc

theorem space_cons {c : Char} (h : isSpace c = false) : space (c :: rest) = some ((), c :: rest) :=
  blank_nil.space_cons h

theorem Blank.space_ends (hafter : Blank after) (h : Ends rest) :
    Json.space (after ++ rest) = some ((), rest) := by
  refine hafter.space ?_
  cases rest with
  | nil => rfl
  | cons c rest => exact isSpace_of_mem_delimiters c (h c rfl)

/-! ## Numbers -/

theorem fractionPart_of_stops (h : Stops rest) : fractionPart rest = some ([], rest) := by
  have hpoint : startsWith (· = '.') rest = false := h.startsWith rfl
  rw [fractionPart, bind_of_eq (rfl : Reader.rest rest = some (rest, rest)), hpoint]
  rfl

theorem exponentPart_of_stops (h : Stops rest) : exponentPart rest = some (none, rest) := by
  have hexponent : startsWith (fun c => c = 'e' || c = 'E') rest = false := h.startsWith rfl
  rw [exponentPart, bind_of_eq (rfl : Reader.rest rest = some (rest, rest)), hexponent]
  rfl

/-- **Numbers.** The digits of a number in 64 bits are read as this number. -/
theorem number_toDigits {n : Nat} (hn : n < 2 ^ 64) (h : Stops rest) :
    number (Nat.toDigits 10 n ++ rest) = some (.int n, rest) := by
  have hdigits : ∀ c ∈ Nat.toDigits 10 n, isDecimalDigit c = true := by
    intro c hc
    rw [isDecimalDigit_eq_isDigit]
    exact isDigit_of_mem_toDigits c hc
  have hminus : optional (char '-') (Nat.toDigits 10 n ++ rest) =
      some (none, Nat.toDigits 10 n ++ rest) := by
    obtain ⟨c, cs, hcs, hc⟩ := toDigits_eq_cons n
    rw [hcs]
    exact optional_of_none (char_cons_of_ne (ne_of_isDigit hc rfl))
  have hwhole : span1 isDecimalDigit (Nat.toDigits 10 n ++ rest) =
      some (Nat.toDigits 10 n, rest) :=
    span1_append Nat.toDigits_ne_nil hdigits (h.startsWith rfl)
  have hzero : ((Nat.toDigits 10 n).length = 1 || (Nat.toDigits 10 n).head? ≠ some '0') = true := by
    by_cases hn : n = 0
    · subst hn
      rfl
    · simp [head?_toDigits_ne_zero hn]
  have hword : n < 0x10000000000000000 := hn
  have hvalue : ofNumber? (none : Option Unit).isSome (Nat.toDigits 10 n) [] none =
      some (.int n) := by
    simp [ofNumber?, numberOfDigits_toDigits, hword]
  rw [number, bind_of_eq hminus, bind_of_eq hwhole, bind_of_eq (guard_of hzero),
    bind_of_eq (fractionPart_of_stops h), bind_of_eq (exponentPart_of_stops h), hvalue]
  rfl

/-! ## Texts -/

theorem hexText_control : ∀ n < 0x20,
    (hexText 4 n).toList = ['0', '0', (n / 16).digitChar, (n % 16).digitChar] ∧
      isDigitOf 16 (n / 16).digitChar = true ∧ isDigitOf 16 (n % 16).digitChar = true ∧
      numberOfDigits 16 ['0', '0', (n / 16).digitChar, (n % 16).digitChar] = n := by
  simp only [hexText, String.toList_ofList]
  decide

theorem unicodeEscape_control {n : Nat} (hn : n < 0x20) (rest : List Char) :
    unicodeEscape ((hexText 4 n).toList ++ rest) = some (Char.ofNat n, rest) := by
  obtain ⟨htext, ha, hb, hvalue⟩ := hexText_control n hn
  have hunit : unitEscape ((hexText 4 n).toList ++ rest) = some (n, rest) := by
    rw [htext, unitEscape]
    simp only [List.cons_append, List.nil_append]
    rw [bind_of_eq (satisfy_cons rfl), bind_of_eq (satisfy_cons rfl), bind_of_eq (satisfy_cons ha),
      bind_of_eq (satisfy_cons hb), hvalue]
    rfl
  -- so small a unit is no surrogate
  have hhigh : ¬(decide (0xD800 ≤ n) && decide (n < 0xDC00)) = true := by
    simp
    omega
  have hlow : (!(decide (0xDC00 ≤ n) && decide (n < 0xE000))) = true := by
    simp
    omega
  rw [unicodeEscape, bind_of_eq hunit, if_neg hhigh, bind_of_eq (guard_of hlow)]
  rfl

/-- **One character** of a text is read as it was written, with an escape or without. -/
theorem stringChar_escapeChar (c : Char) (rest : List Char) :
    stringChar ((escapeChar c).toList ++ rest) = some (c, rest) := by
  unfold escapeChar
  split
  case h_8 _ _ hbackslash _ _ _ _ _ =>
    split
    · rename_i hcontrol
      have hcontrol : c.toNat < 0x20 := UInt32.lt_iff_toNat_lt.1 hcontrol
      have htext : ("\\u" ++ hexText 4 c.toNat).toList ++ rest =
          '\\' :: 'u' :: ((hexText 4 c.toNat).toList ++ rest) := by
        rw [String.toList_append]
        rfl
      rw [htext, stringChar, bind_of_eq (satisfy_cons rfl), if_pos rfl, escape,
        bind_of_eq (satisfy_cons rfl)]
      simp only
      rw [unicodeEscape_control hcontrol, Char.ofNat_toNat]
    · rename_i hplain
      have htest : decide (0x20 ≤ c.val) = true := decide_eq_true (UInt32.not_lt.1 hplain)
      have htext : c.toString.toList ++ rest = c :: rest := by simp
      rw [htext, stringChar, bind_of_eq (satisfy_cons htest), if_neg hbackslash]
      rfl
  all_goals rfl

/-- No character is written as a quote, or as nothing. -/
theorem escapeChar_eq_cons (c : Char) : ∃ d ds, (escapeChar c).toList = d :: ds ∧ d ≠ '"' := by
  unfold escapeChar
  split
  case h_8 _ hquote _ _ _ _ _ _ =>
    split
    · exact ⟨'\\', _, String.toList_append, by decide⟩
    · exact ⟨c, [], by simp, hquote⟩
  all_goals exact ⟨_, _, rfl, by decide⟩

theorem toList_quote (s : String) :
    (quote s).toList = '"' :: (s.toList.flatMap (fun c => (escapeChar c).toList) ++ ['"']) := by
  simp [quote, List.flatMap_map]

/-- **Texts.** A text in quotes is read as it was written, whatever comes after it. -/
theorem stringText_quote (s : String) (rest : List Char) :
    stringText ((quote s).toList ++ rest) = some (s, rest) := by
  have hchars (cs : List Char) :
      Repeats (!startsWith (· = '"') ·) stringChar
        (cs.flatMap (fun c => (escapeChar c).toList) ++ '"' :: rest) cs ('"' :: rest) := by
    induction cs with
    | nil => exact .stop rfl
    | cons c cs ih =>
      obtain ⟨d, ds, hd, hquote⟩ := escapeChar_eq_cons c
      rw [List.flatMap_cons, List.append_assoc]
      refine .item ?_ (stringChar_escapeChar c _) ?_ ih
      · simpa [hd, startsWith] using hquote
      · rw [hd]
        simp only [List.length_append, List.length_cons]
        omega
  rw [toList_quote, List.cons_append, List.append_assoc, stringText, bind_of_eq (char_cons '"'),
    List.singleton_append, bind_of_eq (hchars s.toList).repeatWhile, bind_of_eq (char_cons '"'),
    String.ofList_toList]
  rfl

/-! ## Brackets -/

variable {p : Reader α} {opening closing : Char} {items : List (List Char × α)}
  {lead trail : List Char}

/-- The items after the first one, each with the comma and the blanks before it. The blanks before
the closing bracket belong to the last item. -/
theorem repeats_items (hclosing : closing ∈ delimiters) (hcomma : closing ≠ ',')
    (hlead : Blank lead) (htrail : Blank trail) (h : ∀ x ∈ items, Readable p x.1 x.2)
    (rest : List Char) :
    ∃ after others, items.flatMap ((',' :: lead) ++ ·.1) ++ (trail ++ closing :: rest) =
        after ++ others ∧ Blank after ∧ Ends others ∧
      Repeats (startsWith (· = ',')) (do char ','; p) others (items.map (·.2))
        (closing :: rest) := by
  induction items with
  | nil =>
    exact ⟨trail, closing :: rest, rfl, htrail, ends_cons hclosing, .stop (decide_eq_false hcomma)⟩
  | cons x items ih =>
    rw [List.forall_mem_cons] at h
    obtain ⟨after, others, htext, hafter, hends, hothers⟩ := ih h.2
    have hread := h.1.reads lead after others hlead hafter hends
    refine ⟨[], ',' :: (lead ++ (x.1 ++ (after ++ others))), ?_, blank_nil, ends_cons (by decide),
      .item rfl ((bind_of_eq (char_cons ',') _).trans hread) ?_ hothers⟩
    · rw [List.flatMap_cons, List.append_assoc, htext]
      simp
    · simp only [List.length_append, List.length_cons]
      omega

/-- **Brackets.** Items that can be read are read between brackets. -/
theorem bracketed_items (hclosing : closing ∈ delimiters) (hcomma : closing ≠ ',')
    (hlead : Blank lead) (htrail : Blank trail) (h : ∀ x ∈ items, Readable p x.1 x.2)
    (rest : List Char) :
    bracketed opening closing p (opening ::
        (lead ++ ((',' :: lead).intercalate (items.map (·.1)) ++ (trail ++ closing :: rest)))) =
      some (items.map (·.2), rest) := by
  rw [bracketed, bind_of_eq (char_cons opening)]
  cases items with
  | nil =>
    have hblank : Blank (lead ++ trail) := by
      intro c hc
      exact (List.mem_append.1 hc).elim (hlead c) (htrail c)
    have hends : Ends (closing :: rest) := ends_cons hclosing
    rw [List.map_nil, List.intercalate_nil, List.nil_append, ← List.append_assoc,
      bind_of_eq (hblank.space_ends hends), bind_of_eq (rfl : Reader.rest _ = _)]
    simp only [startsWith, decide_true, if_true]
    rw [bind_of_eq (char_cons closing)]
    rfl
  | cons x items =>
    obtain ⟨hx, hitems⟩ := List.forall_mem_cons.1 h
    obtain ⟨c, cs, hcs, hspace, hc⟩ := hx.opens
    obtain ⟨after, others, htext, hafter, hends, hothers⟩ :=
      repeats_items hclosing hcomma hlead htrail hitems rest
    have hread := hx.reads [] after others blank_nil hafter hends
    have hclosed : c ≠ closing := by
      rintro rfl
      exact hc hclosing
    rw [List.map_cons, intercalate_cons, List.flatMap_map, List.append_assoc, htext]
    rw [List.nil_append, hcs, List.cons_append] at hread
    rw [hcs, List.cons_append, bind_of_eq (hlead.space_cons hspace),
      bind_of_eq (rfl : Reader.rest _ = _)]
    simp only [startsWith, decide_eq_false hclosed, Bool.false_eq_true, if_false]
    rw [bind_of_eq hread, bind_of_eq hothers.repeatWhile, bind_of_eq (char_cons closing)]
    rfl

/-! ## Values -/

variable {depth : Nat} {cs : List Char}

theorem value_array {items : List Json} (hbefore : Blank before) (hafter : Blank after)
    (hrest : Ends rest)
    (h : bracketed '[' ']' (value depth) ('[' :: cs) = some (items, after ++ rest)) :
    value (depth + 1) (before ++ '[' :: cs) = some (.array items, rest) := by
  rw [value, bind_of_eq (hbefore.space_cons rfl), bind_of_eq (rfl : peek ('[' :: cs) = _)]
  simp only [List.head?_cons]
  rw [bind_of_eq h, bind_of_eq rfl, bind_of_eq (hafter.space_ends hrest)]
  rfl

theorem value_object {fields : List (String × Json)} (hbefore : Blank before)
    (hafter : Blank after) (hrest : Ends rest)
    (h : bracketed '{' '}' (fieldWith (value depth)) ('{' :: cs) = some (fields, after ++ rest)) :
    value (depth + 1) (before ++ '{' :: cs) = some (.ofFields fields, rest) := by
  rw [value, bind_of_eq (hbefore.space_cons rfl), bind_of_eq (rfl : peek ('{' :: cs) = _)]
  simp only [List.head?_cons]
  rw [bind_of_eq h, bind_of_eq rfl, bind_of_eq (hafter.space_ends hrest)]
  rfl

theorem value_string {s : String} (hbefore : Blank before) (hafter : Blank after)
    (hrest : Ends rest) (h : stringText ('"' :: cs) = some (s, after ++ rest)) :
    value (depth + 1) (before ++ '"' :: cs) = some (.string s, rest) := by
  rw [value, bind_of_eq (hbefore.space_cons rfl), bind_of_eq (rfl : peek ('"' :: cs) = _)]
  simp only [List.head?_cons]
  rw [bind_of_eq h, bind_of_eq rfl, bind_of_eq (hafter.space_ends hrest)]
  rfl

theorem isSpace_of_isDigit {c : Char} (hc : c.isDigit = true) : isSpace c = false := by
  simp [isSpace, ne_of_isDigit hc]

theorem value_number {c : Char} {v : Json} (hbefore : Blank before) (hafter : Blank after)
    (hrest : Ends rest) (hc : c.isDigit = true)
    (h : number (c :: cs) = some (v, after ++ rest)) :
    value (depth + 1) (before ++ c :: cs) = some (v, rest) := by
  rw [value, bind_of_eq (hbefore.space_cons (isSpace_of_isDigit hc)),
    bind_of_eq (rfl : peek (c :: cs) = _)]
  -- a digit is none of the characters that announce another value
  simp only [List.head?_cons, Option.some.injEq, ne_of_isDigit hc (rfl : 'n'.isDigit = false),
    ne_of_isDigit hc (rfl : 't'.isDigit = false), ne_of_isDigit hc (rfl : 'f'.isDigit = false),
    ne_of_isDigit hc (rfl : '"'.isDigit = false), ne_of_isDigit hc (rfl : '['.isDigit = false),
    ne_of_isDigit hc (rfl : '{'.isDigit = false), imp_self]
  rw [bind_of_eq h, bind_of_eq (hafter.space_ends hrest)]
  rfl

theorem readable_natural {n : Nat} (hn : n < 2 ^ 64) :
    Readable (value (depth + 1)) (Nat.toDigits 10 n) (.int n) := by
  obtain ⟨c, cs, hcs, hc⟩ := toDigits_eq_cons n
  refine ⟨fun before after rest hbefore hafter hrest => ?_, c, cs, hcs, isSpace_of_isDigit hc, ?_⟩
  · have hnumber := number_toDigits hn (hafter.stops hrest)
    rw [hcs, List.cons_append] at hnumber ⊢
    exact value_number hbefore hafter hrest hc hnumber
  · simp [delimiters, ne_of_isDigit hc]

theorem readable_string (s : String) :
    Readable (value (depth + 1)) (quote s).toList (.string s) := by
  have hquote := toList_quote s
  refine ⟨fun before after rest hbefore hafter hrest => ?_, '"', _, hquote, rfl, by decide⟩
  have hread := stringText_quote s (after ++ rest)
  rw [hquote, List.cons_append] at hread ⊢
  exact value_string hbefore hafter hrest hread

theorem readable_array {items : List (List Char × Json)} (hlead : Blank lead)
    (htrail : Blank trail) (h : ∀ x ∈ items, Readable (value depth) x.1 x.2) :
    Readable (value (depth + 1))
      ('[' :: (lead ++ ((',' :: lead).intercalate (items.map (·.1)) ++ (trail ++ [']']))))
      (.array (items.map (·.2))) := by
  refine ⟨fun before after rest hbefore hafter hrest => ?_, '[', _, rfl, rfl, by decide⟩
  rw [List.cons_append]
  refine value_array hbefore hafter hrest ?_
  simpa using bracketed_items (by decide) (by decide) hlead htrail h (after ++ rest)

theorem readable_field {text gap : List Char} {v : Json} (name : String) (hgap : Blank gap)
    (h : Readable (value depth) text v) :
    Readable (fieldWith (value depth)) ((quote name).toList ++ ':' :: (gap ++ text)) (name, v) := by
  have hquote := toList_quote name
  refine ⟨fun before after rest hbefore hafter hrest => ?_, '"', _,
    by rw [hquote, List.cons_append], rfl, by decide⟩
  have hname := stringText_quote name (':' :: (gap ++ (text ++ (after ++ rest))))
  simp only [List.append_assoc, List.cons_append]
  rw [hquote, List.cons_append] at hname ⊢
  rw [fieldWith, bind_of_eq (hbefore.space_cons rfl), bind_of_eq hname, bind_of_eq (space_cons rfl),
    bind_of_eq (char_cons ':'), bind_of_eq (h.reads gap after rest hgap hafter hrest)]
  rfl

theorem readable_object {fields : List (List Char × String × Json)} (hlead : Blank lead)
    (htrail : Blank trail) (h : ∀ x ∈ fields, Readable (fieldWith (value depth)) x.1 x.2) :
    Readable (value (depth + 1))
      ('{' :: (lead ++ ((',' :: lead).intercalate (fields.map (·.1)) ++ (trail ++ ['}']))))
      (.ofFields (fields.map (·.2))) := by
  refine ⟨fun before after rest hbefore hafter hrest => ?_, '{', _, rfl, rfl, by decide⟩
  rw [List.cons_append]
  refine value_object hbefore hafter hrest ?_
  simpa using bracketed_items (by decide) (by decide) hlead htrail h (after ++ rest)

/-- The whole text of a value may have 127 levels of brackets. -/
theorem parse?_of_readable {text : String} {v : Json} (h : Readable (value 128) text.toList v) :
    parse? text = some v := by
  have hread := h.reads [] [] [] blank_nil blank_nil ends_nil
  rw [List.nil_append, List.append_nil, List.append_nil] at hread
  exact run?_of_eq hread

/-! ## Fields -/

theorem find?_insertField (fields : List (String × Json)) (name key : String) (v : Json) :
    (insertField fields name v).find? (·.1 == key) =
      if name = key then some (name, v) else fields.find? (·.1 == key) := by
  induction fields with
  | nil => by_cases hkey : name = key <;> simp [insertField, hkey]
  | cons f fields ih =>
    rw [insertField]
    split
    · by_cases hkey : name = key <;> simp [hkey]
    · by_cases hname : name = f.1
      · subst hname
        rw [if_pos rfl]
        by_cases hkey : f.1 = key <;> simp [hkey]
      · rw [if_neg hname, List.find?_cons, ih, List.find?_cons]
        by_cases hkey : name = key
        · have hne : (f.1 == key) = false :=
            beq_eq_false_iff_ne.2 fun h => hname (hkey.trans h.symm)
          rw [hne, if_pos hkey]
        · rw [if_neg hkey, if_neg hkey]

/-- **The last of the fields** of a name is the one that is found. -/
theorem field?_ofFields (fields : List (String × Json)) (key : String) :
    (ofFields fields).field? key = (fields.reverse.find? (·.1 == key)).map (·.2) := by
  have hfold (acc : List (String × Json)) :
      (fields.foldl (fun acc f => insertField acc f.1 f.2) acc).find? (·.1 == key) =
        (fields.reverse.find? (·.1 == key)).or (acc.find? (·.1 == key)) := by
    induction fields generalizing acc with
    | nil => rfl
    | cons f fields ih =>
      obtain ⟨name, v⟩ := f
      rw [List.foldl_cons, ih, find?_insertField, List.reverse_cons, List.find?_append,
        Option.or_assoc]
      by_cases hkey : name = key <;> simp [hkey]
  rw [ofFields, field?, hfold, List.find?_nil, Option.or_none]

/-! ## The compact form -/

theorem toList_leafText_natural (n : Nat) : (leafText (.int n)).toList = Nat.toDigits 10 n :=
  Nat.toList_repr

theorem compactItems_eq_map (items : List Json) : compactItems items = items.map (·.compact) := by
  induction items with
  | nil => rfl
  | cons v items ih => rw [compactItems, ih, List.map_cons]

theorem compactFields_eq_map (fields : List (String × Json)) :
    compactFields fields = fields.map fun f => quote f.1 ++ ":" ++ f.2.compact := by
  induction fields with
  | nil => rfl
  | cons f fields ih => rw [compactFields, ih, List.map_cons]

theorem readable_compact_natural {n : Nat} (hn : n < 2 ^ 64) :
    Readable (value (depth + 1)) (Json.int n).compact.toList (.int n) := by
  have htext : (Json.int n).compact = leafText (.int n) := by
    rw [compact]
    · nofun
    · nofun
  rw [htext, toList_leafText_natural]
  exact readable_natural hn

theorem readable_compact_array {items : List Json}
    (h : ∀ v ∈ items, Readable (value depth) v.compact.toList v) :
    Readable (value (depth + 1)) (Json.array items).compact.toList (.array items) := by
  have hitems : ∀ x ∈ items.map fun v => (v.compact.toList, v), Readable (value depth) x.1 x.2 := by
    simpa using h
  have hread := readable_array blank_nil blank_nil hitems
  simp only [List.map_map, Function.comp_def, List.map_id', List.nil_append] at hread
  have htext : (Json.array items).compact.toList =
      '[' :: ([','].intercalate (items.map fun v => v.compact.toList) ++ [']']) := by
    rw [compact, compactItems_eq_map]
    simp [Function.comp_def]
  rwa [htext]

theorem readable_compact_object {fields : List (String × Json)}
    (h : ∀ f ∈ fields, Readable (value depth) f.2.compact.toList f.2) :
    Readable (value (depth + 1)) (Json.object fields).compact.toList (.ofFields fields) := by
  have hfields : ∀ x ∈ fields.map fun f => ((quote f.1).toList ++ ':' :: f.2.compact.toList, f),
      Readable (fieldWith (value depth)) x.1 x.2 := by
    simp only [List.forall_mem_map]
    exact fun f hf => readable_field f.1 blank_nil (h f hf)
  have hread := readable_object blank_nil blank_nil hfields
  simp only [List.map_map, Function.comp_def, List.map_id', List.nil_append] at hread
  have htext : (Json.object fields).compact.toList =
      '{' :: ([','].intercalate
        (fields.map fun f => (quote f.1).toList ++ ':' :: f.2.compact.toList) ++ ['}']) := by
    rw [compact, compactFields_eq_map]
    simp [Function.comp_def]
  rwa [htext]

/-! ## The indented form -/

theorem indentedItems_eq_map (level : Nat) (items : List Json) :
    indentedItems level items = items.map (·.indentedAt level) := by
  induction items with
  | nil => rfl
  | cons v items ih => rw [indentedItems, ih, List.map_cons]

theorem indentedFields_eq_map (level : Nat) (fields : List (String × Json)) :
    indentedFields level fields =
      fields.map fun f => quote f.1 ++ ": " ++ f.2.indentedAt level := by
  induction fields with
  | nil => rfl
  | cons f fields ih => rw [indentedFields, ih, List.map_cons]

theorem blank_newline (level : Nat) : Blank (newline level).toList := by
  intro c hc
  rw [newline, String.toList_append, List.mem_append] at hc
  rcases hc with hc | hc
  · obtain rfl : c = '\n' := List.mem_singleton.1 hc
    decide
  · rw [String.toList_ofList] at hc
    obtain rfl := List.eq_of_mem_replicate hc
    decide

/-- A block of items is the items between brackets, with blanks inside the brackets and after the
commas. -/
theorem exists_toList_indentedBlock (opening closing : String) (level : Nat)
    (items : List String) :
    ∃ lead trail, Blank lead ∧ Blank trail ∧
      (indentedBlock opening closing level items).toList =
        opening.toList ++ (lead ++ ((',' :: lead).intercalate (items.map (·.toList)) ++
          (trail ++ closing.toList))) := by
  cases items with
  | nil => exact ⟨[], [], blank_nil, blank_nil, by simp [indentedBlock]⟩
  | cons item items =>
    refine ⟨_, _, blank_newline (level + 1), blank_newline level, ?_⟩
    simp [indentedBlock]

theorem readable_indented_natural {n : Nat} (hn : n < 2 ^ 64) (level : Nat) :
    Readable (value (depth + 1)) ((Json.int n).indentedAt level).toList (.int n) := by
  have htext : (Json.int n).indentedAt level = leafText (.int n) := by
    rw [indentedAt]
    · nofun
    · nofun
  rw [htext, toList_leafText_natural]
  exact readable_natural hn

theorem readable_indented_string (s : String) (level : Nat) :
    Readable (value (depth + 1)) ((Json.string s).indentedAt level).toList (.string s) := by
  have htext : (Json.string s).indentedAt level = quote s := by
    rw [indentedAt, leafText]
    · nofun
    · nofun
  rw [htext]
  exact readable_string s

/-- Items may be read as other values than those that are written. -/
theorem readable_indented_array {β : Type} {written read : β → Json} {level : Nat} {items : List β}
    (h : ∀ x ∈ items,
      Readable (value depth) ((written x).indentedAt (level + 1)).toList (read x)) :
    Readable (value (depth + 1)) ((Json.array (items.map written)).indentedAt level).toList
      (.array (items.map read)) := by
  have hitems : ∀ x ∈ items.map fun x => (((written x).indentedAt (level + 1)).toList, read x),
      Readable (value depth) x.1 x.2 := by
    simpa using h
  obtain ⟨lead, trail, hlead, htrail, htext⟩ := exists_toList_indentedBlock "[" "]" level
    (items.map fun x => (written x).indentedAt (level + 1))
  have hread := readable_array hlead htrail hitems
  simp only [List.map_map, Function.comp_def] at hread
  rw [indentedAt, indentedItems_eq_map, List.map_map, Function.comp_def, htext]
  simpa [Function.comp_def] using hread

theorem readable_indented_object {level : Nat} {fields : List (String × Json)}
    (h : ∀ f ∈ fields, Readable (value depth) (f.2.indentedAt (level + 1)).toList f.2) :
    Readable (value (depth + 1)) ((Json.object fields).indentedAt level).toList
      (.ofFields fields) := by
  have hfields : ∀ x ∈ fields.map fun f =>
      ((quote f.1).toList ++ ':' :: ([' '] ++ (f.2.indentedAt (level + 1)).toList), f),
      Readable (fieldWith (value depth)) x.1 x.2 := by
    simp only [List.forall_mem_map]
    exact fun f hf => readable_field f.1 blank_space (h f hf)
  obtain ⟨lead, trail, hlead, htrail, htext⟩ := exists_toList_indentedBlock "\x7b" "\x7d" level
    (fields.map fun f => quote f.1 ++ ": " ++ f.2.indentedAt (level + 1))
  have hread := readable_object hlead htrail hfields
  simp only [List.map_map, Function.comp_def, List.map_id'] at hread
  rw [indentedAt, indentedFields_eq_map, htext]
  simpa [Function.comp_def] using hread

end CwebHighlight.Json
