import CwebHighlight.Proofs.Legend.Decoding
import CwebHighlight.Proofs.Wire.Canonical
import CwebHighlight.Proofs.Wire.Highlight

/-!
# Which fault is reported

A list of tokens has a wire form if each token can be encoded and none comes before the one ahead of
it. Otherwise some token is at fault, and the first such token is reported.

**What is reported of a token.** The checks have an order: the kind, then the modifiers one after the
other (`Reports`), and only then the place (`WireReports`).

**Step by step.** A list is encoded and appended token by token. As long as both go well, this is the
same as encoding all tokens first (`wireFrom_append_of_push`). It differs at the first fault: a token
that comes too early hides the faults of all tokens after it, while encoding alone does not look at
places and goes on to the first token that cannot be encoded.

Main result: `wire_reports_first`.
-/

namespace CwebHighlight

/-- If a list has not the property that the empty list has, then there is a first element with which
it is lost. -/
theorem exists_first_loss {α : Type} {P : List α → Prop} (hnil : P []) {xs : List α} (h : ¬ P xs) :
    ∃ pre x rest, xs = pre ++ x :: rest ∧ P pre ∧ ¬ P (pre ++ [x]) := by
  induction xs using List.reverseRecOn with
  | nil => exact absurd hnil h
  | append_singleton xs x ih =>
    by_cases hxs : P xs
    · exact ⟨xs, x, [], rfl, hxs, h⟩
    · obtain ⟨pre, y, rest, rfl, hpre, hy⟩ := ih hxs
      exact ⟨pre, y, rest ++ [x], by simp, hpre, hy⟩

/-- A token that comes before the last one in the list is refused. -/
theorem DeltaList.Holds.push_of_before {d : DeltaList} {kept : List EncodedToken}
    {t last : EncodedToken} (h : Holds d kept) (hlast : kept.getLast? = some last)
    (hle : last.place.le t.place = false) : d.push t = .error ⟨t.place, last.place⟩ := by
  have hrefused : ¬ ∀ a ∈ kept.getLast?, t.NotBefore a := by
    intro hall
    have hle' : last.place.le t.place = true := Place.le_iff.2 (hall last hlast)
    rw [hle] at hle'
    cases hle'
  rw [h.push_of_refuses hrefused, h.last, hlast]
  rfl

namespace Legend

variable {l : Legend} {t : Token} {tokens : List Token} {encoded : List EncodedToken}

/-! ## Tokens that can be encoded -/

/-- The modifier has an index, and there is a bit for it. -/
def HasBit (l : Legend) (m : Modifier) : Prop :=
  ∃ i, l.modifierIndex? m.name = some i ∧ i.toNat < 32

/-- The kind of the token has an index, and each of its modifiers has a bit. -/
def Encodes (l : Legend) (t : Token) : Prop :=
  (∃ i, l.kindIndex? t.kind.name = some i) ∧ ∀ m ∈ t.modifiers, l.HasBit m

theorem exists_encodeModifier_iff_hasBit {m : Modifier} :
    (∃ w, l.encodeModifier m = .ok w) ↔ l.HasBit m := by
  rw [encodeModifier, HasBit]
  cases l.modifierIndex? m.name with
  | none => simp
  | some i => simp [bit_eq_ok_iff]

theorem exists_encode_iff_encodes : (∃ e, l.encode t = .ok e) ↔ l.Encodes t := by
  simp only [Encodes, ← exists_encodeModifier_iff_hasBit, ← exists_addModifiers_iff 0,
    ← encodeKind_eq_ok_iff]
  constructor
  · rintro ⟨e, he⟩
    obtain ⟨hkind, hbits, -⟩ := encode_eq_ok_iff.1 he
    exact ⟨⟨_, hkind⟩, _, hbits⟩
  · rintro ⟨⟨k, hk⟩, w, hw⟩
    exact ⟨⟨t.line, t.start, t.length, k, w⟩, encode_eq_ok_iff.2 ⟨hk, hw, rfl, rfl, rfl⟩⟩

theorem exists_encodeAll_iff :
    (∃ encoded, l.encodeAll tokens = .ok encoded) ↔ ∀ t ∈ tokens, l.Encodes t := by
  induction tokens with
  | nil => exact ⟨fun _ t ht => absurd ht List.not_mem_nil, fun _ => ⟨[], rfl⟩⟩
  | cons t rest ih =>
    rw [List.forall_mem_cons, ← ih, ← exists_encode_iff_encodes]
    simp only [encodeAll_cons_eq_ok_iff]
    constructor
    · rintro ⟨encoded, e, es, he, hes, -⟩
      exact ⟨⟨e, he⟩, es, hes⟩
    · rintro ⟨⟨e, he⟩, es, hes⟩
      exact ⟨_, e, es, he, hes, rfl⟩

theorem places_of_encodeAll (h : l.encodeAll tokens = .ok encoded) :
    encoded.map (·.place) = tokens.map (·.place) := by
  induction tokens generalizing encoded with
  | nil =>
    cases h
    rfl
  | cons t rest ih =>
    obtain ⟨e, es, he, hes, rfl⟩ := encodeAll_cons_eq_ok_iff.1 h
    obtain ⟨-, -, hline, hstart, -⟩ := encode_eq_ok_iff.1 he
    rw [List.map_cons, List.map_cons, ih hes, EncodedToken.place, hline, hstart, Token.place]

/-! ## Reports -/

/-- What is reported of a token that cannot be encoded. -/
inductive Reports (l : Legend) (t : Token) : String → Prop
  | unknownKind (hkind : l.kindIndex? t.kind.name = none) :
    Reports l t ("token type `" ++ t.kind.name ++ "` is not in the legend")
  | unknownModifier {m : Modifier} {pre rest : List Modifier}
      (hkind : ∃ i, l.kindIndex? t.kind.name = some i) (hsplit : t.modifiers = pre ++ m :: rest)
      (hpre : ∀ a ∈ pre, l.HasBit a) (hm : l.modifierIndex? m.name = none) :
    Reports l t ("token modifier `" ++ m.name ++ "` is not in the legend")
  | bitOutOfRange {m : Modifier} {pre rest : List Modifier} {i : UInt32}
      (hkind : ∃ i, l.kindIndex? t.kind.name = some i) (hsplit : t.modifiers = pre ++ m :: rest)
      (hpre : ∀ a ∈ pre, l.HasBit a) (hm : l.modifierIndex? m.name = some i) (hi : 32 ≤ i.toNat) :
    Reports l t "attempt to shift left with overflow"

/-- What is reported of a token that cannot be appended after the token ahead of it, if there is
one. -/
inductive WireReports (l : Legend) (ahead : Option Token) (t : Token) : String → Prop
  | encoding {text : String} (h : l.Reports t text) : WireReports l ahead t text
  | order {last : Token} (h : l.Encodes t) (hahead : ahead = some last)
      (hbefore : t.line < last.line ∨ t.line = last.line ∧ t.start < last.start) :
    WireReports l ahead t ("semantic tokens pushed out of order: " ++
      (toString t.line.toNat ++ ":" ++ toString t.start.toNat) ++ " after " ++
      (toString last.line.toNat ++ ":" ++ toString last.start.toNat))

theorem bit_eq_error_iff {i : Nat} {e : EncodeError} :
    bit i = .error e ↔ 32 ≤ i ∧ e = .bitOutOfRange := by
  unfold bit
  by_cases h : i < 32
  · simp [h]
  · simp [h, eq_comm, Nat.le_of_not_lt h]

/-- The first modifier that has no bit is the one that fails. -/
theorem addModifiers_eq_error {bits : UInt32} {ms : List Modifier} {e : EncodeError}
    (h : l.addModifiers bits ms = .error e) :
    ∃ pre m rest, ms = pre ++ m :: rest ∧ (∀ a ∈ pre, l.HasBit a) ∧
      l.encodeModifier m = .error e := by
  induction ms generalizing bits with
  | nil => cases h
  | cons m rest ih =>
    rw [addModifiers] at h
    cases hm : l.encodeModifier m with
    | error e' =>
      rw [hm] at h
      cases h
      exact ⟨[], m, rest, rfl, by simp, hm⟩
    | ok w =>
      rw [hm] at h
      obtain ⟨pre, m', rest', rfl, hpre, hm'⟩ := ih h
      refine ⟨m :: pre, m', rest', rfl, ?_, hm'⟩
      exact List.forall_mem_cons.2 ⟨exists_encodeModifier_iff_hasBit.1 ⟨w, hm⟩, hpre⟩

/-- **A token that is not encoded is reported.** -/
theorem reports_of_encode_eq_error {e : EncodeError} (h : l.encode t = .error e) :
    l.Reports t e.message := by
  rw [encode, encodeKind] at h
  cases hkind : l.kindIndex? t.kind.name with
  | none =>
    rw [hkind] at h
    cases h
    exact .unknownKind hkind
  | some k =>
    rw [hkind] at h
    cases hbits : l.encodeModifiers t.modifiers with
    | ok w =>
      rw [hbits] at h
      cases h
    | error e' =>
      rw [hbits] at h
      cases h
      obtain ⟨pre, m, rest, hsplit, hpre, hm⟩ := addModifiers_eq_error hbits
      rw [encodeModifier] at hm
      cases hindex : l.modifierIndex? m.name with
      | none =>
        rw [hindex] at hm
        cases hm
        exact .unknownModifier ⟨k, hkind⟩ hsplit hpre hindex
      | some i =>
        rw [hindex] at hm
        obtain ⟨hi, rfl⟩ := bit_eq_error_iff.1 hm
        exact .bitOutOfRange ⟨k, hkind⟩ hsplit hpre hindex hi

theorem reports_of_not_encodes (h : ¬ l.Encodes t) :
    ∃ e, l.encode t = .error e ∧ l.Reports t e.message := by
  cases he : l.encode t with
  | ok e => exact absurd (exists_encode_iff_encodes.1 ⟨e, he⟩) h
  | error e => exact ⟨e, rfl, reports_of_encode_eq_error he⟩

/-! ## The first fault -/

/-- Every token can be encoded, and they come in reading order. -/
structure Accepts (l : Legend) (tokens : List Token) : Prop where
  encodes : ∀ t ∈ tokens, l.Encodes t
  inOrder : InOrder (tokens.map (·.place))

theorem accepts_nil : l.Accepts [] := ⟨fun _ ht => absurd ht List.not_mem_nil, List.Pairwise.nil⟩

theorem accepts_concat_iff :
    l.Accepts (tokens ++ [t]) ↔ l.Accepts tokens ∧ l.Encodes t ∧
      ∀ last ∈ tokens.getLast?, last.place.le t.place = true := by
  have hplaces : InOrder ((tokens ++ [t]).map (·.place)) ↔ InOrder (tokens.map (·.place)) ∧
      ∀ last ∈ tokens.getLast?, last.place.le t.place = true := by
    rw [List.map_append, List.map_singleton, inOrder_concat_iff, List.getLast?_map]
    simp
  have hencodes : (∀ a ∈ tokens ++ [t], l.Encodes a) ↔ (∀ a ∈ tokens, l.Encodes a) ∧ l.Encodes t := by
    simp [or_imp, forall_and]
  constructor
  · rintro ⟨hall, horder⟩
    exact ⟨⟨(hencodes.1 hall).1, (hplaces.1 horder).1⟩, (hencodes.1 hall).2, (hplaces.1 horder).2⟩
  · rintro ⟨⟨hall, horder⟩, ht, hle⟩
    exact ⟨hencodes.2 ⟨hall, ht⟩, hplaces.2 ⟨horder, hle⟩⟩

/-- **Encoding and appending token by token** is the same as encoding all tokens and then appending
them, as long as both go well. -/
theorem wireFrom_append_of_push {d d' : DeltaList} (htokens : l.encodeAll tokens = .ok encoded)
    (hpush : encoded.foldlM DeltaList.push d = .ok d') (rest : List Token) :
    l.wireFrom d (tokens ++ rest) = l.wireFrom d' rest := by
  induction tokens generalizing d encoded with
  | nil =>
    cases htokens
    cases hpush
    rfl
  | cons t tokens ih =>
    obtain ⟨e, es, he, hes, rfl⟩ := encodeAll_cons_eq_ok_iff.1 htokens
    rw [List.foldlM_cons] at hpush
    cases hnext : d.push e with
    | error o =>
      rw [hnext] at hpush
      cases hpush
    | ok mid =>
      rw [hnext] at hpush
      rw [List.cons_append, wireFrom, he]
      simp only [Except.mapError, bind, Except.bind, hnext]
      exact ih hes hpush

/-- Accepted tokens are encoded and pushed without refusal. -/
theorem exists_holds_of_accepts (h : l.Accepts tokens) :
    ∃ encoded, l.encodeAll tokens = .ok encoded ∧
      encoded.map (·.place) = tokens.map (·.place) ∧
      encoded.foldlM DeltaList.push .empty = .ok (.pushAll encoded) ∧
      DeltaList.Holds (.pushAll encoded) encoded := by
  obtain ⟨encoded, hencoded⟩ := exists_encodeAll_iff.2 h.encodes
  have hplaces := places_of_encodeAll hencoded
  exact ⟨encoded, hencoded, hplaces, DeltaList.holds_of_inOrder (hplaces ▸ h.inOrder)⟩

/-- **The first token at fault is reported.** -/
theorem wire_eq_error_of_first {pre : List Token} (hpre : l.Accepts pre)
    (hfirst : ¬ l.Accepts (pre ++ [t])) (rest : List Token) :
    ∃ e, l.wire (pre ++ t :: rest) = .error e ∧ l.WireReports pre.getLast? t e.message := by
  obtain ⟨encoded, hencoded, hplaces, hpush, hholds⟩ := exists_holds_of_accepts hpre
  rw [wire, wireFrom_append_of_push hencoded hpush, wireFrom]
  by_cases ht : l.Encodes t
  · obtain ⟨enc, henc⟩ := exists_encode_iff_encodes.2 ht
    obtain ⟨-, -, hline, hstart, -⟩ := encode_eq_ok_iff.1 henc
    -- What remains to be at fault is the place of the token.
    obtain ⟨last, hlast, hle⟩ : ∃ last ∈ pre.getLast?, last.place.le t.place = false := by
      by_contra hall
      push Not at hall
      exact hfirst (accepts_concat_iff.2 ⟨hpre, ht, fun last hlast => by simpa using hall last hlast⟩)
    have hkept : encoded.getLast?.map (·.place) = some last.place := by
      rw [← List.getLast?_map, hplaces, List.getLast?_map, hlast, Option.map_some]
    obtain ⟨kept, hkept, hplace⟩ := Option.map_eq_some_iff.1 hkept
    have henc_place : enc.place = t.place := by rw [EncodedToken.place, hline, hstart, Token.place]
    have hrefused : DeltaList.push (.pushAll encoded) enc = .error ⟨t.place, last.place⟩ := by
      rw [hholds.push_of_before hkept (by rw [hplace, henc_place, hle]), henc_place, hplace]
    refine ⟨.order ⟨t.place, last.place⟩, ?_, .order ht hlast (Place.le_eq_false_iff.1 hle)⟩
    simp [henc, hrefused, Except.mapError, Except.map, bind, Except.bind]
  · obtain ⟨e, he, hreports⟩ := reports_of_not_encodes ht
    exact ⟨.encoding e, by rw [he]; rfl, .encoding hreports⟩

/-- Encoding alone reports the first token that cannot be encoded. -/
theorem encodeAll_eq_error_of_first {pre : List Token} {e : EncodeError}
    (hpre : ∀ a ∈ pre, l.Encodes a) (ht : l.encode t = .error e) (rest : List Token) :
    l.encodeAll (pre ++ t :: rest) = .error e := by
  induction pre with
  | nil =>
    rw [List.nil_append, encodeAll, List.mapM_cons, ht]
    rfl
  | cons a pre ih =>
    obtain ⟨ha, hpre⟩ := List.forall_mem_cons.1 hpre
    obtain ⟨enc, henc⟩ := exists_encode_iff_encodes.2 ha
    have htail := ih hpre
    rw [encodeAll] at htail
    rw [List.cons_append, encodeAll, List.mapM_cons, henc, htail]
    rfl

theorem exists_encodeAll_eq_error (h : ¬ ∀ t ∈ tokens, l.Encodes t) :
    ∃ pre t rest e, tokens = pre ++ t :: rest ∧ (∀ a ∈ pre, l.Encodes a) ∧
      l.encodeAll tokens = .error e ∧ l.Reports t e.message := by
  obtain ⟨pre, t, rest, rfl, hpre, hloss⟩ :=
    exists_first_loss (P := fun ts => ∀ t ∈ ts, l.Encodes t) (by simp) h
  have ht : ¬ l.Encodes t := fun ht => hloss (by simpa [or_imp, forall_and] using ⟨hpre, ht⟩)
  obtain ⟨e, he, hreports⟩ := reports_of_not_encodes ht
  exact ⟨pre, t, rest, e, rfl, hpre, encodeAll_eq_error_of_first hpre he rest, hreports⟩

/-- **The wire form and its faults.** If every token can be encoded and the tokens come in reading
order, then their wire form is what pushing the encoded tokens one after the other gives, with one
relative token for each. Otherwise the first token at fault is reported: the one ahead of which all
tokens are fine, with the first of its checks that fails. Encoding alone fails if and only if some
token cannot be encoded, and reports the first of these. -/
theorem wire_reports_first (l : Legend) (tokens : List Token) :
    (l.Accepts tokens → ∃ encoded d, l.encodeAll tokens = .ok encoded ∧
      encoded.foldlM DeltaList.push .empty = .ok d ∧ l.wire tokens = .ok d.toList ∧
      d.toList.length = tokens.length) ∧
    (¬ l.Accepts tokens → ∃ pre t rest e, tokens = pre ++ t :: rest ∧ l.Accepts pre ∧
      l.wire tokens = .error e ∧ l.WireReports pre.getLast? t e.message) ∧
    ((¬ ∀ t ∈ tokens, l.Encodes t) → ∃ pre t rest e, tokens = pre ++ t :: rest ∧
      (∀ a ∈ pre, l.Encodes a) ∧ l.encodeAll tokens = .error e ∧ l.Reports t e.message) ∧
    ((∀ t ∈ tokens, l.Encodes t) → ∃ encoded, l.encodeAll tokens = .ok encoded) := by
  refine ⟨fun h => ?_, fun h => ?_, exists_encodeAll_eq_error, exists_encodeAll_iff.2⟩
  · obtain ⟨encoded, hencoded, hplaces, hpush, hholds⟩ := exists_holds_of_accepts h
    refine ⟨encoded, _, hencoded, hpush, ?_, ?_⟩
    · have hwire := wireFrom_append_of_push hencoded hpush []
      rw [List.append_nil] at hwire
      rw [wire, hwire]
      rfl
    · have hlen := congrArg List.length hplaces
      rw [List.length_map, List.length_map] at hlen
      rw [hholds.data, length_deltasFrom, hlen]
  · obtain ⟨pre, t, rest, rfl, hpre, hloss⟩ := exists_first_loss accepts_nil h
    obtain ⟨e, he, hreports⟩ := wire_eq_error_of_first hpre hloss rest
    exact ⟨pre, t, rest, e, rfl, hpre, he, hreports⟩

/-- A token that comes too early, ahead of one whose kind is unknown. -/
theorem wire_reports_first_hiddenFault :
    let l := ofNames ["keyword", "comment"] ["static"]
    let fine : Token := ⟨3, 4, 1, .keyword, [.static]⟩
    let early : Token := ⟨3, 2, 1, .comment, []⟩
    let unknown : Token := ⟨5, 0, 1, .label, []⟩
    (l.Accepts [fine] ∧ ∃ d, l.wire [fine] = .ok d ∧ d.length = 1) ∧
    (¬ l.Accepts [fine, early, unknown] ∧ ∃ e, l.wire [fine, early, unknown] = .error e ∧
      e.message = "semantic tokens pushed out of order: 3:2 after 3:4") ∧
    (¬ ∀ t ∈ [fine, early, unknown], l.Encodes t) ∧
      ∃ e, l.encodeAll [fine, early, unknown] = .error e ∧
        e.message = "token type `label` is not in the legend" := by
  intro l fine early unknown
  have hfine : l.Accepts [fine] := by
    refine ⟨fun t ht => ?_, by decide⟩
    obtain rfl : t = fine := List.mem_singleton.1 ht
    refine ⟨⟨0, by decide⟩, fun m hm => ?_⟩
    obtain rfl : m = .static := List.mem_singleton.1 hm
    exact ⟨0, by decide, by decide⟩
  have hearly : ¬ l.Accepts [fine, early, unknown] := fun h => absurd h.inOrder (by decide)
  have hunknown : ¬ ∀ t ∈ [fine, early, unknown], l.Encodes t := by
    intro h
    obtain ⟨⟨i, hi⟩, -⟩ := h unknown (by simp)
    cases hi.symm.trans (show l.kindIndex? "label" = none by decide)
  obtain ⟨encoded, d, -, -, hwire, hlen⟩ := (wire_reports_first l [fine]).1 hfine
  obtain ⟨-, hfirst, hencode, -⟩ := wire_reports_first l [fine, early, unknown]
  obtain ⟨pre, t, rest, e, -, -, he, -⟩ := hfirst hearly
  obtain ⟨pre', t', rest', e', -, -, he', -⟩ := hencode hunknown
  refine ⟨⟨hfine, _, hwire, hlen⟩, ⟨hearly, e, he, ?_⟩, hunknown, e', he', ?_⟩
  · obtain rfl : WireError.order ⟨⟨3, 2⟩, ⟨3, 4⟩⟩ = e := Except.error.inj he
    decide
  · obtain rfl : EncodeError.unknownKind "label" = e' := Except.error.inj he'
    decide

end Legend

end CwebHighlight
