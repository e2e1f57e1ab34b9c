import CwebHighlight.Proofs.Legend.Lookup
import CwebHighlight.Proofs.Scan.Reading
import CwebHighlight.Proofs.Wire.Deltas

/-!
# What an editor reads

An editor gets the relative tokens of a document and the published name lists. From the first it
accumulates positions, and in the second it looks up the indices (`Published.shows`). What it shows
are the tokens of the scan, if the legend has the names of their kinds.

**Encoding.** The tokens of a scan have no modifiers, so only the name of a kind can be missing
(`encode_of_unknown`). A name that occurs more than once in the legend is read back all the same,
since each of its indices leads to it.

**Order.** A scan gives its tokens by increasing lines, whatever cuts it. So no token is refused,
and no sum of relative positions leaves the 32 bits.

Main result: `highlight_roundtrip`.
-/

namespace CwebHighlight

/-! ## What is shown -/

/-- A token as an editor shows it; the name is missing if the index is beyond the published list. -/
structure ShownToken where
  line : UInt32
  start : UInt32
  length : UInt32
  name : Option String
  modifierBits : UInt32
  deriving DecidableEq, Repr

/-- An encoded token, read by the published lists. -/
def Legend.Published.shows (p : Legend.Published) (t : EncodedToken) : ShownToken :=
  ⟨t.line, t.start, t.length, p.kinds[t.kindIndex.toNat]?, t.modifierBits⟩

namespace Token

/-- How a token without modifiers is to be shown. -/
def shown (t : Token) : ShownToken := ⟨t.line, t.start, t.length, some t.kind.name, 0⟩

def place (t : Token) : Place := ⟨t.line, t.start⟩

end Token

theorem pairwise_place_classify {text : List Char} (hlines : (splitLines text).length ≤ 2 ^ 32)
    (signal : Signal) :
    ((classify text signal).map (·.place)).Pairwise fun a b => a.le b = true := by
  rw [List.pairwise_map]
  refine (pairwise_classify hlines signal).imp fun hlt => ?_
  exact Place.le_iff.2 (Or.inl hlt)

/-! ## Encoding against a legend of names -/

namespace Legend

variable {kinds : List String} {t : Token} {tokens : List Token}

theorem encode_of_known (hkinds : kinds.length ≤ 2 ^ 32) (modifiers : List String)
    (hplain : t.modifiers = []) (hknown : t.kind.name ∈ kinds) :
    ∃ e, (ofNames kinds modifiers).encode t = .ok e ∧ e.place = t.place ∧
      (ofNames kinds modifiers).published.shows e = t.shown := by
  cases hindex : (indexNames kinds).find? t.kind.name with
  | none => exact absurd hknown (find?_indexNames_eq_none_iff.1 hindex)
  | some k =>
    obtain ⟨hname, -⟩ := (find?_indexNames_eq_some_iff hkinds).1 hindex
    have hkind : (ofNames kinds modifiers).encodeKind t.kind = .ok k := by
      rw [encodeKind, kindIndex?, ofNames, hindex]
    refine ⟨⟨t.line, t.start, t.length, k, 0⟩, ?_, rfl, ?_⟩
    · rw [encode, hkind, hplain]
      rfl
    · rw [Published.shows, Token.shown, published, ofNames, hname]

theorem encode_of_unknown (modifiers : List String) (hunknown : t.kind.name ∉ kinds) :
    (ofNames kinds modifiers).encode t = .error (.unknownKind t.kind.name) := by
  have hkind : (ofNames kinds modifiers).encodeKind t.kind = .error (.unknownKind t.kind.name) := by
    rw [encodeKind, kindIndex?, ofNames, find?_indexNames_eq_none_iff.2 hunknown]
  rw [encode, hkind]
  rfl

theorem encodeAll_of_known (hkinds : kinds.length ≤ 2 ^ 32) (modifiers : List String)
    (hplain : ∀ t ∈ tokens, t.modifiers = []) (hknown : ∀ t ∈ tokens, t.kind.name ∈ kinds) :
    ∃ encoded, (ofNames kinds modifiers).encodeAll tokens = .ok encoded ∧
      encoded.map (·.place) = tokens.map (·.place) ∧
      encoded.map (ofNames kinds modifiers).published.shows = tokens.map (·.shown) := by
  induction tokens with
  | nil => exact ⟨[], rfl, rfl, rfl⟩
  | cons t tokens ih =>
    rw [List.forall_mem_cons] at hplain hknown
    obtain ⟨e, he, hplace, hshown⟩ := encode_of_known hkinds modifiers hplain.1 hknown.1
    obtain ⟨es, hes, hplaces, hshowns⟩ := ih hplain.2 hknown.2
    refine ⟨e :: es, encodeAll_cons_eq_ok_iff.2 ⟨e, es, he, hes, rfl⟩, ?_, ?_⟩
    · rw [List.map_cons, List.map_cons, hplace, hplaces]
    · rw [List.map_cons, List.map_cons, hshown, hshowns]

/-! ## A document on the wire -/

variable {text : List Char}

theorem highlight_of_known (hkinds : kinds.length ≤ 2 ^ 32) (modifiers : List String)
    (hlines : (splitLines text).length ≤ 2 ^ 32) (signal : Signal)
    (hknown : ∀ t ∈ classify text signal, t.kind.name ∈ kinds) :
    ∃ data, (ofNames kinds modifiers).highlight text signal = .ok data ∧ Fits .origin data ∧
      (decodeDeltas .origin data).map (ofNames kinds modifiers).published.shows =
        (classify text signal).map (·.shown) := by
  obtain ⟨encoded, hencoded, hplaces, hshown⟩ :=
    encodeAll_of_known hkinds modifiers (fun _ => modifiers_of_mem_classify) hknown
  have horder := pairwise_place_classify hlines signal
  rw [← hplaces] at horder
  refine ⟨deltasFrom .origin encoded, wire_of_encodeAll hencoded horder,
    fits_deltasFrom (Place.isChain_origin horder), ?_⟩
  rw [decodeDeltas_deltasFrom, hshown]

/-- The first token with an unknown name comes after tokens that are encoded and in order. -/
theorem highlight_of_unknown (hkinds : kinds.length ≤ 2 ^ 32) (modifiers : List String)
    (hlines : (splitLines text).length ≤ 2 ^ 32) (signal : Signal)
    (hfirst : (classify text signal).find? (·.kind.name ∉ kinds) = some t) :
    (ofNames kinds modifiers).highlight text signal =
      .error (.encoding (.unknownKind t.kind.name)) := by
  obtain ⟨hunknown, pre, rest, hsplit, hpre⟩ := List.find?_eq_some_iff_append.1 hfirst
  have hunknown : t.kind.name ∉ kinds := by simpa using hunknown
  have hknown : ∀ a ∈ pre, a.kind.name ∈ kinds := fun a ha => by simpa using hpre a ha
  have hplain : ∀ a ∈ pre, a.modifiers = [] := by
    intro a ha
    have hmem : a ∈ classify text signal := by
      rw [hsplit]
      exact List.mem_append_left _ ha
    exact modifiers_of_mem_classify hmem
  obtain ⟨encoded, hencoded, hplaces, -⟩ := encodeAll_of_known hkinds modifiers hplain hknown
  have horder := pairwise_place_classify hlines signal
  rw [hsplit, List.map_append, List.pairwise_append, ← hplaces] at horder
  rw [highlight, hsplit]
  exact wire_of_encode_error hencoded horder.1 (encode_of_unknown modifiers hunknown) rest

/-- **A document reaches the editor.** If the legend has the names of all kinds in the scan, then
the editor shows the tokens of the scan. Otherwise the first missing name is reported. There is no
other error, and none at all under the standard legend. -/
theorem highlight_roundtrip (kinds modifiers : List String) (hkinds : kinds.length < 2 ^ 32)
    (text : List Char) (hlines : (splitLines text).length < 2 ^ 32) (signal : Signal) :
    let l := ofNames kinds modifiers
    ((∀ t ∈ classify text signal, t.kind.name ∈ kinds) →
      ∃ data, l.highlight text signal = .ok data ∧ Fits .origin data ∧
        (decodeDeltas .origin data).map l.published.shows =
          (classify text signal).map (·.shown)) ∧
    (∀ t, (classify text signal).find? (·.kind.name ∉ kinds) = some t →
      ∃ e, l.highlight text signal = .error e ∧
        e.message = "token type `" ++ t.kind.name ++ "` is not in the legend") ∧
    (∀ e, l.highlight text signal = .error e → ∃ name, e = .encoding (.unknownKind name)) ∧
    ∃ data, standard.highlight text signal = .ok data := by
  intro l
  have hkinds : kinds.length ≤ 2 ^ 32 := Nat.le_of_lt hkinds
  have hlines : (splitLines text).length ≤ 2 ^ 32 := Nat.le_of_lt hlines
  refine ⟨highlight_of_known hkinds modifiers hlines signal, ?_, ?_, ?_⟩
  · intro t ht
    exact ⟨_, highlight_of_unknown hkinds modifiers hlines signal ht, rfl⟩
  · intro e he
    cases hfirst : (classify text signal).find? (·.kind.name ∉ kinds) with
    | some t =>
      rw [highlight_of_unknown hkinds modifiers hlines signal hfirst] at he
      exact ⟨_, (Except.error.inj he).symm⟩
    | none =>
      have hknown : ∀ t ∈ classify text signal, t.kind.name ∈ kinds := by
        simpa [List.find?_eq_none] using hfirst
      obtain ⟨data, hdata, -⟩ := highlight_of_known hkinds modifiers hlines signal hknown
      rw [hdata] at he
      cases he
  · have hall : ∀ t ∈ classify text signal, t.kind.name ∈ TokenKind.all.map (·.name) :=
      fun t _ => List.mem_map_of_mem t.kind.mem_all
    obtain ⟨data, hdata, -⟩ :=
      highlight_of_known (by decide) (Modifier.all.map (·.name)) hlines signal hall
    exact ⟨data, hdata⟩

/-- A legend that has one name twice and lacks another: it shows the scan that is cut ahead of the
comment, and refuses the whole scan. -/
theorem highlight_roundtrip_repeatedName :
    let kinds := ["macro", "keyword", "keyword"]
    let text := ['@', '*', 'A', '.', '\n', '@', 'c', '\n', '@', ' ', '\n', '%']
    kinds.length < 2 ^ 32 ∧ (splitLines text).length < 2 ^ 32 ∧
      (∃ data, (ofNames kinds []).highlight text (.after 4) = .ok data ∧
        (decodeDeltas .origin data).map (ofNames kinds []).published.shows =
          [⟨0, 0, 3, some "keyword", 0⟩, ⟨1, 0, 2, some "keyword", 0⟩,
            ⟨2, 0, 1, some "keyword", 0⟩]) ∧
      ∃ e, (ofNames kinds []).highlight text .never = .error e ∧
        e.message = "token type `comment` is not in the legend" := by
  intro kinds text
  have hkinds : kinds.length < 2 ^ 32 := by decide
  have hlines : (splitLines text).length < 2 ^ 32 := by decide
  have hscan : classify text (.after 4) =
      [⟨0, 0, 3, .keyword, []⟩, ⟨1, 0, 2, .keyword, []⟩, ⟨2, 0, 1, .keyword, []⟩] := by decide
  have hfirst : (classify text .never).find? (·.kind.name ∉ kinds) =
      some ⟨3, 0, 1, .comment, []⟩ := by decide
  obtain ⟨hknown, -⟩ := highlight_roundtrip kinds [] hkinds text hlines (.after 4)
  obtain ⟨data, hdata, -, hshown⟩ := hknown (by decide)
  rw [hscan] at hshown
  exact ⟨hkinds, hlines, ⟨data, hdata, hshown⟩,
    (highlight_roundtrip kinds [] hkinds text hlines .never).2.1 _ hfirst⟩

end Legend

end CwebHighlight
