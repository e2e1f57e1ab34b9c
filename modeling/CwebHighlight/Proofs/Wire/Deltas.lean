import CwebHighlight.Delta
import Mathlib.Algebra.Group.Nat.Defs
import Mathlib.Data.List.Chain

/-!
# Relative positions and back

`deltasFrom p` lists what tokens look like on the wire, the first of them seen from the place `p`.

**Reading back.** Decoding from the same place gives the tokens again, in whatever order they come,
since differences and sums of words wrap around alike (`decodeDeltas_deltasFrom`).

**Without wrapping.** An editor adds without a bound. If no token comes before the one ahead of it,
then no sum leaves the 32 bits, so it makes no difference (`fits_deltasFrom`).

**Appending.** Tokens in reading order are appended without refusal, and what they add to the list
are their deltas (`wireFrom_append_of_encodeAll`). A token that cannot be encoded is reported if all
tokens ahead of it were appended.
-/

namespace CwebHighlight

/-! ## Places -/

namespace Place

/-- The place of a relative token, seen from `p`. -/
def move (p : Place) (d : DeltaToken) : Place :=
  ⟨p.line + d.deltaLine, if d.deltaLine = 0 then p.start + d.deltaStart else d.deltaStart⟩

theorem le_iff {a b : Place} :
    a.le b = true ↔ a.line < b.line ∨ a.line = b.line ∧ a.start ≤ b.start := by
  simp [le]

theorem origin_le (p : Place) : origin.le p = true := by
  rw [le_iff]
  by_cases hline : p.line = 0
  · exact Or.inr ⟨hline.symm, UInt32.zero_le⟩
  · exact Or.inl (UInt32.pos_iff_ne_zero.2 hline)

/-- Places in reading order can all be reached from the origin, one after the other. -/
theorem isChain_origin {ps : List Place} (h : ps.Pairwise fun a b => a.le b = true) :
    (origin :: ps).IsChain fun a b => a.le b = true :=
  (List.pairwise_cons.2 ⟨fun p _ => p.origin_le, h⟩).isChain

theorem move_relative (p : Place) (t : EncodedToken) :
    p.move (DeltaList.relative p t) = t.place := by
  have hline : p.line + (t.line - p.line) = t.line := by
    rw [UInt32.add_comm, UInt32.sub_add_cancel]
  have hstart : p.start + (t.start - p.start) = t.start := by
    rw [UInt32.add_comm, UInt32.sub_add_cancel]
  by_cases heq : t.line = p.line
  · simp [move, DeltaList.relative, EncodedToken.place, heq, hstart]
  · have hne : t.line - p.line ≠ 0 := by
      intro hzero
      rw [hzero, UInt32.add_zero] at hline
      exact heq hline.symm
    simp [move, DeltaList.relative, EncodedToken.place, heq, hne, hline]

end Place

/-! ## Reading back -/

/-- Tokens relative to the ones ahead of them, the first one relative to `p`. -/
def deltasFrom (p : Place) : List EncodedToken → List DeltaToken
  | [] => []
  | t :: rest => DeltaList.relative p t :: deltasFrom t.place rest

theorem decodeDeltas_cons (p : Place) (d : DeltaToken) (ds : List DeltaToken) :
    decodeDeltas p (d :: ds) =
      ⟨(p.move d).line, (p.move d).start, d.length, d.kindIndex, d.modifierBits⟩ ::
        decodeDeltas (p.move d) ds :=
  rfl

/-- **Decoding inverts encoding.** -/
theorem decodeDeltas_deltasFrom (p : Place) (ts : List EncodedToken) :
    decodeDeltas p (deltasFrom p ts) = ts := by
  induction ts generalizing p with
  | nil => rfl
  | cons t rest ih =>
    rw [deltasFrom, decodeDeltas_cons, Place.move_relative, ih]
    rfl

/-! ## Without wrapping -/

/-- No sum leaves the 32 bits when relative tokens are accumulated from `p`. -/
def Fits (p : Place) : List DeltaToken → Prop
  | [] => True
  | d :: rest =>
    p.line.toNat + d.deltaLine.toNat < 2 ^ 32 ∧
      (d.deltaLine = 0 → p.start.toNat + d.deltaStart.toNat < 2 ^ 32) ∧ Fits (p.move d) rest

theorem toNat_add_sub_lt {a b : UInt32} (h : a ≤ b) : a.toNat + (b - a).toNat < 2 ^ 32 := by
  rw [UInt32.toNat_sub_of_le _ _ h]
  have := UInt32.le_iff_toNat_le.1 h
  have := b.toNat_lt
  omega

/-- **Tokens in reading order fit**: every difference is a true one. -/
theorem fits_deltasFrom {p : Place} {ts : List EncodedToken}
    (h : (p :: ts.map (·.place)).IsChain fun a b => a.le b = true) : Fits p (deltasFrom p ts) := by
  induction ts generalizing p with
  | nil => trivial
  | cons t rest ih =>
    rw [List.map_cons, List.isChain_cons_cons] at h
    obtain ⟨hle, hrest⟩ := h
    rw [Place.le_iff] at hle
    refine ⟨?_, fun hzero => ?_, ?_⟩
    · refine toNat_add_sub_lt ?_
      rcases hle with hlt | ⟨heq, -⟩
      · exact UInt32.le_of_lt hlt
      · exact UInt32.le_of_eq heq
    · -- The line delta is 0 only for a token on the same line.
      have hline : t.line = p.line := by
        have hsum := UInt32.sub_add_cancel t.line p.line
        rw [show t.line - p.line = 0 from hzero, UInt32.zero_add] at hsum
        exact hsum.symm
      have hstart : p.start ≤ t.start := by
        rcases hle with hlt | ⟨-, hle⟩
        · exact absurd (hline ▸ hlt) (UInt32.lt_irrefl _)
        · exact hle
      show p.start.toNat + (if t.line = p.line then t.start - p.start else t.start).toNat < _
      rw [if_pos hline]
      exact toNat_add_sub_lt hstart
    · rw [Place.move_relative]
      exact ih hrest

/-! ## Appending -/

namespace DeltaList

/-- A list with one more token at its end. -/
def extend (d : DeltaList) (t : EncodedToken) : DeltaList :=
  ⟨d.data.push (relative d.last t), t.place⟩

theorem push_of_le {d : DeltaList} {t : EncodedToken} (h : d.last.le t.place = true) :
    d.push t = .ok (d.extend t) := by
  rw [push, h, Bool.or_true, if_pos rfl]
  rfl

theorem toList_foldl_extend (d : DeltaList) (ts : List EncodedToken) :
    (ts.foldl extend d).toList = d.toList ++ deltasFrom d.last ts := by
  induction ts generalizing d with
  | nil => rw [List.foldl_nil, deltasFrom, List.append_nil]
  | cons t rest ih =>
    rw [List.foldl_cons, ih, deltasFrom, List.append_cons]
    simp [toList, extend]

end DeltaList

namespace Legend

theorem encodeAll_cons_eq_ok_iff {l : Legend} {t : Token} {tokens : List Token}
    {encoded : List EncodedToken} :
    l.encodeAll (t :: tokens) = .ok encoded ↔
      ∃ e es, l.encode t = .ok e ∧ l.encodeAll tokens = .ok es ∧ encoded = e :: es := by
  rw [encodeAll, List.mapM_cons]
  cases l.encode t with
  | error e => simp [bind, Except.bind]
  | ok e =>
    cases htokens : tokens.mapM l.encode with
    | error e' => simp [bind, Except.bind, encodeAll, htokens]
    | ok es => simp [bind, Except.bind, pure, Except.pure, encodeAll, htokens, eq_comm]

theorem wireFrom_cons_of_encode {l : Legend} {d : DeltaList} {t : Token} {e : EncodedToken}
    (ht : l.encode t = .ok e) (hle : d.last.le e.place = true) (rest : List Token) :
    l.wireFrom d (t :: rest) = l.wireFrom (d.extend e) rest := by
  rw [wireFrom, ht]
  simp [Except.mapError, bind, Except.bind, DeltaList.push_of_le hle]

/-- Tokens that are encoded in reading order are appended without refusal. -/
theorem wireFrom_append_of_encodeAll {l : Legend} {d : DeltaList} {tokens : List Token}
    {encoded : List EncodedToken} (htokens : l.encodeAll tokens = .ok encoded)
    (horder : (d.last :: encoded.map (·.place)).IsChain fun a b => a.le b = true)
    (rest : List Token) :
    l.wireFrom d (tokens ++ rest) = l.wireFrom (encoded.foldl .extend d) rest := by
  induction tokens generalizing d encoded with
  | nil =>
    cases htokens
    rfl
  | cons t tokens ih =>
    obtain ⟨e, es, ht, hes, rfl⟩ := encodeAll_cons_eq_ok_iff.1 htokens
    rw [List.map_cons, List.isChain_cons_cons] at horder
    rw [List.cons_append, wireFrom_cons_of_encode ht horder.1, ih hes horder.2, List.foldl_cons]

/-- **The wire form of tokens in reading order.** -/
theorem wire_of_encodeAll {l : Legend} {tokens : List Token} {encoded : List EncodedToken}
    (htokens : l.encodeAll tokens = .ok encoded)
    (horder : (encoded.map (·.place)).Pairwise fun a b => a.le b = true) :
    l.wire tokens = .ok (deltasFrom .origin encoded) := by
  have hwire := wireFrom_append_of_encodeAll (d := .empty) htokens (Place.isChain_origin horder) []
  rw [List.append_nil] at hwire
  rw [wire, hwire, wireFrom, Except.map, DeltaList.toList_foldl_extend]
  rfl

/-- The first token that cannot be encoded is reported, if the tokens ahead of it come in reading
order. -/
theorem wire_of_encode_error {l : Legend} {pre : List Token} {encoded : List EncodedToken}
    {t : Token} {e : EncodeError} (hpre : l.encodeAll pre = .ok encoded)
    (horder : (encoded.map (·.place)).Pairwise fun a b => a.le b = true)
    (ht : l.encode t = .error e) (rest : List Token) :
    l.wire (pre ++ t :: rest) = .error (.encoding e) := by
  have hwire := wireFrom_append_of_encodeAll (d := .empty) hpre (Place.isChain_origin horder)
    (t :: rest)
  rw [wire, hwire, wireFrom, ht]
  rfl

end Legend

end CwebHighlight
