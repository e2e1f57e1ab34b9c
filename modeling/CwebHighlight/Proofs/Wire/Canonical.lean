import CwebHighlight.Proofs.Wire.Pushes
import Mathlib.Data.Set.Function

/-!
# One wire form for each list of tokens

A list of relative tokens leads to places that are added up from the origin (`accumulated`), here
without a bound. If all of them fit into 32 bits (`NoOverflow`), then they come in reading order, and
pushing the tokens that stand there gives the relative tokens again.

**No second form.** Decoding and taking differences undo each other on all lists
(`decodeDeltas_deltasFrom`, `deltasFrom_decodeDeltas`), since words wrap around. What makes the
lists that are decoded in order special is that a push refuses none of their tokens.

**Bounded and unbounded sums.** A sum of words is the true sum as long as none before it has left
the 32 bits (`fits_iff_accumulated`).

Main result: `push_canonical`.
-/

namespace CwebHighlight

/-! ## Sums without a bound -/

/-- The lines and columns that relative tokens lead to, from a line and a column on. -/
def accumulated (line start : Nat) : List DeltaToken → List (Nat × Nat)
  | [] => []
  | d :: rest =>
    let line' := line + d.deltaLine.toNat
    let start' := if d.deltaLine = 0 then start + d.deltaStart.toNat else d.deltaStart.toNat
    (line', start') :: accumulated line' start' rest

/-- All lines and columns fit into 32 bits. -/
def NoOverflow (ds : List DeltaToken) : Prop :=
  ∀ q ∈ accumulated 0 0 ds, q.1 < 2 ^ 32 ∧ q.2 < 2 ^ 32

instance (ds : List DeltaToken) : Decidable (NoOverflow ds) :=
  inferInstanceAs (Decidable (∀ q ∈ accumulated 0 0 ds, _))

variable {p : Place} {d : DeltaToken} {ds : List DeltaToken}

/-- The sums of one relative token are true sums if they fit. -/
theorem toNat_move (hline : p.line.toNat + d.deltaLine.toNat < 2 ^ 32)
    (hstart : d.deltaLine = 0 → p.start.toNat + d.deltaStart.toNat < 2 ^ 32) :
    (p.move d).line.toNat = p.line.toNat + d.deltaLine.toNat ∧
      (p.move d).start.toNat =
        if d.deltaLine = 0 then p.start.toNat + d.deltaStart.toNat else d.deltaStart.toNat := by
  refine ⟨?_, ?_⟩
  · rw [Place.move, UInt32.toNat_add, Nat.mod_eq_of_lt hline]
  · rw [Place.move]
    split
    · next hzero => rw [UInt32.toNat_add, Nat.mod_eq_of_lt (hstart hzero)]
    · rfl

/-- **Words do not wrap around** if and only if no unbounded sum leaves the 32 bits. -/
theorem fits_iff_accumulated (p : Place) (ds : List DeltaToken) :
    Fits p ds ↔
      ∀ q ∈ accumulated p.line.toNat p.start.toNat ds, q.1 < 2 ^ 32 ∧ q.2 < 2 ^ 32 := by
  induction ds generalizing p with
  | nil => simp [Fits, accumulated]
  | cons d rest ih =>
    -- On a new line the column is a word and fits by itself.
    have hword := d.deltaStart.toNat_lt
    have hfirst : (p.line.toNat + d.deltaLine.toNat < 2 ^ 32 ∧
        (if d.deltaLine = 0 then p.start.toNat + d.deltaStart.toNat else d.deltaStart.toNat) <
          2 ^ 32) ↔
        p.line.toNat + d.deltaLine.toNat < 2 ^ 32 ∧
          (d.deltaLine = 0 → p.start.toNat + d.deltaStart.toNat < 2 ^ 32) := by
      by_cases hzero : d.deltaLine = 0 <;> simp [hzero, hword]
    rw [Fits, accumulated, List.forall_mem_cons, hfirst, and_assoc]
    refine and_congr_right fun hline => and_congr_right fun hstart => ?_
    obtain ⟨hline', hstart'⟩ := toNat_move hline hstart
    rw [ih, hline', hstart']

theorem noOverflow_iff_fits : NoOverflow ds ↔ Fits .origin ds :=
  (fits_iff_accumulated .origin ds).symm

/-- Decoded tokens stand at the accumulated places. -/
theorem places_decodeDeltas (h : Fits p ds) :
    (decodeDeltas p ds).map (fun t => (t.line.toNat, t.start.toNat)) =
      accumulated p.line.toNat p.start.toNat ds := by
  induction ds generalizing p with
  | nil => rfl
  | cons d rest ih =>
    obtain ⟨hline, hstart, hrest⟩ := h
    obtain ⟨hline', hstart'⟩ := toNat_move hline hstart
    rw [decodeDeltas_cons, List.map_cons, ih hrest, accumulated, hline', hstart']

/-! ## Back to relative tokens -/

theorem relative_move (p : Place) (d : DeltaToken) :
    DeltaList.relative p ⟨(p.move d).line, (p.move d).start, d.length, d.kindIndex,
      d.modifierBits⟩ = d := by
  have hline : p.line + d.deltaLine - p.line = d.deltaLine := by
    rw [UInt32.add_comm, UInt32.add_sub_cancel]
  have hstart : p.start + d.deltaStart - p.start = d.deltaStart := by
    rw [UInt32.add_comm, UInt32.add_sub_cancel]
  have hsame : p.line + d.deltaLine = p.line ↔ d.deltaLine = 0 := by
    constructor
    · intro heq
      rw [← hline, heq, UInt32.sub_self]
    · intro hzero
      rw [hzero, UInt32.add_zero]
  obtain ⟨deltaLine, deltaStart, length, kindIndex, modifierBits⟩ := d
  by_cases hzero : deltaLine = 0
  · simp_all [DeltaList.relative, Place.move]
  · simp_all [DeltaList.relative, Place.move]

/-- **Encoding inverts decoding**, in whatever order the tokens come. -/
theorem deltasFrom_decodeDeltas (p : Place) (ds : List DeltaToken) :
    deltasFrom p (decodeDeltas p ds) = ds := by
  induction ds generalizing p with
  | nil => rfl
  | cons d rest ih =>
    rw [decodeDeltas_cons, deltasFrom, relative_move]
    exact congrArg (d :: ·) (ih _)

/-! ## Reading order -/

/-- The places come in reading order. -/
def InOrder (ps : List Place) : Prop :=
  ps.Pairwise fun a b => a.line < b.line ∨ a.line = b.line ∧ a.start ≤ b.start

instance (ps : List Place) : Decidable (InOrder ps) := inferInstanceAs (Decidable (ps.Pairwise _))

theorem inOrder_iff {ps : List Place} : InOrder ps ↔ ps.Pairwise fun a b => a.le b = true :=
  List.Pairwise.iff fun {_ _} => Place.le_iff.symm

theorem Place.le_trans {a b c : Place} (hab : a.le b = true) (hbc : b.le c = true) :
    a.le c = true := by
  rw [le_iff] at hab hbc ⊢
  simp only [UInt32.lt_iff_toNat_lt, UInt32.le_iff_toNat_le, ← UInt32.toNat_inj] at hab hbc ⊢
  omega

theorem Place.le_eq_false_iff {a b : Place} :
    a.le b = false ↔ b.line < a.line ∨ b.line = a.line ∧ b.start < a.start := by
  rw [← Bool.not_eq_true, le_iff]
  simp only [UInt32.lt_iff_toNat_lt, UInt32.le_iff_toNat_le, ← UInt32.toNat_inj]
  omega

/-- One more place keeps the order if it does not come before the last one. -/
theorem inOrder_concat_iff {ps : List Place} {p : Place} :
    InOrder (ps ++ [p]) ↔ InOrder ps ∧ ∀ last ∈ ps.getLast?, last.le p = true := by
  rw [inOrder_iff, inOrder_iff, List.pairwise_append]
  constructor
  · rintro ⟨hps, -, hp⟩
    exact ⟨hps, fun last hlast => hp last (List.mem_of_getLast? hlast) p List.mem_cons_self⟩
  · rintro ⟨hps, hp⟩
    refine ⟨hps, List.pairwise_singleton _ _, fun a ha b hb => ?_⟩
    obtain rfl : b = p := List.mem_singleton.1 hb
    rcases List.eq_nil_or_concat' ps with rfl | ⟨before, last, rfl⟩
    · exact absurd ha List.not_mem_nil
    · have hlast := hp last (by simp)
      rcases List.mem_append.1 ha with ha | ha
      · have hle := (List.pairwise_append.1 hps).2.2 a ha last List.mem_cons_self
        exact Place.le_trans hle hlast
      · rwa [List.mem_singleton.1 ha]

theorem le_move (hline : p.line.toNat + d.deltaLine.toNat < 2 ^ 32)
    (hstart : d.deltaLine = 0 → p.start.toNat + d.deltaStart.toNat < 2 ^ 32) :
    p.le (p.move d) = true := by
  obtain ⟨hline', hstart'⟩ := toNat_move hline hstart
  rw [Place.le_iff, UInt32.lt_iff_toNat_lt, UInt32.le_iff_toNat_le, ← UInt32.toNat_inj, hline',
    hstart']
  by_cases hzero : d.deltaLine = 0
  · refine Or.inr ⟨by simp [hzero], ?_⟩
    rw [if_pos hzero]
    exact Nat.le_add_right _ _
  · have hpos : d.deltaLine.toNat ≠ 0 := fun h => hzero (UInt32.toNat_inj.1 h)
    omega

/-- No token that is decoded from a place on comes before it. -/
theorem le_of_mem_decodeDeltas (h : Fits p ds) {t : EncodedToken} (ht : t ∈ decodeDeltas p ds) :
    p.le t.place = true := by
  induction ds generalizing p with
  | nil => exact absurd ht List.not_mem_nil
  | cons d rest ih =>
    obtain ⟨hline, hstart, hrest⟩ := h
    have hfirst := le_move hline hstart
    rw [decodeDeltas_cons, List.mem_cons] at ht
    rcases ht with rfl | ht
    · exact hfirst
    · exact Place.le_trans hfirst (ih hrest ht)

/-- **Decoded tokens come in reading order.** -/
theorem inOrder_decodeDeltas (h : Fits p ds) :
    InOrder ((decodeDeltas p ds).map (·.place)) := by
  induction ds generalizing p with
  | nil => exact List.Pairwise.nil
  | cons d rest ih =>
    obtain ⟨-, -, hrest⟩ := h
    rw [decodeDeltas_cons, List.map_cons]
    refine List.pairwise_cons.2 ⟨fun q hq => ?_, ih hrest⟩
    obtain ⟨t, ht, rfl⟩ := List.mem_map.1 hq
    exact Place.le_iff.1 (le_of_mem_decodeDeltas hrest ht)

/-! ## Pushing in order -/

namespace DeltaList

variable {ts : List EncodedToken}

/-- **Tokens in reading order** are pushed without refusal, and the list holds all of them. -/
theorem holds_of_inOrder (h : InOrder (ts.map (·.place))) :
    ts.foldlM push .empty = .ok (pushAll ts) ∧ Holds (pushAll ts) ts := by
  induction ts using List.reverseRecOn with
  | nil => exact ⟨rfl, holds_empty⟩
  | append_singleton ts t ih =>
    rw [List.map_append, List.map_singleton, inOrder_concat_iff, List.getLast?_map] at h
    obtain ⟨hts, ht⟩ := h
    obtain ⟨hall, hholds⟩ := ih hts
    have hnot : ∀ last ∈ ts.getLast?, t.NotBefore last :=
      fun last hlast => Place.le_iff.1 (ht last.place (Option.mem_map_of_mem _ hlast))
    have hpush := hholds.push_of_accepts hnot
    have hnext : pushAll (ts ++ [t]) = (pushAll ts).extend t := by
      rw [pushAll_concat, attempt, hpush]
    rw [hnext]
    refine ⟨?_, hholds.extend hnot⟩
    rw [List.foldlM_append, hall]
    show [t].foldlM push (pushAll ts) = _
    rw [List.foldlM_cons, hpush]
    rfl

/-- **Every list of relative tokens is canonical.** If no sum leaves the 32 bits, then the tokens
that stand at the sums are pushed without refusal and give the list again. So pushing is a bijection
between the lists of tokens in reading order and the lists of relative tokens without overflow. -/
theorem push_canonical :
    (∀ ds : List DeltaToken, NoOverflow ds →
      let ts := decodeDeltas .origin ds
      ts.map (fun t => (t.line.toNat, t.start.toNat)) = accumulated 0 0 ds ∧
        ∃ l, ts.foldlM push .empty = .ok l ∧ l.toList = ds) ∧
    (∀ ts : List EncodedToken, InOrder (ts.map (·.place)) →
      ts.foldlM push .empty = .ok (pushAll ts)) ∧
    Set.BijOn (fun ts => (pushAll ts).toList) {ts | InOrder (ts.map (·.place))}
      {ds | NoOverflow ds} := by
  have hinOrder : ∀ ds, NoOverflow ds → InOrder ((decodeDeltas .origin ds).map (·.place)) :=
    fun ds hds => inOrder_decodeDeltas (noOverflow_iff_fits.1 hds)
  have hagain : ∀ ds, NoOverflow ds → (pushAll (decodeDeltas .origin ds)).toList = ds := by
    intro ds hds
    rw [(holds_of_inOrder (hinOrder ds hds)).2.data, deltasFrom_decodeDeltas]
  refine ⟨fun ds hds => ⟨?_, ?_⟩, fun ts hts => (holds_of_inOrder hts).1, ?_⟩
  · exact places_decodeDeltas (noOverflow_iff_fits.1 hds)
  · exact ⟨_, (holds_of_inOrder (hinOrder ds hds)).1, hagain ds hds⟩
  · have hinverse : Set.InvOn (decodeDeltas .origin) (fun ts => (pushAll ts).toList)
        {ts | InOrder (ts.map (·.place))} {ds | NoOverflow ds} :=
      ⟨fun ts hts => (holds_of_inOrder hts).2.decode_eq, hagain⟩
    refine hinverse.bijOn (fun ts hts => ?_) hinOrder
    exact noOverflow_iff_fits.2 (holds_of_inOrder hts).2.fits

/-- Tokens that share a place, one of them the last place of all. -/
theorem push_canonical_lastPlace :
    let ds : List DeltaToken := [⟨0, 0, 1, 4, 0⟩, ⟨0, 0, 2, 5, 1⟩,
      ⟨4294967295, 4294967290, 7, 0, 0⟩, ⟨0, 5, 3, 0, 2⟩, ⟨0, 0, 0, 4, 0⟩]
    NoOverflow ds ∧
      accumulated 0 0 ds = [(0, 0), (0, 0), (4294967295, 4294967290), (4294967295, 4294967295),
        (4294967295, 4294967295)] ∧
      ∃ l, (decodeDeltas .origin ds).foldlM push .empty = .ok l ∧ l.toList = ds := by
  intro ds
  have hds : NoOverflow ds := by decide
  exact ⟨hds, by decide, (push_canonical.1 ds hds).2⟩

end DeltaList

end CwebHighlight
