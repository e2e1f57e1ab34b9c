import CwebHighlight.Proofs.Wire.Deltas
import Mathlib.Data.List.Induction

/-!
# Pushing tokens in any order

Tokens are pushed one after the other, and some of them come before the token ahead of them. Such a
push is refused and leaves the list as it is, and the next one is measured against the last token
that was accepted (`accepted`), not against the refused one.

**The invariant** (`Holds`). A list of relative tokens holds the accepted tokens: its data are their
deltas, it remembers the place of the last of them, and they stand in reading order. One push keeps
it, whether it is accepted or refused (`Holds.attempt`), so it is true after all pushes
(`holds_pushAll`).

Main result: `decode_pushAll`. A refused push can thus not spoil the tokens after it: decoding gives
back the accepted tokens, and no sum of deltas leaves the 32 bits.
-/

namespace CwebHighlight

/-- The token does not come before another one in reading order. -/
def EncodedToken.NotBefore (t last : EncodedToken) : Prop :=
  last.line < t.line ∨ last.line = t.line ∧ last.start ≤ t.start

instance (t last : EncodedToken) : Decidable (t.NotBefore last) :=
  inferInstanceAs (Decidable (_ ∨ _))

/-- One more token after those that were accepted. -/
def accept (kept : List EncodedToken) (t : EncodedToken) : List EncodedToken :=
  if ∀ last ∈ kept.getLast?, t.NotBefore last then kept ++ [t] else kept

/-- The tokens that are accepted of tokens that are pushed one after the other: the first one, and
every later one that does not come before the last accepted one. -/
def accepted (ts : List EncodedToken) : List EncodedToken := ts.foldl accept []

theorem accepted_concat (ts : List EncodedToken) (t : EncodedToken) :
    accepted (ts ++ [t]) = accept (accepted ts) t :=
  List.foldl_concat ..

theorem deltasFrom_concat (p : Place) (ts : List EncodedToken) (t : EncodedToken) :
    deltasFrom p (ts ++ [t]) = deltasFrom p ts ++
      [DeltaList.relative ((ts.getLast?.map (·.place)).getD p) t] := by
  induction ts generalizing p with
  | nil => rfl
  | cons s rest ih =>
    rw [List.cons_append, deltasFrom, deltasFrom, ih, List.cons_append, List.getLast?_cons]
    cases rest.getLast? <;> rfl

theorem length_deltasFrom (p : Place) (ts : List EncodedToken) :
    (deltasFrom p ts).length = ts.length := by
  induction ts generalizing p with
  | nil => rfl
  | cons t rest ih => rw [deltasFrom, List.length_cons, List.length_cons, ih]

namespace DeltaList

/-- What a push leaves behind: a refused one leaves the list as it is. -/
def attempt (d : DeltaList) (t : EncodedToken) : DeltaList :=
  match d.push t with
  | .ok d' => d'
  | .error _ => d

/-- The list after pushing tokens one after the other. -/
def pushAll (ts : List EncodedToken) : DeltaList := ts.foldl attempt .empty

theorem pushAll_concat (ts : List EncodedToken) (t : EncodedToken) :
    pushAll (ts ++ [t]) = (pushAll ts).attempt t :=
  List.foldl_concat ..

/-- The list holds tokens in reading order and remembers the place of the last one. -/
structure Holds (d : DeltaList) (kept : List EncodedToken) : Prop where
  data : d.toList = deltasFrom .origin kept
  last : d.last = (kept.getLast?.map (·.place)).getD .origin
  ordered : (kept.map (·.place)).IsChain fun a b => a.le b = true

theorem holds_empty : Holds .empty [] := ⟨rfl, rfl, List.isChain_nil⟩

namespace Holds

variable {d : DeltaList} {kept : List EncodedToken}

theorem size_eq (h : Holds d kept) : d.size = kept.length := by
  rw [size, ← Array.length_toList, ← toList, h.data, length_deltasFrom]

theorem decode_eq (h : Holds d kept) : decodeDeltas .origin d.toList = kept := by
  rw [h.data, decodeDeltas_deltasFrom]

theorem fits (h : Holds d kept) : Fits .origin d.toList := by
  rw [h.data]
  refine fits_deltasFrom ?_
  cases hplaces : kept.map (·.place) with
  | nil => exact List.isChain_singleton _
  | cons p ps => exact List.isChain_cons_cons.2 ⟨p.origin_le, hplaces ▸ h.ordered⟩

theorem isEmpty_iff (h : Holds d kept) : d.isEmpty = true ↔ kept = [] := by
  rw [isEmpty, Array.isEmpty_iff_size_eq_zero, ← size, h.size_eq, List.length_eq_zero_iff]

/-- **A push is accepted** if its token does not come before the last one in the list. -/
theorem accepts_iff (h : Holds d kept) (t : EncodedToken) :
    (d.isEmpty || d.last.le t.place) = true ↔ ∀ last ∈ kept.getLast?, t.NotBefore last := by
  rw [Bool.or_eq_true, h.isEmpty_iff, h.last, Place.le_iff]
  cases hlast : kept.getLast? with
  | none => simp [List.getLast?_eq_none_iff.1 hlast]
  | some last =>
    have hne : kept ≠ [] := by
      rintro rfl
      cases hlast
    simp [hne, EncodedToken.NotBefore, EncodedToken.place]

theorem push_of_accepts (h : Holds d kept) {t : EncodedToken}
    (ht : ∀ last ∈ kept.getLast?, t.NotBefore last) : d.push t = .ok (d.extend t) := by
  rw [push, if_pos ((h.accepts_iff t).2 ht), extend]

theorem push_of_refuses (h : Holds d kept) {t : EncodedToken}
    (ht : ¬ ∀ last ∈ kept.getLast?, t.NotBefore last) : d.push t = .error ⟨t.place, d.last⟩ := by
  rw [push, if_neg fun hle => ht ((h.accepts_iff t).1 hle)]

theorem extend (h : Holds d kept) {t : EncodedToken}
    (ht : ∀ last ∈ kept.getLast?, t.NotBefore last) : Holds (d.extend t) (kept ++ [t]) where
  data := by
    rw [deltasFrom_concat, ← h.data, ← h.last]
    simp [toList, DeltaList.extend]
  last := by simp [DeltaList.extend]
  ordered := by
    rw [List.map_append, List.map_singleton, List.isChain_append]
    refine ⟨h.ordered, List.isChain_singleton _, fun a ha b hb => ?_⟩
    obtain ⟨last, hlast, rfl⟩ : ∃ last ∈ kept.getLast?, last.place = a := by simpa using ha
    obtain rfl : t.place = b := by simpa using hb
    exact Place.le_iff.2 (ht last hlast)

/-- **A refused push** leaves the list, and its report names both places. -/
theorem of_push_error (h : Holds d kept) {t : EncodedToken} {e : OutOfOrder}
    (he : d.push t = .error e) :
    d.attempt t = d ∧ ∃ last ∈ kept.getLast?, e = ⟨t.place, last.place⟩ := by
  have ht : ¬ ∀ last ∈ kept.getLast?, t.NotBefore last := by
    intro ht
    rw [h.push_of_accepts ht] at he
    cases he
  refine ⟨by rw [DeltaList.attempt, he], ?_⟩
  have hlast := h.last
  cases hkept : kept.getLast? with
  | none =>
    rw [hkept] at ht
    exact absurd (fun last hnone => by cases hnone) ht
  | some last =>
    rw [h.push_of_refuses ht] at he
    rw [hkept] at hlast
    refine ⟨last, rfl, ?_⟩
    rw [← Except.error.inj he, hlast]
    rfl

/-- **One push** keeps the invariant, whether it is accepted or refused. -/
theorem attempt (h : Holds d kept) (t : EncodedToken) : Holds (d.attempt t) (accept kept t) := by
  by_cases ht : ∀ last ∈ kept.getLast?, t.NotBefore last
  · rw [DeltaList.attempt, h.push_of_accepts ht, accept, if_pos ht]
    exact h.extend ht
  · rw [DeltaList.attempt, h.push_of_refuses ht, accept, if_neg ht]
    exact h

end Holds

/-- **All pushes**: the list holds the accepted tokens. -/
theorem holds_pushAll (ts : List EncodedToken) : Holds (pushAll ts) (accepted ts) := by
  induction ts using List.reverseRecOn with
  | nil => exact holds_empty
  | append_singleton ts t ih =>
    rw [pushAll_concat, accepted_concat]
    exact ih.attempt t

/-- **Any sequence of pushes.** A push is accepted if and only if it is the first one or does not
come before the last accepted one. A refused one leaves everything as it is, and its report names
its own place and that of the last accepted one. Decoding gives back the accepted tokens, and no sum
of deltas leaves the 32 bits, so every delta is a true difference. -/
theorem decode_pushAll (ts : List EncodedToken) (t : EncodedToken) :
    let d := pushAll ts
    ((∃ d', d.push t = .ok d') ↔ ∀ last ∈ (accepted ts).getLast?,
      last.line < t.line ∨ last.line = t.line ∧ last.start ≤ t.start) ∧
    (∀ e, d.push t = .error e → pushAll (ts ++ [t]) = d ∧
      ∃ last ∈ (accepted ts).getLast?, e.message = "semantic tokens pushed out of order: " ++
        (toString t.line.toNat ++ ":" ++ toString t.start.toNat) ++ " after " ++
        (toString last.line.toNat ++ ":" ++ toString last.start.toNat)) ∧
    d.size = (accepted ts).length ∧ decodeDeltas .origin d.toList = accepted ts ∧
    Fits .origin d.toList := by
  intro d
  have h : Holds d (accepted ts) := holds_pushAll ts
  refine ⟨⟨?_, fun ht => ⟨_, h.push_of_accepts ht⟩⟩, ?_, h.size_eq, h.decode_eq, h.fits⟩
  · rintro ⟨d', hd'⟩
    by_contra ht
    rw [h.push_of_refuses ht] at hd'
    cases hd'
  · intro e he
    obtain ⟨hsame, last, hlast, rfl⟩ := h.of_push_error he
    exact ⟨(pushAll_concat ts t).trans hsame, last, hlast, rfl⟩

/-- A token after a refused one is measured against the last accepted one, which has the same place
as the one before it. -/
theorem decode_pushAll_refusedTwice :
    let ts : List EncodedToken :=
      [⟨3, 4, 1, 0, 0⟩, ⟨1, 9, 1, 0, 0⟩, ⟨3, 4, 2, 5, 1⟩]
    let d := pushAll ts
    (∃ e, d.push ⟨3, 3, 1, 0, 0⟩ = .error e ∧ pushAll (ts ++ [⟨3, 3, 1, 0, 0⟩]) = d ∧
      e.message = "semantic tokens pushed out of order: 3:3 after 3:4") ∧
      decodeDeltas .origin d.toList = [⟨3, 4, 1, 0, 0⟩, ⟨3, 4, 2, 5, 1⟩] := by
  intro ts d
  obtain ⟨-, hrefused, -, hdecode, -⟩ := decode_pushAll ts ⟨3, 3, 1, 0, 0⟩
  obtain ⟨e, he⟩ : ∃ e, d.push ⟨3, 3, 1, 0, 0⟩ = .error e := ⟨_, rfl⟩
  obtain ⟨hsame, last, hlast, hmessage⟩ := hrefused e he
  obtain rfl : ⟨3, 4, 2, 5, 1⟩ = last := Option.some.inj hlast
  exact ⟨⟨e, he, hsame, hmessage.trans (by decide)⟩, hdecode.trans (by decide)⟩

end DeltaList

end CwebHighlight
