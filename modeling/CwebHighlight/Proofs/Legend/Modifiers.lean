import CwebHighlight.Proofs.Legend.Decoding
import Mathlib.Data.List.Basic
import Mathlib.Data.List.Induction
import Mathlib.Data.List.Nodup
import Mathlib.Data.List.Perm.Basic

/-!
# Adding modifiers to a token

Modifiers are added to a token one after the other, and one that the token has already is not added
again.

**New members** (`NewMembers`). What a whole sequence adds stands after the modifiers that were
there before: the members of the sequence that are new, each once, in the order of their first
occurrence. No other list is like that (`NewMembers.unique`). Only what is added is free of
repetitions: a modifier that a token has twice from the start stays there twice.

**Bits.** Neither order nor repetition shows in the word of a list of modifiers
(`Legend.encodeModifiers_eq_ok_congr`). Whether there is a word is decided by the members, too. Only
what is reported if there is none depends on the order, since the first modifier without a bit is
reported.

Main result: `Token.modifiers_insertedOnce`.
-/

namespace CwebHighlight

/-! ## New members -/

section

variable {α : Type} [DecidableEq α] {old ms new new' : List α} {a : α}

/-- The list `new` has the members of `ms` that are not in `old`, ordered by their first occurrence
in `ms`. The order is strict, so none of them comes twice. -/
structure NewMembers (old ms new : List α) : Prop where
  mem_iff : ∀ a, a ∈ new ↔ a ∈ ms ∧ a ∉ old
  inOrder : new.Pairwise fun a b => ms.idxOf a < ms.idxOf b

namespace NewMembers

theorem nodup (h : NewMembers old ms new) : new.Nodup := by
  refine h.inOrder.imp fun {a b} hlt => ?_
  rintro rfl
  exact Nat.lt_irrefl _ hlt

/-- **Only one list** has the new members in this order. -/
theorem unique (h : NewMembers old ms new) (h' : NewMembers old ms new') : new = new' := by
  have hmem : ∀ a, a ∈ new ↔ a ∈ new' := fun a => (h.mem_iff a).trans (h'.mem_iff a).symm
  have hperm : new.Perm new' := (List.perm_ext_iff_of_nodup h.nodup h'.nodup).2 hmem
  refine List.Perm.eq_of_pairwise (fun a b _ _ hab hba => ?_) h.inOrder h'.inOrder hperm
  exact absurd hba (Nat.lt_asymm hab)

theorem nil (old : List α) : NewMembers old [] [] :=
  ⟨by simp, List.Pairwise.nil⟩

/-- A longer sequence keeps the order of the members that are there already. -/
theorem inOrder_append (h : NewMembers old ms new) (rest : List α) :
    new.Pairwise fun a b => (ms ++ rest).idxOf a < (ms ++ rest).idxOf b := by
  refine h.inOrder.imp_of_mem fun {a b} ha hb hlt => ?_
  rw [List.idxOf_append_of_mem ((h.mem_iff a).1 ha).1,
    List.idxOf_append_of_mem ((h.mem_iff b).1 hb).1]
  exact hlt

theorem skip (h : NewMembers old ms new) (ha : a ∈ old ++ new) :
    NewMembers old (ms ++ [a]) new := by
  refine ⟨fun b => ?_, h.inOrder_append [a]⟩
  -- If `a` counts as a new member at all, it is one already.
  have hknown : a ∉ old → a ∈ ms := by
    intro hold
    have hnew : a ∈ new := (List.mem_append.1 ha).resolve_left hold
    exact ((h.mem_iff a).1 hnew).1
  rw [h.mem_iff, List.mem_append, List.mem_singleton]
  constructor
  · rintro ⟨hb, hold⟩
    exact ⟨.inl hb, hold⟩
  · rintro ⟨hb | rfl, hold⟩
    · exact ⟨hb, hold⟩
    · exact ⟨hknown hold, hold⟩

theorem concat (h : NewMembers old ms new) (ha : a ∉ old ++ new) :
    NewMembers old (ms ++ [a]) (new ++ [a]) := by
  rw [List.mem_append, not_or] at ha
  obtain ⟨hold, hnew⟩ := ha
  have hfresh : a ∉ ms := fun hms => hnew ((h.mem_iff a).2 ⟨hms, hold⟩)
  refine ⟨fun b => ?_, ?_⟩
  · simp only [List.mem_append, List.mem_singleton, h.mem_iff]
    constructor
    · rintro (⟨hb, hb'⟩ | rfl)
      · exact ⟨.inl hb, hb'⟩
      · exact ⟨.inr rfl, hold⟩
    · rintro ⟨hb | rfl, hb'⟩
      · exact .inl ⟨hb, hb'⟩
      · exact .inr rfl
  · refine List.pairwise_append.2 ⟨h.inOrder_append [a], List.pairwise_singleton _ _, ?_⟩
    intro b hb c hc
    obtain rfl := List.mem_singleton.1 hc
    have hb : b ∈ ms := ((h.mem_iff b).1 hb).1
    -- The first occurrence of `a` is the last place, behind those of all others.
    rw [List.idxOf_append_of_mem hb, List.idxOf_append_of_notMem hfresh]
    exact Nat.lt_add_right _ (List.idxOf_lt_length_of_mem hb)

end NewMembers

end

/-! ## Adding one after the other -/

namespace Token

variable {t : Token} {m : Modifier} {ms : List Modifier}

/-- The token after a sequence of additions. -/
def withModifiers (t : Token) (ms : List Modifier) : Token := ms.foldl withModifier t

theorem withModifiers_concat (t : Token) (ms : List Modifier) (m : Modifier) :
    t.withModifiers (ms ++ [m]) = (t.withModifiers ms).withModifier m := by
  rw [withModifiers, List.foldl_append]
  rfl

theorem withModifier_of_mem (h : m ∈ t.modifiers) : t.withModifier m = t :=
  if_pos h

theorem withModifier_of_not_mem (h : m ∉ t.modifiers) :
    t.withModifier m = { t with modifiers := t.modifiers ++ [m] } :=
  if_neg h

/-- One more modifier goes behind those that were added, or nowhere. -/
theorem withModifier_append {added : List Modifier} (h : NewMembers t.modifiers ms added) :
    ∃ added', NewMembers t.modifiers (ms ++ [m]) added' ∧
      ({ t with modifiers := t.modifiers ++ added } : Token).withModifier m =
        { t with modifiers := t.modifiers ++ added' } := by
  by_cases hm : m ∈ t.modifiers ++ added
  · exact ⟨added, h.skip hm, withModifier_of_mem hm⟩
  · refine ⟨added ++ [m], h.concat hm, ?_⟩
    rw [withModifier_of_not_mem hm, List.append_assoc]

/-- **A sequence of additions** puts the new members after the modifiers that were there. -/
theorem exists_newMembers_withModifiers (t : Token) (ms : List Modifier) :
    ∃ added, NewMembers t.modifiers ms added ∧
      t.withModifiers ms = { t with modifiers := t.modifiers ++ added } := by
  -- The last addition sees what the others have added, so the sequence is taken apart at its end.
  induction ms using List.reverseRecOn with
  | nil => exact ⟨[], .nil _, by rw [List.append_nil]; rfl⟩
  | append_singleton ms m ih =>
    obtain ⟨added, hadded, hsame⟩ := ih
    rw [withModifiers_concat, hsame]
    exact withModifier_append hadded

theorem mem_modifiers_withModifiers :
    m ∈ (t.withModifiers ms).modifiers ↔ m ∈ t.modifiers ∨ m ∈ ms := by
  obtain ⟨added, hadded, hsame⟩ := exists_newMembers_withModifiers t ms
  rw [hsame, List.mem_append, hadded.mem_iff]
  by_cases hold : m ∈ t.modifiers
  · simp [hold]
  · simp [hold]

/-- Additions bring no repetition, and take none away. -/
theorem nodup_modifiers_withModifiers_iff :
    (t.withModifiers ms).modifiers.Nodup ↔ t.modifiers.Nodup := by
  obtain ⟨added, hadded, hsame⟩ := exists_newMembers_withModifiers t ms
  rw [hsame]
  constructor
  · intro h
    exact h.of_append_left
  · intro h
    refine List.nodup_append.2 ⟨h, hadded.nodup, fun a ha b hb => ?_⟩
    rintro rfl
    exact ((hadded.mem_iff a).1 hb).2 ha

end Token

/-! ## Bits -/

namespace Legend

/-- **Lists with the same members** have the same word. -/
theorem encodeModifiers_eq_ok_congr {l : Legend} {ms ms' : List Modifier} {bits : UInt32}
    (h : ∀ m, m ∈ ms ↔ m ∈ ms') :
    l.encodeModifiers ms = .ok bits ↔ l.encodeModifiers ms' = .ok bits := by
  simp only [encodeModifiers_eq_ok_iff, h]

end Legend

namespace Token

/-- **Adding modifiers inserts them into a set.** After a sequence of additions the token has its
own modifiers, as they were, and then the members of the sequence that it did not have: each once,
in the order of their first occurrence. No other list is like that, and nothing else in the token is
changed. So there are repetitions only if there were some before. Sequences with the same members
give the same bits under every legend, as soon as one of them gives bits at all. -/
theorem modifiers_insertedOnce (t : Token) (ms : List Modifier) :
    (∃ added, t.withModifiers ms = { t with modifiers := t.modifiers ++ added } ∧
      added.Nodup ∧ ∀ list, NewMembers t.modifiers ms list ↔ list = added) ∧
    ((t.withModifiers ms).modifiers.Nodup ↔ t.modifiers.Nodup) ∧
    ∀ (l : Legend) (ms' : List Modifier), (∀ m, m ∈ ms ↔ m ∈ ms') → ∀ bits,
      l.encodeModifiers (t.withModifiers ms).modifiers = .ok bits ↔
        l.encodeModifiers (t.withModifiers ms').modifiers = .ok bits := by
  obtain ⟨added, hadded, hsame⟩ := exists_newMembers_withModifiers t ms
  have honly : ∀ list, NewMembers t.modifiers ms list ↔ list = added := by
    intro list
    constructor
    · exact fun h => h.unique hadded
    · rintro rfl
      exact hadded
  refine ⟨⟨added, hsame, hadded.nodup, honly⟩, nodup_modifiers_withModifiers_iff, ?_⟩
  intro l ms' hms bits
  apply Legend.encodeModifiers_eq_ok_congr
  intro m
  rw [mem_modifiers_withModifiers, mem_modifiers_withModifiers, hms]

/-- Four additions give a token that has a modifier twice two more. Another sequence with the same
members gives another list, but the same bits, also under a legend that repeats a name and has a
foreign one. -/
theorem modifiers_insertedOnce_repetition :
    let t : Token := ⟨3, 1, 4, .keyword, [.static, .definition, .static]⟩
    let ms : List Modifier := [.readonly, .static, .documentation, .readonly]
    let ms' : List Modifier := [.static, .documentation, .readonly]
    let l := Legend.ofNames []
      ["async", "readonly", "static", "readonly", "documentation", "definition"]
    t.withModifiers ms =
        ⟨3, 1, 4, .keyword, [.static, .definition, .static, .readonly, .documentation]⟩ ∧
      ¬ (t.withModifiers ms).modifiers.Nodup ∧ (∀ m, m ∈ ms ↔ m ∈ ms') ∧
      (t.withModifiers ms').modifiers ≠ (t.withModifiers ms).modifiers ∧
      l.encodeModifiers (t.withModifiers ms).modifiers = .ok 54 ∧
      l.encodeModifiers (t.withModifiers ms').modifiers = .ok 54 := by
  intro t ms ms' l
  obtain ⟨⟨added, hsame, -, honly⟩, hnodup, hbits⟩ := modifiers_insertedOnce t ms
  have hadded : NewMembers t.modifiers ms [.readonly, .documentation] :=
    ⟨fun m => by cases m <;> decide, by decide⟩
  have hms : ∀ m, m ∈ ms ↔ m ∈ ms' := fun m => by cases m <;> decide
  have hword : l.encodeModifiers (t.withModifiers ms).modifiers = .ok 54 := rfl
  rw [← (honly _).1 hadded] at hsame
  exact ⟨hsame, hnodup.not.2 (by decide), hms, by decide, hword, (hbits l ms' hms 54).1 hword⟩

end Token

end CwebHighlight
