import CwebHighlight.Proofs.Legend.Decoding
import Mathlib.Data.List.Nodup
import Mathlib.Data.List.Perm.Subperm

/-!
# Equal legends

Legends are compared with their lookup tables. A table that has no key twice is determined, up to
the order of its entries, by what is found in it, and two such tables agree exactly if the same is
found in both (`Table.agrees_iff`). The tables of a legend have no key twice, since a name that is
there is not put in again. They are filled from the name lists, so the comparison of the tables
never decides: legends are equal exactly if the lists are (`Legend.beq_ofNames_iff`).

Main result: `lookup_and_equality`.
-/

namespace CwebHighlight

/-! ## Tables without repeated keys -/

namespace Table

variable {κ α : Type}

/-- No key has two entries. -/
def DistinctKeys (t : Table κ α) : Prop := (t.entries.map (·.1)).Nodup

theorem distinctKeys_empty : (empty : Table κ α).DistinctKeys := List.nodup_nil

variable [DecidableEq κ] {s t : Table κ α} {k : κ} {v : α}

theorem mem_of_find?_eq_some (h : t.find? k = some v) : (k, v) ∈ t.entries := by
  obtain ⟨e, he, rfl⟩ := Option.map_eq_some_iff.1 h
  obtain rfl : e.1 = k := by simpa using List.find?_some he
  exact List.mem_of_find?_eq_some he

theorem find?_eq_none_iff : t.find? k = none ↔ k ∉ t.entries.map (·.1) := by
  rw [find?, Option.map_eq_none_iff, List.find?_eq_none]
  simp only [decide_eq_true_eq, List.mem_map, not_exists, not_and]

/-- Without repeated keys, an entry is found under its key. -/
theorem find?_eq_some_iff (h : t.DistinctKeys) : t.find? k = some v ↔ (k, v) ∈ t.entries := by
  refine ⟨mem_of_find?_eq_some, fun hmem => ?_⟩
  have hkey : k ∈ t.entries.map (·.1) := List.mem_map_of_mem hmem
  obtain ⟨w, hw⟩ := Option.ne_none_iff_exists'.1 (mt find?_eq_none_iff.1 (not_not.2 hkey))
  have hsame : (k, w) = (k, v) := List.inj_on_of_nodup_map h (mem_of_find?_eq_some hw) hmem rfl
  cases hsame
  exact hw

theorem DistinctKeys.insertIfNew (h : t.DistinctKeys) (k : κ) (v : α) :
    (t.insertIfNew k v).DistinctKeys := by
  unfold Table.insertIfNew contains
  cases hk : t.find? k with
  | some w => exact h
  | none =>
    have hnew := find?_eq_none_iff.1 hk
    rw [DistinctKeys, if_neg (by simp), List.map_append, List.nodup_append]
    refine ⟨h, by simp, fun a ha b hb => ?_⟩
    obtain rfl := List.mem_singleton.1 hb
    rintro rfl
    exact hnew ha

variable [BEq α] [LawfulBEq α]

/-- **Tables agree** exactly if the same is found in both under every key. -/
theorem agrees_iff (hs : s.DistinctKeys) (ht : t.DistinctKeys) :
    s.agrees t = true ↔ ∀ k, s.find? k = t.find? k := by
  simp only [agrees, Bool.and_eq_true, beq_iff_eq, List.all_eq_true]
  constructor
  · rintro ⟨hlength, hall⟩ k
    have hkeys : s.entries.map (·.1) ⊆ t.entries.map (·.1) := by
      intro k hk
      obtain ⟨e, he, rfl⟩ := List.mem_map.1 hk
      exact List.mem_map_of_mem (mem_of_find?_eq_some (hall e he))
    -- There are equally many keys, so `t` has no others.
    have hperm : (s.entries.map (·.1)).Perm (t.entries.map (·.1)) :=
      (List.Nodup.subperm hs hkeys).perm_of_length_le (by simp [hlength])
    cases hk : s.find? k with
    | none => rw [eq_comm, find?_eq_none_iff, ← hperm.mem_iff, ← find?_eq_none_iff, hk]
    | some v => exact (hall (k, v) (mem_of_find?_eq_some hk)).symm
  · intro h
    have hperm : (s.entries.map (·.1)).Perm (t.entries.map (·.1)) := by
      refine (List.perm_ext_iff_of_nodup hs ht).2 fun k => ?_
      rw [← not_iff_not, ← find?_eq_none_iff, ← find?_eq_none_iff, h]
    refine ⟨by simpa using hperm.length_eq, fun e he => ?_⟩
    rw [← h, find?_eq_some_iff hs]
    exact he

end Table

/-! ## The tables of a legend -/

theorem distinctKeys_indexNames (names : List String) : (indexNames names).DistinctKeys := by
  induction names using List.reverseRecOn with
  | nil => exact Table.distinctKeys_empty
  | append_singleton names name ih =>
    rw [indexNames_concat]
    exact ih.insertIfNew _ _

/-- **The place of a name** that its index tells is the first one. -/
theorem map_toNat_find?_indexNames_eq_some_iff {names : List String}
    (hlen : names.length ≤ 2 ^ 32) {n : String} {i : Nat} :
    ((indexNames names).find? n).map (·.toNat) = some i ↔ FirstAt names n i := by
  rw [Option.map_eq_some_iff]
  constructor
  · rintro ⟨w, hw, rfl⟩
    exact (find?_indexNames_eq_some_iff hlen).1 hw
  · intro h
    obtain ⟨w, hw⟩ := exists_find?_indexNames_iff.2 h.mem
    have hfirst : FirstAt names n w.toNat := (find?_indexNames_eq_some_iff hlen).1 hw
    exact ⟨w, hw, hfirst.unique h⟩

namespace Legend

section

variable {kinds modifiers kinds' modifiers' : List String}

/-- The comparison of legends: the lists, and what their tables find. -/
theorem beq_ofNames_iff_lookups :
    (ofNames kinds modifiers == ofNames kinds' modifiers') = true ↔
      (kinds = kinds' ∧ modifiers = modifiers') ∧
        (∀ n, (ofNames kinds modifiers).kindIndex? n = (ofNames kinds' modifiers').kindIndex? n) ∧
        ∀ n, (ofNames kinds modifiers).modifierIndex? n =
          (ofNames kinds' modifiers').modifierIndex? n := by
  have hbeq : (ofNames kinds modifiers == ofNames kinds' modifiers') =
      (kinds == kinds' && modifiers == modifiers' &&
        (indexNames kinds).agrees (indexNames kinds') &&
        (indexNames modifiers).agrees (indexNames modifiers')) := rfl
  have hagrees (names names' : List String) : (indexNames names).agrees (indexNames names') = true ↔
      ∀ n, (indexNames names).find? n = (indexNames names').find? n :=
    Table.agrees_iff (distinctKeys_indexNames names) (distinctKeys_indexNames names')
  rw [hbeq]
  simp only [Bool.and_eq_true, beq_iff_eq, hagrees, and_assoc]
  rfl

/-- **Legends are equal exactly if their lists are**: the tables never decide. -/
theorem beq_ofNames_iff :
    (ofNames kinds modifiers == ofNames kinds' modifiers') = true ↔
      kinds = kinds' ∧ modifiers = modifiers' := by
  rw [beq_ofNames_iff_lookups]
  constructor
  · exact fun h => h.1
  · rintro ⟨rfl, rfl⟩
    exact ⟨⟨rfl, rfl⟩, fun _ => rfl, fun _ => rfl⟩

end

/-- **Lookup gives the first occurrence, and equality of legends is equality of the lists.** A name
is looked up to its first place in the list, and to nothing if it does not occur. Two legends are
compared by their lists and by what their tables find. They are equal exactly if the lists are, and
so are a legend and the standard one. -/
theorem lookup_and_equality (kinds modifiers : List String) (hkinds : kinds.length < 2 ^ 32)
    (hmodifiers : modifiers.length < 2 ^ 32) :
    let l : Legend := ofNames kinds modifiers
    (∀ n i, (l.kindIndex? n).map (·.toNat) = some i ↔ FirstAt kinds n i) ∧
      (∀ n, l.kindIndex? n = none ↔ n ∉ kinds) ∧
      (∀ n i, (l.modifierIndex? n).map (·.toNat) = some i ↔ FirstAt modifiers n i) ∧
      (∀ n, l.modifierIndex? n = none ↔ n ∉ modifiers) ∧
      (∀ kinds' modifiers',
        let l' := ofNames kinds' modifiers'
        ((l == l') = true ↔ (kinds = kinds' ∧ modifiers = modifiers') ∧
          (∀ n, l.kindIndex? n = l'.kindIndex? n) ∧
          ∀ n, l.modifierIndex? n = l'.modifierIndex? n) ∧
        ((l == l') = true ↔ kinds = kinds' ∧ modifiers = modifiers')) ∧
      ((l == standard) = true ↔
        kinds = TokenKind.all.map (·.name) ∧ modifiers = Modifier.all.map (·.name)) := by
  intro l
  exact ⟨fun n i => map_toNat_find?_indexNames_eq_some_iff (Nat.le_of_lt hkinds),
    fun n => find?_indexNames_eq_none_iff,
    fun n i => map_toNat_find?_indexNames_eq_some_iff (Nat.le_of_lt hmodifiers),
    fun n => find?_indexNames_eq_none_iff,
    fun _ _ => ⟨beq_ofNames_iff_lookups, beq_ofNames_iff⟩, beq_ofNames_iff⟩

/-- Repeated names are looked up like in the list without the repetition, but the legends differ. -/
theorem lookup_and_equality_repetition :
    let kinds := ["keyword", "comment", "keyword"]
    kinds.length < 2 ^ 32 ∧ ([] : List String).length < 2 ^ 32 ∧
      (∀ n i, ((ofNames kinds []).kindIndex? n).map (·.toNat) = some i ↔ FirstAt kinds n i) ∧
      FirstAt kinds "keyword" 0 ∧ ¬ FirstAt kinds "keyword" 2 ∧
      (ofNames kinds [] == ofNames ["keyword", "comment"] []) = false ∧
      (ofNames kinds [] == ofNames kinds []) = true := by
  intro kinds
  have hkinds : kinds.length < 2 ^ 32 := by decide
  have hmodifiers : ([] : List String).length < 2 ^ 32 := by decide
  obtain ⟨hfirst, -, -, -, hequal, -⟩ := lookup_and_equality kinds [] hkinds hmodifiers
  refine ⟨hkinds, hmodifiers, hfirst, by decide, by decide, ?_, (hequal _ _).2.2 ⟨rfl, rfl⟩⟩
  rw [← Bool.not_eq_true, (hequal _ _).2]
  decide

end Legend

end CwebHighlight
