import CwebHighlight.Legend
import Mathlib.Algebra.Group.Nat.Defs
import Mathlib.Data.List.Induction

/-!
# Looking up a name in a legend

The table of a legend is filled name by name, and a name that is there already keeps its index. So
the table knows the first place of every name and no other names (`find?_indexNames`). As long as
the places fit into 32 bits, an index leads back to its name in the published list
(`find?_indexNames_eq_some_iff`).
-/

namespace CwebHighlight

theorem indexNames_concat (names : List String) (name : String) :
    indexNames (names ++ [name]) =
      (indexNames names).insertIfNew name (UInt32.ofNat names.length) := by
  simp [indexNames, List.zipIdx_append]

/-- **A name is found at its first place.** -/
theorem find?_indexNames (names : List String) (n : String) :
    (indexNames names).find? n = (names.idxOf? n).map UInt32.ofNat := by
  induction names using List.reverseRecOn with
  | nil => rfl
  | append_singleton names name ih =>
    have happend : (names ++ [name]).idxOf? n =
        (names.idxOf? n).or (if n = name then some names.length else none) := by
      rw [List.idxOf?, List.findIdx?_append]
      by_cases hn : n = name
      · subst hn
        simp
      · simp [hn, Ne.symm hn]
    rw [indexNames_concat, Table.find?_insertIfNew, happend]
    cases hold : names.idxOf? n with
    | none =>
      rw [hold] at ih
      by_cases hn : n = name
      · subst hn
        simp [ih]
      · simp [hn, ih]
    | some i =>
      rw [hold] at ih
      have hnew : ¬ (n = name ∧ (indexNames names).find? name = none) := by
        rintro ⟨rfl, hnone⟩
        rw [ih] at hnone
        cases hnone
      rw [if_neg hnew, ih, Option.some_or]

/-- The index of a name is the least index at which the list holds it. -/
theorem find?_indexNames_eq_some_iff {names : List String} (hlen : names.length ≤ 2 ^ 32)
    {n : String} {i : UInt32} :
    (indexNames names).find? n = some i ↔
      names[i.toNat]? = some n ∧ ∀ j < i.toNat, names[j]? ≠ some n := by
  rw [find?_indexNames, Option.map_eq_some_iff]
  constructor
  · rintro ⟨k, hk, rfl⟩
    obtain ⟨hlt, hname, hfirst⟩ := List.idxOf?_eq_some_iff.1 hk
    have hk : k < 2 ^ 32 := by omega
    rw [UInt32.toNat_ofNat_of_lt' hk]
    refine ⟨by rw [List.getElem?_eq_getElem hlt, hname], fun j hj hj' => ?_⟩
    rw [List.getElem?_eq_getElem (by omega)] at hj'
    exact hfirst j hj (Option.some.inj hj')
  · rintro ⟨hname, hfirst⟩
    obtain ⟨hlt, hname⟩ := List.getElem?_eq_some_iff.1 hname
    refine ⟨i.toNat, List.idxOf?_eq_some_iff.2 ⟨hlt, hname, fun j hj hj' => ?_⟩, by simp⟩
    exact hfirst j hj (by rw [List.getElem?_eq_getElem (by omega), hj'])

theorem find?_indexNames_eq_none_iff {names : List String} {n : String} :
    (indexNames names).find? n = none ↔ n ∉ names := by
  rw [find?_indexNames, Option.map_eq_none_iff, List.idxOf?_eq_none_iff]

end CwebHighlight
