import CwebHighlight.Flag
import Mathlib.Data.List.Induction

/-!
# Where a handle comes from

A handle is made by a `new` step or is a clone of a handle that was made before. So every handle
descends through clones from one `new` step (`Descends`, `existsUnique_descends`), and the handles
that descend from the same step are a family. All of this is read off the steps, without flags and
switches.

**One more step.** A step that makes a handle adds it to a family or begins one, and does nothing to
the handles that are there (`sameFamily_concat`). Only a `cancel` step cancels, and it cancels one
family (`familyCancelled_concat`).
-/

namespace CwebHighlight

/-! ## One more item -/

section

variable {α : Type} {xs : List α} {x y : α} {k : Nat}

/-- An item of a longer list is one of the items before, or the last one. -/
theorem getElem?_concat_cases (h : (xs ++ [x])[k]? = some y) :
    xs[k]? = some y ∧ (xs ++ [x]).take k = xs.take k ∨
      y = x ∧ k = xs.length ∧ (xs ++ [x]).take k = xs := by
  by_cases hlt : k < xs.length
  · rw [List.getElem?_append_left hlt] at h
    exact .inl ⟨h, List.take_append_of_le_length (Nat.le_of_lt hlt)⟩
  · have hlength := (List.getElem?_eq_some_iff.1 h).1
    obtain rfl : k = xs.length := by
      rw [List.length_append, List.length_singleton] at hlength
      omega
    rw [List.getElem?_concat_length] at h
    exact .inr ⟨(Option.some.inj h).symm, rfl, List.take_left⟩

theorem getElem?_concat_of_some (h : xs[k]? = some y) :
    (xs ++ [x])[k]? = some y ∧ (xs ++ [x]).take k = xs.take k := by
  have hlt := (List.getElem?_eq_some_iff.1 h).1
  exact ⟨by rwa [List.getElem?_append_left hlt], List.take_append_of_le_length (Nat.le_of_lt hlt)⟩

end

/-! ## Steps and the handles they make -/

namespace FlagStep

/-- The handles that a step is about. -/
def named : FlagStep → List Nat
  | new => []
  | clone i | cancel i | classify i _ => [i]
  | same i j => [i, j]

/-- Whether the step makes a handle. -/
def makes : FlagStep → Bool
  | new | clone _ => true
  | cancel _ | same _ _ | classify _ _ => false

end FlagStep

/-- The number of handles that steps make. -/
def handlesMade (steps : List FlagStep) : Nat := steps.countP FlagStep.makes

/-- Every step is about handles that were made before it. -/
def WellNamed (steps : List FlagStep) : Prop :=
  ∀ k < steps.length, ∀ x ∈ steps[k]?, ∀ i ∈ x.named, i < handlesMade (steps.take k)

instance (steps : List FlagStep) : Decidable (WellNamed steps) :=
  inferInstanceAs (Decidable (∀ k < steps.length, ∀ x ∈ steps[k]?, ∀ i ∈ x.named, _))

section

variable {steps : List FlagStep} {x : FlagStep}

theorem handlesMade_concat (steps : List FlagStep) (x : FlagStep) :
    handlesMade (steps ++ [x]) = handlesMade steps + if x.makes then 1 else 0 := by
  rw [handlesMade, List.countP_append, List.countP_singleton, handlesMade]

theorem handlesMade_take_le (steps : List FlagStep) (k : Nat) :
    handlesMade (steps.take k) ≤ handlesMade steps :=
  (List.take_sublist k steps).countP_le

theorem wellNamed_iff : WellNamed steps ↔
    ∀ k y, steps[k]? = some y → ∀ i ∈ y.named, i < handlesMade (steps.take k) :=
  ⟨fun h k y hy => h k (List.getElem?_eq_some_iff.1 hy).1 y hy, fun h k _ y hy => h k y hy⟩

theorem wellNamed_concat_iff :
    WellNamed (steps ++ [x]) ↔ WellNamed steps ∧ ∀ i ∈ x.named, i < handlesMade steps := by
  rw [wellNamed_iff, wellNamed_iff]
  constructor
  · intro h
    refine ⟨fun k y hy i hi => ?_, fun i hi => ?_⟩
    · obtain ⟨hy', htake⟩ := getElem?_concat_of_some (x := x) hy
      exact htake ▸ h k y hy' i hi
    · have hbound := h steps.length x List.getElem?_concat_length i hi
      rwa [List.take_left] at hbound
  · rintro ⟨h, hx⟩ k y hy i hi
    rcases getElem?_concat_cases hy with ⟨hy, htake⟩ | ⟨rfl, -, htake⟩
    · exact htake ▸ h k y hy i hi
    · rw [htake]
      exact hx i hi

theorem WellNamed.lt_handlesMade (h : WellNamed steps) (hx : x ∈ steps) {i : Nat}
    (hi : i ∈ x.named) : i < handlesMade steps := by
  obtain ⟨k, hk, rfl⟩ := List.getElem_of_mem hx
  exact Nat.lt_of_lt_of_le (h k hk _ (List.getElem?_eq_getElem hk) i hi)
    (handlesMade_take_le steps k)

end

/-! ## Descent -/

/-- A handle descends from the `new` step at a place: it was made by this step, or is a clone of a
handle that descends from it. -/
inductive Descends (steps : List FlagStep) : Nat → Nat → Prop where
  | new {k : Nat} (hk : steps[k]? = some .new) : Descends steps (handlesMade (steps.take k)) k
  | clone {j i k : Nat} (hj : steps[j]? = some (.clone i)) (hi : Descends steps i k) :
    Descends steps (handlesMade (steps.take j)) k

/-- Two handles descend from the same step. -/
def SameFamily (steps : List FlagStep) (i j : Nat) : Prop :=
  ∃ k, Descends steps i k ∧ Descends steps j k

/-- Some handle of the family of a handle was cancelled. -/
def FamilyCancelled (steps : List FlagStep) (i : Nat) : Prop :=
  ∃ j, .cancel j ∈ steps ∧ SameFamily steps i j

section

variable {steps : List FlagStep} {x : FlagStep} {i j k : Nat}

theorem Descends.getElem? (h : Descends steps i k) : steps[k]? = some .new := by
  induction h with
  | new hk => exact hk
  | clone _ _ ih => exact ih

theorem Descends.lt_length (h : Descends steps i k) : k < steps.length :=
  (List.getElem?_eq_some_iff.1 h.getElem?).1

/-- Later steps do not change where a handle comes from. -/
theorem Descends.concat (h : Descends steps i k) (x : FlagStep) :
    Descends (steps ++ [x]) i k := by
  induction h with
  | new hk =>
    obtain ⟨hk, htake⟩ := getElem?_concat_of_some (x := x) hk
    exact htake ▸ .new hk
  | clone hj _ ih =>
    obtain ⟨hj, htake⟩ := getElem?_concat_of_some (x := x) hj
    exact htake ▸ .clone hj ih

/-- **One more step**: the handles that were there descend as before, and a new one begins a family
or joins that of the handle it is a clone of. -/
theorem descends_concat_iff (hnamed : WellNamed (steps ++ [x])) :
    Descends (steps ++ [x]) i k ↔ Descends steps i k ∨ i = handlesMade steps ∧
      (x = .new ∧ k = steps.length ∨ ∃ j, x = .clone j ∧ Descends steps j k) := by
  constructor
  · intro h
    induction h with
    | new hk =>
      rcases getElem?_concat_cases hk with ⟨hk, htake⟩ | ⟨rfl, rfl, htake⟩
      · exact .inl (htake ▸ .new hk)
      · exact .inr ⟨congrArg handlesMade htake, .inl ⟨rfl, rfl⟩⟩
    | @clone j i k hj _ ih =>
      -- A handle that is cloned is there already, so it is not the one that is made now.
      have hi : i < handlesMade steps := by
        have hbound := wellNamed_iff.1 hnamed j _ hj i List.mem_cons_self
        rcases getElem?_concat_cases hj with ⟨-, htake⟩ | ⟨-, -, htake⟩
        · exact Nat.lt_of_lt_of_le (htake ▸ hbound) (handlesMade_take_le steps j)
        · exact htake ▸ hbound
      have hdescends : Descends steps i k := ih.resolve_right fun h => Nat.ne_of_lt hi h.1
      rcases getElem?_concat_cases hj with ⟨hj, htake⟩ | ⟨rfl, rfl, htake⟩
      · exact .inl (htake ▸ .clone hj hdescends)
      · exact .inr ⟨congrArg handlesMade htake, .inr ⟨i, rfl, hdescends⟩⟩
  · rintro (h | ⟨rfl, ⟨rfl, rfl⟩ | ⟨j, rfl, h⟩⟩)
    · exact h.concat x
    · have hnew := Descends.new (List.getElem?_concat_length (l := steps) (a := .new))
      rwa [List.take_left] at hnew
    · have hclone := Descends.clone (List.getElem?_concat_length (l := steps)) (h.concat (.clone j))
      rwa [List.take_left] at hclone

theorem Descends.lt_handlesMade (hnamed : WellNamed steps) (h : Descends steps i k) :
    i < handlesMade steps := by
  induction steps using List.reverseRecOn generalizing i with
  | nil => exact absurd h.lt_length (Nat.not_lt_zero k)
  | append_singleton steps x ih =>
    rw [handlesMade_concat]
    rcases (descends_concat_iff hnamed).1 h with h | ⟨rfl, ⟨rfl, -⟩ | ⟨j, rfl, -⟩⟩
    · exact Nat.lt_of_lt_of_le (ih (wellNamed_concat_iff.1 hnamed).1 h) (Nat.le_add_right _ _)
    · exact Nat.lt_succ_self _
    · exact Nat.lt_succ_self _

/-- **Every handle is of one family.** -/
theorem existsUnique_descends (hnamed : WellNamed steps) (hi : i < handlesMade steps) :
    ∃! k, Descends steps i k := by
  induction steps using List.reverseRecOn generalizing i with
  | nil => exact absurd hi (Nat.not_lt_zero i)
  | append_singleton steps x ih =>
    obtain ⟨hold, hx⟩ := wellNamed_concat_iff.1 hnamed
    simp only [descends_concat_iff hnamed]
    by_cases hlt : i < handlesMade steps
    · simpa [Nat.ne_of_lt hlt] using ih hold hlt
    · have hnot {k : Nat} : ¬ Descends steps i k := fun h => hlt (h.lt_handlesMade hold)
      have hmade : i = handlesMade steps ∧ x.makes = true := by
        rw [handlesMade_concat] at hi
        split at hi <;> rename_i hmakes
        · exact ⟨by omega, hmakes⟩
        · omega
      obtain ⟨rfl, hmakes⟩ := hmade
      cases x with
      | new => simp [hnot]
      | clone j => simpa [hnot] using ih hold (hx j List.mem_cons_self)
      | cancel _ | same _ _ | classify _ _ => cases hmakes

theorem sameFamily_refl (hnamed : WellNamed steps) (hi : i < handlesMade steps) :
    SameFamily steps i i := by
  obtain ⟨k, hk, -⟩ := existsUnique_descends hnamed hi
  exact ⟨k, hk, hk⟩

theorem SameFamily.symm (h : SameFamily steps i j) : SameFamily steps j i := by
  obtain ⟨k, hi, hj⟩ := h
  exact ⟨k, hj, hi⟩

/-! ## One more step -/

theorem descends_concat_of_lt (hnamed : WellNamed (steps ++ [x])) (hi : i < handlesMade steps) :
    Descends (steps ++ [x]) i k ↔ Descends steps i k := by
  simp [descends_concat_iff hnamed, Nat.ne_of_lt hi]

/-- The handles that are there stay in their families. -/
theorem sameFamily_concat (hnamed : WellNamed (steps ++ [x])) (hi : i < handlesMade steps)
    (hj : j < handlesMade steps) :
    SameFamily (steps ++ [x]) i j ↔ SameFamily steps i j := by
  simp only [SameFamily, descends_concat_of_lt hnamed hi, descends_concat_of_lt hnamed hj]

theorem descends_concat_handlesMade (hnamed : WellNamed (steps ++ [x])) :
    Descends (steps ++ [x]) (handlesMade steps) k ↔
      x = .new ∧ k = steps.length ∨ ∃ j, x = .clone j ∧ Descends steps j k := by
  have hnot : ¬ Descends steps (handlesMade steps) k := fun h =>
    Nat.lt_irrefl _ (h.lt_handlesMade (wellNamed_concat_iff.1 hnamed).1)
  simp [descends_concat_iff hnamed, hnot]

/-- A `new` step begins a family of its own. -/
theorem not_sameFamily_new (hnamed : WellNamed (steps ++ [.new])) (hi : i < handlesMade steps) :
    ¬ SameFamily (steps ++ [.new]) i (handlesMade steps) := by
  rintro ⟨k, hik, hk⟩
  rw [descends_concat_of_lt hnamed hi] at hik
  obtain rfl : k = steps.length := by simpa using (descends_concat_handlesMade hnamed).1 hk
  exact Nat.lt_irrefl _ hik.lt_length

/-- A clone joins the family of the handle that is cloned. -/
theorem sameFamily_clone (hnamed : WellNamed (steps ++ [.clone j])) (hi : i < handlesMade steps) :
    SameFamily (steps ++ [.clone j]) i (handlesMade steps) ↔ SameFamily steps i j := by
  simp only [SameFamily, descends_concat_of_lt hnamed hi, descends_concat_handlesMade hnamed]
  simp

/-- **What one more step cancels**: the family of the handle that it cancels, if it cancels one. -/
theorem familyCancelled_concat (hnamed : WellNamed (steps ++ [x])) (hi : i < handlesMade steps) :
    FamilyCancelled (steps ++ [x]) i ↔
      FamilyCancelled steps i ∨ ∃ j, x = .cancel j ∧ SameFamily steps i j := by
  obtain ⟨hold, hx⟩ := wellNamed_concat_iff.1 hnamed
  have hsame {j : Nat} (hj : .cancel j ∈ steps ++ [x]) :
      SameFamily (steps ++ [x]) i j ↔ SameFamily steps i j := by
    refine sameFamily_concat hnamed hi ?_
    rcases List.mem_append.1 hj with hj | hj
    · exact hold.lt_handlesMade hj List.mem_cons_self
    · obtain rfl := List.mem_singleton.1 hj
      exact hx j List.mem_cons_self
  constructor
  · rintro ⟨j, hj, hij⟩
    rw [hsame hj] at hij
    rcases List.mem_append.1 hj with hj | hj
    · exact .inl ⟨j, hj, hij⟩
    · exact .inr ⟨j, (List.mem_singleton.1 hj).symm, hij⟩
  · rintro (⟨j, hj, hij⟩ | ⟨j, rfl, hij⟩)
    · have hj := List.mem_append_left [x] hj
      exact ⟨j, hj, (hsame hj).2 hij⟩
    · have hj : .cancel j ∈ steps ++ [.cancel j] := by simp
      exact ⟨j, hj, (hsame hj).2 hij⟩

/-- A family that begins is not cancelled. -/
theorem not_familyCancelled_new (hnamed : WellNamed (steps ++ [.new])) :
    ¬ FamilyCancelled (steps ++ [.new]) (handlesMade steps) := by
  rintro ⟨j, hj, hsame⟩
  have hold := (wellNamed_concat_iff.1 hnamed).1
  have hj : .cancel j ∈ steps := by simpa using hj
  exact not_sameFamily_new hnamed (hold.lt_handlesMade hj List.mem_cons_self) hsame.symm

/-- A clone is cancelled with the handle that is cloned, also if that was cancelled before. -/
theorem familyCancelled_clone (hnamed : WellNamed (steps ++ [.clone j])) :
    FamilyCancelled (steps ++ [.clone j]) (handlesMade steps) ↔ FamilyCancelled steps j := by
  have hold := (wellNamed_concat_iff.1 hnamed).1
  refine exists_congr fun i => ?_
  rw [show FlagStep.cancel i ∈ steps ++ [.clone j] ↔ .cancel i ∈ steps by simp]
  refine and_congr_right fun hi => ?_
  have hlt := hold.lt_handlesMade hi List.mem_cons_self
  exact ⟨fun h => ((sameFamily_clone hnamed hlt).1 h.symm).symm,
    fun h => ((sameFamily_clone hnamed hlt).2 h.symm).symm⟩

end

end CwebHighlight
