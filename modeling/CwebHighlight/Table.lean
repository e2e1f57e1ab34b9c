/-!
# Lookup tables

A finite map kept as a list of entries in which a key occurs at most once for every way of
building it here: `insert` and `insertIfNew` first look whether the key is there.
-/

namespace CwebHighlight

/-- A finite map from `κ` to `α`. -/
structure Table (κ α : Type) where
  entries : List (κ × α)

namespace Table

variable {κ α : Type} [DecidableEq κ]

def empty : Table κ α := ⟨[]⟩

def find? (t : Table κ α) (k : κ) : Option α :=
  (t.entries.find? fun e => decide (e.1 = k)).map (·.2)

def contains (t : Table κ α) (k : κ) : Bool := (t.find? k).isSome

def erase (t : Table κ α) (k : κ) : Table κ α :=
  ⟨t.entries.filter fun e => decide (e.1 ≠ k)⟩

/-- Set the value of a key, whether it was there or not. -/
def insert (t : Table κ α) (k : κ) (v : α) : Table κ α := ⟨(k, v) :: (t.erase k).entries⟩

/-- Set the value of a key that is not there yet. -/
def insertIfNew (t : Table κ α) (k : κ) (v : α) : Table κ α :=
  if t.contains k then t else ⟨t.entries ++ [(k, v)]⟩

/-- Two tables agree if they have equally many entries and each entry of one is in the other. -/
def agrees [BEq α] (s t : Table κ α) : Bool :=
  s.entries.length == t.entries.length &&
    s.entries.all fun e => t.find? e.1 == some e.2

@[simp] theorem find?_empty (k : κ) : (empty : Table κ α).find? k = none := rfl

theorem find?_erase (t : Table κ α) (k j : κ) :
    (t.erase k).find? j = if j = k then none else t.find? j := by
  obtain ⟨es⟩ := t
  induction es with
  | nil => simp [find?, erase]
  | cons e es ih =>
    simp only [find?, erase, List.filter_cons, List.find?_cons] at ih ⊢
    grind

theorem erase_of_find?_eq_none {t : Table κ α} {k : κ} (h : t.find? k = none) : t.erase k = t := by
  obtain ⟨es⟩ := t
  rw [find?, Option.map_eq_none_iff, List.find?_eq_none] at h
  rw [erase, List.filter_eq_self.2 fun e he => by simpa using h e he]

theorem erase_insert (t : Table κ α) (k : κ) (v : α) : (t.insert k v).erase k = t.erase k := by
  simp [insert, erase]

theorem find?_insert (t : Table κ α) (k j : κ) (v : α) :
    (t.insert k v).find? j = if j = k then some v else t.find? j := by
  have h := find?_erase t k j
  simp only [find?, insert, List.find?_cons] at h ⊢
  grind

theorem find?_insertIfNew (t : Table κ α) (k j : κ) (v : α) :
    (t.insertIfNew k v).find? j = if j = k ∧ t.find? k = none then some v else t.find? j := by
  unfold insertIfNew contains
  cases h : t.find? k with
  | some w => simp
  | none =>
    by_cases hj : j = k
    · subst hj
      simp only [find?, Option.map_eq_none_iff] at h
      simp [find?, List.find?_append, h]
    · have hk : ¬k = j := fun e => hj e.symm
      simp [find?, List.find?_append, hj, hk]

end Table

end CwebHighlight
