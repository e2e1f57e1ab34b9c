import CwebHighlight.Server.Step

/-!
# What the operations of a server do

For every operation on the state of a server: what it does to the text, the scan in flight and the
request that are found under a key, and to the switch of a flag that is already in use. Proofs about
steps and runs use these lemmas and never look into the tables.

**Switches.** A flag is *known* once its switch is handed out. A fresh flag is not known before and
is off; cancelling reaches the one flag and no other.
-/

namespace CwebHighlight

/-! ## Switches -/

namespace Switches

/-- The switch of the flag is handed out. -/
def Knows (s : Switches) (f : Flag) : Prop := f.switch < s.on.length

/-- The flag that `fresh` hands out. -/
def next (s : Switches) : Flag := ⟨s.on.length⟩

theorem Knows.ne_next {s : Switches} {f : Flag} (h : s.Knows f) : f ≠ s.next := by
  rintro rfl
  exact Nat.lt_irrefl _ h

theorem fresh_eq (s : Switches) : s.fresh = (s.next, ⟨s.on ++ [false]⟩) := rfl

theorem knows_fresh {s : Switches} {f : Flag} : s.fresh.2.Knows f ↔ s.Knows f ∨ f = s.next := by
  obtain ⟨k⟩ := f
  simp only [Knows, fresh_eq, next, List.length_append, List.length_singleton, Flag.mk.injEq]
  omega

theorem knows_cancel {s : Switches} {f g : Flag} : (s.cancel g).Knows f ↔ s.Knows f := by
  simp [Knows, cancel]

theorem isCancelled_fresh {s : Switches} {f : Flag} (h : s.Knows f) :
    s.fresh.2.isCancelled f = s.isCancelled f := by
  simp only [isCancelled, fresh_eq, List.getD_eq_getElem?_getD]
  rw [List.getElem?_append_left h]

theorem isCancelled_next (s : Switches) : s.fresh.2.isCancelled s.next = false := by
  simp [isCancelled, fresh_eq, next]

theorem isCancelled_cancel {s : Switches} {f g : Flag} (h : s.Knows f) :
    (s.cancel g).isCancelled f = (s.isCancelled f || decide (g = f)) := by
  obtain ⟨j⟩ := f
  obtain ⟨k⟩ := g
  simp only [isCancelled, cancel, List.getD_eq_getElem?_getD, Flag.mk.injEq]
  by_cases hkj : k = j
  · subst hkj
    rw [List.getElem?_set_self h]
    simp
  · rw [List.getElem?_set_ne hkj]
    simp [hkj]

end Switches

namespace ServerState

variable (s : ServerState) (u v : Uri)

/-! ## Documents -/

@[simp] theorem inflight_track (text : List Char) : (s.track u text).inflight = s.inflight := rfl

@[simp] theorem switches_track (text : List Char) : (s.track u text).switches = s.switches := rfl

@[simp] theorem held_track (text : List Char) : (s.track u text).held = s.held := rfl

theorem documents_track (text : List Char) :
    (s.track u text).documents.find? v = if v = u then some text else s.documents.find? v :=
  Table.find?_insert _ _ _ _

@[simp] theorem inflight_replaceText (text : List Char) :
    (s.replaceText u text).inflight = s.inflight := by
  unfold replaceText; split <;> rfl

@[simp] theorem switches_replaceText (text : List Char) :
    (s.replaceText u text).switches = s.switches := by
  unfold replaceText; split <;> rfl

@[simp] theorem held_replaceText (text : List Char) :
    (s.replaceText u text).held = s.held := by
  unfold replaceText; split <;> rfl

theorem documents_replaceText (text : List Char) :
    (s.replaceText u text).documents.find? v =
      if v = u ∧ (s.documents.find? u).isSome then some text else s.documents.find? v := by
  unfold replaceText Table.contains
  by_cases h : (s.documents.find? u).isSome
  · rw [if_pos h, documents_track]
    simp [h]
  · rw [if_neg h]
    simp [h]

@[simp] theorem inflight_forget : (s.forget u).inflight = s.inflight := rfl

@[simp] theorem switches_forget : (s.forget u).switches = s.switches := rfl

@[simp] theorem held_forget : (s.forget u).held = s.held := rfl

theorem documents_forget :
    (s.forget u).documents.find? v = if v = u then none else s.documents.find? v :=
  Table.find?_erase _ _ _

/-! ## Cancelling a scan -/

@[simp] theorem documents_cancelScan : (s.cancelScan u).documents = s.documents := by
  unfold cancelScan; split <;> rfl

@[simp] theorem held_cancelScan : (s.cancelScan u).held = s.held := by
  unfold cancelScan; split <;> rfl

theorem inflight_cancelScan :
    (s.cancelScan u).inflight.find? v = if v = u then none else s.inflight.find? v := by
  unfold cancelScan
  split
  · exact Table.find?_erase _ _ _
  · rename_i h
    by_cases hv : v = u
    · rw [if_pos hv, hv, h]
    · rw [if_neg hv]

variable {s} in
theorem knows_cancelScan {f : Flag} : (s.cancelScan u).switches.Knows f ↔ s.switches.Knows f := by
  unfold cancelScan
  split
  · exact Switches.knows_cancel
  · exact Iff.rfl

variable {s} in
theorem isCancelled_cancelScan {f : Flag} (hf : s.switches.Knows f) :
    (s.cancelScan u).switches.isCancelled f =
      (s.switches.isCancelled f || decide (s.inflight.find? u = some f)) := by
  unfold cancelScan
  split
  · rename_i g h
    rw [Switches.isCancelled_cancel hf, h]
    simp
  · rename_i h
    simp [h]

/-! ## Beginning and ending a scan -/

@[simp] theorem fst_beginScan : (s.beginScan u).1 = s.switches.next := rfl

@[simp] theorem documents_beginScan : (s.beginScan u).2.documents = s.documents := rfl

@[simp] theorem held_beginScan : (s.beginScan u).2.held = s.held := rfl

theorem inflight_beginScan :
    (s.beginScan u).2.inflight.find? v =
      if v = u then some s.switches.next else s.inflight.find? v :=
  Table.find?_insert _ _ _ _

theorem switches_beginScan :
    (s.beginScan u).2.switches =
      match s.inflight.find? u with
      | some previous => s.switches.fresh.2.cancel previous
      | none => s.switches.fresh.2 := rfl

variable {s} in
theorem knows_beginScan {f : Flag} :
    (s.beginScan u).2.switches.Knows f ↔ s.switches.Knows f ∨ f = s.switches.next := by
  rw [switches_beginScan]
  split
  · rw [Switches.knows_cancel, Switches.knows_fresh]
  · exact Switches.knows_fresh

variable {s} in
/-- Beginning a scan cancels the flag in flight, as `cancelScan` does. -/
theorem isCancelled_beginScan {f : Flag} (hf : s.switches.Knows f) :
    (s.beginScan u).2.switches.isCancelled f = (s.cancelScan u).switches.isCancelled f := by
  have hf' : s.switches.fresh.2.Knows f := Switches.knows_fresh.2 (Or.inl hf)
  rw [isCancelled_cancelScan u hf, switches_beginScan]
  split
  · rename_i g h
    rw [Switches.isCancelled_cancel hf', Switches.isCancelled_fresh hf, h]
    simp
  · rename_i h
    rw [Switches.isCancelled_fresh hf, h]
    simp

variable {s} in
/-- The new flag is off, unless the flag in flight was one that nobody has handed out. -/
theorem isCancelled_next_beginScan
    (h : ∀ f, s.inflight.find? u = some f → s.switches.Knows f) :
    (s.beginScan u).2.switches.isCancelled s.switches.next = false := by
  have hn : s.switches.fresh.2.Knows s.switches.next := Switches.knows_fresh.2 (Or.inr rfl)
  rw [switches_beginScan]
  split
  · rename_i g hg
    rw [Switches.isCancelled_cancel hn, Switches.isCancelled_next]
    simpa using (h g hg).ne_next
  · exact Switches.isCancelled_next _

@[simp] theorem documents_endScan (f : Flag) : (s.endScan u f).documents = s.documents := by
  unfold endScan; split <;> rfl

@[simp] theorem held_endScan (f : Flag) : (s.endScan u f).held = s.held := by
  unfold endScan; split <;> rfl

@[simp] theorem switches_endScan (f : Flag) : (s.endScan u f).switches = s.switches := by
  unfold endScan; split <;> rfl

theorem inflight_endScan (f : Flag) :
    (s.endScan u f).inflight.find? v =
      if v = u ∧ s.inflight.find? u = some f then none else s.inflight.find? v := by
  unfold endScan
  by_cases h : s.inflight.find? u = some f
  · rw [if_pos h]
    simpa [h] using Table.find?_erase s.inflight u v
  · rw [if_neg h]
    simp [h]

/-! ## Requests -/

theorem beginRequest?_of_tracked {text : List Char} (h : s.documents.find? u = some text) :
    s.beginRequest? u = some (⟨u, text, s.switches.next⟩, (s.beginScan u).2) := by
  simp [beginRequest?, h]

theorem beginRequest?_of_untracked (h : s.documents.find? u = none) :
    s.beginRequest? u = none := by
  simp [beginRequest?, h]

/-- The state in which a request for `u` has begun and is held under `id`. -/
def startRequest (id : String) (text : List Char) : ServerState :=
  { (s.beginScan u).2 with held := s.held.insert id ⟨u, text, s.switches.next⟩ }

theorem held_startRequest (id j : String) (text : List Char) :
    (s.startRequest u id text).held.find? j =
      if j = id then some ⟨u, text, s.switches.next⟩ else s.held.find? j :=
  Table.find?_insert _ _ _ _

theorem inflight_startRequest (id : String) (text : List Char) :
    (s.startRequest u id text).inflight.find? v =
      if v = u then some s.switches.next else s.inflight.find? v :=
  inflight_beginScan s u v

theorem switches_startRequest (id : String) (text : List Char) :
    (s.startRequest u id text).switches = (s.beginScan u).2.switches := rfl

/-- The state in which the request that was held under `id` has ended. -/
def endRequest (id : String) (r : Request) : ServerState :=
  { s with held := s.held.erase id }.endScan r.uri r.flag

theorem held_endRequest (id j : String) (r : Request) :
    (s.endRequest id r).held.find? j = if j = id then none else s.held.find? j := by
  rw [endRequest, held_endScan]
  exact Table.find?_erase _ _ _

theorem inflight_endRequest (id : String) (r : Request) :
    (s.endRequest id r).inflight.find? v =
      if v = r.uri ∧ s.inflight.find? r.uri = some r.flag then none else s.inflight.find? v :=
  inflight_endScan _ r.uri v r.flag

theorem switches_endRequest (id : String) (r : Request) :
    (s.endRequest id r).switches = s.switches := by
  rw [endRequest, switches_endScan]

/-- Whatever the provider gives, a request that ends leaves the same state. -/
@[simp] theorem state_finishRequest (provider : Provider) (r : Request) :
    (s.finishRequest provider r).state = s.endScan r.uri r.flag := by
  unfold finishRequest
  dsimp only
  split
  · rfl
  · split
    · rfl
    · split <;> rfl

end ServerState

end CwebHighlight
