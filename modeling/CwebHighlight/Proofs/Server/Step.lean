import CwebHighlight.Proofs.Server.Operations

/-!
# What a step of a server does

**Texts.** What a step makes of the text of a document depends on that text and the step alone
(`textAfter`, `documents_step`).

**Scans.** For the scans in flight and the held requests a step is one of four things
(`scanEffect_step`). It leaves them alone; it cancels the scan of one document, as an edit, a
closing and a request answered at once do; it starts a request and holds it; or it releases one.

**Superseding** (`ServerStep.Supersedes`). An edit that holds a text, a closing, and any request
for a document supersede the request in flight for it.

**Held requests.** What is held under an id changes only by the start and the release of a request
under it (`held_step_of_ne`).
-/

namespace CwebHighlight

namespace ServerStep

/-- The step is a request for the tokens of `u`. -/
def Requests (u : Uri) : ServerStep → Prop
  | .tokens v => v = u
  | .start _ v => v = u
  | _ => False

/-- The step supersedes a request that is in flight for `u`. -/
def Supersedes (u : Uri) : ServerStep → Prop
  | .changeDocument v texts => v = u ∧ texts ≠ []
  | .closeDocument v => v = u
  | .tokens v => v = u
  | .start _ v => v = u
  | _ => False

instance (u : Uri) : (x : ServerStep) → Decidable (x.Supersedes u)
  | .changeDocument _ _ => inferInstanceAs (Decidable (_ ∧ _ ≠ _))
  | .closeDocument _ | .tokens _ | .start _ _ => inferInstanceAs (Decidable (_ = _))
  | .introduce | .ready | .shutdown | .openDocument .. | .release _ => isFalse id

theorem Requests.supersedes {u : Uri} {x : ServerStep} (h : x.Requests u) : x.Supersedes u := by
  cases x <;> first | exact h | exact h.elim

/-! ## Texts -/

/-- The text of `u` after a step, given the text before it. -/
def textAfter (config : ServerConfig) (u : Uri) (text : Option (List Char)) :
    ServerStep → Option (List Char)
  | .openDocument v language new => if v = u ∧ language = config.languageId then some new else text
  | .changeDocument v texts => if v = u then text.map (texts.getLast?.getD ·) else text
  | .closeDocument v => if v = u then none else text
  | _ => text

end ServerStep

namespace ServerState

variable (config : ServerConfig) (s : ServerState)

theorem documents_step (x : ServerStep) (u : Uri) :
    (s.step config x).state.documents.find? u = x.textAfter config u (s.documents.find? u) := by
  cases x with
  | introduce => rfl
  | ready => rfl
  | shutdown => rfl
  | openDocument v language text =>
    simp only [step, ServerStep.textAfter]
    by_cases h : language = config.languageId
    · rw [if_pos h, documents_track]
      simp [h, eq_comm]
    · rw [if_neg h]
      simp [h]
  | changeDocument v texts =>
    simp only [step, ServerStep.textAfter]
    cases texts.getLast? with
    | none => simp
    | some text =>
      simp only [documents_replaceText, documents_cancelScan, Option.getD_some]
      by_cases h : v = u
      · subst h
        cases s.documents.find? v <;> simp
      · simp [h, Ne.symm h]
  | closeDocument v =>
    simp only [step, ServerStep.textAfter, documents_forget, documents_cancelScan, eq_comm]
  | tokens v =>
    simp only [step, ServerStep.textAfter]
    cases h : s.documents.find? v with
    | none => rw [beginRequest?_of_untracked _ _ h]
    | some text =>
      rw [beginRequest?_of_tracked _ _ h]
      simp
  | start id v =>
    simp only [step, ServerStep.textAfter]
    cases h : s.documents.find? v with
    | none => rw [beginRequest?_of_untracked _ _ h]
    | some text =>
      rw [beginRequest?_of_tracked _ _ h]
      simp
  | release id =>
    simp only [step, ServerStep.textAfter]
    cases s.held.find? id <;> simp

/-- A document stays tracked until it is closed. -/
theorem tracked_step {x : ServerStep} {u : Uri} {text : List Char}
    (h : s.documents.find? u = some text) (hx : x ≠ .closeDocument u) :
    ∃ text', (s.step config x).state.documents.find? u = some text' := by
  rw [documents_step, h]
  cases x with
  | openDocument v language new =>
    simp only [ServerStep.textAfter]
    split
    · exact ⟨_, rfl⟩
    · exact ⟨_, rfl⟩
  | changeDocument v texts =>
    simp only [ServerStep.textAfter]
    split
    · exact ⟨_, rfl⟩
    · exact ⟨_, rfl⟩
  | closeDocument v =>
    have hv : v ≠ u := fun h => hx (h ▸ rfl)
    exact ⟨text, by rw [ServerStep.textAfter, if_neg hv]⟩
  | _ => exact ⟨text, rfl⟩

/-! ## Scans -/

/-- The same scans in flight, the same held requests, and the same switches of known flags. -/
structure SameScans (s s' : ServerState) : Prop where
  inflight : ∀ u, s'.inflight.find? u = s.inflight.find? u
  held : ∀ id, s'.held.find? id = s.held.find? id
  isCancelled : ∀ f, s.switches.Knows f → s'.switches.isCancelled f = s.switches.isCancelled f
  knows : ∀ f, s.switches.Knows f → s'.switches.Knows f

theorem SameScans.of_eq {s s' : ServerState} (hi : s'.inflight = s.inflight)
    (hs : s'.switches = s.switches) (hh : s'.held = s.held) : SameScans s s' where
  inflight u := by rw [hi]
  held id := by rw [hh]
  isCancelled f _ := by rw [hs]
  knows f hf := by rwa [hs]

/-- A scan that ends in the step in which it began leaves its document without a scan. -/
theorem sameScans_endScan_beginScan (u : Uri) :
    SameScans (s.cancelScan u) ((s.beginScan u).2.endScan u s.switches.next) where
  inflight v := by
    rw [inflight_endScan, inflight_cancelScan, inflight_beginScan, inflight_beginScan]
    by_cases hv : v = u <;> simp [hv]
  held id := by simp
  isCancelled f hf := by
    rw [switches_endScan, isCancelled_beginScan u ((knows_cancelScan u).1 hf)]
  knows f hf := by
    rw [switches_endScan, knows_beginScan]
    exact Or.inl ((knows_cancelScan u).1 hf)

/-- What a step does to the scans in flight and the held requests. -/
inductive ScanEffect (s : ServerState) (x : ServerStep) (s' : ServerState) : Prop
  | quiet (hx : ∀ u text, s.documents.find? u = some text → ¬ x.Supersedes u)
      (h : SameScans s s')
  | cut (u : Uri) (hx : x.Supersedes u) (hu : ∀ v, x.Supersedes v → v = u)
      (h : SameScans (s.cancelScan u) s')
  | start (id : String) (u : Uri) (text : List Char) (hx : x = .start id u)
      (ht : s.documents.find? u = some text)
      (h : s' = s.startRequest u id text)
  | release (id : String) (r : Request) (hx : x = .release id) (hr : s.held.find? id = some r)
      (h : s' = s.endRequest id r)

theorem state_step_start {u : Uri} {text : List Char} (id : String)
    (h : s.documents.find? u = some text) :
    (s.step config (.start id u)).state = s.startRequest u id text := by
  rw [step, beginRequest?_of_tracked _ _ h]
  rfl

theorem scanEffect_step (x : ServerStep) : ScanEffect s x (s.step config x).state := by
  cases x with
  | introduce => exact .quiet (fun _ _ _ => id) (.of_eq rfl rfl rfl)
  | ready => exact .quiet (fun _ _ _ => id) (.of_eq rfl rfl rfl)
  | shutdown => exact .quiet (fun _ _ _ => id) (.of_eq rfl rfl rfl)
  | openDocument v language text =>
    refine .quiet (fun _ _ _ => id) ?_
    simp only [step]
    split
    · exact .of_eq (inflight_track _ _ _) (switches_track _ _ _) (held_track _ _ _)
    · exact .of_eq rfl rfl rfl
  | changeDocument v texts =>
    by_cases h : texts = []
    · subst h
      exact .quiet (fun _ _ _ hx => hx.2 rfl) (.of_eq rfl rfl rfl)
    · refine .cut v ⟨rfl, h⟩ (fun _ hw => hw.1.symm) ?_
      simp only [step, List.getLast?_eq_some_getLast h]
      exact .of_eq (inflight_replaceText _ _ _) (switches_replaceText _ _ _)
        (held_replaceText _ _ _)
  | closeDocument v =>
    refine .cut v rfl (fun _ hw => hw.symm) ?_
    exact .of_eq (inflight_forget _ _) (switches_forget _ _) (held_forget _ _)
  | tokens v =>
    simp only [step]
    cases h : s.documents.find? v with
    | none =>
      rw [beginRequest?_of_untracked _ _ h]
      exact .quiet (fun _ _ hu hx => by cases hx; simp [h] at hu) (.of_eq rfl rfl rfl)
    | some text =>
      rw [beginRequest?_of_tracked _ _ h]
      simp only [state_finishRequest]
      exact .cut v rfl (fun _ hw => hw.symm) (sameScans_endScan_beginScan s v)
  | start id v =>
    cases h : s.documents.find? v with
    | none =>
      simp only [step]
      rw [beginRequest?_of_untracked _ _ h]
      exact .quiet (fun _ _ hu hx => by cases hx; simp [h] at hu) (.of_eq rfl rfl rfl)
    | some text => exact .start id v text rfl h (state_step_start config s id h)
  | release id =>
    simp only [step]
    cases h : s.held.find? id with
    | none => exact .quiet (fun _ _ _ => False.elim) (.of_eq rfl rfl rfl)
    | some r =>
      simp only [state_finishRequest]
      exact .release id r rfl h rfl

/-! ## Held requests -/

theorem held_step_release (id : String) :
    (s.step config (.release id)).state.held.find? id = none := by
  rw [step]
  cases hr : s.held.find? id with
  | none => exact hr
  | some r =>
    dsimp only
    rw [state_finishRequest, held_endScan]
    exact (Table.find?_erase _ _ _).trans (if_pos rfl)

theorem held_step_start {v : Uri} {text : List Char} (id : String)
    (htext : s.documents.find? v = some text) :
    (s.step config (.start id v)).state.held.find? id = some ⟨v, text, s.switches.next⟩ := by
  rw [state_step_start _ _ _ htext, held_startRequest, if_pos rfl]

theorem held_step_of_ne {x : ServerStep} {id : String} (hrelease : x ≠ .release id)
    (hstart : ∀ v text, x = .start id v → s.documents.find? v ≠ some text) :
    (s.step config x).state.held.find? id = s.held.find? id := by
  cases scanEffect_step config s x with
  | quiet _ hs => exact hs.held id
  | cut v _ _ hs => rw [hs.held, held_cancelScan]
  | start id' v text hx htext hs =>
    have hid : id ≠ id' := by
      rintro rfl
      exact hstart v text hx htext
    rw [hs, held_startRequest, if_neg hid]
  | release id' r hx _ hs =>
    have hid : id ≠ id' := by
      rintro rfl
      exact hrelease hx
    rw [hs, held_endRequest, if_neg hid]

end ServerState

end CwebHighlight
