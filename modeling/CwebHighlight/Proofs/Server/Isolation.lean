import CwebHighlight.Proofs.Server.Answers
import CwebHighlight.Proofs.Server.Inflight

/-!
# Documents do not see each other

Two runs are compared: a run over any number of documents, and the same run without the steps that
do not concern the document `u`. The steps that remain have the same outcomes in both. The release
of an id under which nothing is held concerns nobody and does nothing, so it may stay or go.

**The view** (`DocumentView`). Of a whole state, `u` sees its own text and, under every id, the held
request for it: its text and whether it is cancelled. The flags themselves are no part of the view,
since the two runs hand out different ones.

**One step** (`view_step`). The view after a step is a function of the view before it, so a step
that does not concern `u` leaves the view alone (`view_step_of_not_concerns`), and a step that does
has an outcome that the view decides (`outcome_eq_of_view`).

**Two runs** (`Follows`). The shorter run always shows `u` the view of the longer one and holds
requests for `u` only, also if it was given some of the idle releases (`Selects`).

Main result: `outcomes_of_isolated`.
-/

namespace CwebHighlight

/-! ## Views -/

/-- What one document sees of a server. A held request is its text and whether it is cancelled. -/
@[ext]
structure DocumentView where
  text : Option (List Char)
  held : String → Option (List Char × Bool)

/-- The view after a step, given the view before it. -/
def DocumentView.after (config : ServerConfig) (u : Uri) (v : DocumentView) (x : ServerStep) :
    DocumentView where
  text := x.textAfter config u v.text
  held id :=
    if x = .release id then none
    else if x = .start id u ∧ v.text.isSome then v.text.map (·, false)
    else (v.held id).map fun h => (h.1, h.2 || decide (x.Supersedes u))

/-- The step names `u`, or it releases a request for `u`. -/
def ServerStep.Concerns (s : ServerState) (u : Uri) : ServerStep → Prop
  | .openDocument v _ _ | .changeDocument v _ | .closeDocument v | .tokens v | .start _ v => v = u
  | .release id => ∃ r ∈ s.held.find? id, r.uri = u
  | .introduce | .ready | .shutdown => False

instance (s : ServerState) (u : Uri) : (x : ServerStep) → Decidable (x.Concerns s u)
  | .openDocument .. | .changeDocument .. | .closeDocument _ | .tokens _ | .start _ _ =>
    inferInstanceAs (Decidable (_ = _))
  | .release _ => inferInstanceAs (Decidable (∃ r ∈ _, _))
  | .introduce | .ready | .shutdown => isFalse id

/-- The step is a release, and nothing is held under its id. -/
def ServerStep.Idle (s : ServerState) : ServerStep → Prop
  | .release id => s.held.find? id = none
  | _ => False

instance (s : ServerState) : (x : ServerStep) → Decidable (x.Idle s)
  | .release _ => inferInstanceAs (Decidable (_ = _))
  | .introduce | .ready | .shutdown | .openDocument .. | .changeDocument .. | .closeDocument _
  | .tokens _ | .start _ _ => isFalse id

namespace ServerState

variable {config : ServerConfig} {u : Uri} {s t : ServerState} {x : ServerStep}

def view (s : ServerState) (u : Uri) : DocumentView where
  text := s.documents.find? u
  held id :=
    match s.held.find? id with
    | some r => if r.uri = u then some (r.text, s.switches.isCancelled r.flag) else none
    | none => none

theorem held_view_of_held {id : String} {r : Request} (hr : s.held.find? id = some r) :
    (s.view u).held id =
      if r.uri = u then some (r.text, s.switches.isCancelled r.flag) else none := by
  simp only [view, hr]

theorem held_view_of_not_held {id : String} (hid : s.held.find? id = none) :
    (s.view u).held id = none := by
  simp only [view, hid]

/-! ## One step -/

/-- A request that is held before and after a step shows in the view as it did, cancelled if the
step supersedes it. -/
theorem held_view_step_of_kept (h : Coherent s) (ht : InflightTracked s) {id : String}
    (hkept : (s.step config x).state.held.find? id = s.held.find? id) :
    ((s.step config x).state.view u).held id =
      ((s.view u).held id).map fun h => (h.1, h.2 || decide (x.Supersedes u)) := by
  cases hr : s.held.find? id with
  | none =>
    rw [hr] at hkept
    rw [held_view_of_not_held hkept, held_view_of_not_held hr]
    rfl
  | some r =>
    rw [hr] at hkept
    rw [held_view_of_held hkept, held_view_of_held hr]
    by_cases hu : r.uri = u
    · subst hu
      have hon : (s.step config x).state.switches.isCancelled r.flag =
          (s.switches.isCancelled r.flag || decide (x.Supersedes r.uri)) := by
        rw [Bool.eq_iff_iff, h.isCancelled_step ht hr x, Bool.or_eq_true, decide_eq_true_eq]
      rw [if_pos rfl, if_pos rfl, hon]
      rfl
    · rw [if_neg hu, if_neg hu]
      rfl

/-- **The view after a step** is a function of the view before it. -/
theorem view_step (h : Coherent s) (ht : InflightTracked s) (hx : x.HasOwnId s) (u : Uri) :
    (s.step config x).state.view u = (s.view u).after config u x := by
  ext1
  · exact documents_step config s x u
  · funext id
    by_cases hrelease : x = .release id
    · subst hrelease
      rw [held_view_of_not_held (held_step_release config s id)]
      simp [DocumentView.after]
    · by_cases hstart : ∃ v text, x = .start id v ∧ s.documents.find? v = some text
      · obtain ⟨v, text, rfl, htext⟩ := hstart
        have hold : s.held.find? id = none := hx (by rw [htext]; rfl)
        rw [held_view_of_held (held_step_start config _ id htext)]
        by_cases hv : v = u
        · subst hv
          have hoff := isCancelled_next_beginScan (s := s) v fun f hf => h.knows_inflight hf
          rw [if_pos rfl, state_step_start _ _ _ htext, switches_startRequest, hoff]
          simp [DocumentView.after, view, htext]
        · rw [if_neg hv]
          simp [DocumentView.after, hv, held_view_of_not_held hold]
      · have hkept : (s.step config x).state.held.find? id = s.held.find? id := by
          refine held_step_of_ne config _ hrelease fun v text hxv htext => ?_
          exact hstart ⟨v, text, hxv, htext⟩
        have hnew : ¬ (x = .start id u ∧ (s.view u).text.isSome) := by
          rintro ⟨hxu, htext⟩
          obtain ⟨text, htext⟩ := Option.isSome_iff_exists.1 htext
          exact hstart ⟨u, text, hxu, htext⟩
        rw [held_view_step_of_kept h ht hkept]
        exact ((if_neg hrelease).trans (if_neg hnew)).symm

/-- A step that does not concern a document leaves its view alone. -/
theorem view_step_of_not_concerns (h : Coherent s) (ht : InflightTracked s) (hx : x.HasOwnId s)
    (hu : ¬ x.Concerns s u) : (s.step config x).state.view u = s.view u := by
  rw [view_step h ht hx]
  have htext : x.textAfter config u (s.view u).text = (s.view u).text := by
    cases x <;> simp_all [ServerStep.textAfter, ServerStep.Concerns]
  have hsup : ¬ x.Supersedes u := by
    cases x <;> simp_all [ServerStep.Supersedes, ServerStep.Concerns]
  ext1
  · exact htext
  · funext id
    by_cases hrelease : x = .release id
    · subst hrelease
      have hnone : (s.view u).held id = none := by
        cases hr : s.held.find? id with
        | none => exact held_view_of_not_held hr
        | some r =>
          have hru : ¬ r.uri = u := fun hru => hu ⟨r, hr, hru⟩
          rw [held_view_of_held hr, if_neg hru]
      rw [hnone]
      simp [DocumentView.after]
    · have hstart : x ≠ .start id u := by
        rintro rfl
        exact hu rfl
      simp [DocumentView.after, hrelease, hstart, hsup]

/-- The view of the document of a held request decides the outcome of its release. -/
theorem outcome_release_of_view {id : String} {r : Request} (hr : s.held.find? id = some r)
    (hview : (t.view r.uri).held id = (s.view r.uri).held id) :
    (t.step config (.release id)).outcome = (s.step config (.release id)).outcome := by
  rw [held_view_of_held hr, if_pos rfl] at hview
  rw [outcome_release, outcome_release, hr]
  cases hr' : t.held.find? id with
  | none =>
    rw [held_view_of_not_held hr'] at hview
    cases hview
  | some r' =>
    rw [held_view_of_held hr'] at hview
    split at hview
    · rename_i huri
      rw [Option.some.injEq, Prod.mk.injEq] at hview
      obtain ⟨htext, hon⟩ := hview
      dsimp only
      rw [huri, htext, hon]
    · cases hview

/-- A held request shows in the view of its document. -/
theorem exists_held_of_view {id : String} {r : Request} (hr : t.held.find? id = some r)
    (hview : (t.view r.uri).held id = (s.view r.uri).held id) :
    ∃ r', s.held.find? id = some r' := by
  cases hid : s.held.find? id with
  | some r' => exact ⟨r', rfl⟩
  | none =>
    rw [held_view_of_not_held hid, held_view_of_held hr, if_pos rfl] at hview
    cases hview

/-- The view of a document decides the outcome of a step that concerns it. -/
theorem outcome_eq_of_view (hs : InflightKnown s) (ht : InflightKnown t)
    (hview : t.view u = s.view u) (hu : x.Concerns s u) :
    (t.step config x).outcome = (s.step config x).outcome := by
  have htext : t.documents.find? u = s.documents.find? u := congrArg DocumentView.text hview
  cases x with
  | introduce | ready | shutdown => exact hu.elim
  | openDocument v language text =>
    simp only [step]
    split <;> rfl
  | changeDocument v texts =>
    simp only [step]
    split <;> rfl
  | closeDocument v => rfl
  | tokens v =>
    obtain rfl : v = u := hu
    rw [outcome_tokens config hs, outcome_tokens config ht, htext]
  | start id v =>
    obtain rfl : v = u := hu
    rw [outcome_start, outcome_start, htext]
  | release id =>
    obtain ⟨r, hr, rfl⟩ := hu
    exact outcome_release_of_view hr (by rw [hview])

theorem outcome_of_idle (hx : x.Idle s) : (s.step config x).outcome = (.notHeld, []) := by
  cases x with
  | release id =>
    rw [outcome_release, show s.held.find? id = none from hx]
  | _ => exact hx.elim

/-! ## Two runs -/

/-- `t` shows `u` the same view as `s`, and holds requests for `u` only. -/
structure Follows (u : Uri) (s t : ServerState) : Prop where
  coherent : Coherent s
  tracked : InflightTracked s
  coherent' : Coherent t
  tracked' : InflightTracked t
  view : t.view u = s.view u
  only : ∀ id r, t.held.find? id = some r → r.uri = u

namespace Follows

/-- A step that does not concern `u` is left out. -/
theorem step_left (h : Follows u s t) (hx : x.HasOwnId s) (hu : ¬ x.Concerns s u) :
    Follows u (s.step config x).state t where
  coherent := h.coherent.step hx
  tracked := h.tracked.step x
  coherent' := h.coherent'
  tracked' := h.tracked'
  view := by rw [h.view, view_step_of_not_concerns h.coherent h.tracked hx hu]
  only := h.only

/-- An id under which `s` holds nothing for `u` is free in `t`. -/
theorem held_eq_none (h : Follows u s t) {id : String} (hid : s.held.find? id = none) :
    t.held.find? id = none := by
  cases hr : t.held.find? id with
  | none => rfl
  | some r =>
    have hview : (t.view r.uri).held id = (s.view r.uri).held id := by rw [h.only id r hr, h.view]
    obtain ⟨r', hr'⟩ := exists_held_of_view hr hview
    rw [hid] at hr'
    cases hr'

theorem idle (h : Follows u s t) (hx : x.Idle s) : x.Idle t := by
  cases x with
  | release id => exact h.held_eq_none hx
  | _ => exact hx.elim

/-- An id that is free in the longer run is free in the shorter one. -/
theorem hasOwnId (h : Follows u s t) (hx : x.HasOwnId s) (hu : x.Concerns s u ∨ x.Idle s) :
    x.HasOwnId t := by
  cases x with
  | start id v =>
    obtain rfl : v = u := hu.resolve_right fun hidle => hidle
    have htext : t.documents.find? v = s.documents.find? v :=
      congrArg DocumentView.text h.view
    intro hopen
    exact h.held_eq_none (hx (htext ▸ hopen))
  | _ => trivial

/-- A step that stays is made in both runs. -/
theorem step_both (h : Follows u s t) (hx : x.HasOwnId s) (hu : x.Concerns s u ∨ x.Idle s) :
    Follows u (s.step config x).state (t.step config x).state where
  coherent := h.coherent.step hx
  tracked := h.tracked.step x
  coherent' := h.coherent'.step (h.hasOwnId hx hu)
  tracked' := h.tracked'.step x
  view := by
    rw [view_step h.coherent h.tracked hx, view_step h.coherent' h.tracked' (h.hasOwnId hx hu),
      h.view]
  only id r hr := by
    by_cases hstart : ∃ v text, x = .start id v ∧ t.documents.find? v = some text
    · obtain ⟨v, text, rfl, htext⟩ := hstart
      rw [held_step_start config _ id htext] at hr
      cases hr
      exact hu.resolve_right fun hidle => hidle
    · by_cases hrelease : x = .release id
      · subst hrelease
        rw [held_step_release] at hr
        cases hr
      · have hkept : (t.step config x).state.held.find? id = t.held.find? id :=
          held_step_of_ne config t hrelease fun v text hxv htext => hstart ⟨v, text, hxv, htext⟩
        rw [hkept] at hr
        exact h.only id r hr

theorem outcome_eq (h : Follows u s t) (hu : x.Concerns s u ∨ x.Idle s) :
    (t.step config x).outcome = (s.step config x).outcome := by
  rcases hu with hu | hidle
  · exact outcome_eq_of_view (fun _ _ => h.coherent.knows_inflight)
      (fun _ _ => h.coherent'.knows_inflight) h.view hu
  · rw [outcome_of_idle hidle, outcome_of_idle (h.idle hidle)]

end Follows

/-- A step of a run, with the state before it and its result. -/
structure Visit where
  before : ServerState
  step : ServerStep
  result : StepResult

/-- The steps of a run, one after the other. -/
def visits (config : ServerConfig) (s : ServerState) : List ServerStep → List Visit
  | [] => []
  | x :: rest => ⟨s, x, s.step config x⟩ :: (s.step config x).state.visits config rest

/-- Of the steps of a run, those that concern `u` are kept and all others left out, apart from idle
ones, of which any may be kept. -/
structure Selects (u : Uri) (keep : Visit → Bool) (visits : List Visit) : Prop where
  keep_of_concerns : ∀ v ∈ visits, v.step.Concerns v.before u → keep v = true
  of_keep : ∀ v ∈ visits, keep v = true → v.step.Concerns v.before u ∨ v.step.Idle v.before

theorem Follows.run {steps : List ServerStep} {keep : Visit → Bool} (h : Follows u s t)
    (hids : s.DistinctIds config steps) (hkeep : Selects u keep (s.visits config steps)) :
    (t.run config (((s.visits config steps).filter keep).map (·.step))).map (·.outcome) =
      ((s.visits config steps).filter keep).map (·.result.outcome) := by
  induction steps generalizing s t with
  | nil => rfl
  | cons x rest ih =>
    obtain ⟨hx, hrest⟩ := hids
    have hhead : (⟨s, x, s.step config x⟩ : Visit) ∈ s.visits config (x :: rest) :=
      List.mem_cons_self
    have htail : Selects u keep ((s.step config x).state.visits config rest) :=
      ⟨fun v hv => hkeep.keep_of_concerns v (List.mem_cons_of_mem _ hv),
        fun v hv => hkeep.of_keep v (List.mem_cons_of_mem _ hv)⟩
    rw [visits]
    by_cases hk : keep ⟨s, x, s.step config x⟩ = true
    · have hu : x.Concerns s u ∨ x.Idle s := hkeep.of_keep _ hhead hk
      rw [List.filter_cons_of_pos hk, List.map_cons, List.map_cons, ServerState.run, List.map_cons,
        h.outcome_eq hu, ih (h.step_both hx hu) hrest htail]
    · have hu : ¬ x.Concerns s u := fun hu => hk (hkeep.keep_of_concerns _ hhead hu)
      rw [List.filter_cons_of_neg hk]
      exact ih (h.step_left hx hu) hrest htail

end ServerState

end CwebHighlight
