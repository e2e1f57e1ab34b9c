import CwebHighlight.Proofs.Server.Run
import Mathlib.Data.List.Induction

/-!
# The scans in flight

In a coherent state (`Coherent`) the flags in flight are exactly the flags of held requests that
are off, each under its own document, and no two held requests share a flag. Every step whose
request gets an id of its own keeps this (`Coherent.step`).

**What cancels a request** (`Coherent.isCancelled_step`). The flag of a held request is on after a
step if it was on before, or if the step supersedes the request. Nothing else turns it on: not an
opening, not an empty edit, not a step on another document and not the end of an older request.

**Runs** (`inflight_exact`). At most one held request for a document is not cancelled. It is the
one that was started last, its flag is the one in flight, and its document is tracked.
-/

namespace CwebHighlight

namespace ServerState

/-! ## Coherent states -/

/-- The flags in flight are the flags of the held requests that are off. -/
structure Coherent (s : ServerState) : Prop where
  held_of_inflight : ∀ u f, s.inflight.find? u = some f →
    ∃ id r, s.held.find? id = some r ∧ r.uri = u ∧ r.flag = f
  off_of_inflight : ∀ u f, s.inflight.find? u = some f → s.switches.isCancelled f = false
  inflight_of_off : ∀ id r, s.held.find? id = some r → s.switches.isCancelled r.flag = false →
    s.inflight.find? r.uri = some r.flag
  knows : ∀ id r, s.held.find? id = some r → s.switches.Knows r.flag
  eq_of_flag : ∀ id r id' r', s.held.find? id = some r → s.held.find? id' = some r' →
    r.flag = r'.flag → id = id'

/-- Every document with a scan in flight is tracked. -/
def InflightTracked (s : ServerState) : Prop :=
  ∀ u f, s.inflight.find? u = some f → ∃ text, s.documents.find? u = some text

/-- The request `r` for `u` is held under `id` and not cancelled. -/
def Running (s : ServerState) (u : Uri) (id : String) (r : Request) : Prop :=
  s.held.find? id = some r ∧ r.uri = u ∧ s.switches.isCancelled r.flag = false

theorem coherent_initial : Coherent initial where
  held_of_inflight _ _ h := by cases h
  off_of_inflight _ _ h := by cases h
  inflight_of_off _ _ h := by cases h
  knows _ _ h := by cases h
  eq_of_flag _ _ _ _ h := by cases h

theorem inflightTracked_initial : InflightTracked initial := fun _ _ h => by cases h

namespace Coherent

variable {s s' : ServerState}

theorem knows_inflight (h : Coherent s) {u : Uri} {f : Flag} (hf : s.inflight.find? u = some f) :
    s.switches.Knows f := by
  obtain ⟨id, r, hr, -, rfl⟩ := h.held_of_inflight u f hf
  exact h.knows id r hr

/-- The flag of a held request is in flight for the document of the request only. -/
theorem uri_of_inflight (h : Coherent s) {id : String} {r : Request} {u : Uri}
    (hr : s.held.find? id = some r) (hf : s.inflight.find? u = some r.flag) : r.uri = u := by
  obtain ⟨id', r', hr', hu, hflag⟩ := h.held_of_inflight u r.flag hf
  obtain rfl := h.eq_of_flag id r id' r' hr hr' hflag.symm
  rw [hr] at hr'
  cases hr'
  exact hu

theorem inflight_iff_running (h : Coherent s) {u : Uri} {f : Flag} :
    s.inflight.find? u = some f ↔ ∃ id r, s.Running u id r ∧ r.flag = f := by
  constructor
  · intro hf
    obtain ⟨id, r, hr, hu, rfl⟩ := h.held_of_inflight u f hf
    exact ⟨id, r, ⟨hr, hu, h.off_of_inflight u _ hf⟩, rfl⟩
  · rintro ⟨id, r, ⟨hr, rfl, hoff⟩, rfl⟩
    exact h.inflight_of_off id r hr hoff

/-- All requests for one document are cancelled but one. -/
theorem isCancelled_of_running (h : Coherent s) {u : Uri} {id id' : String} {r r' : Request}
    (hrun : s.Running u id r) (hr' : s.held.find? id' = some r') (hu' : r'.uri = u)
    (hne : id' ≠ id) : s.switches.isCancelled r'.flag = true := by
  obtain ⟨hr, rfl, hoff⟩ := hrun
  cases hoff' : s.switches.isCancelled r'.flag with
  | true => rfl
  | false =>
    have hf := h.inflight_of_off id r hr hoff
    have hf' := h.inflight_of_off id' r' hr' hoff'
    rw [hu', hf] at hf'
    exact absurd (h.eq_of_flag id' r' id r hr' hr (Option.some.inj hf').symm) hne

/-! ## One operation -/

theorem of_sameScans (h : Coherent s) (hs : SameScans s s') : Coherent s' where
  held_of_inflight u f hf := by
    rw [hs.inflight] at hf
    obtain ⟨id, r, hr, hur⟩ := h.held_of_inflight u f hf
    exact ⟨id, r, by rw [hs.held, hr], hur⟩
  off_of_inflight u f hf := by
    rw [hs.inflight] at hf
    rw [hs.isCancelled f (h.knows_inflight hf)]
    exact h.off_of_inflight u f hf
  inflight_of_off id r hr hoff := by
    rw [hs.held] at hr
    rw [hs.isCancelled r.flag (h.knows id r hr)] at hoff
    rw [hs.inflight]
    exact h.inflight_of_off id r hr hoff
  knows id r hr := by
    rw [hs.held] at hr
    exact hs.knows _ (h.knows id r hr)
  eq_of_flag id r id' r' hr hr' := by
    rw [hs.held] at hr hr'
    exact h.eq_of_flag id r id' r' hr hr'

/-- Cancelling the scan of `u` turns on the flags of the requests for `u` and no others. -/
theorem isCancelled_cancelScan_iff (h : Coherent s) {id : String} {r : Request}
    (hr : s.held.find? id = some r) (u : Uri) :
    (s.cancelScan u).switches.isCancelled r.flag = true ↔
      s.switches.isCancelled r.flag = true ∨ r.uri = u := by
  rw [isCancelled_cancelScan u (h.knows id r hr), Bool.or_eq_true, decide_eq_true_eq]
  constructor
  · rintro (hon | hf)
    · exact Or.inl hon
    · exact Or.inr (h.uri_of_inflight hr hf)
  · rintro (hon | rfl)
    · exact Or.inl hon
    · cases hoff : s.switches.isCancelled r.flag with
      | true => exact Or.inl rfl
      | false => exact Or.inr (h.inflight_of_off id r hr hoff)

theorem cancelScan (h : Coherent s) (u : Uri) : Coherent (s.cancelScan u) where
  held_of_inflight v f hf := by
    rw [inflight_cancelScan] at hf
    split at hf
    · cases hf
    · rw [held_cancelScan]
      exact h.held_of_inflight v f hf
  off_of_inflight v f hf := by
    rw [inflight_cancelScan] at hf
    split at hf
    · cases hf
    · rename_i hvu
      obtain ⟨id, r, hr, rfl, rfl⟩ := h.held_of_inflight v f hf
      rw [← Bool.not_eq_true, h.isCancelled_cancelScan_iff hr, h.off_of_inflight _ _ hf]
      simpa using hvu
  inflight_of_off id r hr hoff := by
    rw [held_cancelScan] at hr
    rw [← Bool.not_eq_true, h.isCancelled_cancelScan_iff hr, not_or, Bool.not_eq_true] at hoff
    rw [inflight_cancelScan, if_neg hoff.2]
    exact h.inflight_of_off id r hr hoff.1
  knows id r hr := by
    rw [held_cancelScan] at hr
    exact (knows_cancelScan u).2 (h.knows id r hr)
  eq_of_flag id r id' r' hr hr' := by
    rw [held_cancelScan] at hr hr'
    exact h.eq_of_flag id r id' r' hr hr'

theorem startRequest (h : Coherent s) {id : String} (u : Uri) (text : List Char)
    (hid : s.held.find? id = none) : Coherent (s.startRequest u id text) := by
  have hold : ∀ j r, s.held.find? j = some r → j ≠ id := by
    rintro j r hr rfl
    rw [hid] at hr
    cases hr
  have hnew : ∀ j r, s.held.find? j = some r → r.flag ≠ s.switches.next :=
    fun j r hr => (h.knows j r hr).ne_next
  refine ⟨fun v f hf => ?_, fun v f hf => ?_, fun j r hr hoff => ?_, fun j r hr => ?_,
    fun j r j' r' hr hr' hflag => ?_⟩
  · rw [inflight_startRequest] at hf
    split at hf
    · rename_i hv
      exact ⟨id, _, by rw [held_startRequest, if_pos rfl], hv.symm, Option.some.inj hf⟩
    · obtain ⟨j, r, hr, hrest⟩ := h.held_of_inflight v f hf
      exact ⟨j, r, by rw [held_startRequest, if_neg (hold j r hr), hr], hrest⟩
  · rw [inflight_startRequest] at hf
    rw [switches_startRequest]
    split at hf
    · cases hf
      exact isCancelled_next_beginScan u fun f hf => h.knows_inflight hf
    · rename_i hv
      rw [isCancelled_beginScan u (h.knows_inflight hf)]
      refine (h.cancelScan u).off_of_inflight v f ?_
      rw [inflight_cancelScan, if_neg hv, hf]
  · rw [held_startRequest] at hr
    rw [switches_startRequest] at hoff
    rw [inflight_startRequest]
    split at hr
    · cases hr
      rw [if_pos rfl]
    · rw [isCancelled_beginScan u (h.knows j r hr)] at hoff
      have hin := (h.cancelScan u).inflight_of_off j r (by rw [held_cancelScan, hr]) hoff
      rw [inflight_cancelScan] at hin
      split at hin
      · cases hin
      · rename_i hv
        rw [if_neg hv, hin]
  · rw [held_startRequest] at hr
    rw [switches_startRequest, knows_beginScan]
    split at hr
    · cases hr
      exact Or.inr rfl
    · exact Or.inl (h.knows j r hr)
  · rw [held_startRequest] at hr hr'
    split at hr <;> split at hr'
    · rename_i hj hj'
      rw [hj, hj']
    · cases hr
      exact absurd hflag.symm (hnew j' r' hr')
    · cases hr'
      exact absurd hflag (hnew j r hr)
    · exact h.eq_of_flag j r j' r' hr hr' hflag

theorem endRequest (h : Coherent s) {id : String} {r : Request} (hr : s.held.find? id = some r) :
    Coherent (s.endRequest id r) := by
  refine ⟨fun v f hf => ?_, fun v f hf => ?_, fun j q hq hoff => ?_, fun j q hq => ?_,
    fun j q j' q' hq hq' hflag => ?_⟩
  · rw [inflight_endRequest] at hf
    split at hf
    · cases hf
    · rename_i hne
      obtain ⟨j, q, hq, hv, hflag⟩ := h.held_of_inflight v f hf
      have hj : j ≠ id := by
        rintro rfl
        rw [hr] at hq
        cases hq
        exact hne ⟨hv.symm, by rw [hv, hflag, hf]⟩
      exact ⟨j, q, by rw [held_endRequest, if_neg hj, hq], hv, hflag⟩
  · rw [inflight_endRequest] at hf
    rw [switches_endRequest]
    split at hf
    · cases hf
    · exact h.off_of_inflight v f hf
  · rw [held_endRequest] at hq
    rw [switches_endRequest] at hoff
    split at hq
    · cases hq
    · rename_i hj
      have hin := h.inflight_of_off j q hq hoff
      rw [inflight_endRequest, if_neg, hin]
      rintro ⟨hu, hf⟩
      rw [← hu] at hf
      have hflag : q.flag = r.flag := Option.some.inj (hin.symm.trans hf)
      exact hj (h.eq_of_flag j q id r hq hr hflag)
  · rw [held_endRequest] at hq
    rw [switches_endRequest]
    split at hq
    · cases hq
    · exact h.knows j q hq
  · rw [held_endRequest] at hq hq'
    split at hq
    · cases hq
    · split at hq'
      · cases hq'
      · exact h.eq_of_flag j q j' q' hq hq' hflag

/-! ## One step -/

theorem step (h : Coherent s) {config : ServerConfig} {x : ServerStep} (hx : x.HasOwnId s) :
    Coherent (s.step config x).state := by
  cases scanEffect_step config s x with
  | quiet _ hs => exact h.of_sameScans hs
  | cut u _ _ hs => exact (h.cancelScan u).of_sameScans hs
  | start id u text hstart ht hs =>
    subst hstart
    rw [hs]
    exact h.startRequest u text (hx (by rw [ht]; rfl))
  | release id r _ hr hs =>
    rw [hs]
    exact h.endRequest hr

/-- **What cancels a held request**: a step that supersedes it, and nothing else. -/
theorem isCancelled_step (h : Coherent s) (ht : InflightTracked s) {config : ServerConfig}
    {id : String} {r : Request} (hr : s.held.find? id = some r) (x : ServerStep) :
    (s.step config x).state.switches.isCancelled r.flag = true ↔
      s.switches.isCancelled r.flag = true ∨ x.Supersedes r.uri := by
  have hknows := h.knows id r hr
  cases scanEffect_step config s x with
  | quiet hx hs =>
    rw [hs.isCancelled _ hknows]
    refine ⟨Or.inl, ?_⟩
    rintro (hon | hsup)
    · exact hon
    · -- A request that is off has a tracked document, which a quiet step does not supersede.
      cases hoff : s.switches.isCancelled r.flag with
      | true => rfl
      | false =>
        obtain ⟨text, htext⟩ := ht _ _ (h.inflight_of_off id r hr hoff)
        exact absurd hsup (hx r.uri text htext)
  | cut u hu huniq hs =>
    rw [hs.isCancelled _ ((knows_cancelScan u).2 hknows), h.isCancelled_cancelScan_iff hr]
    exact or_congr_right ⟨fun hru => hru ▸ hu, huniq r.uri⟩
  | start id' u text hx _ hs =>
    subst hx
    rw [hs, switches_startRequest, isCancelled_beginScan u hknows,
      h.isCancelled_cancelScan_iff hr]
    exact or_congr_right eq_comm
  | release id' r' hx _ hs =>
    subst hx
    rw [hs, switches_endRequest]
    exact ⟨Or.inl, fun hon => hon.resolve_right fun h => h⟩

end Coherent

/-- A held request stays held until it is released. -/
theorem held_step {config : ServerConfig} {s : ServerState} {x : ServerStep} (hx : x.HasOwnId s)
    {id : String} {r : Request} (hr : s.held.find? id = some r) (hrel : x ≠ .release id) :
    (s.step config x).state.held.find? id = some r := by
  have hstart : ∀ v text, x = .start id v → s.documents.find? v ≠ some text := by
    rintro v text rfl htext
    rw [hx (by rw [htext]; rfl)] at hr
    cases hr
  rw [held_step_of_ne config s hrel hstart, hr]

theorem InflightTracked.step {config : ServerConfig} {s : ServerState} (ht : InflightTracked s)
    (x : ServerStep) : InflightTracked (s.step config x).state := by
  intro u f hf
  have hbefore : (∃ text, s.documents.find? u = some text) ∧ x ≠ .closeDocument u := by
    cases scanEffect_step config s x with
    | quiet hx hs =>
      rw [hs.inflight] at hf
      obtain ⟨text, htext⟩ := ht u f hf
      exact ⟨⟨text, htext⟩, fun h => hx u text htext (h ▸ rfl)⟩
    | cut v _ huniq hs =>
      rw [hs.inflight, inflight_cancelScan] at hf
      split at hf
      · cases hf
      · rename_i hv
        exact ⟨ht u f hf, fun h => hv (huniq u (h ▸ rfl))⟩
    | start id v text hx htext hs =>
      rw [hs, inflight_startRequest] at hf
      refine ⟨?_, fun h => by rw [hx] at h; cases h⟩
      split at hf
      · rename_i hv
        exact ⟨text, hv ▸ htext⟩
      · exact ht u f hf
    | release id r hx _ hs =>
      rw [hs, inflight_endRequest] at hf
      refine ⟨?_, fun h => by rw [hx] at h; cases h⟩
      split at hf
      · cases hf
      · exact ht u f hf
  obtain ⟨⟨text, htext⟩, hx⟩ := hbefore
  exact tracked_step config s htext hx

/-! ## Runs -/

section

variable {config : ServerConfig} {steps : List ServerStep}

theorem inflightTracked_after (config : ServerConfig) (steps : List ServerStep) :
    InflightTracked (initial.after config steps) := by
  induction steps using List.reverseRecOn with
  | nil => exact inflightTracked_initial
  | append_singleton steps x ih =>
    rw [after_concat]
    exact ih.step x

theorem coherent_after (hids : initial.DistinctIds config steps) :
    Coherent (initial.after config steps) := by
  induction steps using List.reverseRecOn with
  | nil => exact coherent_initial
  | append_singleton steps x ih =>
    obtain ⟨hids, hx⟩ := (distinctIds_concat _ _ _ _).1 hids
    rw [after_concat]
    exact (ih hids).step hx

/-- The last request for `u` in the run is the one that was started as `r` under `id`. -/
def StartedLast (config : ServerConfig) (steps : List ServerStep) (u : Uri) (id : String)
    (r : Request) : Prop :=
  ∃ pre post, steps = pre ++ .start id u :: post ∧ (∀ x ∈ post, ¬ x.Requests u) ∧
    ((initial.after config pre).beginRequest? u).map (·.1) = some r

theorem StartedLast.concat {u : Uri} {id : String} {r : Request} {x : ServerStep}
    (h : StartedLast config steps u id r) (hx : ¬ x.Requests u) :
    StartedLast config (steps ++ [x]) u id r := by
  obtain ⟨pre, post, rfl, hpost, hr⟩ := h
  refine ⟨pre, post ++ [x], by simp, fun y hy => ?_, hr⟩
  rcases List.mem_append.1 hy with hy | hy
  · exact hpost y hy
  · rwa [List.mem_singleton.1 hy]

/-- **The scan in flight was started last.** -/
theorem startedLast_of_inflight (hids : initial.DistinctIds config steps) {u : Uri} {f : Flag}
    (hf : (initial.after config steps).inflight.find? u = some f) :
    ∃ id r, (initial.after config steps).held.find? id = some r ∧ r.uri = u ∧ r.flag = f ∧
      StartedLast config steps u id r := by
  induction steps using List.reverseRecOn with
  | nil => cases hf
  | append_singleton steps x ih =>
    obtain ⟨hids, hx⟩ := (distinctIds_concat _ _ _ _).1 hids
    have htracked := inflightTracked_after config steps
    rw [after_concat] at hf ⊢
    -- A scan that was in flight before the step is still held, if the step is not its release.
    have hkept : (initial.after config steps).inflight.find? u = some f → ¬ x.Requests u →
        (∀ id r, (initial.after config steps).held.find? id = some r → r.uri = u → r.flag = f →
          ((initial.after config steps).step config x).state.held.find? id = some r) →
        ∃ id r, ((initial.after config steps).step config x).state.held.find? id = some r ∧
          r.uri = u ∧ r.flag = f ∧ StartedLast config (steps ++ [x]) u id r := by
      intro hf hreq hheld
      obtain ⟨id, r, hr, hu, hflag, hlast⟩ := ih hids hf
      exact ⟨id, r, hheld id r hr hu hflag, hu, hflag, hlast.concat hreq⟩
    cases scanEffect_step config (initial.after config steps) x with
    | quiet hquiet hs =>
      rw [hs.inflight] at hf
      obtain ⟨text, htext⟩ := htracked u f hf
      refine hkept hf (fun h => hquiet u text htext h.supersedes) fun id r hr _ _ => ?_
      rw [hs.held, hr]
    | cut v _ huniq hs =>
      rw [hs.inflight, inflight_cancelScan] at hf
      split at hf
      · cases hf
      · rename_i hv
        refine hkept hf (fun h => hv (huniq u h.supersedes)) fun id r hr _ _ => ?_
        rw [hs.held, held_cancelScan, hr]
    | start id v text hstart htext hs =>
      subst hstart
      rw [hs, inflight_startRequest] at hf
      split at hf
      · rename_i hu
        subst hu
        cases hf
        refine ⟨id, ⟨u, text, (initial.after config steps).switches.next⟩, ?_, rfl, rfl,
          steps, [], rfl, by simp, ?_⟩
        · rw [hs, held_startRequest, if_pos rfl]
        · rw [beginRequest?_of_tracked _ _ htext]
          rfl
      · rename_i hu
        refine hkept hf (fun h => hu h.symm) fun id' r hr _ _ => ?_
        exact held_step hx hr fun h => by cases h
    | release id q hrelease hq hs =>
      subst hrelease
      rw [hs, inflight_endRequest] at hf
      split at hf
      · cases hf
      · rename_i hne
        refine hkept hf (fun h => h) fun id' r hr hu hflag => ?_
        refine held_step hx hr fun hid => hne ?_
        cases hid
        rw [hq] at hr
        cases hr
        exact ⟨hu.symm, by rw [hu, hflag, hf]⟩

/-- **The scans in flight are exact.** A document has a scan in flight if and only if a request for
it runs. This is the request that was started last, its flag is the one in flight, all other held
requests for the document are cancelled, and the document is tracked. No request runs out of reach
of a step that supersedes it. -/
theorem inflight_exact (hids : initial.DistinctIds config steps) (u : Uri) :
    let s := initial.after config steps
    ((∃ f, s.inflight.find? u = some f) ↔ ∃ id r, s.Running u id r) ∧
      (∀ f, s.inflight.find? u = some f →
        (∃ id r, s.Running u id r ∧ r.flag = f ∧ StartedLast config steps u id r ∧
          ∀ id' r', s.held.find? id' = some r' → r'.uri = u → id' ≠ id →
            s.switches.isCancelled r'.flag = true) ∧
        ∃ text, s.documents.find? u = some text) ∧
      ∀ id r, s.Running u id r → ∀ x : ServerStep, x.Supersedes u →
        (s.step config x).state.switches.isCancelled r.flag = true := by
  intro s
  have hs : Coherent s := coherent_after hids
  have htracked : InflightTracked s := inflightTracked_after config steps
  refine ⟨⟨?_, ?_⟩, fun f hf => ⟨?_, htracked u f hf⟩, ?_⟩
  · rintro ⟨f, hf⟩
    obtain ⟨id, r, hrun, -⟩ := hs.inflight_iff_running.1 hf
    exact ⟨id, r, hrun⟩
  · rintro ⟨id, r, hrun⟩
    exact ⟨r.flag, hs.inflight_iff_running.2 ⟨id, r, hrun, rfl⟩⟩
  · obtain ⟨id, r, hr, hu, hflag, hlast⟩ := startedLast_of_inflight hids hf
    have hrun : s.Running u id r := ⟨hr, hu, hflag ▸ hs.off_of_inflight u f hf⟩
    exact ⟨id, r, hrun, hflag, hlast, fun id' r' => hs.isCancelled_of_running hrun⟩
  · rintro id r ⟨hr, rfl, -⟩ x hx
    exact (hs.isCancelled_step htracked hr x).2 (Or.inr hx)

/-- A crashing provider, a document and two requests for it, of which the first ends last. -/
def overlappingRun : ServerConfig × List ServerStep :=
  (⟨"cweb-lsp", "cweb", .crashing⟩,
    [.openDocument ⟨"file:///a.w"⟩ "cweb" ['%'], .start "first" ⟨"file:///a.w"⟩,
      .start "second" ⟨"file:///a.w"⟩, .release "first"])

theorem inflight_exact_overlappingRun :
    initial.DistinctIds overlappingRun.1 overlappingRun.2 ∧
      ∃ id r, (initial.after overlappingRun.1 overlappingRun.2).Running ⟨"file:///a.w"⟩ id r ∧
        r.flag = ⟨1⟩ ∧ StartedLast overlappingRun.1 overlappingRun.2 ⟨"file:///a.w"⟩ id r := by
  have hids : initial.DistinctIds overlappingRun.1 overlappingRun.2 := by decide
  have h := inflight_exact hids ⟨"file:///a.w"⟩
  obtain ⟨⟨id, r, hrun, hflag, hlast, -⟩, -⟩ := h.2.1 ⟨1⟩ (by decide)
  exact ⟨hids, id, r, hrun, hflag, hlast⟩

end

end ServerState

end CwebHighlight
