import CwebHighlight.Proofs.Server.Isolation

/-!
# What a request leaves behind

A request ends with data, superseded, with a provider that crashed, without a document, or with
tokens that cannot be put on the wire. What it does to the state is the same in all cases, since
the state does not depend on what the provider gives (`state_finishRequest`).

**Other documents** (`Spares`). A step that begins or ends a request for a document leaves all texts
alone, and the scans in flight for other documents with their flags.

**The flag of the request.** A flag is in flight for one document only, so taking it out there takes
it out for good. If another flag has taken its place, that one stays in flight.

**Later steps** (`Alike`). Two states in which every document sees the same view stay alike under
the same steps, which have the same outcomes in both. A request that is answered at once, for a
document that no request is held for, leaves such a state; so does the end of a held request, for
the steps that do not use its id again.

Main result: `clean_after_request`.
-/

namespace CwebHighlight

namespace ServerStep

/-- The step begins or ends a request for `u`. -/
def Serves (s : ServerState) (u : Uri) : ServerStep → Prop
  | .tokens v | .start _ v => v = u
  | .release id => ∃ r ∈ s.held.find? id, r.uri = u
  | _ => False

/-- The step begins or ends a request under this id. -/
def Names (id : String) : ServerStep → Prop
  | .start i _ | .release i => i = id
  | _ => False

instance (id : String) : (x : ServerStep) → Decidable (x.Names id)
  | .start _ _ | .release _ => inferInstanceAs (Decidable (_ = _))
  | .introduce | .ready | .shutdown | .openDocument .. | .changeDocument .. | .closeDocument _
  | .tokens _ => isFalse fun h => h

end ServerStep

namespace ServerState

variable {config : ServerConfig} {u : Uri} {s t : ServerState} {x : ServerStep}

/-! ## Requests without a document -/

/-- A request for a document that is not tracked ends at once and changes nothing. -/
theorem step_tokens_of_untracked (hu : s.documents.find? u = none) :
    s.step config (.tokens u) = ⟨s, .noTokens, []⟩ := by
  rw [step, beginRequest?_of_untracked s u hu]

theorem step_start_of_untracked (hu : s.documents.find? u = none) (id : String) :
    s.step config (.start id u) = ⟨s, .done, []⟩ := by
  rw [step, beginRequest?_of_untracked s u hu]

/-! ## Other documents -/

/-- What a step from `s` to `s'` that serves `u` leaves alone: all documents with their texts, the
scans in flight for other documents, and the flags of these scans and of all requests for other
documents. -/
structure Spares (u : Uri) (s s' : ServerState) : Prop where
  documents : s'.documents = s.documents
  inflight : ∀ v, v ≠ u → s'.inflight.find? v = s.inflight.find? v
  inflight_flags : ∀ v f, v ≠ u → s.inflight.find? v = some f →
    s'.switches.isCancelled f = s.switches.isCancelled f
  held_flags : ∀ id r, s.held.find? id = some r → r.uri ≠ u →
    s'.switches.isCancelled r.flag = s.switches.isCancelled r.flag

theorem documents_step_of_serves (config : ServerConfig) (hx : x.Serves s u) :
    (s.step config x).state.documents = s.documents := by
  cases x with
  | tokens v =>
    cases h : s.documents.find? v with
    | none => rw [step_tokens_of_untracked h]
    | some text => simp [step, beginRequest?_of_tracked _ _ h]
  | start id v =>
    cases h : s.documents.find? v with
    | none => rw [step_start_of_untracked h]
    | some text => simp [step, beginRequest?_of_tracked _ _ h]
  | release id =>
    obtain ⟨r, hr, -⟩ := hx
    rw [step, Option.mem_def.1 hr]
    simp
  | _ => exact hx.elim

theorem eq_of_supersedes_of_serves {v : Uri} (hx : x.Serves s u) (hv : x.Supersedes v) : v = u := by
  cases x with
  | tokens w => exact (show w = v from hv).symm.trans hx
  | start id w => exact (show w = v from hv).symm.trans hx
  | release id => exact hv.elim
  | _ => exact hx.elim

theorem inflight_step_of_serves (hx : x.Serves s u) {v : Uri} (hv : v ≠ u) :
    (s.step config x).state.inflight.find? v = s.inflight.find? v := by
  cases scanEffect_step config s x with
  | quiet _ hs => exact hs.inflight v
  | cut w hw _ hs =>
    obtain rfl := eq_of_supersedes_of_serves hx hw
    rw [hs.inflight, inflight_cancelScan, if_neg hv]
  | start id w text hstart _ hs =>
    subst hstart
    obtain rfl : w = u := hx
    rw [hs, inflight_startRequest, if_neg hv]
  | release id r hrelease hr hs =>
    subst hrelease
    obtain ⟨r', hr', rfl⟩ := hx
    obtain rfl : r = r' := Option.some.inj (hr.symm.trans hr')
    rw [hs, inflight_endRequest, if_neg fun h => hv h.1]

theorem spares_step (h : Coherent s) (ht : InflightTracked s) (hx : x.Serves s u) :
    Spares u s (s.step config x).state := by
  have hheld : ∀ id r, s.held.find? id = some r → r.uri ≠ u →
      (s.step config x).state.switches.isCancelled r.flag = s.switches.isCancelled r.flag := by
    intro id r hr hru
    have hsup : ¬ x.Supersedes r.uri := fun hsup => hru (eq_of_supersedes_of_serves hx hsup)
    rw [Bool.eq_iff_iff, h.isCancelled_step ht hr x]
    exact or_iff_left hsup
  refine ⟨documents_step_of_serves config hx, fun v hv => inflight_step_of_serves hx hv,
    fun v f hv hf => ?_, hheld⟩
  obtain ⟨id, r, hr, rfl, rfl⟩ := h.held_of_inflight v f hf
  exact hheld id r hr hv

/-! ## The end of a held request -/

theorem state_step_release {id : String} {r : Request} (hr : s.held.find? id = some r) :
    (s.step config (.release id)).state = s.endRequest id r := by
  simp only [step, hr, state_finishRequest, endRequest]

theorem flag_not_inflight_of_release (h : Coherent s) {id : String} {r : Request}
    (hr : s.held.find? id = some r) (v : Uri) :
    (s.step config (.release id)).state.inflight.find? v ≠ some r.flag := by
  rw [state_step_release hr, inflight_endRequest]
  split
  · exact (Option.some_ne_none _).symm
  · intro hf
    obtain rfl := h.uri_of_inflight hr hf
    rename_i hne
    exact hne ⟨rfl, hf⟩

/-- A request that is not cancelled stays in flight when another one ends. -/
theorem running_step_release (h : Coherent s) (ht : InflightTracked s) {id id' : String}
    {r' : Request} (hne : id' ≠ id) (hrun : s.Running u id' r') :
    (s.step config (.release id)).state.Running u id' r' ∧
      (s.step config (.release id)).state.inflight.find? u = some r'.flag := by
  obtain ⟨hr', rfl, hoff⟩ := hrun
  have hheld : (s.step config (.release id)).state.held.find? id' = some r' :=
    held_step (x := .release id) trivial hr' (by simpa using hne.symm)
  have hoff' : (s.step config (.release id)).state.switches.isCancelled r'.flag = false := by
    rw [← Bool.not_eq_true, h.isCancelled_step ht hr', hoff]
    simp [ServerStep.Supersedes]
  have hs' : Coherent (s.step config (.release id)).state := h.step trivial
  exact ⟨⟨hheld, rfl, hoff'⟩, hs'.inflight_of_off id' r' hheld hoff'⟩

/-! ## Requests that are answered at once -/

theorem state_step_tokens {text : List Char} (hu : s.documents.find? u = some text) :
    (s.step config (.tokens u)).state = (s.beginScan u).2.endScan u s.switches.next := by
  simp only [step, beginRequest?_of_tracked s u hu, state_finishRequest]

theorem held_step_tokens (s : ServerState) (u : Uri) :
    (s.step config (.tokens u)).state.held = s.held := by
  cases hu : s.documents.find? u with
  | none => rw [step_tokens_of_untracked hu]
  | some text => rw [state_step_tokens hu, held_endScan, held_beginScan]

theorem inflight_step_tokens {text : List Char} (hu : s.documents.find? u = some text) :
    (s.step config (.tokens u)).state.inflight = s.inflight.erase u := by
  have hbegin : (s.beginScan u).2.inflight = s.inflight.insert u s.switches.next := rfl
  have hown : (s.beginScan u).2.inflight.find? u = some s.switches.next := by
    rw [inflight_beginScan, if_pos rfl]
  rw [state_step_tokens hu, endScan, if_pos hown]
  exact (congrArg (Table.erase · u) hbegin).trans (Table.erase_insert _ _ _)

theorem flag_not_inflight_of_tokens (h : Coherent s) {r : Request} {s₁ : ServerState}
    (hr : s.beginRequest? u = some (r, s₁)) (v : Uri) :
    (s.step config (.tokens u)).state.inflight.find? v ≠ some r.flag := by
  cases hu : s.documents.find? u with
  | none =>
    rw [beginRequest?_of_untracked _ _ hu] at hr
    cases hr
  | some text =>
    rw [beginRequest?_of_tracked _ _ hu] at hr
    cases hr
    rw [inflight_step_tokens hu, Table.find?_erase]
    split
    · exact (Option.some_ne_none _).symm
    · exact fun hf => (h.knows_inflight hf).ne_next rfl

theorem inflight_step_tokens_of_no_request (h : Coherent s)
    (hu : ∀ id r, s.held.find? id = some r → r.uri ≠ u) :
    (s.step config (.tokens u)).state.inflight = s.inflight := by
  cases hopen : s.documents.find? u with
  | none => rw [step_tokens_of_untracked hopen]
  | some text =>
    rw [inflight_step_tokens hopen]
    refine Table.erase_of_find?_eq_none (Option.eq_none_iff_forall_ne_some.2 fun f hf => ?_)
    obtain ⟨id, r, hr, hru, -⟩ := h.held_of_inflight u f hf
    exact hu id r hr hru

/-! ## Later steps -/

/-- All documents see the same in both states, but for what is held under the hidden ids. -/
structure Alike (hidden : String → Prop) (s t : ServerState) : Prop where
  coherent : Coherent s
  tracked : InflightTracked s
  coherent' : Coherent t
  tracked' : InflightTracked t
  text : ∀ u, t.documents.find? u = s.documents.find? u
  held : ∀ id, ¬ hidden id → ∀ u, (t.view u).held id = (s.view u).held id

namespace Alike

variable {hidden : String → Prop}

theorem held_eq_none (h : Alike hidden s t) {id : String} (hid : ¬ hidden id)
    (hs : s.held.find? id = none) : t.held.find? id = none := by
  cases hr : t.held.find? id with
  | none => rfl
  | some r =>
    obtain ⟨r', hr'⟩ := exists_held_of_view hr (h.held id hid r.uri)
    rw [hs] at hr'
    cases hr'

theorem hasOwnId (h : Alike hidden s t) (hx : x.HasOwnId s)
    (hnames : ∀ id, x.Names id → ¬ hidden id) : x.HasOwnId t := by
  cases x with
  | start id v =>
    intro hopen
    rw [h.text] at hopen
    exact h.held_eq_none (hnames id rfl) (hx hopen)
  | _ => trivial

theorem step (h : Alike hidden s t) (hx : x.HasOwnId s)
    (hnames : ∀ id, x.Names id → ¬ hidden id) :
    Alike hidden (s.step config x).state (t.step config x).state where
  coherent := h.coherent.step hx
  tracked := h.tracked.step x
  coherent' := h.coherent'.step (h.hasOwnId hx hnames)
  tracked' := h.tracked'.step x
  text u := by rw [documents_step, documents_step, h.text]
  held id hid u := by
    have htext : (t.view u).text = (s.view u).text := h.text u
    rw [view_step h.coherent h.tracked hx,
      view_step h.coherent' h.tracked' (h.hasOwnId hx hnames)]
    simp only [DocumentView.after, htext, h.held id hid u]

theorem outcome_eq (h : Alike hidden s t) (hnames : ∀ id, x.Names id → ¬ hidden id) :
    (t.step config x).outcome = (s.step config x).outcome := by
  cases x with
  | introduce | ready | shutdown => rfl
  | openDocument v language text =>
    simp only [ServerState.step]
    split <;> rfl
  | changeDocument v texts =>
    simp only [ServerState.step]
    split <;> rfl
  | closeDocument v => rfl
  | tokens v =>
    rw [outcome_tokens config fun _ _ => h.coherent.knows_inflight,
      outcome_tokens config fun _ _ => h.coherent'.knows_inflight, h.text]
  | start id v => rw [outcome_start, outcome_start, h.text]
  | release id =>
    have hid := hnames id rfl
    cases hr : s.held.find? id with
    | none =>
      have hidle : (ServerStep.release id).Idle t := h.held_eq_none hid hr
      rw [outcome_of_idle hidle, outcome_of_idle (show (ServerStep.release id).Idle s from hr)]
    | some r => exact outcome_release_of_view hr (h.held id hid r.uri)

/-- **Later steps have the same outcomes**, as long as no step uses a hidden id. -/
theorem run {steps : List ServerStep} (h : Alike hidden s t) (hids : s.DistinctIds config steps)
    (hnames : ∀ x ∈ steps, ∀ id, x.Names id → ¬ hidden id) :
    (t.run config steps).map (·.outcome) = (s.run config steps).map (·.outcome) := by
  induction steps generalizing s t with
  | nil => rfl
  | cons x rest ih =>
    obtain ⟨hx, hrest⟩ := hids
    have hhead := hnames x List.mem_cons_self
    rw [ServerState.run, ServerState.run, List.map_cons, List.map_cons, h.outcome_eq hhead,
      ih (h.step hx hhead) hrest fun y hy => hnames y (List.mem_cons_of_mem _ hy)]

end Alike

theorem alike_step_release (h : Coherent s) (ht : InflightTracked s) (id : String) :
    Alike (· = id) s (s.step config (.release id)).state where
  coherent := h
  tracked := ht
  coherent' := h.step trivial
  tracked' := ht.step _
  text u := by rw [documents_step]; rfl
  held id' hid u := by
    have hne : ¬ id = id' := fun he => hid he.symm
    have hsup : ¬ (ServerStep.release id).Supersedes u := fun h => h
    rw [view_step (x := .release id) h ht trivial]
    simp [DocumentView.after, hsup, hne]

theorem alike_step_tokens (h : Coherent s) (ht : InflightTracked s)
    (hu : ∀ id r, s.held.find? id = some r → r.uri ≠ u) :
    Alike (fun _ => False) s (s.step config (.tokens u)).state where
  coherent := h
  tracked := ht
  coherent' := h.step trivial
  tracked' := ht.step _
  text v := by rw [documents_step]; rfl
  held id _ v := by
    -- The step supersedes the requests for `u`, of which there are none.
    have hview : u = v → (s.view v).held id = none := by
      rintro rfl
      cases hr : s.held.find? id with
      | none => exact held_view_of_not_held hr
      | some r => rw [held_view_of_held hr, if_neg (hu id r hr)]
    rw [view_step (x := .tokens u) h ht trivial]
    by_cases hv : u = v
    · simp [DocumentView.after, hview hv]
    · simp [DocumentView.after, ServerStep.Supersedes, hv]

/-! ## The result -/

/-- **Whatever way a request ends, the server is left clean.** In every reachable state, and for
every provider: a step that begins or ends a request for `u` spares the texts and all other
documents, and a request whose document is not tracked changes nothing.

At the end of a held request its flag is in flight nowhere, a newer request stays in flight and is
not cancelled, and later steps that do not use the id have the outcomes that they would have had
otherwise.

A request that is answered at once has its flag in flight nowhere either. If no request is held for
its document, all tables are as they were and all later steps have the same outcomes. -/
theorem clean_after_request {config : ServerConfig} {steps : List ServerStep}
    (hids : initial.DistinctIds config steps) (u : Uri) :
    let s := initial.after config steps
    (∀ x : ServerStep, x.Serves s u → Spares u s (s.step config x).state) ∧
      (s.documents.find? u = none → ∀ id, s.step config (.tokens u) = ⟨s, .noTokens, []⟩ ∧
        s.step config (.start id u) = ⟨s, .done, []⟩) ∧
      (∀ id r, s.held.find? id = some r →
        let s' := (s.step config (.release id)).state
        s'.held.find? id = none ∧ (∀ v, s'.inflight.find? v ≠ some r.flag) ∧
          (∀ v id' r', id' ≠ id → s.Running v id' r' →
            s'.Running v id' r' ∧ s'.inflight.find? v = some r'.flag) ∧
          ∀ rest, s.DistinctIds config rest → (∀ x ∈ rest, ¬ x.Names id) →
            (s'.run config rest).map (·.outcome) = (s.run config rest).map (·.outcome)) ∧
      let s' := (s.step config (.tokens u)).state
      (∀ r s₁, s.beginRequest? u = some (r, s₁) → ∀ v, s'.inflight.find? v ≠ some r.flag) ∧
        ((∀ id r, s.held.find? id = some r → r.uri ≠ u) →
          (s'.documents = s.documents ∧ s'.inflight = s.inflight ∧ s'.held = s.held) ∧
            ∀ rest, s.DistinctIds config rest →
              (s'.run config rest).map (·.outcome) = (s.run config rest).map (·.outcome)) := by
  intro s
  have hs : Coherent s := coherent_after hids
  have htracked : InflightTracked s := inflightTracked_after config steps
  refine ⟨fun x hx => spares_step hs htracked hx,
    fun hu id => ⟨step_tokens_of_untracked hu, step_start_of_untracked hu id⟩,
    fun id r hr => ⟨held_step_release config s id, flag_not_inflight_of_release hs hr,
      fun v id' r' hne hrun => running_step_release hs htracked hne hrun, ?_⟩,
    fun r s₁ hr => flag_not_inflight_of_tokens hs hr, fun hu => ⟨⟨?_, ?_, ?_⟩, ?_⟩⟩
  · intro rest hrest hnames
    refine (alike_step_release hs htracked id).run hrest ?_
    rintro x hx _ hid rfl
    exact hnames x hx hid
  · exact documents_step_of_serves config (u := u) rfl
  · exact inflight_step_tokens_of_no_request hs hu
  · exact held_step_tokens s u
  · intro rest hrest
    exact (alike_step_tokens hs htracked hu).run hrest fun _ _ _ _ => id

/-- A provider whose tokens cannot be put on the wire, and two requests for one document. -/
def failingRun : ServerConfig × List ServerStep :=
  (⟨"cweb-lsp", "cweb", .fixed [⟨1, 0, 1, .keyword, []⟩, ⟨0, 0, 1, .keyword, []⟩]⟩,
    [.openDocument ⟨"file:///a.w"⟩ "cweb" ['%'], .openDocument ⟨"file:///b.w"⟩ "cweb" ['%'],
      .start "old" ⟨"file:///a.w"⟩, .start "new" ⟨"file:///a.w"⟩])

/-- The superseded request ends before the one that superseded it. A request for the other document
fails on the wire, and so does the newer request after it. -/
theorem clean_after_request_failingRun :
    let config := failingRun.1
    let s := initial.after config failingRun.2
    let error : WireError := .order ⟨⟨0, 0⟩, ⟨1, 0⟩⟩
    initial.DistinctIds config failingRun.2 ∧
      (∃ r r', s.held.find? "old" = some r ∧ s.Running ⟨"file:///a.w"⟩ "new" r' ∧
        (s.step config (.release "old")).answer = .noTokens ∧
        (s.step config (.release "old")).state.inflight.find? ⟨"file:///a.w"⟩ = some r'.flag) ∧
      (∀ id r, s.held.find? id = some r → r.uri ≠ ⟨"file:///b.w"⟩) ∧
      (s.step config (.tokens ⟨"file:///b.w"⟩)).answer = .crashed error ∧
      (s.step config (.tokens ⟨"file:///b.w"⟩)).state.inflight = s.inflight ∧
      ((s.step config (.tokens ⟨"file:///b.w"⟩)).state.run config [.release "new"]).map
        (·.outcome) = [(.crashed error, [])] := by
  intro config s error
  have hids : initial.DistinctIds config failingRun.2 := by decide
  have hold : s.held.find? "old" = some ⟨⟨"file:///a.w"⟩, ['%'], ⟨0⟩⟩ := by decide
  have hnew : s.Running ⟨"file:///a.w"⟩ "new" ⟨⟨"file:///a.w"⟩, ['%'], ⟨1⟩⟩ :=
    ⟨by decide, rfl, by decide⟩
  have hother : ∀ id r, s.held.find? id = some r → r.uri ≠ ⟨"file:///b.w"⟩ := by
    intro id r hr
    obtain ⟨e, he, rfl⟩ := Option.map_eq_some_iff.1 hr
    have hall : ∀ e ∈ s.held.entries, e.2.uri ≠ ⟨"file:///b.w"⟩ := by decide
    exact hall e (List.mem_of_find?_eq_some he)
  obtain ⟨-, -, hrelease, -, htokens⟩ := clean_after_request hids ⟨"file:///b.w"⟩
  obtain ⟨-, -, hrunning, -⟩ := hrelease "old" _ hold
  obtain ⟨⟨-, hinflight, -⟩, hlater⟩ := htokens hother
  refine ⟨hids, ⟨_, _, hold, hnew, by decide, (hrunning _ "new" _ (by decide) hnew).2⟩, hother,
    by decide, hinflight, ?_⟩
  rw [hlater [.release "new"] (by decide)]
  decide

end ServerState

end CwebHighlight
