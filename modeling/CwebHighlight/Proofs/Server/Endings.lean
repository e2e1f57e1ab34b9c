import CwebHighlight.Proofs.Server.Supersession
import Mathlib.Data.Set.Card

/-!
# How requests end

A request ends in the step that answers it at once, or in the step that releases it
(`ServerState.ending?`). The server logs how it ended, so the log accounts for every request.

**Fates** (`Fate`). The document was not tracked when the request began; or the provider crashed;
or it returned to a request whose flag is on; or to one whose flag is off. Exactly one of these
describes a request (`existsUnique_fate`). A crash is logged as failed and nothing else, also if the
request was superseded.

**Supersessions by history** (`EndsSuperseded`). Every held request was started by a step of the
run (`exists_start_of_held`), and its flag is on exactly if a later step supersedes it. A request
that is answered at once ends in the step in which it began, before any later step could cancel it.

Main result: `endings_accounted`.
-/

namespace CwebHighlight

/-! ## The log of a step -/

/-- The entries with a message that events leave in the log. -/
def logged (message : String) (events : List ServerEvent) : List LogEntry :=
  (events.map (·.logEntry)).filter (·.message = message)

namespace StepResult

def failures (r : StepResult) : List LogEntry := logged "semantic token scan failed" r.events

def supersessions (r : StepResult) : List LogEntry :=
  logged "semantic token scan superseded" r.events

end StepResult

theorem logged_append (message : String) (a b : List ServerEvent) :
    logged message (a ++ b) = logged message a ++ logged message b := by
  simp [logged]

/-- The scanner has four messages, and logs nothing under any other. -/
theorem logged_scanned {message : String} (events : List ScanEvent)
    (h : message ∉ ["token", "entering code mode", "leaving code mode",
      "classification cancelled"]) :
    logged message (events.map .scanned) = [] := by
  rw [logged, List.map_map, List.filter_eq_nil_iff]
  intro entry hentry
  obtain ⟨event, -, rfl⟩ := List.mem_map.1 hentry
  rw [decide_eq_true_eq]
  rintro rfl
  cases event <;> exact h (by simp [ServerEvent.logEntry, ScanEvent.logEntry])

/-! ## Endings -/

/-- A request that ends: its document, and, if this was tracked when the request began, the text
that it took and whether its flag is on at the end. -/
structure Ending where
  uri : Uri
  begun : Option (List Char × Bool)

inductive Fate where
  | untracked
  | failed
  | superseded
  | answered
  deriving DecidableEq, Repr

/-- What becomes of a request with this fate, and what its last step answers and logs. -/
def Fate.Describes (provider : Provider) (e : Ending) (r : StepResult) : Fate → Prop
  | untracked =>
    e.begun = none ∧ r.answer = .noTokens ∧ r.failures = [] ∧ r.supersessions = []
  | failed =>
    (∃ text cancelled, e.begun = some (text, cancelled) ∧
        provider text (.constant cancelled) = none) ∧
      r.answer = .noTokens ∧
      r.failures = [⟨.warn, "semantic token scan failed", [("uri", e.uri.text)]⟩] ∧
      r.supersessions = []
  | superseded =>
    (∃ text report, e.begun = some (text, true) ∧
        provider text (.constant true) = some report) ∧
      r.answer = .noTokens ∧ r.failures = [] ∧
      r.supersessions = [⟨.debug, "semantic token scan superseded", [("uri", e.uri.text)]⟩]
  | answered =>
    ∃ text report, e.begun = some (text, false) ∧ provider text .never = some report ∧
      r.answer = .ofWire (Legend.standard.wire report.tokens) ∧
      r.failures = [] ∧ r.supersessions = []

namespace Ending

variable {provider : Provider} {e : Ending} {r : StepResult}

def fate (provider : Provider) (e : Ending) : Fate :=
  match e.begun with
  | none => .untracked
  | some (text, cancelled) =>
    match provider text (.constant cancelled) with
    | none => .failed
    | some _ => if cancelled then .superseded else .answered

/-- What the outside sees of the last step of a request. -/
def outcome (provider : Provider) (e : Ending) : ServerAnswer × List ServerEvent :=
  match e.begun with
  | none => (.noTokens, [])
  | some (text, cancelled) => requestOutcome provider e.uri text cancelled

theorem eq_fate {fate : Fate} (h : fate.Describes provider e r) : fate = e.fate provider := by
  unfold Ending.fate
  cases fate with
  | untracked => rw [h.1]
  | failed =>
    obtain ⟨⟨text, cancelled, hbegun, hcrash⟩, -⟩ := h
    simp only [hbegun, hcrash]
  | superseded =>
    obtain ⟨⟨text, report, hbegun, hreport⟩, -⟩ := h
    simp only [hbegun, hreport, if_true]
  | answered =>
    obtain ⟨text, report, hbegun, hreport, -⟩ := h
    have hreport : provider text (.constant false) = some report := hreport
    simp only [hbegun, hreport, Bool.false_eq_true, if_false]

theorem fate_eq_superseded_iff :
    e.fate provider = .superseded ↔
      ∃ text report, e.begun = some (text, true) ∧
        provider text (.constant true) = some report := by
  unfold fate
  cases e.begun with
  | none => simp
  | some begun =>
    obtain ⟨text, cancelled⟩ := begun
    cases hreport : provider text (.constant cancelled) <;> cases cancelled <;> simp [hreport]

theorem describes_fate (h : r.outcome = e.outcome provider) :
    (e.fate provider).Describes provider e r := by
  obtain ⟨u, begun⟩ := e
  obtain ⟨state, answer, events⟩ := r
  cases begun with
  | none =>
    cases h
    exact ⟨rfl, rfl, rfl, rfl⟩
  | some begun =>
    obtain ⟨text, cancelled⟩ := begun
    simp only [StepResult.outcome, Ending.outcome, requestOutcome] at h
    unfold fate
    dsimp only
    cases hreport : provider text (.constant cancelled) with
    | none =>
      rw [hreport] at h
      cases h
      exact ⟨⟨text, cancelled, rfl, hreport⟩, rfl, rfl, rfl⟩
    | some report =>
      have hfailures : logged "semantic token scan failed" (report.events.map .scanned) = [] :=
        logged_scanned _ (by decide)
      have hsupersessions :
          logged "semantic token scan superseded" (report.events.map .scanned) = [] :=
        logged_scanned _ (by decide)
      rw [hreport] at h
      cases cancelled with
      | true =>
        cases h
        refine ⟨⟨text, report, rfl, hreport⟩, rfl, ?_, ?_⟩
        · rw [StepResult.failures, logged_append, hfailures]
          rfl
        · rw [StepResult.supersessions, logged_append, hsupersessions]
          rfl
      | false =>
        cases h
        exact ⟨text, report, rfl, hreport, rfl, hfailures, hsupersessions⟩

theorem length_supersessions (h : r.outcome = e.outcome provider) :
    r.supersessions.length = if e.fate provider = .superseded then 1 else 0 := by
  have hfate := describes_fate h
  cases hkind : e.fate provider <;> rw [hkind] at hfate
  case answered =>
    obtain ⟨text, report, -, -, -, -, hnone⟩ := hfate
    rw [hnone]
    rfl
  all_goals
    rw [hfate.2.2.2]
    rfl

end Ending

namespace ServerState

variable {config : ServerConfig} {s : ServerState} {x : ServerStep} {e : Ending}

/-- The request that ends in a step, if one does. -/
def ending? (s : ServerState) : ServerStep → Option Ending
  | .tokens u => some ⟨u, (s.beginRequest? u).map fun (r, s') =>
      (r.text, s'.switches.isCancelled r.flag)⟩
  | .release id => (s.held.find? id).map fun r =>
      ⟨r.uri, some (r.text, s.switches.isCancelled r.flag)⟩
  | _ => none

theorem outcome_of_ending (h : s.ending? x = some e) :
    (s.step config x).outcome = e.outcome config.provider := by
  cases x with
  | tokens u =>
    cases h
    cases htext : s.documents.find? u with
    | none =>
      rw [step, Ending.outcome, beginRequest?_of_untracked _ _ htext]
      rfl
    | some text =>
      rw [step, Ending.outcome, beginRequest?_of_tracked _ _ htext]
      exact outcome_finishRequest config.provider _ _
  | release id =>
    obtain ⟨r, hr, rfl⟩ := Option.map_eq_some_iff.1 h
    rw [outcome_release, hr]
    rfl
  | _ => cases h

/-- **The fate of a request**: exactly one describes what its last step answers and logs. -/
theorem existsUnique_fate (h : s.ending? x = some e) :
    ∃! fate : Fate, fate.Describes config.provider e (s.step config x) :=
  ⟨_, Ending.describes_fate (outcome_of_ending h), fun _ hfate => Ending.eq_fate hfate⟩

/-- A step in which no request ends logs no supersession. -/
theorem supersessions_of_no_ending (h : s.ending? x = none) :
    (s.step config x).supersessions = [] := by
  cases x with
  | introduce | ready | shutdown | closeDocument => rfl
  | openDocument u language text =>
    simp only [step]
    split <;> rfl
  | changeDocument u texts =>
    simp only [step]
    split <;> rfl
  | tokens u => cases h
  | start id u =>
    simp only [step]
    split <;> rfl
  | release id =>
    have hr : s.held.find? id = none := Option.map_eq_none_iff.1 h
    simp only [step, hr]
    rfl

/-! ## Supersessions by history -/

/-- The step releases a request that was started before it on a tracked document, was held since
then and superseded by one of the steps in between, and whose provider returns. -/
def EndsSuperseded (config : ServerConfig) (before : List ServerStep) (x : ServerStep) : Prop :=
  ∃ pre mid id u text report, x = .release id ∧ before = pre ++ .start id u :: mid ∧
    (initial.after config pre).documents.find? u = some text ∧ .release id ∉ mid ∧
    (∃ y ∈ mid, y.Supersedes u) ∧ config.provider text (.constant true) = some report

/-- Every held request was started by a step of the run, and was not released since then. -/
theorem exists_start_of_held {steps : List ServerStep} {id : String} {r : Request}
    (hr : (initial.after config steps).held.find? id = some r) :
    ∃ pre mid, steps = pre ++ .start id r.uri :: mid ∧
      (initial.after config pre).documents.find? r.uri = some r.text ∧ .release id ∉ mid := by
  induction steps using List.reverseRecOn with
  | nil => cases hr
  | append_singleton steps x ih =>
    rw [after_concat] at hr
    by_cases hrelease : x = .release id
    · rw [hrelease, held_step_release] at hr
      cases hr
    · by_cases hstart : ∃ v text, x = .start id v ∧
          (initial.after config steps).documents.find? v = some text
      · obtain ⟨v, text, rfl, htext⟩ := hstart
        rw [held_step_start config _ id htext] at hr
        cases hr
        exact ⟨steps, [], rfl, htext, List.not_mem_nil⟩
      · rw [held_step_of_ne config _ hrelease fun v text hxv htext =>
          hstart ⟨v, text, hxv, htext⟩] at hr
        obtain ⟨pre, mid, rfl, htext, hmid⟩ := ih hr
        refine ⟨pre, mid ++ [x], by simp, htext, ?_⟩
        simp [hmid, Ne.symm hrelease]

/-- **A request ends superseded** exactly if its history says so. -/
theorem fate_eq_superseded_iff {before : List ServerStep}
    (hids : initial.DistinctIds config before)
    (h : (initial.after config before).ending? x = some e) :
    e.fate config.provider = .superseded ↔ EndsSuperseded config before x := by
  rw [Ending.fate_eq_superseded_iff]
  cases x with
  | tokens u =>
    -- The flag of such a request is a new one.
    refine iff_of_false ?_ (fun ⟨_, _, _, _, _, _, hx, _⟩ => by cases hx)
    rintro ⟨text, report, hbegun, -⟩
    have hcoherent : Coherent (initial.after config before) := coherent_after hids
    cases h
    cases htext : (initial.after config before).documents.find? u with
    | none =>
      rw [beginRequest?_of_untracked _ _ htext] at hbegun
      cases hbegun
    | some stored =>
      have hoff := isCancelled_next_beginScan u fun _ hf => hcoherent.knows_inflight hf
      rw [beginRequest?_of_tracked _ _ htext] at hbegun
      obtain ⟨-, hon⟩ := Prod.mk.inj (Option.some.inj hbegun)
      exact Bool.noConfusion (hoff.symm.trans hon)
  | release id =>
    obtain ⟨r, hr, rfl⟩ := Option.map_eq_some_iff.1 h
    simp only [Option.some.injEq, Prod.mk.injEq]
    constructor
    · rintro ⟨_, report, ⟨rfl, hcancelled⟩, hreport⟩
      obtain ⟨pre, mid, rfl, htext, hheld⟩ := exists_start_of_held hr
      obtain ⟨f, hr', hon⟩ := held_after_start hids htext hheld
      rw [hr] at hr'
      obtain rfl : r.flag = f := congrArg Request.flag (Option.some.inj hr')
      exact ⟨pre, mid, id, r.uri, r.text, report, rfl, rfl, htext, hheld, hon.1 hcancelled, hreport⟩
    · rintro ⟨pre, mid, _, u, text, report, hx, rfl, htext, hheld, hsup, hreport⟩
      cases hx
      obtain ⟨f, hr', hon⟩ := held_after_start hids htext hheld
      rw [hr] at hr'
      obtain rfl := Option.some.inj hr'
      exact ⟨text, report, ⟨rfl, hon.2 hsup⟩, hreport⟩
  | _ => cases h

/-- The step at the end of a run logs one supersession if a request ends superseded in it, and
none otherwise. -/
theorem length_supersessions_step {before : List ServerStep}
    (hids : initial.DistinctIds config before) (x : ServerStep)
    [Decidable (EndsSuperseded config before x)] :
    ((initial.after config before).step config x).supersessions.length =
      if EndsSuperseded config before x then 1 else 0 := by
  cases h : (initial.after config before).ending? x with
  | some e =>
    rw [Ending.length_supersessions (outcome_of_ending h)]
    exact if_congr (fate_eq_superseded_iff hids h) rfl rfl
  | none =>
    have hnot : ¬ EndsSuperseded config before x := by
      rintro ⟨pre, mid, id, u, text, report, rfl, rfl, htext, hheld, -⟩
      obtain ⟨f, hr, -⟩ := held_after_start hids htext hheld
      rw [ending?, hr] at h
      cases h
    rw [supersessions_of_no_ending h, if_neg hnot]
    rfl

/-! ## The log of a run -/

/-- The places in a run at which a request ends superseded. -/
def supersededPlaces (config : ServerConfig) (steps : List ServerStep) : Set ℕ :=
  {k | ∃ x, steps[k]? = some x ∧ EndsSuperseded config (steps.take k) x}

theorem lt_length_of_mem_supersededPlaces {steps : List ServerStep} {k : ℕ}
    (h : k ∈ supersededPlaces config steps) : k < steps.length := by
  obtain ⟨x, hx, -⟩ := h
  exact (List.getElem?_eq_some_iff.1 hx).1

theorem mem_supersededPlaces_concat_iff {steps : List ServerStep} {k : ℕ} :
    k ∈ supersededPlaces config (steps ++ [x]) ↔
      k ∈ supersededPlaces config steps ∨ k = steps.length ∧ EndsSuperseded config steps x := by
  simp only [supersededPlaces, Set.mem_ofPred_eq]
  rcases Nat.lt_trichotomy k steps.length with hk | rfl | hk
  · rw [List.getElem?_append_left hk, List.take_append_of_le_length (Nat.le_of_lt hk)]
    simp [Nat.ne_of_lt hk]
  · simp
  · have hnone : (steps ++ [x])[k]? = none := List.getElem?_eq_none (by simpa using hk)
    have hnone' : steps[k]? = none := List.getElem?_eq_none (Nat.le_of_lt hk)
    simp [hnone, hnone', Nat.ne_of_gt hk]

open Classical in
theorem ncard_supersededPlaces_concat (steps : List ServerStep) (x : ServerStep) :
    (supersededPlaces config (steps ++ [x])).ncard =
      (supersededPlaces config steps).ncard + if EndsSuperseded config steps x then 1 else 0 := by
  have hlt : ∀ k ∈ supersededPlaces config steps, k < steps.length :=
    fun k hk => lt_length_of_mem_supersededPlaces hk
  split
  · rename_i hx
    have hinsert : supersededPlaces config (steps ++ [x]) =
        insert steps.length (supersededPlaces config steps) := by
      ext k
      rw [mem_supersededPlaces_concat_iff, Set.mem_insert_iff, or_comm]
      simp [hx]
    have hnew : steps.length ∉ supersededPlaces config steps :=
      fun h => Nat.lt_irrefl _ (hlt _ h)
    have hfinite : (supersededPlaces config steps).Finite := (Set.finite_lt_nat _).subset hlt
    rw [hinsert, Set.ncard_insert_of_notMem hnew hfinite]
  · rename_i hx
    have hsame : supersededPlaces config (steps ++ [x]) = supersededPlaces config steps := by
      ext k
      rw [mem_supersededPlaces_concat_iff]
      simp [hx]
    rw [hsame, Nat.add_zero]

/-- **The supersessions that a run logs** are as many as the requests that end superseded. -/
theorem length_supersessions_run {steps : List ServerStep}
    (hids : initial.DistinctIds config steps) :
    ((initial.run config steps).flatMap (·.supersessions)).length =
      (supersededPlaces config steps).ncard := by
  classical
  induction steps using List.reverseRecOn with
  | nil =>
    have hnone : supersededPlaces config [] = ∅ := by
      ext k
      simp [supersededPlaces]
    rw [hnone, Set.ncard_empty]
    rfl
  | append_singleton steps x ih =>
    obtain ⟨hids, -⟩ := (distinctIds_concat _ _ _ _).1 hids
    rw [run_concat, List.flatMap_append, List.length_append, ih hids, List.flatMap_singleton,
      length_supersessions_step hids, ncard_supersededPlaces_concat]

/-- **Every request that ends is accounted for in the log.** The log of the step in which it ends
tells exactly one fate, and this fits its answer. In a whole run, a supersession is logged as often
as a request ends whose provider returns and that was superseded after its start. -/
theorem endings_accounted (config : ServerConfig) (steps : List ServerStep) :
    (∀ (before rest : List ServerStep) (x : ServerStep) (e : Ending),
      steps = before ++ x :: rest → (initial.after config before).ending? x = some e →
        ∃ result, (initial.run config steps)[before.length]? = some result ∧
          ∃! fate : Fate, fate.Describes config.provider e result) ∧
      (initial.DistinctIds config steps →
        ((initial.run config steps).flatMap (·.supersessions)).length =
          {k | ∃ x, steps[k]? = some x ∧ EndsSuperseded config (steps.take k) x}.ncard) := by
  refine ⟨?_, length_supersessions_run⟩
  rintro before rest x e rfl hending
  exact ⟨_, getElem?_run config initial before x rest, existsUnique_fate hending⟩

/-- A provider that crashes on an exclamation mark, and two documents with held requests: the first
one is superseded by the second one, and the third one by an edit. -/
def crowdedRun : ServerConfig × List ServerStep :=
  (⟨"cweb-lsp", "cweb", fun text signal => if text = ['!'] then none else some (scan text signal)⟩,
    [.openDocument ⟨"file:///a.w"⟩ "cweb" ['%'], .openDocument ⟨"file:///b.w"⟩ "cweb" ['!'],
      .start "1" ⟨"file:///a.w"⟩, .start "2" ⟨"file:///a.w"⟩, .start "3" ⟨"file:///b.w"⟩,
      .changeDocument ⟨"file:///b.w"⟩ [['%']], .release "3", .release "1", .release "2",
      .tokens ⟨"file:///c.w"⟩])

/-- The third request is superseded and crashes, so it counts as failed: the run has a single
supersession. -/
theorem endings_accounted_crowdedRun :
    let config := crowdedRun.1
    let steps := crowdedRun.2
    let e : Ending := ⟨⟨"file:///b.w"⟩, some (['!'], true)⟩
    (initial.after config (steps.take 6)).ending? (.release "3") = some e ∧
      (∃ result, (initial.run config steps)[6]? = some result ∧
        Fate.failed.Describes config.provider e result) ∧
      initial.DistinctIds config steps ∧
      {k | ∃ x, steps[k]? = some x ∧ EndsSuperseded config (steps.take k) x}.ncard = 1 := by
  intro config steps e
  have hids : initial.DistinctIds config steps := by decide
  have hending : (initial.after config (steps.take 6)).ending? (.release "3") = some e := by rfl
  obtain ⟨hfates, hcount⟩ := endings_accounted config steps
  obtain ⟨result, hresult, fate, hfate, -⟩ :=
    hfates (steps.take 6) (steps.drop 7) (.release "3") e rfl hending
  obtain rfl : fate = .failed := (Ending.eq_fate hfate).trans rfl
  refine ⟨hending, ⟨result, hresult, hfate⟩, hids, ?_⟩
  rw [← hcount hids]
  decide

end ServerState

end CwebHighlight
