import CwebHighlight.Proofs.Server.Step

/-!
# What a step is answered

**Outcomes.** What the outside sees of a step is its answer and the events it logs
(`StepResult.outcome`).

**The end of a request** (`outcome_finishRequest`). Of the whole state, the outcome of a request
depends on one bit only: whether the flag of the request is on.

**New requests** (`outcome_tokens`). A request that is answered at once has a flag of its own, which
is off, so the outcome depends on the text of the document alone. This needs that flags are handed
out before they are in flight (`InflightKnown`), which every step keeps, whatever ids the run uses.
-/

namespace CwebHighlight

/-- The answer of a request whose tokens are put on the wire. -/
def ServerAnswer.ofWire : Except WireError (List DeltaToken) → ServerAnswer
  | .ok data => .tokens data
  | .error e => .crashed e

theorem ServerAnswer.ofWire_ne_noTokens (data : Except WireError (List DeltaToken)) :
    ServerAnswer.ofWire data ≠ .noTokens := by
  cases data <;> nofun

theorem ServerAnswer.ofWire_eq_tokens_iff {wire : Except WireError (List DeltaToken)}
    {data : List DeltaToken} : ServerAnswer.ofWire wire = .tokens data ↔ wire = .ok data := by
  cases wire <;> simp [ofWire]

/-- What the outside sees of a step. -/
def StepResult.outcome (r : StepResult) : ServerAnswer × List ServerEvent := (r.answer, r.events)

theorem StepResult.answer_eq_of_outcome {r : StepResult} {o : ServerAnswer × List ServerEvent}
    (h : r.outcome = o) : r.answer = o.1 :=
  congrArg Prod.fst h

/-- The outcome of a request for `u` that works on a text and ends with its flag on or off. -/
def requestOutcome (provider : Provider) (u : Uri) (text : List Char) (cancelled : Bool) :
    ServerAnswer × List ServerEvent :=
  match provider text (.constant cancelled) with
  | none => (.noTokens, [.failed u])
  | some report =>
    let events := report.events.map .scanned
    if cancelled then (.noTokens, events ++ [.superseded u])
    else (.ofWire (Legend.standard.wire report.tokens), events)

theorem requestOutcome_of_crash {provider : Provider} {text : List Char} {cancelled : Bool}
    (h : provider text (.constant cancelled) = none) (u : Uri) :
    requestOutcome provider u text cancelled = (.noTokens, [.failed u]) := by
  simp only [requestOutcome, h]

/-- A cancelled request has no tokens, whatever its provider does. -/
theorem requestOutcome_cancelled (provider : Provider) (u : Uri) (text : List Char) :
    (requestOutcome provider u text true).1 = .noTokens := by
  unfold requestOutcome
  cases provider text (.constant true) <;> rfl

theorem requestOutcome_of_report {provider : Provider} {text : List Char} {report : Report}
    (h : provider text .never = some report) (u : Uri) :
    requestOutcome provider u text false =
      (.ofWire (Legend.standard.wire report.tokens), report.events.map .scanned) := by
  have hnever : provider text (.constant false) = some report := h
  simp only [requestOutcome, hnever]
  rfl

/-- The data is what the provider finds in the text, undisturbed, and put on the wire. -/
def Provider.Finds (provider : Provider) (text : List Char) (data : List DeltaToken) : Prop :=
  ∃ report, provider text .never = some report ∧ Legend.standard.wire report.tokens = .ok data

/-- Only a request that nobody cancelled answers tokens. -/
theorem finds_of_requestOutcome {provider : Provider} {u : Uri} {text : List Char}
    {cancelled : Bool} {data : List DeltaToken}
    (h : (requestOutcome provider u text cancelled).1 = .tokens data) :
    cancelled = false ∧ provider.Finds text data := by
  cases cancelled with
  | true =>
    rw [requestOutcome_cancelled] at h
    cases h
  | false =>
    refine ⟨rfl, ?_⟩
    cases hreport : provider text .never with
    | none =>
      rw [requestOutcome_of_crash hreport] at h
      cases h
    | some report =>
      rw [requestOutcome_of_report hreport] at h
      exact ⟨report, hreport, ServerAnswer.ofWire_eq_tokens_iff.1 h⟩

namespace ServerState

variable (config : ServerConfig)

/-! ## The end of a request -/

theorem outcome_finishRequest (provider : Provider) (s : ServerState) (r : Request) :
    (s.finishRequest provider r).outcome =
      requestOutcome provider r.uri r.text (s.switches.isCancelled r.flag) := by
  unfold finishRequest requestOutcome StepResult.outcome
  simp only [Switches.signal, switches_endScan]
  cases provider r.text (.constant (s.switches.isCancelled r.flag)) with
  | none => rfl
  | some report =>
    cases s.switches.isCancelled r.flag with
    | true => rfl
    | false =>
      simp only [Bool.false_eq_true, if_false]
      cases Legend.standard.wire report.tokens <;> rfl

theorem outcome_release (s : ServerState) (id : String) :
    (s.step config (.release id)).outcome = match s.held.find? id with
      | none => (.notHeld, [])
      | some r =>
        requestOutcome config.provider r.uri r.text (s.switches.isCancelled r.flag) := by
  rw [step]
  cases s.held.find? id with
  | none => rfl
  | some r => exact outcome_finishRequest config.provider _ r

/-! ## New requests -/

/-- The switches of all flags in flight are handed out. -/
def InflightKnown (s : ServerState) : Prop :=
  ∀ u f, s.inflight.find? u = some f → s.switches.Knows f

theorem inflightKnown_initial : InflightKnown initial := fun _ _ h => by cases h

theorem InflightKnown.cancelScan {s : ServerState} (h : InflightKnown s) (u : Uri) :
    InflightKnown (s.cancelScan u) := by
  intro v f hf
  rw [inflight_cancelScan] at hf
  split at hf
  · cases hf
  · exact (knows_cancelScan u).2 (h v f hf)

theorem InflightKnown.of_sameScans {s s' : ServerState} (h : InflightKnown s)
    (hs : SameScans s s') : InflightKnown s' := by
  intro u f hf
  rw [hs.inflight] at hf
  exact hs.knows f (h u f hf)

theorem InflightKnown.step {s : ServerState} (h : InflightKnown s) (x : ServerStep) :
    InflightKnown (s.step config x).state := by
  cases scanEffect_step config s x with
  | quiet _ hs => exact h.of_sameScans hs
  | cut u _ _ hs => exact (h.cancelScan u).of_sameScans hs
  | start id u text _ _ hs =>
    rw [hs]
    intro v f hf
    rw [inflight_startRequest] at hf
    rw [switches_startRequest, knows_beginScan]
    split at hf
    · exact Or.inr (Option.some.inj hf).symm
    · exact Or.inl (h v f hf)
  | release id r _ _ hs =>
    rw [hs]
    intro v f hf
    rw [inflight_endRequest] at hf
    rw [switches_endRequest]
    split at hf
    · cases hf
    · exact h v f hf

theorem outcome_tokens {s : ServerState} (hs : InflightKnown s) (u : Uri) :
    (s.step config (.tokens u)).outcome = match s.documents.find? u with
      | none => (.noTokens, [])
      | some text => requestOutcome config.provider u text false := by
  rw [step]
  cases h : s.documents.find? u with
  | none =>
    rw [beginRequest?_of_untracked _ _ h]
    rfl
  | some text =>
    have hoff := isCancelled_next_beginScan (s := s) u (hs u)
    rw [beginRequest?_of_tracked _ _ h]
    dsimp only
    rw [outcome_finishRequest, hoff]

theorem outcome_start (s : ServerState) (id : String) (u : Uri) :
    (s.step config (.start id u)).outcome =
      (if (s.documents.find? u).isSome then .held else .done, []) := by
  rw [step]
  cases h : s.documents.find? u with
  | none =>
    rw [beginRequest?_of_untracked _ _ h]
    rfl
  | some text =>
    rw [beginRequest?_of_tracked _ _ h]
    rfl

end ServerState

end CwebHighlight
