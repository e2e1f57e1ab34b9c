import CwebHighlight.Proofs.Server.Answers
import CwebHighlight.Proofs.Server.Inflight

/-!
# What a held request is answered

A request takes its text when it starts and gives its answer when it is released. In between, the
server may be told anything.

**The flag** (`held_after_start`). As long as the request is held, its text stays the one it was
started with, and its flag is on exactly if one of the steps since then supersedes it.

**The answer** (`answer_release`). A superseded request has no tokens, whatever its provider does.
Any other request gives the tokens that the provider finds in the text of its start, undisturbed,
and it has none only if the provider crashes.
-/

namespace CwebHighlight

namespace ServerState

variable {config : ServerConfig}

theorem answer_finishRequest_of_cancelled (provider : Provider) {s : ServerState} {r : Request}
    (h : s.switches.isCancelled r.flag = true) :
    (s.finishRequest provider r).answer = .noTokens := by
  have houtcome := outcome_finishRequest provider s r
  rw [h] at houtcome
  rw [StepResult.answer_eq_of_outcome houtcome]
  exact requestOutcome_cancelled provider r.uri r.text

theorem answer_finishRequest_of_off (provider : Provider) {s : ServerState} {r : Request}
    (h : s.switches.isCancelled r.flag = false) :
    (s.finishRequest provider r).answer = match provider r.text .never with
      | none => .noTokens
      | some report => .ofWire (Legend.standard.wire report.tokens) := by
  have houtcome := outcome_finishRequest provider s r
  rw [h] at houtcome
  rw [StepResult.answer_eq_of_outcome houtcome]
  cases hreport : provider r.text .never with
  | none => rw [requestOutcome_of_crash hreport]
  | some report => rw [requestOutcome_of_report hreport]

/-! ## From the start to the release -/

/-- **A request that has started**: it keeps its text, and its flag is on exactly if a step since
then supersedes it. -/
theorem held_after_start {pre mid : List ServerStep} {id : String} {u : Uri} {text : List Char}
    (hids : initial.DistinctIds config (pre ++ .start id u :: mid))
    (htext : (initial.after config pre).documents.find? u = some text)
    (hheld : .release id ∉ mid) :
    ∃ f, (initial.after config (pre ++ .start id u :: mid)).held.find? id = some ⟨u, text, f⟩ ∧
      ((initial.after config (pre ++ .start id u :: mid)).switches.isCancelled f = true ↔
        ∃ x ∈ mid, x.Supersedes u) := by
  induction mid using List.reverseRecOn with
  | nil =>
    have hpre : Coherent (initial.after config pre) :=
      coherent_after ((distinctIds_concat _ _ _ _).1 hids).1
    rw [after_concat, state_step_start _ _ _ htext]
    refine ⟨_, by rw [held_startRequest, if_pos rfl], ?_⟩
    rw [switches_startRequest, isCancelled_next_beginScan u fun f hf => hpre.knows_inflight hf]
    simp
  | append_singleton mid x ih =>
    have hassoc : pre ++ .start id u :: (mid ++ [x]) = (pre ++ .start id u :: mid) ++ [x] := by
      simp
    rw [hassoc] at hids ⊢
    obtain ⟨hids, hx⟩ := (distinctIds_concat _ _ _ _).1 hids
    obtain ⟨hmid, hlast⟩ : .release id ∉ mid ∧ x ≠ .release id := by
      simpa [eq_comm] using hheld
    obtain ⟨f, hr, hon⟩ := ih hids hmid
    rw [after_concat]
    refine ⟨f, held_step hx hr hlast, ?_⟩
    rw [(coherent_after hids).isCancelled_step (inflightTracked_after _ _) hr x, hon]
    simp [or_and_right, exists_or]

/-- **The answer to a held request.** It has no tokens if and only if its provider crashes or a step
between its start and its release supersedes it. If none does, the answer is what the provider
finds in the text that the document had at the start. -/
theorem answer_release {pre mid : List ServerStep} {id : String} {u : Uri} {text : List Char}
    (hids : initial.DistinctIds config (pre ++ .start id u :: mid))
    (htext : (initial.after config pre).documents.find? u = some text)
    (hheld : .release id ∉ mid) (rest : List ServerStep) :
    ∃ result, (initial.run config ((pre ++ .start id u :: mid) ++ .release id :: rest))[
        (pre ++ .start id u :: mid).length]? = some result ∧
      (result.answer = .noTokens ↔
        config.provider text .never = none ∨ ∃ x ∈ mid, x.Supersedes u) ∧
      ((∀ x ∈ mid, ¬ x.Supersedes u) →
        (∀ report, config.provider text .never = some report →
          result.answer = .ofWire (Legend.standard.wire report.tokens)) ∧
        (config.provider = .scanner →
          result.answer = .ofWire (Legend.standard.wire (classifyAll text)))) := by
  obtain ⟨f, hr, hon⟩ := held_after_start hids htext hheld
  refine ⟨_, getElem?_run config initial _ _ rest, ?_⟩
  rw [step, hr]
  by_cases hsup : ∃ x ∈ mid, x.Supersedes u
  · dsimp only
    rw [answer_finishRequest_of_cancelled _ (hon.2 hsup)]
    refine ⟨⟨fun _ => Or.inr hsup, fun _ => rfl⟩, fun hnone => ?_⟩
    obtain ⟨x, hx, hxu⟩ := hsup
    exact absurd hxu (hnone x hx)
  · have hoff := Bool.eq_false_iff.2 fun h => hsup (hon.1 h)
    dsimp only
    rw [answer_finishRequest_of_off _ hoff]
    refine ⟨?_, fun _ => ⟨fun report hreport => by rw [hreport], fun hscanner => ?_⟩⟩
    · cases config.provider text .never with
      | none => simp
      | some report => simp [ServerAnswer.ofWire_ne_noTokens, hsup]
    · rw [hscanner]
      rfl

/-- What happens between the start and the release of a request without superseding it: an empty
edit, openings, and the release of an older request. -/
def undisturbing : List ServerStep :=
  [.changeDocument ⟨"file:///a.w"⟩ [], .openDocument ⟨"file:///a.w"⟩ "rust" [],
    .openDocument ⟨"file:///a.w"⟩ "cweb" ['@', 'c'], .release "old"]

theorem answer_release_undisturbing :
    let config : ServerConfig := ⟨"cweb-lsp", "cweb", .scanner⟩
    let pre : List ServerStep :=
      [.openDocument ⟨"file:///a.w"⟩ "cweb" ['%'], .start "old" ⟨"file:///a.w"⟩]
    initial.DistinctIds config (pre ++ .start "new" ⟨"file:///a.w"⟩ :: undisturbing) ∧
      (initial.after config pre).documents.find? ⟨"file:///a.w"⟩ = some ['%'] ∧
      .release "new" ∉ undisturbing ∧
      ∃ result, (initial.run config ((pre ++ .start "new" ⟨"file:///a.w"⟩ :: undisturbing) ++
          [.release "new"]))[7]? = some result ∧
        result.answer = .tokens [⟨0, 0, 1, 0, 0⟩] := by
  intro config pre
  have hids : initial.DistinctIds config
      (pre ++ .start "new" ⟨"file:///a.w"⟩ :: undisturbing) := by decide
  have htext : (initial.after config pre).documents.find? ⟨"file:///a.w"⟩ = some ['%'] := by decide
  have hheld : .release "new" ∉ undisturbing := by decide
  obtain ⟨result, hresult, -, hanswer⟩ := answer_release hids htext hheld []
  have hquiet : ∀ x ∈ undisturbing, ¬ x.Supersedes ⟨"file:///a.w"⟩ := by decide
  exact ⟨hids, htext, hheld, result, hresult, ((hanswer hquiet).2 rfl).trans (by decide)⟩

end ServerState

end CwebHighlight
