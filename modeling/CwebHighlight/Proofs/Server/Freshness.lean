import CwebHighlight.Proofs.Server.History
import CwebHighlight.Proofs.Server.Supersession

/-!
# Whether an answer is about the stored text

A held request works on the text that its document had at the start. When it ends with tokens, the
document may have another text by then.

**Edits and closings are safe.** They supersede the request, so an answer with tokens rules them
out: the document is still tracked, and no edit has touched its text (`documents_after_of_quiet`).

**Openings are not.** An accepted opening of a tracked document replaces its text without
superseding the request (`stale_answer_of_reopening`).

Main result: `stored_text_of_answer`. At the moment of an answer with tokens the document has the
text of its last opening since the start of the request, or the text that the tokens were computed
from if it was not opened since.
-/

namespace CwebHighlight

/-- A step that does not supersede the requests for a tracked document opens it or leaves its
text. -/
theorem ServerStep.textAfter_of_not_supersedes {config : ServerConfig} {u : Uri} {x : ServerStep}
    (hx : ¬ x.Supersedes u) (text : List Char) :
    x.textAfter config u (some text) = some ((x.opening? config u).getD text) := by
  cases hopen : x.opening? config u with
  | some opened => exact textAfter_of_opening hopen (some text)
  | none =>
    have hclose : x ≠ .closeDocument u := by
      rintro rfl
      exact hx rfl
    have hedit : x.edit? u = none := by
      cases x with
      | changeDocument v texts =>
        by_cases hv : v = u
        · have htexts : texts = [] := by
            by_contra hne
            exact hx ⟨hv, hne⟩
          simp [edit?, htexts]
        · simp [edit?, hv]
      | _ => rfl
    rw [textAfter_of_no_opening hopen, if_neg hclose, hedit]
    rfl

namespace ServerState

variable {config : ServerConfig} {u : Uri} {mid : List ServerStep} {text : List Char}

/-- Steps that supersede no request for a tracked document leave it tracked, with the text of the
last opening among them. -/
theorem documents_after_of_quiet {s : ServerState} (htext : s.documents.find? u = some text)
    (hquiet : ∀ x ∈ mid, ¬ x.Supersedes u) :
    (s.after config mid).documents.find? u =
      some ((mid.filterMap (·.opening? config u)).getLastD text) := by
  induction mid generalizing s text with
  | nil => exact htext
  | cons x rest ih =>
    have hx : ¬ x.Supersedes u := hquiet x List.mem_cons_self
    have hrest : ∀ y ∈ rest, ¬ y.Supersedes u :=
      fun y hy => hquiet y (List.mem_cons_of_mem x hy)
    have hstep : (s.step config x).state.documents.find? u =
        some ((x.opening? config u).getD text) := by
      rw [documents_step, htext, ServerStep.textAfter_of_not_supersedes hx]
    rw [after, ih hstep hrest, List.filterMap_cons]
    cases x.opening? config u with
    | none => rfl
    | some opened => rw [Option.getD_some, List.getLastD_cons]

/-- A request that is answered at once ends with tokens only if they are those of the stored
text. -/
theorem finds_of_answer_tokens {s : ServerState} (hs : InflightKnown s) {data : List DeltaToken}
    (h : (s.step config (.tokens u)).answer = .tokens data) :
    ∃ text, s.documents.find? u = some text ∧ config.provider.Finds text data := by
  rw [StepResult.answer_eq_of_outcome (outcome_tokens config hs u)] at h
  cases htext : s.documents.find? u with
  | none =>
    rw [htext] at h
    cases h
  | some text =>
    rw [htext] at h
    exact ⟨text, rfl, (finds_of_requestOutcome h).2⟩

/-- **The stored text at the moment of an answer with tokens.** A request that is answered at once
gives the tokens of the stored text. A held request gives the tokens of the text at its start; when
it ends, the document is still tracked, and it has this text, or the text of its last opening since
then. -/
theorem stored_text_of_answer (config : ServerConfig) :
    (∀ (steps rest : List ServerStep) (u : Uri) (data : List DeltaToken),
      ((initial.run config (steps ++ .tokens u :: rest))[steps.length]?.map (·.answer)) =
        some (.tokens data) →
      ∃ text, (initial.after config steps).documents.find? u = some text ∧
        config.provider.Finds text data) ∧
    ∀ (pre mid rest : List ServerStep) (id : String) (u : Uri) (text : List Char)
      (data : List DeltaToken),
      initial.DistinctIds config (pre ++ .start id u :: mid) →
      (initial.after config pre).documents.find? u = some text →
      .release id ∉ mid →
      ((initial.run config ((pre ++ .start id u :: mid) ++ .release id :: rest))[
        (pre ++ .start id u :: mid).length]?.map (·.answer)) = some (.tokens data) →
      config.provider.Finds text data ∧
        (initial.after config (pre ++ .start id u :: mid)).documents.find? u =
          some ((mid.filterMap (·.opening? config u)).getLastD text) := by
  constructor
  · intro steps rest u data hanswer
    rw [getElem?_run, Option.map_some, Option.some.injEq] at hanswer
    exact finds_of_answer_tokens (inflightKnown_after config steps) hanswer
  · intro pre mid rest id u text data hids htext hheld hanswer
    obtain ⟨f, hr, hon⟩ := held_after_start hids htext hheld
    have houtcome := outcome_release config (initial.after config (pre ++ .start id u :: mid)) id
    rw [hr] at houtcome
    rw [getElem?_run, Option.map_some, Option.some.injEq,
      StepResult.answer_eq_of_outcome houtcome] at hanswer
    obtain ⟨hoff, hfinds⟩ := finds_of_requestOutcome hanswer
    -- A request that is superseded is cancelled and would have no tokens.
    have hquiet : ∀ x ∈ mid, ¬ x.Supersedes u := by
      intro x hx hsup
      have hcancelled := hon.2 ⟨x, hx, hsup⟩
      rw [hoff] at hcancelled
      cases hcancelled
    have hstarted : ((initial.after config pre).step config (.start id u)).state.documents.find? u =
        some text := by
      rw [documents_step, htext]
      rfl
    refine ⟨hfinds, ?_⟩
    rw [after_append, after]
    exact documents_after_of_quiet hstarted hquiet

/-- A document that is opened again, with another text, while a request for it is held. -/
def reopenedRun : List ServerStep :=
  [.openDocument ⟨"file:///a.w"⟩ "cweb" ['%'], .start "held" ⟨"file:///a.w"⟩,
    .openDocument ⟨"file:///a.w"⟩ "cweb" ['@', ' ']]

theorem stored_text_of_answer_reopenedRun :
    let config : ServerConfig := ⟨"cweb-lsp", "cweb", .scanner⟩
    initial.DistinctIds config reopenedRun ∧
      ((initial.run config (reopenedRun ++ [.release "held"]))[3]?.map (·.answer)) =
        some (.tokens [⟨0, 0, 1, 0, 0⟩]) ∧
      config.provider.Finds ['%'] [⟨0, 0, 1, 0, 0⟩] ∧
      (initial.after config reopenedRun).documents.find? ⟨"file:///a.w"⟩ = some ['@', ' '] := by
  intro config
  have hids : initial.DistinctIds config reopenedRun := by decide
  have hanswer : ((initial.run config (reopenedRun ++ [.release "held"]))[3]?.map (·.answer)) =
      some (.tokens [⟨0, 0, 1, 0, 0⟩]) := by decide
  have h := (stored_text_of_answer config).2 (reopenedRun.take 1) (reopenedRun.drop 2) [] "held"
    ⟨"file:///a.w"⟩ ['%'] _ hids (by decide) (by decide) hanswer
  exact ⟨hids, hanswer, h.1, h.2.trans (by decide)⟩

/-- **A stale answer.** It is not so that every answer with tokens is about the stored text: a held
request that outlives an opening of its document answers for the text before the opening. -/
theorem stale_answer_of_reopening :
    ¬ ∀ (config : ServerConfig) (pre mid rest : List ServerStep) (id : String) (u : Uri)
      (text : List Char) (data : List DeltaToken),
      initial.DistinctIds config (pre ++ .start id u :: mid) →
      (initial.after config pre).documents.find? u = some text →
      .release id ∉ mid →
      ((initial.run config ((pre ++ .start id u :: mid) ++ .release id :: rest))[
        (pre ++ .start id u :: mid).length]?.map (·.answer)) = some (.tokens data) →
      (initial.after config (pre ++ .start id u :: mid)).documents.find? u = some text := by
  intro h
  have hstale := h ⟨"cweb-lsp", "cweb", .scanner⟩ (reopenedRun.take 1) (reopenedRun.drop 2) []
    "held" ⟨"file:///a.w"⟩ ['%'] [⟨0, 0, 1, 0, 0⟩] (by decide) (by decide) (by decide) (by decide)
  exact absurd hstale (by decide)

end ServerState

end CwebHighlight
