import CwebHighlight.Proofs.Server.Answers
import CwebHighlight.Proofs.Server.Run
import Mathlib.Data.List.Induction

/-!
# The text of a document from its history

The server keeps one text per document and changes it step by step. Here the text is read off the
steps that came before, without a state.

**Three kinds of steps matter** for the text of `u`: an opening of `u` that is accepted
(`ServerStep.opening?`), an edit of `u` that holds a text (`ServerStep.edit?`), and the closing
of `u`.

**The last opening decides** (`OpenedLast`). A document that was never opened is not tracked, and
edits do not make it so. One that was opened has the text of its last opening, or the last text of
the last edit since then, unless it was closed since then (`TextFrom`).

Main result: `answer_tokens_eq_history`. Held requests, their releases and everything about other
documents leave no trace in the answer.
-/

namespace CwebHighlight

/-! ## Steps that matter -/

namespace ServerStep

/-- The text with which the step opens `u`, if the server looks after the language. -/
def opening? (config : ServerConfig) (u : Uri) : ServerStep → Option (List Char)
  | .openDocument v language text =>
    if v = u ∧ language = config.languageId then some text else none
  | _ => none

/-- The text that the step, as an edit, gives `u`: the last one it holds. -/
def edit? (u : Uri) : ServerStep → Option (List Char)
  | .changeDocument v texts => if v = u then texts.getLast? else none
  | _ => none

variable {config : ServerConfig} {u : Uri} {x : ServerStep}

theorem textAfter_of_opening {new : List Char} (h : x.opening? config u = some new)
    (text : Option (List Char)) : x.textAfter config u text = some new := by
  cases x with
  | openDocument v language opened =>
    simp only [opening?] at h
    split at h
    · rename_i hv
      rw [textAfter, if_pos hv, h]
    · cases h
  | _ => cases h

/-- A step that does not open the document closes it, edits it or leaves its text. -/
theorem textAfter_of_no_opening (h : x.opening? config u = none) (text : Option (List Char)) :
    x.textAfter config u text =
      if x = .closeDocument u then none else text.map ((x.edit? u).getD ·) := by
  cases x with
  | openDocument v language opened =>
    simp only [opening?] at h
    split at h
    · cases h
    · rename_i hv
      simp [textAfter, edit?, hv]
  | changeDocument v texts =>
    by_cases hv : v = u
    · simp [textAfter, edit?, hv]
    · simp [textAfter, edit?, hv]
  | closeDocument v =>
    by_cases hv : v = u
    · simp [textAfter, hv]
    · simp [textAfter, edit?, hv]
  | _ => simp [textAfter, edit?]

end ServerStep

namespace ServerState

variable {config : ServerConfig} {u : Uri} {steps : List ServerStep}

/-! ## The last opening -/

/-- The last accepted opening of `u` in `steps` gives it the text `opened`, and `since` are the
steps after it. -/
def OpenedLast (config : ServerConfig) (u : Uri) (steps : List ServerStep) (opened : List Char)
    (since : List ServerStep) : Prop :=
  ∃ before x, steps = before ++ x :: since ∧ x.opening? config u = some opened ∧
    ∀ y ∈ since, y.opening? config u = none

/-- The text that `u` has by its history: it was not closed since its last opening, and the last
edit since then gave it this text, or the opening itself if there was none. -/
def TextFrom (config : ServerConfig) (u : Uri) (steps : List ServerStep) (text : List Char) :
    Prop :=
  ∃ opened since, OpenedLast config u steps opened since ∧ .closeDocument u ∉ since ∧
    text = (since.filterMap (·.edit? u)).getLastD opened

theorem no_opening_or_openedLast (config : ServerConfig) (u : Uri) (steps : List ServerStep) :
    (∀ x ∈ steps, x.opening? config u = none) ∨
      ∃ opened since, OpenedLast config u steps opened since := by
  induction steps using List.reverseRecOn with
  | nil => exact Or.inl fun x hx => absurd hx List.not_mem_nil
  | append_singleton steps x ih =>
    cases hx : x.opening? config u with
    | some opened => exact Or.inr ⟨opened, [], steps, x, rfl, hx, by simp⟩
    | none =>
      rcases ih with hnone | ⟨opened, since, before, y, rfl, hy, hsince⟩
      · refine Or.inl fun y hy => ?_
        rcases List.mem_append.1 hy with hy | hy
        · exact hnone y hy
        · rwa [List.mem_singleton.1 hy]
      · refine Or.inr ⟨opened, since ++ [x], before, y, by simp, hy, fun z hz => ?_⟩
        rcases List.mem_append.1 hz with hz | hz
        · exact hsince z hz
        · rwa [List.mem_singleton.1 hz]

/-- **Steps that do not open the document**: it is closed by a closing among them, and otherwise the
last of their edits gives its text, if it is tracked at all. -/
theorem documents_after_of_no_opening (s : ServerState)
    (h : ∀ x ∈ steps, x.opening? config u = none) :
    (s.after config steps).documents.find? u =
      if .closeDocument u ∈ steps then none
      else (s.documents.find? u).map (steps.filterMap (·.edit? u)).getLastD := by
  induction steps generalizing s with
  | nil =>
    have hid : (s.documents.find? u).map (List.getLastD []) = s.documents.find? u := by
      cases s.documents.find? u <;> rfl
    simpa [after] using hid.symm
  | cons x rest ih =>
    have hx : x.opening? config u = none := h x List.mem_cons_self
    have hrest : ∀ y ∈ rest, y.opening? config u = none :=
      fun y hy => h y (List.mem_cons_of_mem x hy)
    rw [after, ih _ hrest, documents_step, ServerStep.textAfter_of_no_opening hx]
    by_cases hclose : .closeDocument u ∈ rest
    · rw [if_pos hclose, if_pos (List.mem_cons_of_mem x hclose)]
    · rw [if_neg hclose]
      by_cases hxc : x = .closeDocument u
      · rw [if_pos hxc, if_pos (hxc ▸ List.mem_cons_self)]
        rfl
      · have hnot : .closeDocument u ∉ x :: rest := by
          intro hmem
          rcases List.mem_cons.1 hmem with hmem | hmem
          · exact hxc hmem.symm
          · exact hclose hmem
        rw [if_neg hxc, if_neg hnot, List.filterMap_cons]
        cases hedit : x.edit? u with
        | none => simp
        | some new =>
          cases s.documents.find? u with
          | none => rfl
          | some text =>
            simp only [Option.map_some, Option.getD_some, List.getLastD_cons]

theorem documents_after_of_openedLast {opened : List Char} {since : List ServerStep}
    (h : OpenedLast config u steps opened since) :
    (initial.after config steps).documents.find? u =
      if .closeDocument u ∈ since then none
      else some ((since.filterMap (·.edit? u)).getLastD opened) := by
  obtain ⟨before, x, rfl, hx, hsince⟩ := h
  have hopened : ((initial.after config before).step config x).state.documents.find? u =
      some opened := by
    rw [documents_step, ServerStep.textAfter_of_opening hx]
  rw [after_append, after, documents_after_of_no_opening _ hsince, hopened]
  rfl

/-- **The stored text is the text by history.** -/
theorem documents_after_eq_some_iff {text : List Char} :
    (initial.after config steps).documents.find? u = some text ↔
      TextFrom config u steps text := by
  constructor
  · intro htext
    rcases no_opening_or_openedLast config u steps with hnone | ⟨opened, since, hlast⟩
    · rw [documents_after_of_no_opening initial hnone] at htext
      split at htext <;> cases htext
    · rw [documents_after_of_openedLast hlast] at htext
      split at htext
      · cases htext
      · rename_i hclose
        exact ⟨opened, since, hlast, hclose, (Option.some.inj htext).symm⟩
  · rintro ⟨opened, since, hlast, hclose, rfl⟩
    rw [documents_after_of_openedLast hlast, if_neg hclose]

theorem documents_after_eq_none_iff :
    (initial.after config steps).documents.find? u = none ↔
      (∀ x ∈ steps, x.opening? config u = none) ∨
        ∃ opened since, OpenedLast config u steps opened since ∧ .closeDocument u ∈ since := by
  constructor
  · intro hnone
    rcases no_opening_or_openedLast config u steps with h | ⟨opened, since, hlast⟩
    · exact Or.inl h
    · refine Or.inr ⟨opened, since, hlast, ?_⟩
      by_contra hclose
      rw [documents_after_of_openedLast hlast, if_neg hclose] at hnone
      cases hnone
  · rintro (h | ⟨opened, since, hlast, hclose⟩)
    · rw [documents_after_of_no_opening initial h]
      split <;> rfl
    · rw [documents_after_of_openedLast hlast, if_pos hclose]

/-! ## Answers -/

theorem inflightKnown_after (config : ServerConfig) (steps : List ServerStep) :
    InflightKnown (initial.after config steps) := by
  induction steps using List.reverseRecOn with
  | nil => exact inflightKnown_initial
  | append_singleton steps x ih =>
    rw [after_concat]
    exact ih.step config x

/-- **The answer to a request is a function of the document's history.** A request that is answered
at once has no tokens if and only if the document was never opened, or was closed since its last
opening, or its provider crashes on the text by history. Otherwise the answer is what the provider
finds in that text. -/
theorem answer_tokens_eq_history (config : ServerConfig) (steps rest : List ServerStep) (u : Uri) :
    ∃ result, (initial.run config (steps ++ .tokens u :: rest))[steps.length]? = some result ∧
      (result.answer = .noTokens ↔
        (∀ x ∈ steps, x.opening? config u = none) ∨
          (∃ opened since, OpenedLast config u steps opened since ∧ .closeDocument u ∈ since) ∨
          ∃ text, TextFrom config u steps text ∧ config.provider text .never = none) ∧
      ∀ text report, TextFrom config u steps text →
        config.provider text .never = some report →
          result.answer = .ofWire (Legend.standard.wire report.tokens) := by
  refine ⟨_, getElem?_run config initial steps (.tokens u) rest, ?_⟩
  have houtcome := outcome_tokens config (inflightKnown_after config steps) u
  rw [StepResult.answer_eq_of_outcome houtcome, ← or_assoc, ← documents_after_eq_none_iff]
  simp only [← documents_after_eq_some_iff]
  cases hstored : (initial.after config steps).documents.find? u with
  | none => simp
  | some text =>
    simp only [reduceCtorEq, false_or, Option.some.injEq, exists_eq_left']
    cases hreport : config.provider text .never with
    | none =>
      rw [requestOutcome_of_crash hreport]
      refine ⟨iff_of_true rfl rfl, fun text' report htext hreport' => ?_⟩
      rw [← htext, hreport] at hreport'
      cases hreport'
    | some report =>
      rw [requestOutcome_of_report hreport]
      refine ⟨iff_of_false (ServerAnswer.ofWire_ne_noTokens _) (Option.some_ne_none report), ?_⟩
      rintro text' report' rfl hreport'
      rw [hreport] at hreport'
      cases hreport'
      rfl

/-- An edit before the opening, an opening in another language, an edit without texts, one with two
texts, a closing of another document, and a held request that is superseded and released. -/
def eventfulRun : List ServerStep :=
  [.changeDocument ⟨"file:///a.w"⟩ [['%']], .openDocument ⟨"file:///a.w"⟩ "cweb" ['@', 'c'],
    .start "held" ⟨"file:///a.w"⟩, .changeDocument ⟨"file:///a.w"⟩ [[], ['%', 'a']],
    .openDocument ⟨"file:///a.w"⟩ "rust" [], .changeDocument ⟨"file:///a.w"⟩ [],
    .release "held", .closeDocument ⟨"file:///b.w"⟩]

theorem answer_tokens_eq_history_eventfulRun :
    let config : ServerConfig := ⟨"cweb-lsp", "cweb", .scanner⟩
    TextFrom config ⟨"file:///a.w"⟩ eventfulRun ['%', 'a'] ∧
      ∃ result, (initial.run config (eventfulRun ++ [.tokens ⟨"file:///a.w"⟩]))[8]? =
          some result ∧
        result.answer = .tokens [⟨0, 0, 2, 0, 0⟩] := by
  intro config
  have htext : TextFrom config ⟨"file:///a.w"⟩ eventfulRun ['%', 'a'] :=
    ⟨['@', 'c'], eventfulRun.drop 2, ⟨eventfulRun.take 1, _, rfl, rfl, by decide⟩, by decide, rfl⟩
  obtain ⟨result, hresult, -, hanswer⟩ :=
    answer_tokens_eq_history config eventfulRun [] ⟨"file:///a.w"⟩
  exact ⟨htext, result, hresult, (hanswer ['%', 'a'] _ htext rfl).trans (by decide)⟩

end ServerState

end CwebHighlight
