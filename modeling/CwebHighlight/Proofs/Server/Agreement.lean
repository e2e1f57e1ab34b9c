import CwebHighlight.Proofs.CommandLine.Format
import CwebHighlight.Proofs.Render
import CwebHighlight.Proofs.Server.History
import CwebHighlight.Proofs.Text.Utf8
import CwebHighlight.Proofs.Wire.Highlight

/-!
# The command line and the server agree

Both classify a text and put the tokens on the wire. The server takes the text from its store and
scans it under the flag of the request; the command line takes it from the bytes of a file and
prints the words.

**The server.** A request that is answered at once has a flag that nobody turns on, whatever is
held. So the answer is made of all tokens of the stored text.

**The command line.** The bytes of a text are decoded to this text, and the flag decides the format.

Main result: `tokens_eq_printed`.
-/

namespace CwebHighlight

/-- Every document but one with too many lines has its words. -/
theorem exists_wire_classifyAll {text : List Char} (hlines : (splitLines text).length ≤ 2 ^ 32) :
    ∃ data, Legend.standard.wire (classifyAll text) = .ok data := by
  have hall : ∀ t ∈ classify text .never, t.kind.name ∈ TokenKind.all.map (·.name) :=
    fun t _ => List.mem_map_of_mem t.kind.mem_all
  obtain ⟨data, hdata, -⟩ :=
    Legend.highlight_of_known (by decide) (Modifier.all.map (·.name)) hlines .never hall
  exact ⟨data, hdata⟩

theorem ServerStep.textAfter_of_edit {config : ServerConfig} {u : Uri} {x : ServerStep}
    {new : List Char} (h : x.edit? u = some new) (old : List Char) :
    x.textAfter config u (some old) = some new := by
  cases x with
  | changeDocument v texts =>
    simp only [edit?] at h
    split at h
    · rename_i hv
      rw [textAfter, if_pos hv, h]
      rfl
    · cases h
  | _ => cases h

namespace ServerState

theorem answer_tokens_of_stored {config : ServerConfig} (hscanner : config.provider = .scanner)
    {steps : List ServerStep} {u : Uri} {text : List Char} {data : List DeltaToken}
    (hstored : (initial.after config steps).documents.find? u = some text)
    (hdata : Legend.standard.wire (classifyAll text) = .ok data) :
    ((initial.after config steps).step config (.tokens u)).answer = .tokens data := by
  have hreport : config.provider text .never = some (scan text .never) := by
    rw [hscanner]
    rfl
  have houtcome := outcome_tokens config (inflightKnown_after config steps) u
  rw [hstored] at houtcome
  simp only [requestOutcome_of_report hreport] at houtcome
  rw [StepResult.answer_eq_of_outcome houtcome]
  exact ServerAnswer.ofWire_eq_tokens_iff.2 hdata

/-- **The command line and the server classify alike.** After a step that gives a document a text,
a request is answered with the words that the command line prints for a file with the bytes of this
text. -/
theorem tokens_eq_printed (config : ServerConfig) (hscanner : config.provider = .scanner)
    (steps rest : List ServerStep) (x : ServerStep) (u : Uri) (text : List Char)
    (hlines : (splitLines text).length < 2 ^ 32)
    (hstored : x.opening? config u = some text ∨
      x.edit? u = some text ∧ ((initial.after config steps).documents.find? u).isSome) :
    ∃ result data printed,
      (initial.run config (steps ++ x :: .tokens u :: rest))[steps.length + 1]? = some result ∧
      result.answer = .tokens data ∧
      renderLsp .standard (classifyAll text) = .ok printed ∧
      Json.parse? printed = some (.object [("data", .array ((data.flatMap fun d =>
        [d.deltaLine, d.deltaStart, d.length, d.kindIndex, d.modifierBits]).map .ofWord))]) ∧
      ∀ (files : Files) (args : List String) (path : String) (configFile : Option String),
        CommandLine.parse args = .ok (.tokens path configFile (some .lsp)) →
        files path = .ok text.utf8Encode.data.toList →
        (configFile = none ∨ ∃ settings,
          Settings.load files (CommandLine.layers configFile (some .lsp)) = .ok settings) →
        CommandLine.run files args = ⟨0, printed ++ "\n", ""⟩ := by
  obtain ⟨data, hdata⟩ := exists_wire_classifyAll (Nat.le_of_lt hlines)
  obtain ⟨printed, hprinted, hread⟩ := parse?_renderLsp hdata
  have hafter : (initial.after config (steps ++ [x])).documents.find? u = some text := by
    rw [after_concat, documents_step]
    rcases hstored with hopening | ⟨hedit, htracked⟩
    · exact ServerStep.textAfter_of_opening hopening _
    · obtain ⟨old, hold⟩ := Option.isSome_iff_exists.1 htracked
      rw [hold]
      exact ServerStep.textAfter_of_edit hedit old
  have hresult := getElem?_run config initial (steps ++ [x]) (.tokens u) rest
  rw [List.append_assoc, List.length_append] at hresult
  have hanswer := answer_tokens_of_stored hscanner hafter hdata
  refine ⟨_, data, printed, hresult, hanswer, hprinted, hread, ?_⟩
  intro files args path configFile hargs hfile hload
  rw [CommandLine.run_tokens_flag hargs hfile hload, decodeLossy_utf8Encode]
  simp only [CommandLine.printTokens, hprinted]

/-- An edit while a request for the document is held, with a letter that has two bytes. -/
theorem tokens_eq_printed_editedRun :
    let config : ServerConfig := ⟨"cweb-lsp", "cweb", .scanner⟩
    let u : Uri := ⟨"file:///a.w"⟩
    let text := ['%', 'é', '\n', '@', '*', 'A', '.']
    let steps := [.openDocument u "cweb" ['@', 'c'], .start "held" u]
    let x : ServerStep := .changeDocument u [[], text]
    let files : Files := fun path =>
      if path = "a.w" then .ok [0x25, 0xC3, 0xA9, 0x0A, 0x40, 0x2A, 0x41, 0x2E]
      else .error .notFound
    (splitLines text).length < 2 ^ 32 ∧ x.edit? u = some text ∧
      ((initial.after config steps).documents.find? u).isSome ∧
      ∃ result, (initial.run config (steps ++ [x, .tokens u, .release "held"]))[3]? = some result ∧
        result.answer = .tokens [⟨0, 0, 2, 0, 0⟩, ⟨1, 0, 3, 4, 0⟩] ∧
        CommandLine.run files ["tokens", "a.w", "--format", "lsp"] =
          ⟨0, "\x7b\"data\":[0,0,2,0,0,1,0,3,4,0]\x7d\n", ""⟩ := by
  intro config u text steps x files
  have hlines : (splitLines text).length < 2 ^ 32 := by decide
  have htracked : ((initial.after config steps).documents.find? u).isSome := by decide
  have hprint : renderLsp .standard (classifyAll text) =
      .ok "\x7b\"data\":[0,0,2,0,0,1,0,3,4,0]\x7d" := by rfl
  obtain ⟨result, data, printed, hresult, hanswer, hprinted, -, hrun⟩ :=
    tokens_eq_printed config rfl steps [.release "held"] x u text hlines (Or.inr ⟨rfl, htracked⟩)
  rw [hprint] at hprinted
  cases hprinted
  have htokens :
      (initial.run config (steps ++ [x, .tokens u, .release "held"]))[steps.length + 1]?.map
        (·.answer) = some (.tokens [⟨0, 0, 2, 0, 0⟩, ⟨1, 0, 3, 4, 0⟩]) := by
    decide
  rw [hresult, Option.map_some, Option.some.injEq] at htokens
  exact ⟨hlines, rfl, htracked, result, hresult, htokens,
    hrun files _ "a.w" none rfl rfl (Or.inl rfl)⟩

end ServerState

end CwebHighlight
