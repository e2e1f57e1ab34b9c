import CwebHighlight.Proofs.Scan.Resynchronisation
import CwebHighlight.Proofs.Server.Agreement
import CwebHighlight.Proofs.Text.Feeds
import CwebHighlight.Proofs.Text.Lines

/-!
# Files that are not text

The command line takes any bytes. They are decoded with a replacement character for each ill-formed
part, and the text is classified and printed. Nothing of this fails: a text has its words on the
wire as long as its lines can be counted (`printTokens_classifyAll`), and that is a matter of the
line feeds among the bytes.

Ill-formed bytes stay inside their line, and the scan reads line by line. So the tokens of the lines
before a line feed are printed first, whatever bytes follow (`fileTokens_append_feed`), and bytes
that open a section are classified as if they stood alone.

Main result: `brokenBytes_stay_in_line`.
-/

namespace CwebHighlight

/-- The tokens of a file. -/
def fileTokens (bytes : List UInt8) : List Token := classifyAll (decodeLossy bytes)

theorem length_splitLines_decodeLossy (bytes : List UInt8) :
    (splitLines (decodeLossy bytes)).length = bytes.count 0x0A + 1 := by
  rw [length_splitLines, count_feed_decodeLossy]

theorem renderSimple_append (a b : List Token) :
    renderSimple (a ++ b) = renderSimple a ++ renderSimple b := by
  rw [renderSimple, List.map_append, String.join_append]
  rfl

/-! ## Bytes after a line feed -/

/-- Bytes that open a section: `@*` or `@ `. -/
def BytesOpen (bytes : List UInt8) : Prop := [0x40, 0x2A] <+: bytes ∨ [0x40, 0x20] <+: bytes

instance (bytes : List UInt8) : Decidable (BytesOpen bytes) :=
  inferInstanceAs (Decidable (_ ∨ _))

theorem opens_decodeLossy {bytes : List UInt8} (h : BytesOpen bytes) :
    Opens (decodeLossy bytes) := by
  rcases h with ⟨rest, rfl⟩ | ⟨rest, rfl⟩
  · exact .inl ⟨decodeLossy rest, rfl⟩
  · exact .inr ⟨decodeLossy rest, rfl⟩

/-- The tokens before a line feed come first, whatever follows. -/
theorem fileTokens_append_feed (a b : List UInt8) :
    fileTokens (a ++ [0x0A]) <+: fileTokens (a ++ 0x0A :: b) := by
  obtain ⟨m, hseam⟩ := classifyAll_append_feed (decodeLossy a) (decodeLossy b)
  rw [fileTokens, fileTokens, decodeLossy_append_feed, decodeLossy_append_feed, hseam]
  exact List.prefix_append _ _

theorem fileTokens_append_feed_of_open (a : List UInt8) {b : List UInt8} (h : BytesOpen b) :
    fileTokens (a ++ 0x0A :: b) =
      fileTokens (a ++ [0x0A]) ++ (fileTokens b).map (·.down (a.count 0x0A + 1)) := by
  rw [fileTokens, fileTokens, decodeLossy_append_feed, decodeLossy_append_feed,
    classifyAll_append_feed_of_opens _ (opens_decodeLossy h), length_splitLines_decodeLossy]
  rfl

/-- The lines of a file are counted in 32 bits. -/
theorem line_of_mem_fileTokens {bytes : List UInt8} (hlines : bytes.count 0x0A + 1 ≤ 2 ^ 32)
    {t : Token} (ht : t ∈ fileTokens bytes) : t.line.toNat < bytes.count 0x0A + 1 := by
  rw [← length_splitLines_decodeLossy] at hlines ⊢
  rw [fileTokens, classifyAll_eq_tokensFrom] at ht
  have hline := line_of_mem_tokensFrom (by omega) ht
  omega

namespace CommandLine

open Settings

/-! ## Printing -/

/-- What the command line prints for a token list in each format. -/
def Prints (tokens : List Token) : OutputFormat → String → Prop
  | .simple, text => text = renderSimple tokens
  | .json, text => text = renderJson tokens ++ "\n"
  | .lsp, text => ∃ words, renderLsp .standard tokens = .ok words ∧ text = words ++ "\n"

/-- **Every text is printed** in every format, unless it has too many lines. -/
theorem printTokens_classifyAll {text : List Char} (hlines : (splitLines text).length ≤ 2 ^ 32)
    (f : OutputFormat) :
    ∃ printed, Prints (classifyAll text) f printed ∧
      printTokens f (classifyAll text) = ⟨0, printed, ""⟩ := by
  cases f with
  | simple => exact ⟨_, rfl, rfl⟩
  | json => exact ⟨_, rfl, rfl⟩
  | lsp =>
    obtain ⟨data, hdata⟩ := exists_wire_classifyAll hlines
    obtain ⟨words, hwords, -⟩ := parse?_renderLsp hdata
    refine ⟨words ++ "\n", ⟨words, hwords, rfl⟩, ?_⟩
    rw [printTokens, hwords]

variable {files : Files} {path : String} {bytes : List UInt8}

theorem run_tokens_of_load {args : List String} {config : Option String}
    {format : Option OutputFormat} {settings : Settings}
    (hargs : parse args = .ok (.tokens path config format)) (hfile : files path = .ok bytes)
    (hload : load files (layers config format) = .ok settings) :
    run files args = printTokens settings.format (fileTokens bytes) := by
  rw [run, hargs]
  simp only [runInvocation, hload, runTokens, hfile]
  rfl

/-- Any path can be given, and any format with it. -/
theorem parse_tokens (path : String) (f : OutputFormat) :
    parse ["tokens", "--format", f.name, "--", path] = .ok (.tokens path none (some f)) := by
  cases f <;> rfl

/-- **Ill-formed bytes stay inside their line.** A file is printed in every format, whatever its
bytes are. The text that they are decoded to has their line feeds, and what stands before a line
feed and what stands after it are decoded on their own. So the tokens before a line feed are printed
first, and bytes after it that open a section have the tokens that they have in a file of their
own, with the lines counted on. -/
theorem brokenBytes_stay_in_line :
    (∀ bytes : List UInt8, bytes.count 0x0A + 1 < 2 ^ 32 →
      ∀ (files : Files) (path : String), files path = .ok bytes →
        (∀ f : OutputFormat, ∃ printed, Prints (fileTokens bytes) f printed ∧
          run files ["tokens", "--format", f.name, "--", path] = ⟨0, printed, ""⟩) ∧
        ∀ args config format settings, parse args = .ok (.tokens path config format) →
          load files (layers config format) = .ok settings →
          ∃ printed, Prints (fileTokens bytes) settings.format printed ∧
            run files args = ⟨0, printed, ""⟩) ∧
    (∀ bytes : List UInt8, (decodeLossy bytes).count '\n' = bytes.count 0x0A) ∧
    ∀ a b : List UInt8,
      decodeLossy (a ++ 0x0A :: b) = decodeLossy a ++ '\n' :: decodeLossy b ∧
      fileTokens (a ++ [0x0A]) <+: fileTokens (a ++ 0x0A :: b) ∧
      (∃ more, renderSimple (fileTokens (a ++ 0x0A :: b)) =
        renderSimple (fileTokens (a ++ [0x0A])) ++ more) ∧
      (BytesOpen b →
        let shifted := (fileTokens b).map (·.down (a.count 0x0A + 1))
        fileTokens (a ++ 0x0A :: b) = fileTokens (a ++ [0x0A]) ++ shifted ∧
        renderSimple (fileTokens (a ++ 0x0A :: b)) =
          renderSimple (fileTokens (a ++ [0x0A])) ++ renderSimple shifted ∧
        ((a ++ 0x0A :: b).count 0x0A + 1 < 2 ^ 32 → ∀ t ∈ fileTokens b,
          (t.down (a.count 0x0A + 1)).line.toNat = t.line.toNat + (a.count 0x0A + 1))) := by
  refine ⟨fun bytes hlines files path hfile => ?_, count_feed_decodeLossy, fun a b => ?_⟩
  · have hcount : (splitLines (decodeLossy bytes)).length ≤ 2 ^ 32 := by
      rw [length_splitLines_decodeLossy]
      omega
    have hprints := printTokens_classifyAll hcount
    refine ⟨fun f => ?_, fun args config format settings hargs hload => ?_⟩
    · rw [run_tokens_of_load (parse_tokens path f) hfile (load_flag files f)]
      exact hprints f
    · rw [run_tokens_of_load hargs hfile hload]
      exact hprints settings.format
  · have hprefix := fileTokens_append_feed a b
    refine ⟨decodeLossy_append_feed a b, hprefix, ?_, fun hopen => ?_⟩
    · obtain ⟨rest, hrest⟩ := hprefix
      exact ⟨renderSimple rest, by rw [← hrest, renderSimple_append]⟩
    · have hseam := fileTokens_append_feed_of_open a hopen
      refine ⟨hseam, by rw [hseam, renderSimple_append], fun hlines t ht => ?_⟩
      rw [List.count_append, List.count_cons_self] at hlines
      have hline := line_of_mem_fileTokens (by omega) ht
      exact Token.toNat_line_down (by omega)

/-- A comment that ends in the middle of a character, and a section with an overlong line feed and
a surrogate, which is cut off. -/
theorem brokenBytes_stay_in_line_truncated :
    let a : List UInt8 := [0x25, 0xE2, 0x82]
    let b : List UInt8 := [0x40, 0x20, 0xC0, 0x8A, 0x0A, 0x25, 0xED, 0xA0]
    let files : Files := fun path =>
      if path = "-a.w" then .ok (a ++ 0x0A :: b) else .error .notFound
    (a ++ 0x0A :: b).count 0x0A + 1 < 2 ^ 32 ∧ files "-a.w" = .ok (a ++ 0x0A :: b) ∧
      BytesOpen b ∧
      run files ["tokens", "--format", "simple", "--", "-a.w"] =
        ⟨0, "0:0+2 comment\n1:0+1 keyword\n2:0+3 comment\n", ""⟩ ∧
      run files ["tokens", "-flsp", "--", "-a.w"] =
        ⟨0, "\x7b\"data\":[0,0,2,0,0,1,0,1,4,0,1,0,3,0,0]\x7d\n", ""⟩ ∧
      fileTokens (a ++ 0x0A :: b) =
        [⟨0, 0, 2, .comment, []⟩] ++ [⟨1, 0, 1, .keyword, []⟩, ⟨2, 0, 3, .comment, []⟩] ∧
      ∀ t ∈ fileTokens b, (t.down 1).line.toNat = t.line.toNat + 1 := by
  intro a b files
  have hlines : (a ++ 0x0A :: b).count 0x0A + 1 < 2 ^ 32 := by decide
  have hfile : files "-a.w" = .ok (a ++ 0x0A :: b) := by decide
  have hopen : BytesOpen b := by decide
  obtain ⟨hruns, -, hfeed⟩ := brokenBytes_stay_in_line
  obtain ⟨hformats, hargs⟩ := hruns _ hlines files "-a.w" hfile
  obtain ⟨printed, hprints, hrun⟩ := hformats .simple
  obtain ⟨printed', ⟨words, hwords, rfl⟩, hrun'⟩ :=
    hargs ["tokens", "-flsp", "--", "-a.w"] none (some .lsp) _ rfl (load_flag files .lsp)
  obtain ⟨-, -, -, hsection⟩ := hfeed a b
  obtain ⟨hseam, -, hshift⟩ := hsection hopen
  have hprinted : printed = "0:0+2 comment\n1:0+1 keyword\n2:0+3 comment\n" := hprints.trans rfl
  have hlsp : renderLsp .standard (fileTokens (a ++ 0x0A :: b)) =
      .ok "\x7b\"data\":[0,0,2,0,0,1,0,1,4,0,1,0,3,0,0]\x7d" := by rfl
  rw [hlsp] at hwords
  cases hwords
  exact ⟨hlines, hfile, hopen, hprinted ▸ hrun, hrun', hseam.trans (by decide), hshift hlines⟩

end CommandLine

end CwebHighlight
