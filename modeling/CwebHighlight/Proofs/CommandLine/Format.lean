import CwebHighlight.CommandLine.Run
import CwebHighlight.Proofs.Settings.Merging

/-!
# The format flag

The flag is an override, which is put on top of the defaults and the configuration file. Whatever
stands in its place gives way: after that the section of the command line is a table that has this
format (`withFormat`), and the other sections are as they were. So settings that load have the
format of the flag, and they always load without a configuration file. A file that can be read is
printed in that format (`run_tokens_flag`).
-/

namespace CwebHighlight.Settings

/-! ## A value with a format -/

/-- The value with the output format put in its place. -/
def withFormat (f : OutputFormat) (root : Value) : Value :=
  let cli := (Value.find? "cli" root.asTable.2).getD .nil
  let formatted := Value.setEntry "format" (.scalar none (.string f.name)) cli.asTable.2
  .table root.asTable.1 (Value.setEntry "cli" (.table cli.asTable.1 formatted) root.asTable.2)

def formatPath : KeyPath := ⟨"cli", [.name "format"]⟩

variable (f : OutputFormat) (root : Value)

theorem putAt_formatPath :
    Value.putAt formatPath (.scalar none (.string f.name)) root = .ok (withFormat f root) := by
  simp only [Value.putAt, formatPath, Value.put, Value.mergeEntry,
    lowercase_of_plainKey (by decide : PlainKey "cli"),
    lowercase_of_plainKey (by decide : PlainKey "format")]
  rfl

theorem sectionOf_withFormat {s : Section} (h : "cli" ≠ s.name) :
    sectionOf (withFormat f root) s = sectionOf root s := by
  rw [sectionOf, withFormat, Value.asTable, Value.find?_setEntry, if_neg h, sectionOf]

theorem sectionOf_withFormat_cli :
    sectionOf (withFormat f root) .cli =
      .ok [(.entry "cli" "format", .scalar none (.string f.name))] := by
  rw [sectionOf, withFormat, Value.asTable, Value.find?_setEntry, if_pos (by rfl)]
  simp only [readSection, Section.cli, List.mapM_cons, Value.find?_setEntry, if_pos]
  rfl

theorem readFormatName_name : readFormatName f.name = .ok f := by
  have hplain : PlainKey f.name := by cases f <;> decide
  rw [readFormatName, lowercase_of_plainKey hplain]
  cases f <;> rfl

/-- **Under the flag** the settings load if and only if the two other sections do. -/
theorem ofValue_withFormat :
    ofValue (withFormat f root) = do
      let lsp ← sectionOf root .lsp
      let serverName ← readField .lsp lsp 0 readText
      let languageId ← readField .lsp lsp 1 readText
      let logging ← sectionOf root .logging
      let filter ← readField .logging logging 0 readText
      return ⟨serverName, languageId, f, filter⟩ := by
  have hformat : readField .cli [(.entry "cli" "format", .scalar none (.string f.name))] 0
      (fun _ => readFormat) = .ok f := readFormatName_name f
  rw [ofValue, sectionOf_withFormat f root (by decide), sectionOf_withFormat_cli,
    sectionOf_withFormat f root (by decide)]
  simp only [hformat, Except.bind, bind]

theorem format_of_ofValue {settings : Settings} (h : ofValue (withFormat f root) = .ok settings) :
    settings.format = f := by
  rw [ofValue_withFormat] at h
  simp only [bind_eq_ok_iff] at h
  obtain ⟨-, -, serverName, -, languageId, -, -, -, filter, -, hsettings⟩ := h
  exact (Except.ok.inj hsettings).symm ▸ rfl

end CwebHighlight.Settings

namespace CwebHighlight.CommandLine

open Settings

/-! ## The layers of a command -/

variable (files : Files) (config : Option String) (f : OutputFormat)

theorem layers_flag : layers config (some f) =
    layers config none ++ [.override "cli.format" (.scalar none (.string f.name))] := by
  simp [layers]

theorem overrides_layers_flag :
    overrides (layers config (some f)) = .ok [(formatPath, .scalar none (.string f.name))] := by
  have hkey : KeyPath.parse "cli.format" = .ok formatPath :=
    KeyPath.parse_dotted (by decide : PlainKey "cli") (by decide : PlainKey "format")
  have hconfig : overrides (layers config none) = .ok [] := by cases config <;> rfl
  rw [overrides] at hconfig
  rw [overrides, layers_flag, List.foldlM_append, hconfig]
  simp only [bind, Except.bind, List.foldlM_cons, hkey]
  rfl

/-- What the layers give under the flag: the format on top of what they give without it. -/
theorem merged_layers_flag :
    merged files (layers config (some f)) = do
      let root ← (layers config none).foldlM (mergeLayer files) (.table none defaultEntries)
      return withFormat f root := by
  rw [merged, overrides_layers_flag, mergeSource_defaults, layers_flag]
  simp only [bind, Except.bind, List.foldlM_append, List.foldlM_cons, List.foldlM_nil,
    putAt_formatPath]
  cases (layers config none).foldlM (mergeLayer files) (.table none defaultEntries) with
  | error e => rfl
  | ok root => rfl

theorem format_of_load {settings : Settings}
    (h : load files (layers config (some f)) = .ok settings) : settings.format = f := by
  rw [load, merged_layers_flag] at h
  simp only [bind_eq_ok_iff] at h
  obtain ⟨value, ⟨root, -, hvalue⟩, hsettings⟩ := h
  cases hvalue
  cases hof : ofValue (withFormat f root) with
  | error e =>
    rw [hof] at hsettings
    cases hsettings
  | ok read =>
    rw [hof] at hsettings
    cases hsettings
    exact format_of_ofValue f root hof

/-- Without a configuration file the settings are the defaults with the format of the flag. -/
theorem load_flag : load files (layers none (some f)) = .ok ⟨"cweb-lsp", "cweb", f, "warn"⟩ := by
  rw [load, merged_layers_flag]
  simp only [layers, Option.map_none, Option.toList_none, List.append_nil, List.foldlM_nil,
    pure_bind, ofValue_withFormat]
  rfl

/-! ## Running a command -/

/-- A file that can be read is printed in the format of the flag, once the settings load. -/
theorem run_tokens_flag {files : Files} {args : List String} {path : String}
    {config : Option String} {f : OutputFormat} {bytes : List UInt8}
    (hargs : parse args = .ok (.tokens path config (some f))) (hfile : files path = .ok bytes)
    (hload : config = none ∨ ∃ settings, load files (layers config (some f)) = .ok settings) :
    run files args = printTokens f (classifyAll (decodeLossy bytes)) := by
  have hsettings : ∃ settings, load files (layers config (some f)) = .ok settings := by
    rcases hload with rfl | hload
    · exact ⟨_, load_flag files f⟩
    · exact hload
  obtain ⟨settings, hsettings⟩ := hsettings
  rw [run, hargs]
  simp only [runInvocation, hsettings, runTokens, hfile]
  rw [format_of_load files config f hsettings]

end CwebHighlight.CommandLine
