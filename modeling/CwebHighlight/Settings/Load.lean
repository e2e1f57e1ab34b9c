import CwebHighlight.FileTree
import CwebHighlight.Settings.Schema
import CwebHighlight.Text.Utf8
import CwebHighlight.Toml.Document

/-!
# Loading settings

Settings come in layers over the built-in defaults: files, which must be there or may be missing,
and single overrides.

**Order.** Files are merged in the order of the layers. Overrides are put on top of all files,
wherever they stand; of two overrides of one key the last counts. All keys are read before any
file.

**Files.** A path is looked up as it is, and if there is no such file with `.toml` appended. What
is not found or is not UTF-8 counts as empty for a file that may be missing. A malformed file is
always a fault.

**Top-level names of a file** are key paths as those of overrides are; one that is none is taken
as it stands.
-/

namespace CwebHighlight.Settings

inductive Layer where
  | file (path : String)
  | optionalFile (path : String)
  | override (key : String) (value : Value)

inductive LoadError where
  | keyPath (fault : KeyPathFault)
  | notFound (path : String)
  | notUtf8
  | unreadable (message : String)
  | malformed
  | underflow (e : PlaceUnderflow)
  | schema (e : SchemaError)
  deriving DecidableEq, Repr

/-- The text of a fault. Where a file is malformed is not told. -/
def LoadError.message : LoadError → String
  | .keyPath fault => fault.message
  | .notFound path => "configuration file \"" ++ path ++ "\" not found"
  | .notUtf8 => "stream did not contain valid UTF-8"
  | .unreadable message => message
  | .malformed => "TOML parse error"
  | .underflow _ => PlaceUnderflow.message
  | .schema e => e.message

/-! ## Files -/

/-- A path without empty parts and `.` parts, other than a slash at the beginning. -/
def tidyPath (path : String) : String :=
  let parts := (pathParts path.toList).filter fun p => p ≠ [] && p ≠ ['.']
  let tidy := String.ofList (['/'].intercalate parts)
  if path.toList.head? = some '/' then "/" ++ tidy else tidy

/-- The path with the ending of configuration files, if it ends in a name. -/
def withEnding? (path : String) : Option String :=
  let tidy := tidyPath path
  let last := (pathParts tidy.toList).getLast?
  if last = some [] || last = some ['.', '.'] then none else some (tidy ++ ".toml")

/-- The paths at which a configuration file is looked for. -/
def candidates (path : String) : List String := path :: (withEnding? path).toList

def isFile (files : Files) (path : String) : Bool :=
  match files path with
  | .error .notFound | .error .isDirectory | .error .notDirectory | .error .nameTooLong => false
  | _ => true

/-- The file that a path means. -/
def findFile? (files : Files) (path : String) : Option String :=
  (candidates path).find? (isFile files)

/-- The text of a file, and the name by which messages know it. -/
def readFile (files : Files) (path : String) : Except LoadError (String × List Char) :=
  match findFile? files path with
  | none => .error (.notFound path)
  | some found =>
    match files found with
    | .error e => .error (.unreadable e.message)
    | .ok bytes =>
      match decodeStrict? bytes with
      | some text => .ok (tidyPath found, text)
      | none => .error .notUtf8

/-! ## Merging layers -/

/-- A text with its origin: a source of settings before it is read. -/
structure Source where
  origin : Origin
  text : List Char
  deriving DecidableEq, Repr

/-- The source that a layer gives, if it gives one. -/
def Layer.source? (files : Files) : Layer → Except LoadError (Option Source)
  | .file path => do
    let (name, text) ← readFile files path
    return some ⟨some name, text⟩
  | .optionalFile path =>
    match readFile files path with
    | .ok (name, text) => .ok (some ⟨some name, text⟩)
    | .error _ => .ok none
  | .override _ _ => .ok none

/-- Put an entry of a file in its place. -/
def mergeTopLevel (root : Value) (name : String) (v : Value) : Except LoadError Value :=
  match KeyPath.parse name with
  | .ok path => (Value.putAt path v root).mapError .underflow
  | .error _ => .ok (Value.mergeEntry name v root)

def mergeSource (root : Value) (s : Source) : Except LoadError Value := do
  let some entries := Toml.parse? s.text | throw .malformed
  (Value.ofTomlEntries s.origin entries).foldlM (fun root e => mergeTopLevel root e.1 e.2) root

/-- The overrides among the layers, each key once with its last value. -/
def overrides (layers : List Layer) : Except LoadError (List (KeyPath × Value)) :=
  layers.foldlM (fun acc layer =>
    match layer with
    | .override key v => do
      let path ← (KeyPath.parse key).mapError .keyPath
      if acc.any (·.1 = path) then
        return acc.map fun e => if e.1 = path then (path, v) else e
      else return acc ++ [(path, v)]
    | _ => return acc) []

/-- The file of defaults that is part of the tools. -/
def defaultsText : String :=
"# Built-in defaults for the CWEB toolchain.
# User files and command-line overrides are layered on top of these values.

[lsp]
# Name reported to the editor in the initialize response.
server_name = \"cweb-lsp\"
# Documents opened with any other language id are ignored.
language_id = \"cweb\"

[cli]
# Output of `cweb tokens`: simple, json or lsp.
format = \"simple\"

[logging]
# Directives that filter the log.
filter = \"warn\"
"

def defaults : Source := ⟨none, defaultsText.toList⟩

/-- Merge a layer's file, read when its turn comes. -/
def mergeLayer (files : Files) (root : Value) (layer : Layer) : Except LoadError Value := do
  match ← layer.source? files with
  | some s => mergeSource root s
  | none => return root

/-- The value that all layers give together. -/
def merged (files : Files) (layers : List Layer) : Except LoadError Value := do
  let overrides ← overrides layers
  let root ← mergeSource .freshTable defaults
  let root ← layers.foldlM (mergeLayer files) root
  overrides.foldlM (fun root e => (Value.putAt e.1 e.2 root).mapError .underflow) root

/-- The settings that layers give over the defaults. -/
def load (files : Files) (layers : List Layer) : Except LoadError Settings := do
  (ofValue (← merged files layers)).mapError .schema

end CwebHighlight.Settings
