import CwebHighlight.Settings.Merge
import CwebHighlight.Text.Quoted

/-!
# The settings

The settings of the tools in three sections, and how they are read off a merged value.

**Texts.** Numbers and booleans are texts as they are written; nil, lists and tables are none.

**Formats.** The name of an output format ignores case. A table with a single entry stands for its
name.

**Sections.** A section is a table, or a list that gives the settings by position, where more
items than settings do no harm. Sections and settings are read in the order of the fields below,
and the first fault is reported.
-/

namespace CwebHighlight

inductive OutputFormat where
  | simple
  | json
  | lsp
  deriving DecidableEq, Repr

namespace OutputFormat

def all : List OutputFormat := [simple, json, lsp]

def name : OutputFormat → String
  | simple => "simple"
  | json => "json"
  | lsp => "lsp"

def ofName? (s : String) : Option OutputFormat := all.find? (·.name == s)

end OutputFormat

structure Settings where
  serverName : String
  languageId : String
  format : OutputFormat
  filter : String
  deriving DecidableEq, Repr

namespace Settings

/-- Where in the sections a fault is: a name after a point, or a place in brackets. -/
inductive FaultPlace where
  | entry (sectionName name : String)
  | place (sectionName : String) (index : Nat)
  deriving DecidableEq, Repr

def FaultPlace.text : FaultPlace → String
  | .entry sectionName name => sectionName ++ "." ++ name
  | .place sectionName index => sectionName ++ "[" ++ toString index ++ "]"

/-- A section: its name in a file, its name in messages, and its settings. -/
structure Section where
  name : String
  typeName : String
  fields : List String
  deriving DecidableEq, Repr

def Section.lsp : Section := ⟨"lsp", "LspConfig", ["server_name", "language_id"]⟩

def Section.cli : Section := ⟨"cli", "CliConfig", ["format"]⟩

def Section.logging : Section := ⟨"logging", "LoggingConfig", ["filter"]⟩

/-- Why a merged value has no settings. -/
inductive SchemaError where
  | missing (name : String)
  | notText (shape : String) (place : FaultPlace) (origin : Origin)
  | unknownFormat (name : String)
  | formatShape
  | sectionShape (shape : String) (of : Section)
  | tooShort (length : Nat) (of : Section)
  deriving DecidableEq, Repr

def SchemaError.message : SchemaError → String
  | .missing name => "missing field `" ++ name ++ "`"
  | .notText shape place origin =>
    "invalid type: " ++ shape ++ ", expected a string for key `" ++ place.text ++ "`" ++
      (origin.map (" in " ++ ·)).getD ""
  | .unknownFormat name => "enum OutputFormat does not have variant constructor " ++ name
  | .formatShape =>
    "value of enum OutputFormat should be represented by either string or table " ++
      "with exactly one key"
  | .sectionShape shape s =>
    "invalid type: " ++ shape ++ ", expected struct " ++ s.typeName
  | .tooShort length s =>
    let n := s.fields.length
    "invalid length " ++ toString length ++ ", expected struct " ++ s.typeName ++ " with " ++
      toString n ++ (if n = 1 then " element" else " elements")

/-- A scalar that messages describe. -/
def Scalar.shape : Scalar → String
  | .nil => "unit value"
  | .bool b => "boolean `" ++ (if b then "true" else "false") ++ "`"
  | .int n => "integer `" ++ toString n ++ "`"
  | .float x => "floating point `" ++ floatPointedText x ++ "`"
  | .string s => "string " ++ quoted s

/-- The text of a setting. -/
def readText (place : FaultPlace) : Value → Except SchemaError String
  | .scalar origin .nil => .error (.notText "unit value" place origin)
  | .scalar _ (.bool b) => .ok (if b then "true" else "false")
  | .scalar _ (.int n) => .ok (toString n)
  | .scalar _ (.float x) => .ok (floatPlainText x)
  | .scalar _ (.string s) => .ok s
  | .list origin _ => .error (.notText "sequence" place origin)
  | .table origin _ => .error (.notText "map" place origin)

def readFormatName (name : String) : Except SchemaError OutputFormat :=
  match OutputFormat.ofName? (lowercase name) with
  | some format => .ok format
  | none => .error (.unknownFormat name)

def readFormat : Value → Except SchemaError OutputFormat
  | .scalar _ (.string s) => readFormatName s
  | .table _ [(name, _)] => readFormatName name
  | _ => .error .formatShape

/-- The settings of a section, each with its place. -/
def readSection (s : Section) : Value → Except SchemaError (List (FaultPlace × Value))
  | .table _ entries =>
    s.fields.mapM fun field =>
      match Value.find? field entries with
      | some v => .ok (.entry s.name field, v)
      | none => .error (.missing field)
  | .list _ items =>
    .ok ((items.take s.fields.length).zipIdx.map fun (v, i) => (.place s.name i, v))
  | .scalar _ x => .error (.sectionShape x.shape s)

/-- The section of a merged value. -/
def sectionOf (root : Value) (s : Section) : Except SchemaError (List (FaultPlace × Value)) :=
  match Value.find? s.name root.asTable.2 with
  | some v => readSection s v
  | none => .error (.missing s.name)

/-- The setting at a position of a section. -/
def readField (s : Section) (values : List (FaultPlace × Value)) (index : Nat)
    (read : FaultPlace → Value → Except SchemaError α) : Except SchemaError α :=
  match values[index]? with
  | some (place, v) => read place v
  | none => .error (.tooShort index s)

/-- Read all settings off a merged value. -/
def ofValue (root : Value) : Except SchemaError Settings := do
  let lsp ← sectionOf root .lsp
  let serverName ← readField .lsp lsp 0 readText
  let languageId ← readField .lsp lsp 1 readText
  let cli ← sectionOf root .cli
  let format ← readField .cli cli 0 fun _ => readFormat
  let logging ← sectionOf root .logging
  let filter ← readField .logging logging 0 readText
  return ⟨serverName, languageId, format, filter⟩

end Settings

end CwebHighlight
