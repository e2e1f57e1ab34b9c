import CwebHighlight.Toml.Grammar

/-!
# TOML documents

A document is the table that its statements make. Pairs go to the table opened by the last
header, or to the root before the first one. A table that a header opens is put in its place when
the next header comes or the document ends; until then the entries that longer headers have
already given it are with it.
-/

namespace CwebHighlight.Toml

/-- Where the open table goes when it is complete. -/
inductive Destination where
  | root
  | table (path : KeyPath)
  | element (path : KeyPath)
  deriving DecidableEq, Repr

/-- A document under construction: what is complete, and the open table. -/
structure DocumentDraft where
  root : Draft
  destination : Destination
  current : Draft

namespace DocumentDraft

def empty : DocumentDraft := ⟨.empty, .root, .empty⟩

/-- Append an element to the array of tables of a name. -/
def appendElement (name : String) (element t : Draft) : Option Draft :=
  match t.find? name with
  | none => some (t.set name (.elements [] element.entries))
  | some (.elements earlier last) =>
    some (t.set name (.elements (earlier ++ [last]) element.entries))
  | some _ => none

/-- Put a complete table in the place of a name that has none. -/
def placeTable (name : String) (table t : Draft) : Option Draft :=
  match t.find? name with
  | none => some (t.set name table.node)
  | some _ => none

/-- Put the open table in its place. -/
def close (d : DocumentDraft) : Option Draft :=
  match d.destination with
  | .root => some d.current
  | .table path => d.root.alter false (placeTable path.name d.current) path.tables
  | .element path => d.root.alter false (appendElement path.name d.current) path.tables

/-- Open a table: a new one, or one that longer headers have implied. -/
def openTable (root : Draft) (path : KeyPath) : Option DocumentDraft := do
  let parent ← root.alter false some path.tables
  match (← lookup parent).find? path.name with
  | none => return ⟨parent, .table path, .empty⟩
  | some (.table .implied entries) =>
    let root ← parent.alter false (fun t => some (t.erase path.name)) path.tables
    return ⟨root, .table path, ⟨.header, entries⟩⟩
  | some _ => none
where
  /-- The table that the path leads to. -/
  lookup (root : Draft) : Option Draft := descend root path.tables
  descend (d : Draft) : List String → Option Draft
    | [] => some d
    | name :: rest =>
      match d.find? name with
      | some (.table origin entries) => descend ⟨origin, entries⟩ rest
      | some (.elements _ last) => descend ⟨.header, last⟩ rest
      | _ => none

/-- Open an element, whose name must be free or belong to an array of tables. -/
def openElement (root : Draft) (path : KeyPath) : Option DocumentDraft := do
  let checked ← root.alter false (fun t =>
    match t.find? path.name with
    | none | some (.elements _ _) => some t
    | some _ => none) path.tables
  return ⟨checked, .element path, .empty⟩

def step (d : DocumentDraft) : Statement → Option DocumentDraft
  | .pair key v => do return { d with current := ← d.current.putPair key v }
  | .header path => do openTable (← d.close) path
  | .element path => do openElement (← d.close) path

end DocumentDraft

/-- The entries of the document that a text writes, or nothing if it is malformed. -/
def parse? (text : List Char) : Option (List (String × Value)) := do
  let statements ← Reader.run? statements text
  let d ← statements.foldlM DocumentDraft.step .empty
  return entriesValue (← d.close).entries

end CwebHighlight.Toml
