import CwebHighlight.Settings.KeyPath
import CwebHighlight.Settings.Value
import CwebHighlight.Text.Lowercase

/-!
# Merging

Values are put into a tree of tables and lists, which grows as needed. Names of table entries
ignore case: they are kept in lower case.

**Tables.** A table that is put in place is merged entry by entry into what is there. A table that
holds nothing changes nothing, except that it makes an entry where there is none. Anything that
has to become a table is replaced by a fresh one. Any other value replaces what is there.

**Lists.** A place in a list is set as it is. What has to become a list is replaced by an empty
one, and places up to the one that is set are filled with nil.
-/

namespace CwebHighlight.Settings

/-- A place before the beginning of a list. -/
structure PlaceUnderflow where
  deriving DecidableEq, Repr

def PlaceUnderflow.message : String := "attempt to subtract with overflow"

namespace Value

/-- The entries of a value as a table, and its origin: those of a fresh table if it is none. -/
def asTable : Value → Origin × List (String × Value)
  | .table origin entries => (origin, entries)
  | _ => (none, [])

def asList : Value → Origin × List Value
  | .list origin items => (origin, items)
  | _ => (none, [])

def find? (name : String) (entries : List (String × Value)) : Option Value :=
  (entries.find? (·.1 == name)).map (·.2)

/-- Put a value in the place of the entry of its name, or at the end. -/
def setEntry (name : String) (v : Value) : List (String × Value) → List (String × Value)
  | [] => [(name, v)]
  | e :: rest => if e.1 = name then (name, v) :: rest else e :: setEntry name v rest

mutual

/-- Put a value into a table under a name. -/
def mergeEntry (name : String) (v target : Value) : Value :=
  let (origin, entries) := target.asTable
  let key := lowercase name
  .table origin (match v with
    | .table _ incoming =>
      setEntry key (mergeEntries incoming ((find? key entries).getD freshTable)) entries
    | v => setEntry key v entries)

/-- Put all entries of a table into another value. -/
def mergeEntries (incoming : List (String × Value)) (target : Value) : Value :=
  match incoming with
  | [] => target
  | (name, v) :: rest => mergeEntries rest (mergeEntry name v target)

end

/-- The place in a list of some length that an index means. -/
def listPlace (length : Nat) (index : Int) : Except PlaceUnderflow Nat :=
  if 0 ≤ index then .ok index.toNat
  else if index.natAbs ≤ length then .ok (length - index.natAbs)
  else .error {}

/-- Put a value where the steps lead to. -/
def put : List PathStep → Value → Value → Except PlaceUnderflow Value
  | [], v, _ => .ok v
  | [.name name], v, target => .ok (mergeEntry name v target)
  | .name name :: steps, v, target => do
    let (origin, entries) := target.asTable
    let key := lowercase name
    let inner ← put steps v ((find? key entries).getD nil)
    return .table origin (setEntry key inner entries)
  | .place index :: steps, v, target => do
    let (origin, items) := target.asList
    let i ← listPlace items.length index
    let filled := items ++ List.replicate (i + 1 - items.length) nil
    return .list origin (filled.set i (← put steps v (filled.getD i nil)))

/-- Put a value at a key path. -/
def putAt (path : KeyPath) (v target : Value) : Except PlaceUnderflow Value :=
  put (.name path.root :: path.steps) v target

end Value

end CwebHighlight.Settings
