import CwebHighlight.Toml.Value

/-!
# Tables under construction

The statements of a document build tables step by step, and where a table comes from decides who
may add to it:

- a table with a *header* is complete when its statements end;
- a table *implied* by a longer header may still get a header of its own;
- a table made by a *dotted* key gets entries by dotted keys and by longer headers, but no header.

An array of tables stands for its last element wherever a key goes through it.
-/

namespace CwebHighlight.Toml

/-- A key of a document: the tables it goes through, and the name in the last of them. -/
structure KeyPath where
  tables : List String
  name : String
  deriving DecidableEq, Repr

def KeyPath.ofParts? (first : String) (others : List String) : Option KeyPath :=
  (first :: others).getLast?.map fun name => ⟨(first :: others).dropLast, name⟩

inductive Statement where
  | pair (key : KeyPath) (value : Value)
  | header (path : KeyPath)
  | element (path : KeyPath)

/-- Where a table comes from. -/
inductive TableOrigin where
  | header
  | implied
  | dotted
  deriving DecidableEq, Repr

/-- A node of a document under construction. -/
inductive Node where
  | value (v : Value)
  | table (origin : TableOrigin) (entries : List (String × Node))
  | elements (earlier : List (List (String × Node))) (last : List (String × Node))

/-- A table under construction. -/
structure Draft where
  origin : TableOrigin
  entries : List (String × Node)

namespace Draft

def empty : Draft := ⟨.header, []⟩

def find? (d : Draft) (name : String) : Option Node := (d.entries.find? (·.1 == name)).map (·.2)

/-- Put a node in the place of the one of the same name, or at the end. -/
def set (d : Draft) (name : String) (node : Node) : Draft :=
  if (d.find? name).isSome then
    { d with entries := d.entries.map fun e => if e.1 = name then (name, node) else e }
  else { d with entries := d.entries ++ [(name, node)] }

def erase (d : Draft) (name : String) : Draft :=
  { d with entries := d.entries.filter (·.1 ≠ name) }

def node (d : Draft) : Node := .table d.origin d.entries

/-- Change the table that a path leads to. Tables on the way that are missing are made: dotted
ones for a dotted key, implied ones for a header. A dotted key does not go through a table that
has a header. -/
def alter (dotted : Bool) (change : Draft → Option Draft) : List String → Draft → Option Draft
  | [], d => change d
  | name :: path, d =>
    match d.find? name with
    | none => do
      let made : Draft := ⟨if dotted then .dotted else .implied, []⟩
      return d.set name (← alter dotted change path made).node
    | some (.value _) => none
    | some (.table origin entries) =>
      if dotted && origin = .header then none
      else do return d.set name (← alter dotted change path ⟨origin, entries⟩).node
    | some (.elements earlier last) => do
      return d.set name (.elements earlier (← alter dotted change path ⟨.header, last⟩).entries)

/-- Add a pair, whose name must be new. A dotted key must end in a table made by dotted keys. -/
def putPair (d : Draft) (key : KeyPath) (v : Value) : Option Draft :=
  alter true (fun t =>
    if key.tables ≠ [] && t.origin ≠ .dotted then none
    else if (t.find? key.name).isSome then none
    else some (t.set key.name (.value v))) key.tables d

end Draft

/-! ## Finished tables -/

mutual

def Node.toValue : Node → Value
  | .value v => v
  | .table _ entries => .table (entriesValue entries)
  | .elements earlier last => .array (elementsValue earlier ++ [.table (entriesValue last)])

def entriesValue : List (String × Node) → List (String × Value)
  | [] => []
  | (name, node) :: rest => (name, node.toValue) :: entriesValue rest

def elementsValue : List (List (String × Node)) → List Value
  | [] => []
  | entries :: rest => .table (entriesValue entries) :: elementsValue rest

end

/-- The value of an inline table, unless a name is given twice. -/
def inlineTable? (pairs : List (KeyPath × Value)) : Option Value := do
  let d ← pairs.foldlM (fun d (key, v) => d.putPair key v) Draft.empty
  return d.node.toValue

end CwebHighlight.Toml
