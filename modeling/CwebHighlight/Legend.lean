import CwebHighlight.Table
import CwebHighlight.Token

/-!
# Legends

A legend is the pair of ordered name lists that an editor gets at the start of a session. On the
wire a token's kind is an index into the first list and its modifiers are bits at indices of the
second, so a legend also keeps, for each list, a table from names to indices.

**Repeated names.** A name that occurs more than once keeps its first index.
-/

namespace CwebHighlight

/-- The index of each name, the first one if the name is repeated. -/
def indexNames (names : List String) : Table String UInt32 :=
  names.zipIdx.foldl (fun t e => t.insertIfNew e.1 (UInt32.ofNat e.2)) .empty

/-- Ordered names of kinds and modifiers with their lookup tables. -/
structure Legend where
  kinds : List String
  modifiers : List String
  kindTable : Table String UInt32
  modifierTable : Table String UInt32

namespace Legend

def ofNames (kinds modifiers : List String) : Legend :=
  ⟨kinds, modifiers, indexNames kinds, indexNames modifiers⟩

/-- The legend of all kinds and modifiers. -/
def standard : Legend := ofNames (TokenKind.all.map (·.name)) (Modifier.all.map (·.name))

def kindIndex? (l : Legend) (name : String) : Option UInt32 := l.kindTable.find? name

def modifierIndex? (l : Legend) (name : String) : Option UInt32 := l.modifierTable.find? name

/-- Legends are equal when both lists and both tables are. -/
instance : BEq Legend where
  beq a b :=
    a.kinds == b.kinds && a.modifiers == b.modifiers &&
      a.kindTable.agrees b.kindTable && a.modifierTable.agrees b.modifierTable

/-! ## Publishing -/

/-- The name lists an editor is given, by which it reads indices and bits. -/
structure Published where
  kinds : List String
  modifiers : List String
  deriving DecidableEq, Repr

def published (l : Legend) : Published := ⟨l.kinds, l.modifiers⟩

end Legend

end CwebHighlight
