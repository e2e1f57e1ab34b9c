import CwebHighlight.Decimal.Text
import CwebHighlight.Json
import CwebHighlight.Toml.Value

/-!
# Setting values

What configuration layers are made of, and what they are merged into. A value knows the file it
comes from, which messages name; a value given on its own, or made while merging, has none. The
origin of a table or list is that of the bracket itself, not of what is inside.
-/

namespace CwebHighlight.Settings

/-- The file a value comes from. -/
abbrev Origin := Option String

inductive Scalar where
  | nil
  | bool (b : Bool)
  | int (n : Int)
  | float (x : Float)
  | string (s : String)

inductive Value where
  | scalar (origin : Origin) (s : Scalar)
  | list (origin : Origin) (items : List Value)
  | table (origin : Origin) (entries : List (String × Value))

namespace Value

/-- The filler of list places that nothing has been put in. -/
def nil : Value := .scalar none .nil

/-- A table made while merging. -/
def freshTable : Value := .table none []

/-! ## Reading values -/

mutual

/-- A value of a TOML file. -/
def ofToml (origin : Origin) : Toml.Value → Value
  | .string s => .scalar origin (.string s)
  | .integer n => .scalar origin (.int n)
  | .float x => .scalar origin (.float x)
  | .boolean b => .scalar origin (.bool b)
  | .datetime text => .scalar origin (.string text)
  | .array items => .list origin (ofTomlItems origin items)
  | .table entries => .table origin (ofTomlEntries origin entries)

def ofTomlItems (origin : Origin) : List Toml.Value → List Value
  | [] => []
  | v :: rest => ofToml origin v :: ofTomlItems origin rest

def ofTomlEntries (origin : Origin) : List (String × Toml.Value) → List (String × Value)
  | [] => []
  | (name, v) :: rest => (name, ofToml origin v) :: ofTomlEntries origin rest

end

/-- An integer in 64 bits, or else the nearest floating point number. -/
def ofInt (n : Int) : Scalar :=
  if -0x8000000000000000 ≤ n ∧ n < 0x8000000000000000 then .int n
  else .float (floatOfDecimal (n < 0) n.natAbs 0)

mutual

/-- A value given on its own. -/
def ofJson : Json → Value
  | .null => nil
  | .bool b => .scalar none (.bool b)
  | .int n => .scalar none (ofInt n)
  | .float x => .scalar none (.float x)
  | .string s => .scalar none (.string s)
  | .array items => .list none (ofJsonItems items)
  | .object fields => .table none (ofJsonFields fields)

def ofJsonItems : List Json → List Value
  | [] => []
  | v :: rest => ofJson v :: ofJsonItems rest

def ofJsonFields : List (String × Json) → List (String × Value)
  | [] => []
  | (name, v) :: rest => (name, ofJson v) :: ofJsonFields rest

end

end Value

end CwebHighlight.Settings
