import CwebHighlight.Delta
import CwebHighlight.Json.Printer

/-!
# Tokens and legends as text

Three formats for a token list, and one for a legend.

- `simple`: a line per token, `line:start+length kind`, with the modifiers in brackets if there
  are any.
- `json`: an indented array of objects, whose fields are in the order of `Token`.
- `lsp`: the relative words that an editor gets, in one flat array.

The text of a legend lists the names with their indices, and each modifier with its bit. It fails
as soon as a modifier has no bit.
-/

namespace CwebHighlight

namespace Token

def simpleText (t : Token) : String :=
  toString t.line.toNat ++ ":" ++ toString t.start.toNat ++ "+" ++ toString t.length.toNat ++
    " " ++ t.kind.name ++
    if t.modifiers.isEmpty then "" else "[" ++ ",".intercalate (t.modifiers.map (·.name)) ++ "]"

def toJson (t : Token) : Json :=
  .object [("line", .ofWord t.line), ("start", .ofWord t.start), ("length", .ofWord t.length),
    ("type", .string t.kind.name),
    ("modifiers", .array (t.modifiers.map fun m => .string m.name))]

end Token

def renderSimple (tokens : List Token) : String :=
  String.join (tokens.map (·.simpleText ++ "\n"))

def renderJson (tokens : List Token) : String := (Json.array (tokens.map (·.toJson))).indented

/-- The words of a relative token list, five a token. -/
def flatWords (data : List DeltaToken) : List UInt32 := data.flatMap (·.words)

def renderLsp (l : Legend) (tokens : List Token) : Except WireError String := do
  let data ← l.wire tokens
  return (Json.object [("data", .array ((flatWords data).map .ofWord))]).compact

namespace Legend

/-- An index right-aligned in two columns, and the name. -/
def entryText (index : Nat) (name : String) : String :=
  let digits := toString index
  (if digits.length < 2 then "   " else "  ") ++ digits ++ "  " ++ name

def kindEntries (l : Legend) : List String :=
  l.kinds.zipIdx.map fun (name, i) => entryText i name

def modifierEntries (l : Legend) : Except EncodeError (List String) :=
  l.modifiers.zipIdx.mapM fun (name, i) => do
    let bit ← bit i
    return entryText i name ++ " (bit 0x" ++ hexText 1 bit.toNat ++ ")"

def render (l : Legend) : Except EncodeError String := do
  let modifierEntries ← l.modifierEntries
  return "Token types:\n" ++ String.join (l.kindEntries.map (· ++ "\n")) ++
    "\nToken modifiers:\n" ++ String.join (modifierEntries.map (· ++ "\n"))

end Legend

end CwebHighlight
