import CwebHighlight.Decimal.Text
import CwebHighlight.Json

/-!
# Writing JSON

Two forms: compact, without any space, and indented, with one item a line and two spaces a level.
Strings escape the quote, the backslash and control characters, and nothing else; a number that
is not finite is written as null.
-/

namespace CwebHighlight

namespace Json

/-- A character inside quotes. -/
def escapeChar (c : Char) : String :=
  match c with
  | '"' => "\\\""
  | '\\' => "\\\\"
  | '\n' => "\\n"
  | '\r' => "\\r"
  | '\t' => "\\t"
  | '\x08' => "\\b"
  | '\x0c' => "\\f"
  | _ => if c.val < 0x20 then "\\u" ++ hexText 4 c.toNat else c.toString

def quote (s : String) : String := "\"" ++ String.join (s.toList.map escapeChar) ++ "\""

def floatText (x : Float) : String :=
  ((FloatView.ofBits x.toBits).decimal?.map (·.compactText)).getD "null"

/-- The text of a value that has no parts. -/
def leafText : Json → String
  | .null => "null"
  | .bool b => if b then "true" else "false"
  | .int n => toString n
  | .float x => floatText x
  | .string s => quote s
  | .array _ => "[]"
  | .object _ => "\x7b\x7d"

mutual

/-- The form without spaces. -/
def compact : Json → String
  | .array items => "[" ++ ",".intercalate (compactItems items) ++ "]"
  | .object fields => "\x7b" ++ ",".intercalate (compactFields fields) ++ "\x7d"
  | v => v.leafText

def compactItems : List Json → List String
  | [] => []
  | v :: rest => v.compact :: compactItems rest

def compactFields : List (String × Json) → List String
  | [] => []
  | (name, v) :: rest => (quote name ++ ":" ++ v.compact) :: compactFields rest

end

/-- A line break and the indentation of a level. -/
def newline (level : Nat) : String := "\n" ++ String.ofList (List.replicate (2 * level) ' ')

/-- Items between brackets, one a line; brackets without items are closed at once. -/
def indentedBlock (opening closing : String) (level : Nat) (items : List String) : String :=
  if items.isEmpty then opening ++ closing
  else opening ++ newline (level + 1) ++ ("," ++ newline (level + 1)).intercalate items ++
    newline level ++ closing

mutual

/-- The form with one item a line, inside the given level. -/
def indentedAt (level : Nat) : Json → String
  | .array items => indentedBlock "[" "]" level (indentedItems (level + 1) items)
  | .object fields => indentedBlock "\x7b" "\x7d" level (indentedFields (level + 1) fields)
  | v => v.leafText

def indentedItems (level : Nat) : List Json → List String
  | [] => []
  | v :: rest => v.indentedAt level :: indentedItems level rest

def indentedFields (level : Nat) : List (String × Json) → List String
  | [] => []
  | (name, v) :: rest => (quote name ++ ": " ++ v.indentedAt level) :: indentedFields level rest

end

def indented (v : Json) : String := v.indentedAt 0

end Json

end CwebHighlight
