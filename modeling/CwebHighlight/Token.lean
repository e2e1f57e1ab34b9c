/-!
# Tokens

A token is a classified span of one line: its line, start column and length, the kind that says
how to highlight it, and modifiers that refine the kind. Positions and lengths are 32-bit words,
as they are on the wire.

**Names.** Every kind and modifier has a *name*, by which legends and editors know it, and a
*label*, by which log entries show it.
-/

namespace CwebHighlight

/-! ## Kinds -/

inductive TokenKind where
  | comment
  | enumType
  | enumMember
  | function
  | keyword
  | label
  | macroName
  | number
  | operator
  | parameter
  | property
  | string
  | struct
  | typeName
  | variableName
  deriving DecidableEq, Repr

namespace TokenKind

/-- All kinds, in the order of the standard legend. -/
def all : List TokenKind :=
  [comment, enumType, enumMember, function, keyword, label, macroName, number, operator,
    parameter, property, string, struct, typeName, variableName]

def name : TokenKind → String
  | comment => "comment"
  | enumType => "enum"
  | enumMember => "enumMember"
  | function => "function"
  | keyword => "keyword"
  | label => "label"
  | macroName => "macro"
  | number => "number"
  | operator => "operator"
  | parameter => "parameter"
  | property => "property"
  | string => "string"
  | struct => "struct"
  | typeName => "type"
  | variableName => "variable"

def logLabel : TokenKind → String
  | comment => "Comment"
  | enumType => "Enum"
  | enumMember => "EnumMember"
  | function => "Function"
  | keyword => "Keyword"
  | label => "Label"
  | macroName => "Macro"
  | number => "Number"
  | operator => "Operator"
  | parameter => "Parameter"
  | property => "Property"
  | string => "String"
  | struct => "Struct"
  | typeName => "Type"
  | variableName => "Variable"

def ofName? (s : String) : Option TokenKind := all.find? (·.name == s)

theorem mem_all (k : TokenKind) : k ∈ all := by cases k <;> simp [all]

theorem name_injective {a b : TokenKind} (h : a.name = b.name) : a = b := by
  cases a <;> cases b <;> simp_all [name]

end TokenKind

/-! ## Modifiers -/

inductive Modifier where
  | declaration
  | definition
  | documentation
  | modification
  | readonly
  | static
  deriving DecidableEq, Repr

namespace Modifier

/-- All modifiers, in the order of the standard legend. -/
def all : List Modifier :=
  [declaration, definition, documentation, modification, readonly, static]

def name : Modifier → String
  | declaration => "declaration"
  | definition => "definition"
  | documentation => "documentation"
  | modification => "modification"
  | readonly => "readonly"
  | static => "static"

def logLabel : Modifier → String
  | declaration => "Declaration"
  | definition => "Definition"
  | documentation => "Documentation"
  | modification => "Modification"
  | readonly => "Readonly"
  | static => "Static"

def ofName? (s : String) : Option Modifier := all.find? (·.name == s)

theorem mem_all (m : Modifier) : m ∈ all := by cases m <;> simp [all]

theorem name_injective {a b : Modifier} (h : a.name = b.name) : a = b := by
  cases a <;> cases b <;> simp_all [name]

end Modifier

/-! ## Tokens -/

structure Token where
  line : UInt32
  start : UInt32
  length : UInt32
  kind : TokenKind
  modifiers : List Modifier
  deriving DecidableEq, Repr

namespace Token

/-- Add a modifier at the end, unless the token has it already. -/
def withModifier (t : Token) (m : Modifier) : Token :=
  if m ∈ t.modifiers then t else { t with modifiers := t.modifiers ++ [m] }

/-- A token as log entries show it: every field by name. -/
def logText (t : Token) : String :=
  "Token \x7b line: " ++ toString t.line.toNat ++ ", start: " ++ toString t.start.toNat ++
    ", length: " ++ toString t.length.toNat ++ ", token_type: " ++ t.kind.logLabel ++
    ", modifiers: [" ++ ", ".intercalate (t.modifiers.map (·.logLabel)) ++ "] \x7d"

end Token

end CwebHighlight
