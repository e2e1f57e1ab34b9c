import CwebHighlight.Rpc.Schema.Request

/-!
# Parameters of messages

What the methods of the server take, read off the parameters of a message: first by the schema of
the method, and then field by field from the canonical form.
-/

namespace CwebHighlight.Rpc

/-- A part of some parameters, or what is wrong with it. -/
abbrev Decoder (α : Type) := Json → Except Fault α

/-- The content of a field; a missing field has none. -/
def fieldOf (name : String) (v : Json) : Json := (v.field? name).getD .null

/-- The items of a list; anything else has none. -/
def itemsOf (v : Json) : List Json := v.asArray?.getD []

/-- A document that an editor opens: its address, language and text. -/
structure OpenedDocument where
  uri : Uri
  languageId : String
  text : List Char
  deriving DecidableEq, Repr

def textField (name : String) (v : Json) : Except Fault (List Char) := do
  return (← readText (fieldOf name v)).toList

def addressField (v : Json) : Except Fault Uri := readAddress (fieldOf "uri" v)

/-! ## Parameters of the methods -/

/-- Read parameters of which nothing is needed. -/
def check (s : Schema) : Decoder Unit := fun v => do let _ ← s.read false v

def openParams : Decoder OpenedDocument := fun v => do
  let item := fieldOf "textDocument" (← Schema.didOpen.read false v)
  return ⟨← addressField item, ← readText (fieldOf "languageId" item), ← textField "text" item⟩

def changeParams : Decoder (Uri × List (List Char)) := fun v => do
  let params ← Schema.didChange.read false v
  let uri ← addressField (fieldOf "textDocument" params)
  let texts ← (itemsOf (fieldOf "contentChanges" params)).mapM (textField "text")
  return (uri, texts)

/-- Parameters of a schema that name a document. -/
def documentParams (s : Schema) : Decoder Uri := fun v => do
  addressField (fieldOf "textDocument" (← s.read false v))

/-! ## Presence -/

/-- Read the parameters that a method needs. -/
def needParams (decode : Decoder α) : Option Json → Except String α
  | some v => (decode v).mapError Fault.message
  | none => .error "Missing params field"

/-- Check that a method without parameters gets none. -/
def refuseParams : Option Json → Except String Unit
  | some v => .error ("Unexpected params: " ++ v.compact)
  | none => .ok ()

end CwebHighlight.Rpc
