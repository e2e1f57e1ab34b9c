import CwebHighlight.Text.Digits
import CwebHighlight.Text.Reader

/-!
# Key paths

Where a setting stands: a name, and then any number of names after a point and list places in
brackets, as in `lsp.server_name` or `names[2]`. A negative place counts from the end of the list.

**Faults.** A path must begin with a name. Where a path goes on wrongly, the fault is the one of
the bracketed place: the opening bracket is missing, or its number, or its closing bracket.
-/

namespace CwebHighlight.Settings

/-- One step into a value: an entry of a table, or a place in a list. -/
inductive PathStep where
  | name (name : String)
  | place (index : Int)
  deriving DecidableEq, Repr

/-- The steps from the root to a setting, of which the first is a name. -/
structure KeyPath where
  root : String
  steps : List PathStep
  deriving DecidableEq, Repr

inductive KeyPathFault where
  | noName
  | badCharacter
  | noNumber
  | numberTooLarge
  deriving DecidableEq, Repr

def KeyPathFault.message : KeyPathFault → String
  | .noName => "IsA"
  | .badCharacter => "Char"
  | .noNumber => "Digit"
  | .numberTooLarge => "Map on Result"

namespace KeyPath

def isNameChar (c : Char) : Bool := c.isAlphanum || c = '_' || c = '-' || c = ' '

def isBlank (c : Char) : Bool := c = ' ' || c = '\t'

/-- A place in brackets, and what follows it. -/
def parsePlace (cs : List Char) : Except KeyPathFault (PathStep × List Char) :=
  match cs with
  | '[' :: rest =>
    let rest := rest.dropWhile isBlank
    let (negative, rest) := match rest with
      | '-' :: rest => (true, rest)
      | _ => (false, rest)
    let digits := rest.takeWhile isDecimalDigit
    let n : Int := numberOfDigits 10 digits
    let index := if negative then -n else n
    if digits.isEmpty then .error .noNumber
    else if -0x8000000000000000 ≤ index ∧ index < 0x8000000000000000 then
      match (rest.drop digits.length).dropWhile isBlank with
      | ']' :: rest => .ok (.place index, rest)
      | _ => .error .badCharacter
    else .error .numberTooLarge
  | _ => .error .badCharacter

/-- A point and a name, and what follows them. -/
def parseName? (cs : List Char) : Option (PathStep × List Char) :=
  match cs with
  | '.' :: rest =>
    let name := rest.takeWhile isNameChar
    if name.isEmpty then none else some (.name (String.ofList name), rest.drop name.length)
  | _ => none

/-- The steps after the first name. Every step takes at least one character. -/
def parseSteps (cs : List Char) : Except KeyPathFault (List PathStep) :=
  if cs.isEmpty then .ok []
  else do
    let (step, rest) ← match parseName? cs with
      | some r => pure r
      | none => parsePlace cs
    if rest.length < cs.length then return step :: (← parseSteps rest)
    else throw .badCharacter
termination_by cs.length

def parse (text : String) : Except KeyPathFault KeyPath := do
  let name := text.toList.takeWhile isNameChar
  if name.isEmpty then throw .noName
  return ⟨String.ofList name, ← parseSteps (text.toList.drop name.length)⟩

end KeyPath

end CwebHighlight.Settings
