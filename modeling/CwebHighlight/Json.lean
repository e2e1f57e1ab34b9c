/-!
# JSON values

Numbers are integers or floating point, as they were written: an integer keeps all its digits.
The fields of an object are in order; `Json.ofFields` sorts them by name and lets the last of two
fields of one name win.
-/

namespace CwebHighlight

inductive Json where
  | null
  | bool (b : Bool)
  | int (n : Int)
  | float (x : Float)
  | string (s : String)
  | array (items : List Json)
  | object (fields : List (String × Json))
  deriving Inhabited

namespace Json

/-- Put a field into sorted fields. -/
def insertField (fields : List (String × Json)) (name : String) (value : Json) :
    List (String × Json) :=
  match fields with
  | [] => [(name, value)]
  | f :: rest =>
    if name < f.1 then (name, value) :: f :: rest
    else if name = f.1 then (name, value) :: rest
    else f :: insertField rest name value

def ofFields (fields : List (String × Json)) : Json :=
  .object (fields.foldl (fun acc f => insertField acc f.1 f.2) [])

def field? (name : String) : Json → Option Json
  | .object fields => (fields.find? (·.1 == name)).map (·.2)
  | _ => none

def asString? : Json → Option String
  | .string s => some s
  | _ => none

def asInt? : Json → Option Int
  | .int n => some n
  | _ => none

/-- A natural number in 32 bits. -/
def asWord? : Json → Option UInt32
  | .int n => if 0 ≤ n ∧ n < 0x100000000 then some (UInt32.ofNat n.toNat) else none
  | _ => none

def asNat? : Json → Option Nat
  | .int n => if 0 ≤ n then some n.toNat else none
  | _ => none

def asBool? : Json → Option Bool
  | .bool b => some b
  | _ => none

def asArray? : Json → Option (List Json)
  | .array items => some items
  | _ => none

def ofWord (n : UInt32) : Json := .int n.toNat

end Json

end CwebHighlight
