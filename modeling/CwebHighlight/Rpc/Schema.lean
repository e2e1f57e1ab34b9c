import CwebHighlight.Json.Printer
import CwebHighlight.Text.Quoted
import CwebHighlight.Uri

/-!
# Schemas of parameters

A schema says what a part of the parameters of a message must look like. `Schema.read` gives a
value back in one canonical form, in which every record is an object with just its own fields, or
the first fault.

**Records** are written as objects, in which other fields do no harm, or as lists of their fields
in order. Of the faults in an object, those of a field that is there come first, in the order of
the names; then the fields that are missing, in the order of the record.

**Composed records** have parts, whose fields stand among their own. They are always objects. The
own fields are read first, then the parts in turn, and last the fields that belong to neither.
-/

namespace CwebHighlight.Rpc

/-! ## Faults -/

/-- A value as faults describe it. -/
def shapeOf : Json → String
  | .null => "null"
  | .bool b => "boolean `" ++ (if b then "true" else "false") ++ "`"
  | .int n => "integer `" ++ toString n ++ "`"
  | .float x => "floating point `" ++ Json.floatText x ++ "`"
  | .string s => "string " ++ quoted s
  | .array _ => "sequence"
  | .object _ => "map"

/-- What is wrong with some parameters. -/
inductive Fault where
  | shape (found expected : String)
  | value (found expected : String)
  | missing (name : String)
  | tooShort (length : Nat) (typeName : String) (fields : Nat)
  | tooLong (length : Nat)
  | surplus (length expected : Nat)
  | noCase (typeName : String)
  | unknownName (name : String) (names : List String)
  | address (e : UriError) (text : String)
  deriving DecidableEq, Repr

/-- A count of elements. -/
def elementsText (n : Nat) : String := toString n ++ (if n = 1 then " element" else " elements")

/-- The names that would have been right. -/
def namesText (names : List String) : String :=
  let ticked := names.map fun n => "`" ++ n ++ "`"
  if names.length ≤ 2 then " or ".intercalate ticked else "one of " ++ ", ".intercalate ticked

def Fault.message : Fault → String
  | shape found expected => "invalid type: " ++ found ++ ", expected " ++ expected
  | value found expected => "invalid value: " ++ found ++ ", expected " ++ expected
  | missing name => "missing field `" ++ name ++ "`"
  | tooShort length typeName fields =>
    "invalid length " ++ toString length ++ ", expected struct " ++ typeName ++ " with " ++
      elementsText fields
  | tooLong length => "invalid length " ++ toString length ++ ", expected fewer elements in array"
  | surplus length expected =>
    "invalid length " ++ toString length ++ ", expected " ++ elementsText expected ++
      " in sequence"
  | noCase typeName => "data did not match any variant of untagged enum " ++ typeName
  | unknownName name names => "unknown variant `" ++ name ++ "`, expected " ++ namesText names
  | address e text => e.message ++ ": " ++ quoted text

def mismatch (v : Json) (expected : String) : Fault := .shape (shapeOf v) expected

/-! ## Single values -/

def readFlag (v : Json) : Except Fault Bool :=
  match v with
  | .bool b => .ok b
  | _ => .error (mismatch v "a boolean")

def readText (v : Json) : Except Fault String :=
  match v with
  | .string s => .ok s
  | _ => .error (mismatch v "a string")

def readAddress (v : Json) : Except Fault Uri :=
  match v with
  | .string s => (Uri.parse s).mapError (.address · s)
  | _ => .error (mismatch v "a string representing an URL")

/-- An integer from `low` up to but not including `high`. -/
def readInteger (typeName : String) (low high : Int) (v : Json) : Except Fault Int :=
  match v with
  | .int n => if low ≤ n ∧ n < high then .ok n else .error (.value (shapeOf v) typeName)
  | _ => .error (mismatch v typeName)

def readNumber (v : Json) : Except Fault Unit :=
  match v with
  | .int _ | .float _ => .ok ()
  | _ => .error (mismatch v "f32")

/-- One of some names; an object with the name as its only field and nothing in it will do. -/
def readName (names : List String) (v : Json) : Except Fault String :=
  let known (name : String) : Except Fault String :=
    if name ∈ names then .ok name else .error (.unknownName name names)
  match v with
  | .string name => known name
  | .object [(name, content)] => do
    let name ← known name
    match content with
    | .null => return name
    | _ => throw (mismatch content "unit")
  | .object _ => .error (.value "map" "map with a single key")
  | _ => .error (mismatch v "string or map")

/-! ## Schemas -/

inductive Schema where
  | any
  | flag
  | text
  | address
  | word32
  | int32
  | number
  | choice (names : List String)
  | optional (s : Schema)
  | defaulted (s : Schema)
  | flagOr (s : Schema)
  | list (s : Schema)
  | oneOf (typeName : String) (cases : List Schema)
  | record (typeName : String) (fields : List (String × Schema))
  | composed (typeName : String) (fields : List (String × Schema))
      (parts : List (List (String × Schema))) (others : Schema)

/-- A field of a record as far as it has been read. -/
structure FieldReading where
  name : String
  mayBeMissing : Bool
  outcome : Option (Except Fault Json)

namespace FieldReading

def fault? (r : FieldReading) : Option (String × Fault) :=
  match r.outcome with
  | some (.error e) => some (r.name, e)
  | _ => none

def value? (r : FieldReading) : Option (String × Json) :=
  match r.outcome with
  | some (.ok v) => some (r.name, v)
  | _ => none

/-- The fields of a record, or the fault that is reported. -/
def settle (readings : List FieldReading) : Except Fault (List (String × Json)) :=
  let faults := (readings.filterMap fault?).mergeSort fun a b => decide (a.1 ≤ b.1)
  match faults.head? with
  | some (_, e) => .error e
  | none =>
    match readings.find? fun r => r.outcome.isNone && !r.mayBeMissing with
    | some r => .error (.missing r.name)
    | none => .ok (readings.filterMap value?)

end FieldReading

namespace Schema

/-- A field of this schema need not be there. -/
def mayBeMissing : Schema → Bool
  | optional _ | defaulted _ => true
  | _ => false

/-- A place of this schema need not be there in a list of fields. -/
def isDefaulted : Schema → Bool
  | defaulted _ => true
  | _ => false

/-- The fault of a list with more items than the record has fields. What stands in a part of a
composed record is `nested`, and its fault names the number of fields. -/
def surplusFault (nested : Bool) (items fields : Nat) : Fault :=
  if nested then .surplus items fields else .tooLong items

mutual

def read (nested : Bool) : Schema → Json → Except Fault Json
  | any, v => .ok v
  | flag, v => do let _ ← readFlag v; return v
  | text, v => do let _ ← readText v; return v
  | address, v => do let _ ← readAddress v; return v
  | word32, v => do let _ ← readInteger "u32" 0 0x100000000 v; return v
  | int32, v => do let _ ← readInteger "i32" (-0x80000000) 0x80000000 v; return v
  | number, v => do let _ ← readNumber v; return v
  | choice names, v => do let s ← readName names v; return .string s
  | optional s, v =>
    match v with
    | .null => .ok .null
    | _ => s.read nested v
  | defaulted s, v => s.read nested v
  | flagOr s, v =>
    match v with
    | .bool _ => .ok v
    | _ => s.read nested v
  | list s, v =>
    match v with
    | .array items => do return .array (← items.mapM fun item => s.read nested item)
    | _ => .error (mismatch v "a sequence")
  | oneOf typeName cases, v => (readCase cases v).elim (.error (.noCase typeName)) .ok
  | record typeName fields, v =>
    match v with
    | .object _ => do return .object (← FieldReading.settle (readFields nested fields v))
    | .array items => do
      let places ← readPlaces nested typeName fields.length items.length 0 fields items
      return .object places
    | _ => .error (mismatch v ("struct " ++ typeName))
  | composed typeName fields parts others, v =>
    match v with
    | .object present => do
      let own ← FieldReading.settle (readFields nested fields v)
      let parted ← readParts parts v
      let names := fields.map (·.1) ++ parts.flatMap fun p => p.map (·.1)
      let rest := present.filter fun f => f.1 ∉ names
      let _ ← rest.mapM fun f => others.read true f.2
      return .object (own ++ parted)
    | _ => .error (mismatch v ("struct " ++ typeName))

/-- A value by the first schema that it fits. -/
def readCase : List Schema → Json → Option Json
  | [], _ => none
  | s :: rest, v =>
    match s.read true v with
    | .ok w => some w
    | .error _ => readCase rest v

/-- The fields of a record in an object. -/
def readFields (nested : Bool) : List (String × Schema) → Json → List FieldReading
  | [], _ => []
  | (name, s) :: rest, v =>
    ⟨name, s.mayBeMissing, (v.field? name).map fun w => s.read nested w⟩ ::
      readFields nested rest v

/-- The parts of a composed record, one after the other. -/
def readParts : List (List (String × Schema)) → Json → Except Fault (List (String × Json))
  | [], _ => .ok []
  | part :: rest, v => do
    let fields ← FieldReading.settle (readFields true part v)
    return fields ++ (← readParts rest v)

/-- The fields of a record in a list, from field `i` on. -/
def readPlaces (nested : Bool) (typeName : String) (fields items i : Nat) :
    List (String × Schema) → List Json → Except Fault (List (String × Json))
  | [], [] => .ok []
  | [], _ :: _ => .error (surplusFault nested items fields)
  | (name, s) :: rest, vs =>
    match vs with
    | v :: vs => do
      let w ← s.read nested v
      return (name, w) :: (← readPlaces nested typeName fields items (i + 1) rest vs)
    | [] =>
      if s.isDefaulted then readPlaces nested typeName fields items (i + 1) rest []
      else .error (.tooShort i typeName fields)

end

end Schema

end CwebHighlight.Rpc
