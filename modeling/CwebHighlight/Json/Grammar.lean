import CwebHighlight.Decimal.Text
import CwebHighlight.Json
import CwebHighlight.Text.Reader

/-!
# Reading JSON

The standard grammar. A number without fraction and exponent is an integer if it fits 64 bits,
signed or unsigned, and floating point otherwise; minus zero is floating point. A number too
large for floating point is refused, and so are nesting deeper than 127 levels and surrogates
that do not come in pairs.
-/

namespace CwebHighlight

namespace Json

open Reader

def isSpace (c : Char) : Bool := c = ' ' || c = '\n' || c = '\r' || c = '\t'

def space : Reader Unit := do let _ ← span isSpace

/-- Four hexadecimal digits. -/
def unitEscape : Reader Nat := do
  let a ← satisfy (isDigitOf 16)
  let b ← satisfy (isDigitOf 16)
  let c ← satisfy (isDigitOf 16)
  let d ← satisfy (isDigitOf 16)
  return numberOfDigits 16 [a, b, c, d]

/-- A character written as one UTF-16 unit, or as a pair of surrogates. -/
def unicodeEscape : Reader Char := do
  let high ← unitEscape
  if 0xD800 ≤ high && high < 0xDC00 then
    word ['\\', 'u']
    let low ← unitEscape
    guard (0xDC00 ≤ low && low < 0xE000)
    return Char.ofNat (0x10000 + (high - 0xD800) * 0x400 + (low - 0xDC00))
  else
    guard !(0xDC00 ≤ high && high < 0xE000)
    return Char.ofNat high

/-- What a backslash and the next character stand for. -/
def escape : Reader Char := do
  match ← satisfy fun _ => true with
  | '"' => return '"'
  | '\\' => return '\\'
  | '/' => return '/'
  | 'b' => return '\x08'
  | 'f' => return '\x0c'
  | 'n' => return '\n'
  | 'r' => return '\r'
  | 't' => return '\t'
  | 'u' => unicodeEscape
  | _ => failure

/-- One character of a string. -/
def stringChar : Reader Char := do
  let c ← satisfy fun c => 0x20 ≤ c.val
  if c = '\\' then escape else return c

def stringText : Reader String := do
  char '"'
  let cs ← repeatWhile (!startsWith (· = '"') ·) stringChar
  char '"'
  return String.ofList cs

/-- The value of a number from its parts. -/
def ofNumber? (negative : Bool) (whole fraction : List Char) (exponent : Option Int) :
    Option Json :=
  let n := numberOfDigits 10 whole
  if fraction.isEmpty && exponent.isNone && !(negative && n == 0) &&
      (if negative then n ≤ 0x8000000000000000 else n < 0x10000000000000000) then
    some (.int (if negative then -(n : Int) else n))
  else
    let x := floatOfDecimal negative (numberOfDigits 10 (whole ++ fraction))
      (exponent.getD 0 - fraction.length)
    if x.isFinite then some (.float x) else none

def exponentPart : Reader (Option Int) := do
  if startsWith (fun c => c = 'e' || c = 'E') (← rest) then
    let _ ← satisfy fun _ => true
    let sign ← optional (satisfy fun c => c = '+' || c = '-')
    let digits ← span1 isDecimalDigit
    let n : Int := numberOfDigits 10 digits
    return some (if sign = some '-' then -n else n)
  else return none

def fractionPart : Reader (List Char) := do
  if startsWith (· = '.') (← rest) then
    char '.'
    span1 isDecimalDigit
  else return []

def number : Reader Json := do
  let minus ← optional (char '-')
  let whole ← span1 isDecimalDigit
  guard (whole.length = 1 || whole.head? ≠ some '0')
  let fraction ← fractionPart
  let exponent ← exponentPart
  (ofNumber? minus.isSome whole fraction exponent).elim failure pure

/-- Items between brackets, separated by commas. -/
def bracketed (opening closing : Char) (item : Reader α) : Reader (List α) := do
  char opening
  space
  if startsWith (· = closing) (← rest) then
    char closing
    return []
  else
    let first ← item
    let others ← repeatWhile (startsWith (· = ',')) do
      char ','
      item
    char closing
    return first :: others

/-- A field of an object, whose value is read by `value`. -/
def fieldWith (value : Reader Json) : Reader (String × Json) := do
  space
  let name ← stringText
  space
  char ':'
  return (name, ← value)

/-- A value with fewer than `depth` levels of brackets, and the space around it. -/
def value : (depth : Nat) → Reader Json
  | 0 => failure
  | depth + 1 => do
    space
    let v ← match ← peek with
      | some 'n' => do word "null".toList; pure .null
      | some 't' => do word "true".toList; pure (.bool true)
      | some 'f' => do word "false".toList; pure (.bool false)
      | some '"' => do pure (.string (← stringText))
      | some '[' => do pure (.array (← bracketed '[' ']' (value depth)))
      | some '{' => do pure (.ofFields (← bracketed '{' '}' (fieldWith (value depth))))
      | _ => number
    space
    return v

/-- The value that a whole text writes. -/
def parse? (text : String) : Option Json := run? (value 128) text.toList

end Json

end CwebHighlight
