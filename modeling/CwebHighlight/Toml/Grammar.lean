import CwebHighlight.Decimal.Text
import CwebHighlight.Toml.Datetime
import CwebHighlight.Toml.Table

/-!
# The grammar of TOML

A document is a sequence of lines: blank, a comment, a header of a table or of an element of an
array of tables, or a key and its value. Reading gives the statements in order; what tables they
make together is decided in `Toml.Document`.

**Limits.** A dotted key has fewer than 80 parts, and arrays and inline tables nest less than 80
levels deep.
-/

namespace CwebHighlight.Toml

open Reader

/-! ## Blanks and comments -/

def isBlank (c : Char) : Bool := c = ' ' || c = '\t'

def blanks : Reader Unit := do let _ ← span isBlank

/-- Characters of a comment, and of a string apart from those that mean something there. -/
def isPlain (c : Char) : Bool := c = '\t' || (0x20 ≤ c.val && c.val != 0x7F)

def newline : Reader Unit := char '\n' <|> word ['\r', '\n']

def startsNewline : List Char → Bool := startsWith fun c => c = '\n' || c = '\r'

def comment : Reader Unit := do
  char '#'
  let _ ← span isPlain

def optionalComment : Reader Unit := do
  if startsWith (· = '#') (← rest) then comment

/-- The end of a statement: blanks, a comment, and the end of the line or of the text. -/
def endOfStatement : Reader Unit := do
  blanks
  optionalComment
  done <|> newline

/-- Blanks, comments and line breaks between the parts of an array. -/
def gap : Reader Unit := do
  let _ ← repeatWhile (startsWith fun c => isBlank c || c = '\n' || c = '\r' || c = '#') do
    match ← peek with
    | some '#' =>
      comment
      newline
    | some c => if isBlank c then blanks else newline
    | none => failure

/-! ## Strings -/

/-- A code point in `width` hexadecimal digits. -/
def codePoint (width : Nat) : Reader Char := do
  let digits := (← rest).take width
  guard (digits.length = width && digits.all (isDigitOf 16))
  word digits
  let n := numberOfDigits 16 digits
  guard n.isValidChar
  return Char.ofNat n

/-- What a backslash stands for, with what follows it. -/
def escape : Reader Char := do
  char '\\'
  match ← satisfy fun _ => true with
  | 'b' => return '\x08'
  | 'f' => return '\x0c'
  | 'n' => return '\n'
  | 'r' => return '\r'
  | 't' => return '\t'
  | 'u' => codePoint 4
  | 'U' => codePoint 8
  | '\\' => return '\\'
  | '"' => return '"'
  | _ => failure

def basicChar : Reader Char := do
  if startsWith (· = '\\') (← rest) then escape else satisfy isPlain

def basicString : Reader String := do
  char '"'
  let cs ← repeatWhile (!startsWith (· = '"') ·) basicChar
  char '"'
  return String.ofList cs

def literalString : Reader String := do
  char '\''
  let cs ← span fun c => isPlain c && c ≠ '\''
  char '\''
  return String.ofList cs

/-- A line break, read as a line feed. -/
def brokenLine : Reader (List Char) := do
  newline
  return ['\n']

/-- A backslash at the end of a line, which joins it to the next text after all blanks and line
breaks. -/
def joinedLines : Reader (List Char) := do
  char '\\'
  blanks
  newline
  let _ ← repeatWhile (startsWith fun c => isBlank c || c = '\n' || c = '\r') do
    if startsWith isBlank (← rest) then blanks else newline
  return []

/-- A piece of a multi-line string other than quotes. -/
def basicPiece : Reader (List Char) := do
  match ← peek with
  | some '\\' => (do return [← escape]) <|> joinedLines
  | some c => if startsNewline [c] then brokenLine else return [← satisfy isPlain]
  | none => failure

def literalPiece : Reader (List Char) := do
  if startsNewline (← rest) then brokenLine else return [← satisfy isPlain]

/-- Pieces between three quotes at either end. A line break right after the opening quotes does
not count, and up to two quotes may stand anywhere, also before the closing ones. -/
def multilineString (quote : Char) (piece : Reader (List Char)) : Reader String := do
  word [quote, quote, quote]
  let _ ← optional newline
  let closes (cs : List Char) : Bool := [quote, quote, quote].isPrefixOf cs
  let pieces ← repeatWhile (!closes ·) do
    if startsWith (· = quote) (← rest) then
      char quote
      return [quote]
    else piece
  let quotes ← span (· = quote)
  guard (quotes.length ≤ 5)
  return String.ofList (pieces.flatten ++ quotes.drop 3)

def string : Reader String := do
  let text ← rest
  if "\"\"\"".toList.isPrefixOf text then multilineString '"' basicPiece
  else if "'''".toList.isPrefixOf text then multilineString '\'' literalPiece
  else if startsWith (· = '"') text then basicString
  else literalString

/-! ## Keys -/

def isBareKeyChar (c : Char) : Bool := c.isAlphanum || c = '-' || c = '_'

def simpleKey : Reader String := do
  match ← peek with
  | some '"' => basicString
  | some '\'' => literalString
  | _ => return String.ofList (← span1 isBareKeyChar)

def keyPart : Reader String := do
  blanks
  let key ← simpleKey
  blanks
  return key

/-- A dotted key: the names of the tables it goes through, and the last name. -/
def key : Reader KeyPath := do
  let first ← keyPart
  let others ← repeatWhile (startsWith (· = '.')) do
    char '.'
    keyPart
  guard (others.length + 1 < 80)
  (KeyPath.ofParts? first others).elim failure pure

/-! ## Numbers -/

/-- Digits of a base, where a single underscore may stand between two digits. -/
def digitRun (base : Nat) : Reader (List Char) := do
  let first ← satisfy (isDigitOf base)
  let others ← repeatWhile (startsWith fun c => isDigitOf base c || c = '_') do
    if startsWith (· = '_') (← rest) then char '_'
    satisfy (isDigitOf base)
  return first :: others

def sign : Reader Bool := do
  return (← optional (satisfy fun c => c = '+' || c = '-')) = some '-'

/-- The digits of a decimal integer, which do not begin with a zero unless it is alone. -/
def wholeDigits : Reader (List Char) := do
  if startsWith (· = '0') (← rest) then
    char '0'
    return ['0']
  else digitRun 10

/-- An integer in 64 bits. -/
def checkedInteger (n : Int) : Reader Value := do
  guard (-0x8000000000000000 ≤ n && n < 0x8000000000000000)
  return .integer n

def decimalInteger : Reader Value := do
  let negative ← sign
  let n : Int := numberOfDigits 10 (← wholeDigits)
  checkedInteger (if negative then -n else n)

def basedInteger (mark : Char) (base : Nat) : Reader Value := do
  word ['0', mark]
  checkedInteger (numberOfDigits base (← digitRun base))

def integer : Reader Value := do
  match (← rest).take 2 with
  | ['0', 'x'] => basedInteger 'x' 16
  | ['0', 'o'] => basedInteger 'o' 8
  | ['0', 'b'] => basedInteger 'b' 2
  | _ => decimalInteger

def exponent : Reader Int := do
  let _ ← satisfy fun c => c = 'e' || c = 'E'
  let negative ← sign
  let n : Int := numberOfDigits 10 (← digitRun 10)
  return if negative then -n else n

def fraction : Reader (List Char) := do
  char '.'
  digitRun 10

/-- A number with a fraction or an exponent. One too large for the format is refused, but only if
it is positive. -/
def decimalFloat : Reader Value := do
  let negative ← sign
  let whole ← wholeDigits
  let fraction ← optional fraction
  let exponent ← if fraction.isSome then optional exponent else do pure (some (← exponent))
  let digits := whole ++ fraction.getD []
  let x := floatOfDecimal negative (numberOfDigits 10 digits)
    (exponent.getD 0 - (fraction.getD []).length)
  guard (negative || !x.isInf)
  return .float x

def specialFloat : Reader Value := do
  let negative ← sign
  let x ← (do word "inf".toList; pure (1.0 / 0.0)) <|> (do word "nan".toList; pure (0.0 / 0.0))
  return .float (if negative then -x else x)

def number : Reader Value :=
  (do return .datetime (← datetime)) <|> decimalFloat <|> specialFloat <|> integer

/-! ## Values -/

/-- The items of an array, read by `value`. -/
def arrayWith (value : Reader Value) : Reader Value := do
  char '['
  let item : Reader Value := do
    gap
    let v ← value
    gap
    return v
  gap
  if startsWith (· = ']') (← rest) then
    char ']'
    return .array []
  let first ← item
  let others ← repeatWhile (startsWith (· = ',')) do
    char ','
    gap
    if startsWith (· = ']') (← rest) then return none else return some (← item)
  -- only the last comma may be followed by nothing
  guard (others.dropLast.all (·.isSome))
  char ']'
  return .array (first :: others.filterMap id)

def pairWith (value : Reader Value) : Reader (KeyPath × Value) := do
  let key ← key
  char '='
  blanks
  let v ← value
  return (key, v)

/-- The pairs of an inline table, whose values are read by `value`. -/
def inlineTableWith (value : Reader Value) : Reader Value := do
  char '{'
  blanks
  if startsWith (· = '}') (← rest) then
    char '}'
    return .table []
  let pair : Reader (KeyPath × Value) := do
    let p ← pairWith value
    blanks
    return p
  let first ← pair
  let others ← repeatWhile (startsWith (· = ',')) do
    char ','
    pair
  char '}'
  (inlineTable? (first :: others)).elim failure pure

/-- A value with at most `depth` levels of brackets. -/
def value (depth : Nat) : Reader Value := do
  match ← peek with
  | some '"' | some '\'' => return .string (← string)
  | some '[' =>
    match depth with
    | 0 => failure
    | depth + 1 => arrayWith (value depth)
  | some '{' =>
    match depth with
    | 0 => failure
    | depth + 1 => inlineTableWith (value depth)
  | some 't' => do word "true".toList; return .boolean true
  | some 'f' => do word "false".toList; return .boolean false
  | some c =>
    if isDecimalDigit c || c = '+' || c = '-' then number
    else if c = 'i' || c = 'n' then specialFloat
    else failure
  | none => failure

/-! ## Documents -/

def header : Reader Statement := do
  if ['[', '['].isPrefixOf (← rest) then
    word ['[', '[']
    let path ← key
    word [']', ']']
    endOfStatement
    return .element path
  else
    char '['
    let path ← key
    char ']'
    endOfStatement
    return .header path

def pairStatement : Reader Statement := do
  let (key, v) ← pairWith (value 79)
  endOfStatement
  return .pair key v

/-- A line of a document; blank lines and comments are no statements. -/
def statement : Reader (Option Statement) := do
  let result ← match ← peek with
    | some '#' => do
      comment
      done <|> newline
      pure none
    | some '[' => do pure (some (← header))
    | some c =>
      if startsNewline [c] then do newline; pure none
      else do pure (some (← pairStatement))
    | none => failure
  blanks
  return result

/-- The statements of a document, which may begin with a byte order mark. -/
def statements : Reader (List Statement) := do
  let _ ← optional (char '\uFEFF')
  blanks
  let lines ← repeatWhile (!·.isEmpty) statement
  return lines.filterMap id

end CwebHighlight.Toml
