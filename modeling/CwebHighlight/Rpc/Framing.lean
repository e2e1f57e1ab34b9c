import CwebHighlight.Rpc.Message
import CwebHighlight.Json.Grammar
import CwebHighlight.Json.Printer

/-!
# Frames

Messages travel as JSON texts, each after header lines that end with an empty one. The header
that counts says how many bytes the text has.
-/

namespace CwebHighlight.Rpc

def lengthHeader : List Char := "Content-Length:".toList

/-- The number of bytes that a header line announces. -/
def announcedLength? (line : String) : Option Nat :=
  let cs := line.toList
  if lengthHeader.isPrefixOf cs then
    let digits := ((cs.drop lengthHeader.length).dropWhile (· = ' ')).takeWhile isDecimalDigit
    if digits.isEmpty then none else some (numberOfDigits 10 digits)
  else none

def isHeaderEnd (line : String) : Bool := line = "\r\n" || line = "\n"

/-- A JSON value with its header. -/
def frame (v : Json) : String :=
  let body := v.compact
  "Content-Length: " ++ toString body.utf8ByteSize ++ "\r\n\r\n" ++ body

/-- The response to a text that is no message. -/
def unreadableResponse : Json :=
  .object [("jsonrpc", .string Message.version),
    ("error", .object [("code", .int (-32700)), ("message", .string "Parse error")]),
    ("id", .null)]

end CwebHighlight.Rpc
