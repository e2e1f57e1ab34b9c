import CwebHighlight.Text.Digits
import CwebHighlight.Text.Unprintable

/-!
# Quoted text in messages

A string in double quotes. The quote, the backslash, tabs and line breaks are written with a
backslash, and characters that would not show as their hexadecimal code in braces.
-/

namespace CwebHighlight

def quotedChar (c : Char) : String :=
  match c with
  | '"' => "\\\""
  | '\\' => "\\\\"
  | '\n' => "\\n"
  | '\r' => "\\r"
  | '\t' => "\\t"
  | '\x00' => "\\0"
  | _ => if isUnprintable c then "\\u\x7b" ++ hexText 1 c.toNat ++ "\x7d" else c.toString

def quoted (s : String) : String := "\"" ++ String.join (s.toList.map quotedChar) ++ "\""

end CwebHighlight
