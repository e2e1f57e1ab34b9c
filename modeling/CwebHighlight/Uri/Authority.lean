import CwebHighlight.Uri.Host

/-!
# Authorities

What stands between the two slashes and the path: perhaps a user name and password, a host, and
perhaps a port. A port that is the default of the scheme is left out.
-/

namespace CwebHighlight.Uri

/-! ## Schemes -/

def fileScheme : List Char := "file".toList

def isSpecial (scheme : List Char) : Bool :=
  (["file", "http", "https", "ws", "wss", "ftp"].map (·.toList)).contains scheme

def defaultPort? (scheme : List Char) : Option Nat :=
  match String.ofList scheme with
  | "http" | "ws" => some 80
  | "https" | "wss" => some 443
  | "ftp" => some 21
  | _ => none

/-! ## Users -/

/-- Cut before the last of a character. -/
def splitLast (c : Char) (cs : List Char) : Option (List Char × List Char) :=
  if c ∈ cs then
    let after := (cs.reverse.takeWhile (· ≠ c)).reverse
    some (cs.take (cs.length - after.length - 1), after)
  else none

/-- The name and password before a host, with the sign that ends them. -/
def userText (cs : List Char) : List Char :=
  let name := cs.takeWhile (· ≠ ':')
  let password := cs.drop (name.length + 1)
  if name.isEmpty && password.isEmpty then []
  else escape inUserSet name ++
    (if password.isEmpty then [] else ':' :: escape inUserSet password) ++ ['@']

/-! ## Ports -/

/-- Cut before a colon that is not in brackets. -/
def splitHost (inBrackets : Bool) : List Char → List Char × List Char
  | [] => ([], [])
  | c :: rest =>
    if c = ':' && !inBrackets then ([], c :: rest)
    else
      let inBrackets := if c = '[' then true else if c = ']' then false else inBrackets
      let (host, port) := splitHost inBrackets rest
      (c :: host, port)

/-- The port with its colon, unless it is the default of the scheme. -/
def portText (scheme digits : List Char) : Except UriError (List Char) :=
  let n := numberOfDigits 10 digits
  if 65535 < n then .error .invalidPort
  else if digits.isEmpty ∨ defaultPort? scheme = some n then .ok []
  else .ok (':' :: Nat.toDigits 10 n)

/-! ## Authorities -/

/-- The text of an authority, and what of `cs` belongs to the path after all: a backslash ends a
port. `last` tells whether the address ends here. -/
def authorityText (scheme cs : List Char) (last : Bool) :
    Except UriError (List Char × List Char) := do
  let special := isSpecial scheme
  let (user, server) := (splitLast '@' cs).getD ([], cs)
  if user.isEmpty && server.isEmpty && !cs.isEmpty && !last then throw .emptyHost
  let (host, port) := splitHost false server
  if host.isEmpty && (special || !port.isEmpty) then throw .emptyHost
  let host ← if special then specialHost host else plainHost host
  let digits := (port.drop 1).takeWhile isDecimalDigit
  let rest := port.drop (digits.length + 1)
  if !rest.head?.all (· = '\\') then throw .invalidPort
  let port ← portText scheme digits
  if host.isEmpty && !(userText user).isEmpty then throw .emptyHost
  return (userText user ++ host ++ port, rest)

end CwebHighlight.Uri
