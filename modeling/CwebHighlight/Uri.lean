import CwebHighlight.Uri.Authority
import CwebHighlight.Uri.Path

/-!
# Addresses of documents

Documents are known by URI, and two URIs are the same document if their normal forms are the same
text. Parsing gives the normal form: the scheme in lower case, the host in ASCII, `.` and `..`
segments resolved, a default port dropped, and characters that a part must not hold written as
percent escapes. Query, fragment and the case of the path are kept.

**Schemes.** `file` and the web schemes are *special*: a backslash separates segments as a slash
does, and there is always a path. A URI of another scheme without a slash after the scheme has an
opaque path, which is kept.
-/

namespace CwebHighlight

/-- A URI in its normal form. -/
structure Uri where
  text : String
  deriving DecidableEq, Repr

namespace Uri

/-! ## Parts of the text -/

/-- Spaces and controls at both ends do not count. -/
def trim (cs : List Char) : List Char :=
  let isBlank (c : Char) : Bool := c.val ≤ 0x20
  ((cs.dropWhile isBlank).reverse.dropWhile isBlank).reverse

/-- The scheme in lower case, and what follows the colon. -/
def splitScheme (cs : List Char) : Option (List Char × List Char) :=
  let scheme := withoutBreaks (cs.takeWhile (· ≠ ':'))
  let isSchemeChar (c : Char) : Bool := c.isAlphanum || c ∈ ['+', '-', '.']
  if ':' ∈ cs && scheme.head?.any Char.isAlpha && scheme.all isSchemeChar then
    some (scheme.map Char.toLower, (cs.dropWhile (· ≠ ':')).drop 1)
  else none

/-- What stands before the query and the fragment, and their text. -/
def splitTail (special : Bool) (cs : List Char) : List Char × List Char :=
  let body := cs.takeWhile fun c => c ≠ '?' && c ≠ '#'
  let tail := withoutBreaks (cs.drop body.length)
  match tail with
  | '?' :: rest =>
    let query := rest.takeWhile (· ≠ '#')
    let fragment := rest.drop query.length
    (body, '?' :: escape (inQuerySet special) query ++
      (if fragment.isEmpty then [] else '#' :: escape inFragmentSet (fragment.drop 1)))
  | '#' :: rest => (body, '#' :: escape inFragmentSet rest)
  | _ => (body, [])

/-- Cut before the first slash. -/
def splitSlash (special : Bool) (cs : List Char) : List Char × List Char :=
  let authority := cs.takeWhile (!isSlash special ·)
  (authority, cs.drop authority.length)

/-- What follows two slashes. -/
def afterSlashes? (special : Bool) (cs : List Char) : Option (List Char) := do
  let (c, rest) ← next? cs
  let (d, rest) ← next? rest
  if isSlash special c && isSlash special d then some rest else none

/-- What follows a slash, if there is one. -/
def afterSlash (special : Bool) (cs : List Char) : List Char :=
  match next? cs with
  | some (c, rest) => if isSlash special c then rest else cs
  | none => []

/-! ## The part after the scheme -/

/-- A `file` URI: where there is no host, the slash that begins the path comes on top of the one
in the text. -/
def fileText (body : List Char) : Except UriError (List Char) := do
  match afterSlashes? true body with
  | none => return "//".toList ++ (Path.root.add true true (afterSlash true body)).oneSlash.text
  | some rest =>
    let (authority, path) := splitSlash true rest
    let name := withoutBreaks authority
    let host ← if name.isEmpty || isDriveLetter name then pure [] else specialHost name
    if host.isEmpty then
      return "//".toList ++ (Path.root.add true true rest).oneSlash.text
    else if host = "localhost".toList then
      return "//".toList ++ (Path.root.add true true path).oneSlash.text
    else
      let path := (Path.root.add true true (path.drop 1)).oneSlash
      return "//".toList ++ (if path.onDrive then [] else host) ++ path.text

/-- A URI of the web; any number of slashes may stand before its authority. -/
def webText (scheme body : List Char) (last : Bool) : Except UriError (List Char) := do
  let (authority, path) := splitSlash true (body.dropWhile fun c => isSlash true c || isBreak c)
  let (authority, _) ← authorityText scheme (withoutBreaks authority) (last && path.isEmpty)
  return "//".toList ++ authority ++ (Path.root.add true false (path.drop 1)).text

/-- The text of a path without an authority, which must not look like one. -/
def lonePathText (p : Path) : List Char :=
  if "//".toList.isPrefixOf p.text then "/.".toList ++ p.text else p.text

/-- Any other URI. -/
def plainText (scheme body : List Char) (last : Bool) : Except UriError (List Char) := do
  match afterSlashes? false body with
  | some rest =>
    let (authority, path) := splitSlash false rest
    let (authority, more) ←
      authorityText scheme (withoutBreaks authority) (last && path.isEmpty)
    let path := more ++ path
    let path := if path.isEmpty then Path.empty else Path.root.add false false (afterSlash false path)
    return "//".toList ++ authority ++ path.text
  | none =>
    if (next? body).any (·.1 = '/') then
      return lonePathText (Path.root.add false false (afterSlash false body))
    else return escape isControl (withoutBreaks body)

def parse (input : String) : Except UriError Uri := do
  let some (scheme, rest) := splitScheme (trim input.toList) | throw .relative
  let (body, tail) := splitTail (isSpecial scheme) rest
  let body ←
    if scheme = fileScheme then fileText body
    else if isSpecial scheme then webText scheme body tail.isEmpty
    else plainText scheme body tail.isEmpty
  return ⟨String.ofList (scheme ++ ':' :: body ++ tail)⟩

end Uri

end CwebHighlight
