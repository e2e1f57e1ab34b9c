import CwebHighlight.Json
import CwebHighlight.Legend

/-!
# How a server introduces itself

The answer to an editor's first request: the server's name and version, the language whose
documents it looks after, that it wants whole texts, and the legend of its tokens.
-/

namespace CwebHighlight

structure Introduction where
  serverName : String
  version : String
  languageId : String
  legend : Legend.Published
  deriving DecidableEq, Repr

/-- The version of the tools. -/
def toolVersion : String := "0.1.0"

namespace Introduction

/-- The code by which an editor is asked to send the whole text on every change. -/
def fullTextSync : Int := 1

def toJson (i : Introduction) : Json :=
  let names (ss : List String) : Json := .array (ss.map .string)
  .object [
    ("capabilities", .object [
      ("textDocumentSync", .int fullTextSync),
      ("semanticTokensProvider", .object [
        ("documentSelector", .array [.object [("language", .string i.languageId)]]),
        ("legend", .object [
          ("tokenTypes", names i.legend.kinds),
          ("tokenModifiers", names i.legend.modifiers)]),
        ("full", .bool true)])]),
    ("serverInfo", .object [
      ("name", .string i.serverName),
      ("version", .string i.version)])]

end Introduction

end CwebHighlight
