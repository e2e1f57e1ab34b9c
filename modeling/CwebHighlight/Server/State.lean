import CwebHighlight.Flag
import CwebHighlight.Table
import CwebHighlight.Uri

/-!
# The state of a server

A server keeps the text of every open document and, for every document with a scan under way, the
cancellation flag of that scan. A request for tokens takes the text as it is when the request
begins; a later request for the same document, an edit or the closing of the document turns its
flag on.

**In flight.** `inflight` holds one flag per document. Beginning a scan puts a new flag there and
cancels the one it replaces; an edit or a closing removes the flag and cancels it; a scan that
ends removes the flag only if it is still its own.

**Held requests.** A request that has begun and not ended yet is kept under an id until it is
released.
-/

namespace CwebHighlight

/-- A request that has begun: the text it works on and its flag. -/
structure Request where
  uri : Uri
  text : List Char
  flag : Flag
  deriving DecidableEq, Repr

structure ServerState where
  documents : Table Uri (List Char)
  inflight : Table Uri Flag
  switches : Switches
  held : Table String Request

namespace ServerState

def initial : ServerState := ⟨.empty, .empty, .empty, .empty⟩

/-! ## Documents -/

def track (s : ServerState) (uri : Uri) (text : List Char) : ServerState :=
  { s with documents := s.documents.insert uri text }

/-- Set the text of a tracked document; another document stays untracked. -/
def replaceText (s : ServerState) (uri : Uri) (text : List Char) : ServerState :=
  if s.documents.contains uri then s.track uri text else s

def forget (s : ServerState) (uri : Uri) : ServerState :=
  { s with documents := s.documents.erase uri }

/-! ## Scans -/

/-- Register a new scan, which cancels the one before it. -/
def beginScan (s : ServerState) (uri : Uri) : Flag × ServerState :=
  let (flag, switches) := s.switches.fresh
  let switches := match s.inflight.find? uri with
    | some previous => switches.cancel previous
    | none => switches
  (flag, { s with inflight := s.inflight.insert uri flag, switches })

/-- Cancel the scan of a document, if there is one. -/
def cancelScan (s : ServerState) (uri : Uri) : ServerState :=
  match s.inflight.find? uri with
  | some flag =>
    { s with inflight := s.inflight.erase uri, switches := s.switches.cancel flag }
  | none => s

/-- Forget a scan that has ended, unless another one has taken its place. -/
def endScan (s : ServerState) (uri : Uri) (flag : Flag) : ServerState :=
  if s.inflight.find? uri = some flag then { s with inflight := s.inflight.erase uri } else s

/-- Begin a request for a tracked document. -/
def beginRequest? (s : ServerState) (uri : Uri) : Option (Request × ServerState) := do
  let text ← s.documents.find? uri
  let (flag, s) := s.beginScan uri
  return (⟨uri, text, flag⟩, s)

end ServerState

end CwebHighlight
