import CwebHighlight.Rpc.Params

/-!
# The methods of the protocol

Every method that the protocol knows, sorted by what a server does with it: those that begin and
end a session, those about documents, and those that this server does not offer.
-/

namespace CwebHighlight.Rpc

inductive Method where
  | introduce
  | introduced
  | shutdown
  | exit
  | cancelRequest
  | didOpen
  | didChange
  | didClose
  | semanticTokens
  | otherRequest (params : Schema)
  | otherNotification

namespace Method

def offered : List (String × Method) := [
  ("initialize", introduce),
  ("initialized", introduced),
  ("shutdown", shutdown),
  ("exit", exit),
  ("$/cancelRequest", cancelRequest),
  ("textDocument/didOpen", didOpen),
  ("textDocument/didChange", didChange),
  ("textDocument/didClose", didClose),
  ("textDocument/semanticTokens/full", semanticTokens)]

def otherNotifications : List String := [
  "textDocument/willSave",
  "textDocument/didSave",
  "workspace/didChangeConfiguration",
  "workspace/didChangeWorkspaceFolders",
  "workspace/didCreateFiles",
  "workspace/didRenameFiles",
  "workspace/didDeleteFiles",
  "workspace/didChangeWatchedFiles"]

/-- The methods that the protocol knows, by name. -/
def table : List (String × Method) :=
  offered ++
    Schema.otherRequests.map (fun (name, params) => (name, otherRequest params)) ++
    otherNotifications.map (fun name => (name, otherNotification))

def ofName? (name : String) : Option Method := (table.find? (·.1 == name)).map (·.2)

end Method

end CwebHighlight.Rpc
