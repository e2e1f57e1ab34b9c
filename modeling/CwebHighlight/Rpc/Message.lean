import CwebHighlight.Json

/-!
# Messages between an editor and a server

A message names a method and may carry parameters. One with an id is a request, which gets a
response with that id; one without is a notification.
-/

namespace CwebHighlight.Rpc

structure Message where
  method : String
  id : Option Json
  params : Option Json

namespace Message

/-- The protocol version that every message names. -/
def version : String := "2.0"

def ofJson? (v : Json) : Option Message := do
  let .object _ := v | none
  guard ((v.field? "jsonrpc").bind (·.asString?) = some version)
  let method ← match v.field? "method" with
    | some m => m.asString?
    | none => some ""
  match v.field? "id" with
  | none | some .null | some (.string _) | some (.int _) => pure ()
  | some _ => none
  return ⟨method, v.field? "id", v.field? "params"⟩

end Message

/-- Why a request is refused. -/
inductive RpcError where
  | invalidRequest
  | notInitialized
  | unknownMethod (name : String)
  | notOffered
  | invalidParams (message : String)
  deriving DecidableEq, Repr

namespace RpcError

def code : RpcError → Int
  | invalidRequest => -32600
  | notInitialized => -32002
  | unknownMethod _ | notOffered => -32601
  | invalidParams _ => -32602

def message : RpcError → String
  | invalidRequest => "Invalid request"
  | notInitialized => "Server not initialized"
  | unknownMethod _ | notOffered => "Method not found"
  | invalidParams message => message

def toJson (e : RpcError) : Json :=
  .object ([("code", .int e.code), ("message", .string e.message)] ++
    match e with
    | unknownMethod name => [("data", .string name)]
    | _ => [])

end RpcError

structure Response where
  id : Json
  outcome : Except RpcError Json

def Response.toJson (r : Response) : Json :=
  .object [("jsonrpc", .string Message.version), ("id", r.id),
    match r.outcome with
    | .ok v => ("result", v)
    | .error e => ("error", e.toJson)]

end CwebHighlight.Rpc
