import CwebHighlight.Render
import CwebHighlight.Rpc.Message
import CwebHighlight.Rpc.Method
import CwebHighlight.Server.Step

/-!
# Sessions

A session is a server together with the phase of its life: it is introduced to an editor, works
with it, is shut down and exits. Every message moves the session on and gives a reply.

**Phases.** Introduction works once, and only if its parameters are right. Everything else but
`exit` is for the working phase: before it requests are refused as not initialized, after it as
invalid, and notifications are dropped. After `exit` there is nobody to reply.

**Methods** that the protocol does not know are refused by name in every phase; of those whose
name begins with `$/` nothing is said.

**Parameters.** A request with wrong parameters is refused, a notification with wrong parameters
is dropped. A shutdown takes effect even then.
-/

namespace CwebHighlight.Rpc

inductive Phase where
  | fresh
  | working
  | shutDown
  | exited
  deriving DecidableEq, Repr

structure Session where
  phase : Phase
  server : ServerState

inductive Reply where
  | silence
  | response (r : Response)
  | exited

namespace Reply

/-- The outcome of a request, or silence if nobody asked for it. -/
def ofOutcome (id : Option Json) (outcome : Except RpcError Json) : Reply :=
  match id with
  | some id => response ⟨id, outcome⟩
  | none => silence

def refuse (id : Option Json) (e : RpcError) : Reply := ofOutcome id (.error e)

end Reply

namespace Session

def start : Session := ⟨.fresh, .initial⟩

/-- The result of a request for tokens: the words in one flat array, or null. -/
def tokensResult : ServerAnswer → Json
  | .tokens data => .object [("data", .array ((flatWords data).map .ofWord))]
  | _ => .null

/-- Let the server take a step. -/
def act (config : ServerConfig) (s : Session) (x : ServerStep) : Session × ServerAnswer :=
  let r := s.server.step config x
  ({ s with server := r.state }, r.answer)

/-- A message of a phase in which its method is not for the server. -/
def outOfPhase (s : Session) (id : Option Json) : Session × Reply :=
  (s, .refuse id (if s.phase = .fresh then .notInitialized else .invalidRequest))

def introduce (config : ServerConfig) (s : Session) (m : Message) : Session × Reply :=
  if s.phase = .fresh then
    match needParams (check .introduction) m.params with
    | .ok () =>
      let introduction := (ServerState.introduction config).toJson
      ({ (s.act config .introduce).1 with phase := .working }, .ofOutcome m.id (.ok introduction))
    | .error e => (s, .refuse m.id (.invalidParams e))
  else (s, .refuse m.id .invalidRequest)

def shutDown (config : ServerConfig) (s : Session) (m : Message) : Session × Reply :=
  let s := { s with phase := .shutDown }
  match refuseParams m.params with
  | .ok () => ((s.act config .shutdown).1, .ofOutcome m.id (.ok .null))
  | .error e => (s, .refuse m.id (.invalidParams e))

/-- A notification, which turns into a step of the server if its parameters are right. An id on
it is an error. -/
def notify (config : ServerConfig) (s : Session) (m : Message) (x : Except String ServerStep) :
    Session × Reply :=
  match m.id, x with
  | some id, _ => (s, .refuse (some id) .invalidRequest)
  | none, .ok x => ((s.act config x).1, .silence)
  | none, .error _ => (s, .silence)

/-- A request for the tokens of a document; without an id it is nothing. -/
def semanticTokens (config : ServerConfig) (s : Session) (m : Message) : Session × Reply :=
  match m.id with
  | none => (s, .silence)
  | some id =>
    match needParams (documentParams .semanticTokens) m.params with
    | .ok uri =>
      let (s, answer) := s.act config (.tokens uri)
      (s, .response ⟨id, .ok (tokensResult answer)⟩)
    | .error e => (s, .response ⟨id, .error (.invalidParams e)⟩)

/-- A message in the working phase. -/
def work (config : ServerConfig) (s : Session) (m : Message) : Method → Session × Reply
  | .introduce => s.introduce config m
  | .introduced => s.notify config m ((needParams (check .introduced) m.params).map fun _ => .ready)
  | .shutdown => s.shutDown config m
  | .exit => ({ s with phase := .exited }, .silence)
  | .cancelRequest => (s, .refuse m.id .invalidRequest)
  | .didOpen =>
    s.notify config m ((needParams openParams m.params).map fun d =>
      .openDocument d.uri d.languageId d.text)
  | .didChange =>
    s.notify config m ((needParams changeParams m.params).map fun (uri, texts) =>
      .changeDocument uri texts)
  | .didClose =>
    s.notify config m ((needParams (documentParams .didClose) m.params).map
      .closeDocument)
  | .semanticTokens => s.semanticTokens config m
  | .otherRequest params =>
    (s, match needParams (check params) m.params with
      | .ok () => .refuse m.id .notOffered
      | .error e => .refuse m.id (.invalidParams e))
  | .otherNotification => (s, .refuse m.id .invalidRequest)

/-- A message whose method the protocol does not know. -/
def unknown (s : Session) (m : Message) : Session × Reply :=
  if "$/".toList.isPrefixOf m.method.toList then (s, .silence)
  else (s, .refuse m.id (.unknownMethod m.method))

def receive (config : ServerConfig) (s : Session) (m : Message) : Session × Reply :=
  if s.phase = .exited then (s, .exited)
  else match Method.ofName? m.method with
    | none => s.unknown m
    | some .introduce => s.introduce config m
    | some .exit => ({ s with phase := .exited }, .silence)
    | some .cancelRequest => (s, .refuse m.id .invalidRequest)
    | some method => if s.phase = .working then s.work config m method else s.outOfPhase m.id

/-- The replies to a sequence of messages. -/
def run (config : ServerConfig) (s : Session) : List Message → List Reply
  | [] => []
  | m :: rest =>
    let (s, reply) := s.receive config m
    reply :: s.run config rest

end Session

end CwebHighlight.Rpc
