import CwebHighlight.Delta
import CwebHighlight.Server.Introduction
import CwebHighlight.Server.State

/-!
# What a server does

A server is told about documents and asked for their tokens, one step after the other. Every step
gives the next state, an answer, and the events it logs.

**Providers.** The tokens come from a provider, a function of the text and the signal of the
request's flag. A provider may crash, which is `none`: the request then has no tokens.

**The end of a request.** The provider runs, the scan is forgotten, and then: a crash is logged as
failed; a request whose flag is on is logged as superseded; any other one answers the tokens,
encoded against the standard legend.
-/

namespace CwebHighlight

/-- Tokens for a text under a signal; `none` is a crash. -/
abbrev Provider := List Char → Signal → Option Report

namespace Provider

/-- The scan of the text. -/
def scanner : Provider := fun text signal => some (scan text signal)

/-- The same tokens for every text. -/
def fixed (tokens : List Token) : Provider := fun _ _ => some ⟨tokens, 0, []⟩

def crashing : Provider := fun _ _ => none

end Provider

structure ServerConfig where
  serverName : String
  languageId : String
  provider : Provider

inductive ServerStep where
  | introduce
  | ready
  | shutdown
  | openDocument (uri : Uri) (languageId : String) (text : List Char)
  | changeDocument (uri : Uri) (texts : List (List Char))
  | closeDocument (uri : Uri)
  | tokens (uri : Uri)
  | start (id : String) (uri : Uri)
  | release (id : String)
  deriving DecidableEq, Repr

inductive ServerEvent where
  | ready (languageId : String)
  | opened (uri : Uri)
  | ignored (uri : Uri) (languageId : String)
  | superseded (uri : Uri)
  | failed (uri : Uri)
  | scanned (event : ScanEvent)
  deriving DecidableEq, Repr

def ServerEvent.logEntry : ServerEvent → LogEntry
  | .ready language => ⟨.info, "cweb language server ready", [("language", language)]⟩
  | .opened uri => ⟨.debug, "document opened", [("uri", uri.text)]⟩
  | .ignored uri language =>
    ⟨.debug, "ignoring document in another language",
      [("uri", uri.text), ("language_id", language)]⟩
  | .superseded uri => ⟨.debug, "semantic token scan superseded", [("uri", uri.text)]⟩
  | .failed uri => ⟨.warn, "semantic token scan failed", [("uri", uri.text)]⟩
  | .scanned e => e.logEntry

/-- The answer to a step. -/
inductive ServerAnswer where
  | introduced (introduction : Introduction)
  | ok
  | noTokens
  | tokens (data : List DeltaToken)
  | crashed (error : WireError)
  | held
  | done
  | notHeld
  deriving DecidableEq, Repr

/-- What a step gives. -/
structure StepResult where
  state : ServerState
  answer : ServerAnswer
  events : List ServerEvent

namespace ServerState

/-- Let a request that has begun run to its end. -/
def finishRequest (provider : Provider) (s : ServerState) (r : Request) : StepResult :=
  let result := provider r.text (s.switches.signal r.flag)
  let s := s.endScan r.uri r.flag
  match result with
  | none => ⟨s, .noTokens, [.failed r.uri]⟩
  | some report =>
    let events := report.events.map .scanned
    if s.switches.isCancelled r.flag then ⟨s, .noTokens, events ++ [.superseded r.uri]⟩
    else match Legend.standard.wire report.tokens with
      | .ok data => ⟨s, .tokens data, events⟩
      | .error e => ⟨s, .crashed e, events⟩

def introduction (config : ServerConfig) : Introduction :=
  ⟨config.serverName, toolVersion, config.languageId, Legend.standard.published⟩

/-- One step of a server. -/
def step (config : ServerConfig) (s : ServerState) : ServerStep → StepResult
  | .introduce => ⟨s, .introduced (introduction config), []⟩
  | .ready => ⟨s, .ok, [.ready config.languageId]⟩
  | .shutdown => ⟨s, .ok, []⟩
  | .openDocument uri languageId text =>
    if languageId = config.languageId then ⟨s.track uri text, .ok, [.opened uri]⟩
    else ⟨s, .ok, [.ignored uri languageId]⟩
  | .changeDocument uri texts =>
    match texts.getLast? with
    | some text => ⟨(s.cancelScan uri).replaceText uri text, .ok, []⟩
    | none => ⟨s, .ok, []⟩
  | .closeDocument uri => ⟨(s.cancelScan uri).forget uri, .ok, []⟩
  | .tokens uri =>
    match s.beginRequest? uri with
    | some (r, s) => s.finishRequest config.provider r
    | none => ⟨s, .noTokens, []⟩
  | .start id uri =>
    match s.beginRequest? uri with
    | some (r, s) => ⟨{ s with held := s.held.insert id r }, .held, []⟩
    | none => ⟨s, .done, []⟩
  | .release id =>
    match s.held.find? id with
    | some r => { s with held := s.held.erase id }.finishRequest config.provider r
    | none => ⟨s, .notHeld, []⟩

/-- The results of a sequence of steps. -/
def run (config : ServerConfig) (s : ServerState) : List ServerStep → List StepResult
  | [] => []
  | x :: rest =>
    let r := s.step config x
    r :: r.state.run config rest

end ServerState

end CwebHighlight
