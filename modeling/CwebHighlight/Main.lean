import CwebHighlight.CommandLine.Run
import CwebHighlight.Rpc.Framing
import CwebHighlight.Rpc.Program

/-!
# The programs

One executable is two programs. Under the name `cweb-lsp` it is the language server, which talks
to an editor over standard input and output; under any other name it is the command line. What
they do is decided in `CommandLine.run` and `Rpc.Session.receive`; here the files are read and the
texts are passed on.
-/

namespace CwebHighlight.Programs

/-! ## Files -/

/-- The number and text that the system gives for a fault. -/
def systemError : IO.Error → Option (UInt32 × String)
  | .noFileOrDirectory _ code details | .permissionDenied _ code details
  | .inappropriateType _ code details | .invalidArgument _ code details
  | .resourceExhausted _ code details | .noSuchThing _ code details
  | .alreadyExists _ code details | .interrupted _ code details
  | .otherError code details | .resourceBusy code details | .resourceVanished code details
  | .unsupportedOperation code details | .hardwareFault code details
  | .unsatisfiedConstraints code details | .illegalOperation code details
  | .protocolError code details | .timeExpired code details =>
    some (if code < 0x80000000 then code else 0 - code, details)
  | .unexpectedEof | .userError _ => none

def readErrorOf (e : IO.Error) : ReadError :=
  match systemError e with
  | some (2, _) => .notFound
  | some (20, _) => .notDirectory
  | some (21, _) => .isDirectory
  | some (36, _) => .nameTooLong
  | some (code, details) => .other (details ++ " (os error " ++ toString code.toNat ++ ")")
  | none => .other (toString e)

def readPath (path : String) : IO (Except ReadError (List UInt8)) := do
  match ← (IO.FS.readBinFile path).toBaseIO with
  | .ok bytes => return .ok bytes.toList
  | .error e => return .error (readErrorOf e)

/-- The files at some paths, as they are now. -/
def snapshot (paths : List String) : IO Files := do
  let found ← paths.mapM fun path => return (path, ← readPath path)
  return fun path => ((found.find? (·.1 == path)).map (·.2)).getD (.error .notFound)

/-! ## The command line -/

def runCommandLine (args : List String) : IO UInt32 := do
  let paths := match CommandLine.parse args with
    | .ok invocation => invocation.paths
    | .error _ => []
  let outcome := CommandLine.run (← snapshot paths) args
  IO.print outcome.stdout
  IO.eprint outcome.stderr
  return UInt32.ofNat outcome.exit

/-! ## The language server -/

/-- The number of bytes of the next message, or nothing at the end of the input. -/
partial def readHeaders (input : IO.FS.Stream) (length : Option Nat) : IO (Option Nat) := do
  let line ← input.getLine
  if line.isEmpty then return none
  if Rpc.isHeaderEnd line then return some (length.getD 0)
  readHeaders input (Rpc.announcedLength? line <|> length)

partial def readBytes (input : IO.FS.Stream) (missing : Nat) (bytes : ByteArray) :
    IO ByteArray := do
  if missing = 0 then return bytes
  let more ← input.read (USize.ofNat missing)
  if more.isEmpty then return bytes
  readBytes input (missing - more.size) (bytes ++ more)

def readMessage (bytes : ByteArray) : Option Rpc.Message := do
  let text ← decodeStrict? bytes.toList
  Rpc.Message.ofJson? (← Json.parse? (String.ofList text))

partial def serve (config : ServerConfig) (input output : IO.FS.Stream) (s : Rpc.Session) :
    IO Unit := do
  let some length ← readHeaders input none | return
  let bytes ← readBytes input length .empty
  let say (v : Json) : IO Unit := do
    output.putStr (Rpc.frame v)
    output.flush
  match readMessage bytes with
  | none =>
    say Rpc.unreadableResponse
    serve config input output s
  | some m =>
    let (s, reply) := s.receive config m
    match reply with
    | .response r => say r.toJson
    | _ => pure ()
    if s.phase = .exited then return
    serve config input output s

def runServer : IO UInt32 := do
  match Rpc.launch (← snapshot (Settings.candidates Rpc.settingsFile)) with
  | .ok config =>
    serve config (← IO.getStdin) (← IO.getStdout) .start
    return 0
  | .error e =>
    IO.eprint (Rpc.launchFault e)
    return 1

end CwebHighlight.Programs

open CwebHighlight.Programs in
def main (args : List String) : IO UInt32 := do
  if (← IO.appPath).fileName = some "cweb-lsp" then runServer else runCommandLine args
