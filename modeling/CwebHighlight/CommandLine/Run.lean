import CwebHighlight.CommandLine.Arguments
import CwebHighlight.Render
import CwebHighlight.Server.Introduction
import CwebHighlight.Settings.Load

/-!
# Running the command line

A run prints to standard output or reports a fault, and ends with an exit status: 0 for success,
1 for settings or a file that cannot be read, 2 for wrong arguments.

**`tokens`** loads the settings, reads the file, decodes it with replacement characters for what
is not UTF-8, and prints its tokens in the format of the settings. **`legend`** loads the settings
and prints the standard legend.
-/

namespace CwebHighlight.CommandLine

structure Outcome where
  exit : Nat
  stdout : String
  stderr : String
  deriving DecidableEq, Repr

/-! ## Help -/

def about : Command → String
  | .root => "A tool for inspecting the highlighting of CWEB files"
  | .tokens => "Classify a CWEB file and print its tokens"
  | .legend => "Print token types and modifiers with their indices"
  | .help => "Print this message or the help of the given subcommand(s)"

def usage : Command → String
  | .root => "Usage: cweb [OPTIONS] <COMMAND>"
  | .tokens => "Usage: cweb tokens [OPTIONS] <path>"
  | .legend => "Usage: cweb legend [OPTIONS]"
  | .help => "Usage: cweb help [COMMAND]..."

def helpText (c : Command) : String :=
  let configLine := "  -c, --config <config>  Configuration file layered over the defaults\n"
  let formatLine := "  -f, --format <format>  Output format (default from configuration: simple) " ++
    "[possible values: simple, json, lsp]\n"
  let options := String.join (c.options.map fun
    | .config => configLine
    | .format => formatLine)
  let commands := String.join (c.subcommands.map fun (name, inner) =>
    "  " ++ name ++ "  " ++ about inner ++ "\n")
  about c ++ "\n\n" ++ usage c ++ "\n" ++
    (if c = .root then "\nCommands:\n" ++ commands else "") ++
    (if c.takesPath then "\nArguments:\n  <path>  Path to the CWEB file\n" else "") ++
    "\nOptions:\n" ++ options ++ "  -h, --help             Print help\n" ++
    (if c.hasVersion then "  -V, --version          Print version\n" else "")

/-! ## Faults -/

def faultText (message : String) : String := "Error: " ++ message ++ "\n"

def settingsFault (e : Settings.LoadError) : Outcome :=
  ⟨1, "", faultText ("configuration error: " ++ e.message)⟩

def readFault (path : String) (e : ReadError) : Outcome :=
  ⟨1, "", faultText ("failed to read " ++ path ++ ": " ++ e.message)⟩

/-- How a run ends that has nothing to run. -/
def stopped : Stop → Outcome
  | .help c => ⟨0, helpText c, ""⟩
  | .version => ⟨0, "cweb " ++ toolVersion ++ "\n", ""⟩
  | .nothingGiven => ⟨2, "", helpText .root⟩
  | stop => ⟨2, "", "error: " ++ stop.message ++ "\n\nFor more information, try '--help'.\n"⟩

/-! ## Commands -/

/-- The layers over the defaults: the configuration file, and the format of the command line. -/
def layers (config : Option String) (format : Option OutputFormat) : List Settings.Layer :=
  (config.map .file).toList ++
    (format.map fun f => .override "cli.format" (.scalar none (.string f.name))).toList

/-- Tokens in a format, as they are printed. -/
def printTokens (format : OutputFormat) (tokens : List Token) : Outcome :=
  match format with
  | .simple => ⟨0, renderSimple tokens, ""⟩
  | .json => ⟨0, renderJson tokens ++ "\n", ""⟩
  | .lsp =>
    match renderLsp .standard tokens with
    | .ok text => ⟨0, text ++ "\n", ""⟩
    | .error e => ⟨1, "", faultText e.message⟩

def runTokens (files : Files) (path : String) (settings : Settings) : Outcome :=
  match files path with
  | .ok bytes => printTokens settings.format (classifyAll (decodeLossy bytes))
  | .error e => readFault path e

def printLegend : Outcome :=
  match Legend.standard.render with
  | .ok text => ⟨0, text, ""⟩
  | .error e => ⟨1, "", faultText e.message⟩

/-- The paths at which a command looks for files. -/
def Invocation.paths : Invocation → List String
  | .tokens path config _ => path :: config.toList.flatMap Settings.candidates
  | .legend config => config.toList.flatMap Settings.candidates

def runInvocation (files : Files) : Invocation → Outcome
  | .tokens path config format =>
    match Settings.load files (layers config format) with
    | .ok settings => runTokens files path settings
    | .error e => settingsFault e
  | .legend config =>
    match Settings.load files (layers config none) with
    | .ok _ => printLegend
    | .error e => settingsFault e

def run (files : Files) (args : List String) : Outcome :=
  match parse args with
  | .ok invocation => runInvocation files invocation
  | .error stop => stopped stop

end CwebHighlight.CommandLine
