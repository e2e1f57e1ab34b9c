import CwebHighlight.Settings.Schema

/-!
# Arguments of the command line

`cweb [-c FILE] tokens PATH [-f FORMAT] [-c FILE]` and `cweb [-c FILE] legend [-c FILE]`.

**Options** take a value, which is attached (`--format=json`, `-fjson`, `-f=json`) or is the next
argument, as long as that does not look like an option. A value is checked when the next option,
the next positional argument or the end of the command's arguments is reached; an option that is
not known is reported before that. After `--` every argument is positional.

**Commands.** An argument of `cweb` itself that is no option names a command, which reads the rest
of the arguments. The checks of the command come before what is left to check of `cweb` itself.
Both may give `--config`; the command's counts.
-/

namespace CwebHighlight.CommandLine

/-! ## Commands and options -/

inductive Opt where
  | config
  | format
  deriving DecidableEq, Repr

def Opt.long : Opt → String
  | config => "config"
  | format => "format"

def Opt.short : Opt → Char
  | config => 'c'
  | format => 'f'

/-- An option as messages show it. -/
def Opt.display (o : Opt) : String := "--" ++ o.long ++ " <" ++ o.long ++ ">"

inductive Command where
  | root
  | tokens
  | legend
  | help
  deriving DecidableEq, Repr

namespace Command

def options : Command → List Opt
  | root | legend => [.config]
  | tokens => [.config, .format]
  | help => []

def hasVersion (c : Command) : Bool := c = root

def takesPath (c : Command) : Bool := c = tokens

def subcommands : Command → List (String × Command)
  | root | help => [("tokens", tokens), ("legend", legend), ("help", help)]
  | tokens | legend => []

def subcommand? (c : Command) (name : String) : Option Command :=
  (c.subcommands.find? (·.1 == name)).map (·.2)

end Command

/-- Why there is nothing to run: a fault in the arguments, or a question about the program. -/
inductive Stop where
  | unexpectedArgument (arg : String)
  | unknownCommand (name : String)
  | missingCommand
  | missingPath
  | invalidFormat (value : String)
  | missingValue (o : Opt)
  | repeated (o : Opt)
  | unexpectedValue (value flag : String)
  | nothingGiven
  | help (command : Command)
  | version
  deriving DecidableEq, Repr

/-- The first line of the report on a fault. -/
def Stop.message : Stop → String
  | unexpectedArgument arg => "unexpected argument '" ++ arg ++ "' found"
  | unknownCommand name => "unrecognized subcommand '" ++ name ++ "'"
  | missingCommand => "'cweb' requires a subcommand but one was not provided"
  | missingPath => "the following required arguments were not provided:"
  | invalidFormat value =>
    "invalid value '" ++ value ++ "' for '" ++ Opt.format.display ++ "'"
  | missingValue o => "a value is required for '" ++ o.display ++ "' but none was supplied"
  | repeated o => "the argument '" ++ o.display ++ "' cannot be used multiple times"
  | unexpectedValue value flag =>
    "unexpected value '" ++ value ++ "' for '" ++ flag ++ "' found; no more were expected"
  | nothingGiven | help _ | version => ""

/-! ## Reading the arguments of one command -/

/-- An option whose value is not checked yet, or not given yet. -/
structure Pending where
  option : Opt
  value : Option String
  deriving DecidableEq, Repr

/-- What the arguments so far say. -/
structure Given where
  config : Option String
  format : Option OutputFormat
  path : Option String
  pending : Option Pending
  /-- Whether every further argument is positional. -/
  positionalOnly : Bool
  deriving DecidableEq, Repr

namespace Given

def empty : Given := ⟨none, none, none, none, false⟩

/-- Take the value of an option. -/
def setOption (g : Given) (o : Opt) (value : String) : Except Stop Given :=
  match o with
  | .config =>
    if g.config.isSome then .error (.repeated o) else .ok { g with config := some value }
  | .format =>
    if g.format.isSome then .error (.repeated o)
    else if value.isEmpty then .error (.missingValue o)
    else match OutputFormat.ofName? value with
      | some format => .ok { g with format := some format }
      | none => .error (.invalidFormat value)

/-- Check the option that is left to check. -/
def settle (g : Given) : Except Stop Given :=
  match g.pending with
  | none => .ok g
  | some ⟨o, some value⟩ => { g with pending := none }.setOption o value
  | some ⟨o, none⟩ => .error (.missingValue o)

/-- An option with the value that is attached to it, or that waits for one. -/
def addOption (g : Given) (o : Opt) (attached : Option String) : Except Stop Given := do
  let g ← g.settle
  match attached with
  | some value => g.setOption o value
  | none => return { g with pending := some ⟨o, none⟩ }

/-- A question, which is answered once the arguments before it are right. -/
def ask (g : Given) (question : Stop) : Except Stop Given := do
  let _ ← g.settle
  throw question

/-- `--name` or `--name=value`. -/
def addLong (g : Given) (c : Command) (body : List Char) : Except Stop Given :=
  let name := String.ofList (body.takeWhile (· ≠ '='))
  let attached := (body.dropWhile (· ≠ '=')).tail?.map String.ofList
  match c.options.find? (·.long == name), attached with
  | some o, attached => g.addOption o attached
  | none, none =>
    if name = "help" then g.ask (.help c)
    else if name = "version" ∧ c.hasVersion then g.ask .version
    else .error (.unexpectedArgument ("--" ++ name))
  | none, some value =>
    if name = "help" ∨ (name = "version" ∧ c.hasVersion) then
      .error (.unexpectedValue value ("--" ++ name))
    else .error (.unexpectedArgument ("--" ++ name))

/-- `-o`, `-ovalue` or `-o=value`. -/
def addShort (g : Given) (c : Command) (flag : Char) (rest : List Char) : Except Stop Given :=
  match c.options.find? (·.short == flag) with
  | some o => g.addOption o (match rest with
    | [] => none
    | '=' :: value => some (String.ofList value)
    | value => some (String.ofList value))
  | none =>
    if flag = 'h' then g.ask (.help c)
    else if flag = 'V' ∧ c.hasVersion then g.ask .version
    else .error (.unexpectedArgument (String.ofList ['-', flag]))

/-- Whether the next argument is the value of an option. -/
def awaitsValue (g : Given) : Bool :=
  !g.positionalOnly && g.pending.any (·.value.isNone)

/-- The value that an option waits for. -/
def giveValue (g : Given) (value : String) : Given :=
  { g with pending := g.pending.map fun p => { p with value := some value } }

/-- A positional argument. -/
def addPositional (g : Given) (c : Command) (arg : String) : Except Stop Given :=
  if c.takesPath ∧ g.path.isNone then do return { ← g.settle with path := some arg }
  else if c.subcommands.isEmpty ∨ (g.positionalOnly ∧ (c.subcommand? arg).isSome) then
    .error (.unexpectedArgument arg)
  else .error (.unknownCommand arg)

end Given

/-- Read the arguments of a command, up to the name of a command inside it. -/
def readArguments (c : Command) (g : Given) :
    List String → Except Stop (Given × Option (Command × List String))
  | [] => .ok (g, none)
  | arg :: rest => do
    if g.positionalOnly then readArguments c (← g.addPositional c arg) rest
    else
      match arg.toList with
      | '-' :: '-' :: [] => readArguments c { g with positionalOnly := true } rest
      | '-' :: '-' :: body => readArguments c (← g.addLong c body) rest
      | '-' :: flag :: body => readArguments c (← g.addShort c flag body) rest
      | _ =>
        if g.awaitsValue then readArguments c (g.giveValue arg) rest
        else match c.subcommand? arg with
          | some inner => return (g, some (inner, rest))
          | none => readArguments c (← g.addPositional c arg) rest

/-! ## The whole command line -/

/-- A command with its arguments. -/
inductive Invocation where
  | tokens (path : String) (config : Option String) (format : Option OutputFormat)
  | legend (config : Option String)
  deriving DecidableEq, Repr

/-- The command that `help` is asked about. -/
def helpTopic (c : Command) : List String → Except Stop Command
  | [] => .ok c
  | name :: rest =>
    match c.subcommand? name with
    | some inner => helpTopic inner rest
    | none => .error (.unknownCommand name)

/-- Read the arguments of an inner command. -/
def readInner (c : Command) (args : List String) : Except Stop Given := do
  let (g, _) ← readArguments c .empty args
  let g ← g.settle
  if c.takesPath ∧ g.path.isNone then throw .missingPath
  return g

def parse (args : List String) : Except Stop Invocation := do
  match ← readArguments .root .empty args with
  | (g, none) =>
    let g ← g.settle
    throw (if g.config.isNone then .nothingGiven else .missingCommand)
  | (_, some (.help, rest)) => throw (.help (← helpTopic .root rest))
  | (outer, some (c, rest)) =>
    let inner ← readInner c rest
    let outer ← outer.settle
    let config := inner.config <|> outer.config
    match c with
    | .tokens => return .tokens (inner.path.getD "") config inner.format
    | _ => return .legend config

end CwebHighlight.CommandLine
