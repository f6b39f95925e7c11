import Moorage.Text.Cut

/-!
# `Moorage.CommandLine`: what the arguments ask for

A command may be preceded and followed by options, and takes the name of one file.
Two dashes end the options. The value of an option is taken in only when the next
option or name comes, so that an unknown argument behind it is reported first.

* `Invocation.read`: the invocation that arguments write, or why there is none.
* `UsageFault.exitCode`: with what a program ends that was not invoked properly.
-/

set_option autoImplicit false

namespace Moorage

/-- What the program is to do. -/
inductive Verb where
  | up
  | down
  | plan
  | status
  deriving DecidableEq, Repr, Inhabited

namespace Verb

/-- Every verb, in the order of the help. -/
def all : List Verb := [up, down, plan, status]

/-- The word for a verb. -/
def word : Verb → String
  | up => "up"
  | down => "down"
  | plan => "plan"
  | status => "status"

/-- What a verb does. -/
def summary : Verb → String
  | up => "Create every resource in the document"
  | down => "Destroy every resource in the document"
  | plan => "Print the apply order without touching the engine"
  | status => "Show the runtime objects backing each resource"

/-- The verb of a word. -/
def ofWord? (word : String) : Option Verb := all.find? (·.word = word)

end Verb

/-- What the arguments ask for. -/
structure Invocation where
  verb : Verb
  file : String := "berth.yaml"
  home : Option String := none
  forcePull : Bool := false
  deriving DecidableEq, Repr, Inhabited

/-- Why the arguments are no invocation. Help and the version are asked for, and
everything else is a mistake. -/
inductive UsageFault where
  | help (verb : Option Verb)
  | version
  | noArguments
  | noCommand
  | unknownCommand (word : String)
  | unknownArgument (argument : String)
  | missingValue (argument : String)
  | unexpectedValue (argument : String)
  | repeated (argument : String)
  deriving DecidableEq, Repr

/-- With what the program ends. -/
def UsageFault.exitCode : UsageFault → UInt32
  | help _ | version => 0
  | _ => 2

namespace CommandLine

/-- A value that is not taken in yet. -/
inductive Pending where
  | home (value : Option String)
  | file (value : String)
  deriving DecidableEq, Repr

/-- What was read so far of the arguments of the program or of a command. -/
structure Scan where
  home : Option String := none
  forcePull : Bool := false
  file : Option String := none
  pending : Option Pending := none
  /-- Whether the next argument is the value of an option, unless it is one. -/
  awaitsHome : Bool := false
  /-- Whether two dashes have ended the options. -/
  onlyNames : Bool := false
  /-- Whether a file was named. -/
  namesFile : Bool := false
  deriving Repr

/-- How the home option is shown. -/
def homeUsage : String := "--home <HOME>"

/-- How the file is shown. -/
def fileUsage : String := "[FILE]"

/-- The scan with a value for the home option, which may have only one. -/
def Scan.setHome (s : Scan) (value : String) : Except UsageFault Scan :=
  if s.home.isSome then .error (.repeated homeUsage)
  else if value = "" then .error (.missingValue homeUsage)
  else .ok { s with home := some value }

/-- The scan with its pending value taken in. -/
def Scan.settle (s : Scan) : Except UsageFault Scan :=
  let settled := { s with pending := none }
  match s.pending with
  | none => .ok settled
  | some (.home none) => .error (.missingValue homeUsage)
  | some (.home (some value)) => settled.setHome value
  | some (.file value) =>
      if value = "" then .error (.missingValue fileUsage)
      else .ok { settled with file := some value }

/-- An option with two dashes: its name, and the value behind an equals sign. -/
def longOption? (argument : String) : Option (String × Option String) :=
  (Text.dropLead? "--".toList argument.toList).map fun rest =>
    match Text.cutFirst '=' rest with
    | some (name, value) => (String.ofList name, some (String.ofList value))
    | none => (String.ofList rest, none)

/-- The letter of an option with one dash. -/
def shortOption? (argument : String) : Option Char :=
  match argument.toList with
  | '-' :: c :: _ => some c
  | _ => none

/-- A flag, which takes no value. -/
def Scan.flag (s : Scan) (argument : String) (value : Option String)
    (effect : Scan → Except UsageFault Scan) : Except UsageFault Scan :=
  if value.isSome then .error (.unexpectedValue argument)
  else do effect { ← s.settle with awaitsHome := false }

/-- Takes in an option with two dashes. The version is an option of the program
alone. -/
def Scan.long (s : Scan) (verb : Option Verb) (argument name : String) (value : Option String) :
    Except UsageFault Scan :=
  match name, verb with
  | "home", _ => do
      let s ← s.settle
      match value with
      | none => return { s with pending := some (.home none), awaitsHome := true }
      | some value => return { ← s.setHome value with awaitsHome := false }
  | "force-pull", _ =>
      s.flag "--force-pull" value fun s =>
        if s.forcePull then .error (.repeated "--force-pull") else .ok { s with forcePull := true }
  | "help", _ => s.flag "--help" value fun _ => .error (.help verb)
  | "version", none => s.flag "--version" value fun _ => .error .version
  | _, _ => .error (.unknownArgument argument)

/-- Takes in an option with one dash. -/
def Scan.short (s : Scan) (verb : Option Verb) (argument : String) (letter : Char) :
    Except UsageFault Scan :=
  match letter, verb with
  | 'h', _ => s.flag argument none fun _ => .error (.help verb)
  | 'V', none => s.flag argument none fun _ => .error .version
  | _, _ => .error (.unknownArgument argument)

/-- Takes in the name of a file. Only a command has one, and no more than one. -/
def Scan.name (s : Scan) (verb : Option Verb) (argument : String) : Except UsageFault Scan :=
  match verb with
  | none =>
      let isCommand := argument = "help" ∨ (Verb.ofWord? argument).isSome
      if s.onlyNames ∧ isCommand then .error (.unknownArgument argument)
      else .error (.unknownCommand argument)
  | some _ =>
      if s.namesFile then .error (.unknownArgument argument)
      else do
        return { ← s.settle with
          pending := some (.file argument), namesFile := true, awaitsHome := false }

/-- Takes in one argument that is no command. -/
def Scan.take (s : Scan) (verb : Option Verb) (argument : String) : Except UsageFault Scan :=
  if s.onlyNames then s.name verb argument
  else if argument = "--" then .ok { s with onlyNames := true }
  else
    match longOption? argument, shortOption? argument with
    | some (name, value), _ => s.long verb argument name value
    | none, some letter => s.short verb argument letter
    | none, none =>
        if s.awaitsHome then
          .ok { s with pending := some (.home (some argument)), awaitsHome := false }
        else s.name verb argument

/-- What the help command shows: the help of the program or of one command. -/
def helpOf : List String → UsageFault
  | [] | ["help"] => .help none
  | "help" :: word :: _ => .unknownCommand word
  | word :: rest =>
      match Verb.ofWord? word, rest with
      | none, _ => .unknownCommand word
      | some verb, [] => .help (some verb)
      | some _, word :: _ => .unknownCommand word

/-- The invocation of a command when all of its arguments were read. -/
def Scan.invocation (s : Scan) (verb : Verb) : Except UsageFault Invocation := do
  let s ← s.settle
  return { verb := verb, file := s.file.getD "berth.yaml", home := s.home,
           forcePull := s.forcePull }

/-- Why there is no invocation without a command. -/
def Scan.incomplete (s : Scan) : Except UsageFault Invocation := do
  let s ← s.settle
  if s.home.isSome || s.forcePull then throw .noCommand else throw .noArguments

/-- The invocation of a command with the options that stood before it. Its own ones
count first. -/
def Scan.around (s : Scan) (inner : Invocation) : Except UsageFault Invocation := do
  let s ← s.settle
  return { inner with
    home := inner.home <|> s.home
    forcePull := inner.forcePull || s.forcePull }

/-- Reads the arguments of the program, or of a command once it was named. -/
def scan (verb : Option Verb) (s : Scan) : List String → Except UsageFault Invocation
  | [] =>
      match verb with
      | none => s.incomplete
      | some verb => s.invocation verb
  | argument :: rest =>
      if verb.isNone && !s.onlyNames && !s.awaitsHome then
        match Verb.ofWord? argument with
        | some command => do s.around (← scan (some command) {} rest)
        | none =>
            if argument = "help" then .error (helpOf rest)
            else do scan verb (← s.take verb argument) rest
      else do scan verb (← s.take verb argument) rest

/-- The options that every command has. -/
def optionsHelp : String :=
  "Options:\n      --home <HOME>  Home directory for berth state\n" ++
  "      --force-pull   Pull images even when a local copy exists\n" ++
  "  -h, --help         Print help\n"

/-- The line of a command in the help. -/
def verbHelp (verb : Verb) : String :=
  "  " ++ verb.word ++ String.ofList (List.replicate (8 - verb.word.length) ' ')
    ++ verb.summary ++ "\n"

/-- The help of the program or of a command. -/
def helpText : Option Verb → String
  | none =>
      "berth: declarative local cloud environments\n\nUsage: berth [OPTIONS] <COMMAND>\n\n" ++
      "Commands:\n" ++ String.join (Verb.all.map verbHelp) ++
      "  help    Print this message or the help of the given subcommand(s)\n\n" ++
      optionsHelp ++ "  -V, --version      Print version\n"
  | some verb =>
      verb.summary ++ "\n\nUsage: berth " ++ verb.word ++ " [OPTIONS] [FILE]\n\n" ++
      "Arguments:\n  [FILE]  Path to the environment document [default: berth.yaml]\n\n" ++
      optionsHelp

/-- The version of the program. -/
def versionText : String := "berth 0.1.0\n"

end CommandLine

/-- The wording of a fault. -/
def UsageFault.message : UsageFault → String
  | help verb => CommandLine.helpText verb
  | version => CommandLine.versionText
  | noArguments => CommandLine.helpText none
  | noCommand => "error: 'berth' requires a subcommand but one was not provided\n"
  | unknownCommand word => s!"error: unrecognized subcommand '{word}'\n"
  | unknownArgument argument => s!"error: unexpected argument '{argument}' found\n"
  | missingValue argument => s!"error: a value is required for '{argument}' but none was supplied\n"
  | unexpectedValue argument => s!"error: unexpected value for '{argument}' found; no more were expected\n"
  | repeated argument => s!"error: the argument '{argument}' cannot be used multiple times\n"

/-- The invocation that arguments write. -/
def Invocation.read (arguments : List String) : Except UsageFault Invocation :=
  CommandLine.scan none {} arguments

end Moorage
