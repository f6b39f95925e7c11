import Moorage.CommandLine
import Moorage.Document
import Moorage.Host
import Moorage.Terminal
import Moorage.Walk.Task

/-!
# `Moorage.Command`: the commands of the program

Each command is a program over the machine. A walk starts its tasks one after
another, which is one of the orders that it allows.

* `Command.run`: what an invocation does.
* `Command.settingsOf`: the settings that it works with.
-/

set_option autoImplicit false

namespace Moorage.Command

open Host (call)

/-- A part of a command that may fail. -/
abbrev Step (α : Type) := ExceptT Error (Program Host.interface) α

/-- The settings of the environment, with what the invocation changes in them. -/
def settingsOf (env : Environment) (i : Invocation) : Settings :=
  let s := Settings.ofEnvironment env
  let s := match i.home with
    | some home => s.rehomed home
    | none => s
  { s with forcePull := s.forcePull || i.forcePull }

/-- Prints a line. -/
def printLine (line : String) : Step Unit :=
  ExceptT.lift (call (.print (line ++ "\n")))

/-- Prints lines in order. -/
def printLines : List String → Step Unit
  | [] => pure ()
  | line :: rest => do
      printLine line
      printLines rest

/-- The graph of a document, seen from the working directory. -/
def loadGraph (cwd file : String) : Step Graph := do
  let contents ← ExceptT.lift (call (.readFile file))
  let registry ← ExceptT.mk (pure (Document.loadFile cwd file contents))
  ExceptT.mk (pure (Graph.build registry))

/-- Where the engine listens when nothing else is said. -/
def defaultSocket : String := "/var/run/docker.sock"

/-- The socket of an address on this machine. -/
def socketOf (address : Option String) : String :=
  match address.bind fun a => Text.dropLead? "unix://".toList a.toList with
  | some path => String.ofList path
  | none => defaultSocket

/-- The engine that the settings name. A socket on this machine must exist. -/
def locateEngine (s : Settings) : Step String := do
  match s.engineAddress.filter fun a => (Text.dropLead? "tcp://".toList a.toList).isSome with
  | some address => return address
  | none =>
      let socket := socketOf s.engineAddress
      let found : Except FileFault Bool ← ExceptT.lift (call (.pathExists socket))
      if found.toOption.getD false then return "unix://" ++ socket
      else throw (.engine "connect" (.exchange s!"socket not found: {socket}"))

/-- The engine that the settings name, which has to answer. -/
def connect (s : Settings) : Step String := do
  let engine ← locateEngine s
  ExceptT.mk (Host.perform engine Docker.ping)
  return engine

/-- Creates the shared network, unless one has its name. -/
def ensureNetwork (engine name subnet : String) : Step Unit := do
  let existing ← ExceptT.mk (Host.perform engine (Docker.findNetworks name))
  if existing.isEmpty then
    let labels := [(Naming.labelFqdn, Naming.fqdn name "network")]
    let _ ← ExceptT.mk (Host.perform engine (Docker.createNetwork name subnet labels))
  else pure ()

/-- The walk after its tasks, no more than `limit`, were done one after another. -/
def advance (settings : Settings) (engine : String) (g : Graph) :
    (limit : Nat) → Walk → Program Host.interface Walk
  | 0, w => return w
  | limit + 1, w => do
      let cancelled : Bool ← call .isCancelled
      let (w, _) := w.drain g cancelled (Walk.moveLimit g)
      match w.running with
      | [] => return w
      | position :: _ => do
          let outcome ← Host.act engine (Walk.task settings g w.kind position)
          advance settings engine g limit (w.finish g position outcome)

/-- The end of a walk over a graph. -/
def walk (settings : Settings) (engine : String) (g : Graph) (kind : WalkKind) :
    Program Host.interface Walk :=
  advance settings engine g (Walk.moveLimit g + 1)
    (Walk.begin g kind (Board.ofResources g.resources))

/-- A span in seconds with one decimal place. -/
def secondsText (d : Duration) : String :=
  let tenths := (d.nanos + 50000000) / 100000000
  s!"{tenths / 10}.{tenths % 10}"

/-- The present instant. -/
def now : Step Duration := ExceptT.lift (call .now)

/-- Creates every resource. -/
def up (cwd : String) (settings : Settings) (i : Invocation) : Step Unit := do
  let started ← now
  let g ← loadGraph cwd i.file
  let engine ← connect settings
  match settings.wanNetwork with
  | some name => ensureNetwork engine name settings.wanSubnet
  | none => pure ()
  let w ← ExceptT.lift (walk settings engine g .apply)
  printLines ([""] ++ Terminal.standings g w.board ++ [""])
  match w.result with
  | .ok () =>
      let ended ← now
      printLine (Terminal.applied g.size (secondsText ⟨ended.nanos - started.nanos⟩))
  | .error error =>
      printLines (Terminal.indented (Terminal.failureLines error) ++ [Terminal.applyFailed])
      throw error

/-- Destroys every resource. -/
def down (cwd : String) (settings : Settings) (i : Invocation) : Step Unit := do
  let g ← loadGraph cwd i.file
  let engine ← connect settings
  let w ← ExceptT.lift (walk settings engine g .destroy)
  match w.result with
  | .ok () => printLine (Terminal.destroyed g.size)
  | .error error =>
      printLines (Terminal.indented (Terminal.failureLines error))
      throw error

/-- Prints the order of creation. -/
def plan (cwd : String) (i : Invocation) : Step Unit := do
  let g ← loadGraph cwd i.file
  ExceptT.lift (call (.print (s!"Plan for: {i.file}\n\n" ++ Terminal.plan g)))

/-- Prints the runtime objects of resources in order. -/
def showObjects (settings : Settings) (engine : String) : List Resource → Step Unit
  | [] => pure ()
  | r :: rest => do
      let found ← ExceptT.lift (Host.act engine (Provider.lookup settings r))
      printLine (Terminal.objectsLine r.label found)
      showObjects settings engine rest

/-- Prints the runtime objects of every resource. -/
def status (cwd : String) (settings : Settings) (i : Invocation) : Step Unit := do
  let g ← loadGraph cwd i.file
  let engine ← connect settings
  showObjects settings engine g.inOrder

/-- What an invocation does, from a working directory and in an environment. -/
def run (cwd : String) (env : Environment) (i : Invocation) :
    Program Host.interface (Except Error Unit) :=
  let settings := settingsOf env i
  ExceptT.run <|
    match i.verb with
    | .up => up cwd settings i
    | .down => down cwd settings i
    | .plan => plan cwd i
    | .status => status cwd settings i

end Moorage.Command
