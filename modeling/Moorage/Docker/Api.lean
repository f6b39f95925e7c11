import Moorage.Docker.Frames
import Moorage.Error
import Moorage.Http
import Moorage.Program
import Moorage.Resource

/-!
# `Moorage.Docker.Api`: the calls of the engine's interface

One call for each request that the engine understands, with the answer to it.
Archives are staged in files of the machine, so that tasks ask for these, too. A
file is opened, made and packed by one need each, because each of these may fail on
its own. What an archive holds once it is packed is not said here: that is what
comes out when it is read.

* `Docker.Call`, `Docker.Answer`: the calls of the engine and their answers.
* `Docker.Fault`: why a call fails, and the failures that come of it.
* `Docker.PackFault`: why a file is not packed, and the same for that.
* `Docker.Need`, `Docker.Supply`: the calls and the files and names for staging.
* `Docker.Task`: a program over these that may fail.
-/

set_option autoImplicit false

namespace Moorage.Docker

/-- Why the engine gives no answer to a call. -/
inductive Fault where
  /-- The engine refused the request, in its own words. -/
  | status (code : Nat) (message : String)
  /-- The engine reported a failure in the middle of its answer. -/
  | stream
  /-- No response came back. -/
  | exchange (fault : Http.Fault)
  /-- The response does not hold what it should. -/
  | unreadable
  deriving DecidableEq, Repr

/-- What is wrong with an engine that gives no answer. -/
def Fault.engineFault : Fault → EngineFault
  | status code message => .reported s!"Docker responded with status code {code}: {message}"
  | stream => .reported "Docker stream error"
  | exchange fault => .exchange fault.message
  | unreadable => .exchange "unreadable response"

/-- The failure of an operation. -/
def Fault.error (operation : String) (fault : Fault) : Error := .engine operation fault.engineFault

/-- The failure of an operation on an object, which may be missing. -/
def Fault.errorOn (operation object id : String) : Fault → Error
  | .status 404 _ => .notFound object id
  | fault => fault.error operation

/-- The failure of a command that is run. Once the engine has accepted it, what goes
wrong with its output is a failure of the output. -/
def Fault.execError (fault : Fault) : Error :=
  match fault with
  | .stream | .unreadable => fault.error "exec output"
  | .status _ _ | .exchange _ => fault.error "start exec"

/-- Why a file is not packed into an archive. -/
inductive PackFault where
  /-- The file cannot be read to its end, or the archive cannot be written. -/
  | file (fault : FileFault)
  /-- The thread that packs is lost before it is done. -/
  | lost (message : String)
  deriving DecidableEq, Repr

/-- The failure of packing into an archive. It names the archive also where the
file that goes into it cannot be read. -/
def PackFault.error (archive : String) : PackFault → Error
  | file fault => .io archive fault
  | lost message => .engine "pack images" (.reported message)

/-- A container or network in a listing, as far as the engine describes it. -/
structure Listed where
  id : Option String
  name : Option String := none
  deriving DecidableEq, Repr

/-- The calls of the engine's interface. -/
inductive Call where
  | ping
  | inspectImage (name : String)
  | pullImage (image : Image)
  | exportImages (names : List String)
  | createContainer (name : String) (body : Json)
  | startContainer (id : String)
  | removeContainer (id : String)
  | listContainers (label : String)
  | containerLogs (id : String)
  | download (id path : String)
  | upload (id directory : String) (archive : ByteArray)
  | createVolume (name : String)
  | createNetwork (name subnet : String) (labels : TextMap)
  | connectNetwork (network id : String) (address : Option String) (aliases : List String)
  | disconnectNetwork (network id : String)
  | listNetworks (name : String)
  | removeNetwork (id : String)
  | createExec (id : String) (command : List String)
  | startExec (exec : String)
  | inspectExec (exec : String)

/-- The answers to the calls. -/
def Answer : Call → Type
  | .ping => Except Fault Unit
  | .inspectImage _ => Except Fault Unit
  | .pullImage _ => Except Fault Unit
  | .exportImages _ => Except Fault ByteArray
  | .createContainer _ _ => Except Fault String
  | .startContainer _ => Except Fault Unit
  | .removeContainer _ => Except Fault Unit
  | .listContainers _ => Except Fault (List Listed)
  | .containerLogs _ => Except Fault (List Frame)
  | .download _ _ => Except Fault ByteArray
  | .upload _ _ _ => Except Fault Unit
  | .createVolume _ => Except Fault String
  | .createNetwork _ _ _ => Except Fault String
  | .connectNetwork _ _ _ _ => Except Fault Unit
  | .disconnectNetwork _ _ => Except Fault Unit
  | .listNetworks _ => Except Fault (List Listed)
  | .removeNetwork _ => Except Fault Unit
  | .createExec _ _ => Except Fault String
  | .startExec _ => Except Fault (List Frame)
  | .inspectExec _ => Except Fault (Option Int)

/-- What tasks ask for: a call of the engine, a name that nobody has, or something
of the directory in which archives are staged. -/
inductive Need where
  | engine (call : Call)
  | uniqueId
  | makeStaging
  | discardStaging (directory : String)
  /-- Opens a file for reading. -/
  | openFile (path : String)
  /-- Makes an empty file, also in place of one that is there. -/
  | createFile (path : String)
  /-- Fills a file that was made. -/
  | writeFile (path : String) (contents : ByteArray)
  /-- Reads a file that was opened. -/
  | streamFile (path : String)
  /-- Packs a file that was opened, under a name, into an archive that was made. -/
  | packFile (name source archive : String)

/-- What they get. A file that is streamed has no fault: what cannot be read is
missing at its end. -/
def Supply : Need → Type
  | .engine call => Answer call
  | .uniqueId => String
  | .makeStaging => Except Error String
  | .discardStaging _ => Unit
  | .openFile _ => Except FileFault Unit
  | .createFile _ => Except FileFault Unit
  | .writeFile _ _ => Except FileFault Unit
  | .streamFile _ => ByteArray
  | .packFile _ _ _ => Except PackFault Unit

/-- The interface of tasks. -/
def interface : Interface := ⟨Need, Supply⟩

/-- A program over these needs that may fail. -/
abbrev Task (α : Type) := ExceptT Error (Program interface) α

/-- One call of the engine. -/
def call (c : Call) : Program interface (Answer c) := Program.perform (I := interface) (.engine c)

/-- The task of one call, whose faults become failures. -/
def request {α : Type} (onFault : Fault → Error)
    (program : Program interface (Except Fault α)) : Task α :=
  ExceptT.mk do return (← program).mapError onFault

/-- The task of a file operation, whose faults name the path. -/
def onFile {α : Type} (path : String) (program : Program interface (Except FileFault α)) :
    Task α :=
  ExceptT.mk do return (← program).mapError (Error.io path)

end Moorage.Docker
