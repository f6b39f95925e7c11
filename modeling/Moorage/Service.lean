import Moorage.Container.Blueprint
import Moorage.Program
import Moorage.Release

/-!
# `Moorage.Service`: what providers ask for

The calls of the container engine, of clusters, of the `helm` program, of files,
of the clock and of the walk itself, and an action for each.

* `Service.Call`, `Service.Answer`: the calls and their answers.
* `Action`: a program over these calls that may fail.
-/

set_option autoImplicit false

namespace Moorage

/-- The output of a command that ran inside a container. -/
structure ExecOutput where
  stdout : String := ""
  stderr : String := ""
  exitCode : Int := 0
  deriving DecidableEq, Repr, Inhabited

/-- Whether the command succeeded. -/
def ExecOutput.succeeded (output : ExecOutput) : Bool := output.exitCode = 0

/-- The way to a cluster: the address of its server, and the headers that say who
asks. -/
structure ClusterAccess where
  server : String := ""
  headers : List (String × String) := []
  deriving DecidableEq, Repr, Inhabited

namespace Service

/-- The calls of providers. -/
inductive Call where
  | imageExists (image : String)
  | pullImage (image : Image)
  | createContainer (name : String) (blueprint : Blueprint)
  | connectNetwork (id network : String) (address : Option String) (aliases : List String)
  | startContainer (id : String)
  | removeContainer (id : String)
  | findContainers (fqdn : String)
  | containerLogs (id : String)
  | copyFromContainer (id path : String)
  | createVolume (name : String)
  | createNetwork (name subnet : String) (labels : TextMap)
  | findNetworks (name : String)
  | removeNetwork (id : String)
  | copyImagesToVolume (images : List String) (volume : String)
  | exec (id : String) (command : List String)
  | kubernetesConnect (kubeconfig : String)
  | podsReady (access : ClusterAccess) (selector : String)
  | helmInstall (release : Release)
  | helmUninstall (kubeconfig name namespaceName : String)
  | nomadReady (address : String)
  | createDirectories (path : String)
  | writeFile (path contents : String)
  | removeTree (path : String)
  | pathExists (path : String)
  | isDirectory (path : String)
  | allocatePorts (count : Nat)
  | freshToken
  | recordChild (child : Resource)
  | now
  | deadline (after : Duration)
  | isCancelled
  | pause (span : Duration)

/-- The answers to the calls. Instants are spans since the start of the clock. A
pause answers whether a cancellation cut it short. -/
def Answer : Call → Type
  | .imageExists _ => Except Error Bool
  | .pullImage _ => Except Error Unit
  | .createContainer _ _ => Except Error String
  | .connectNetwork _ _ _ _ => Except Error Unit
  | .startContainer _ => Except Error Unit
  | .removeContainer _ => Except Error Unit
  | .findContainers _ => Except Error (List String)
  | .containerLogs _ => Except Error String
  | .copyFromContainer _ _ => Except Error ByteArray
  | .createVolume _ => Except Error String
  | .createNetwork _ _ _ => Except Error String
  | .findNetworks _ => Except Error (List String)
  | .removeNetwork _ => Except Error Unit
  | .copyImagesToVolume _ _ => Except Error (List String)
  | .exec _ _ => Except Error ExecOutput
  | .kubernetesConnect _ => Except Error ClusterAccess
  | .podsReady _ _ => Except Error Bool
  | .helmInstall _ => Except Error Unit
  | .helmUninstall _ _ _ => Except Error Unit
  | .nomadReady _ => Except Error Nat
  | .createDirectories _ => Except FileFault Unit
  | .writeFile _ _ => Except FileFault Unit
  | .removeTree _ => Except FileFault Unit
  | .pathExists _ => Except FileFault Bool
  | .isDirectory _ => Bool
  | .allocatePorts _ => Except Error (List UInt16)
  | .freshToken => String
  | .recordChild _ => Unit
  | .now => Duration
  | .deadline _ => Duration
  | .isCancelled => Bool
  | .pause _ => Bool

/-- The interface of these calls. -/
def interface : Interface := ⟨Call, Answer⟩

end Service

/-- A program over the services that may fail. -/
abbrev Action (α : Type) := ExceptT Error (Program Service.interface) α

namespace Service

/-- The action of a call that may fail. -/
def attempt {α : Type} (program : Program interface (Except Error α)) : Action α :=
  ExceptT.mk program

/-- The action of a call that cannot fail. -/
def always {α : Type} (program : Program interface α) : Action α := ExceptT.lift program

/-- Whether an image is in the engine's cache. -/
def imageExists (image : String) : Action Bool :=
  attempt (Program.perform (I := interface) (.imageExists image))

/-- Pulls an image. -/
def pullImage (image : Image) : Action Unit :=
  attempt (Program.perform (I := interface) (.pullImage image))

/-- Creates a container outside of every network. -/
def createContainer (name : String) (blueprint : Blueprint) : Action String :=
  attempt (Program.perform (I := interface) (.createContainer name blueprint))

/-- Attaches a container to a network. -/
def connectNetwork (id network : String) (address : Option String) (aliases : List String) :
    Action Unit :=
  attempt (Program.perform (I := interface) (.connectNetwork id network address aliases))

/-- Starts a container. -/
def startContainer (id : String) : Action Unit :=
  attempt (Program.perform (I := interface) (.startContainer id))

/-- Removes a container. -/
def removeContainer (id : String) : Action Unit :=
  attempt (Program.perform (I := interface) (.removeContainer id))

/-- The containers that carry a name in their label. -/
def findContainers (fqdn : String) : Action (List String) :=
  attempt (Program.perform (I := interface) (.findContainers fqdn))

/-- The log of a container. -/
def containerLogs (id : String) : Action String :=
  attempt (Program.perform (I := interface) (.containerLogs id))

/-- A file of a container. -/
def copyFromContainer (id path : String) : Action ByteArray :=
  attempt (Program.perform (I := interface) (.copyFromContainer id path))

/-- Creates a volume, or takes the one with that name. -/
def createVolume (name : String) : Action String :=
  attempt (Program.perform (I := interface) (.createVolume name))

/-- Creates a network. -/
def createNetwork (name subnet : String) (labels : TextMap) : Action String :=
  attempt (Program.perform (I := interface) (.createNetwork name subnet labels))

/-- The networks with a name. -/
def findNetworks (name : String) : Action (List String) :=
  attempt (Program.perform (I := interface) (.findNetworks name))

/-- Removes a network. -/
def removeNetwork (id : String) : Action Unit :=
  attempt (Program.perform (I := interface) (.removeNetwork id))

/-- Puts an archive of images into a volume, and names the archives there. -/
def copyImagesToVolume (images : List String) (volume : String) : Action (List String) :=
  attempt (Program.perform (I := interface) (.copyImagesToVolume images volume))

/-- Runs a command inside a container. -/
def exec (id : String) (command : List String) : Action ExecOutput :=
  attempt (Program.perform (I := interface) (.exec id command))

/-- Opens the cluster of a kubeconfig. -/
def kubernetesConnect (kubeconfig : String) : Action ClusterAccess :=
  attempt (Program.perform (I := interface) (.kubernetesConnect kubeconfig))

/-- Whether there are pods under a selector and all of them are ready. -/
def podsReady (access : ClusterAccess) (selector : String) : Action Bool :=
  attempt (Program.perform (I := interface) (.podsReady access selector))

/-- Installs a release. -/
def helmInstall (release : Release) : Action Unit :=
  attempt (Program.perform (I := interface) (.helmInstall release))

/-- Removes a release. -/
def helmUninstall (kubeconfig name namespaceName : String) : Action Unit :=
  attempt (Program.perform (I := interface) (.helmUninstall kubeconfig name namespaceName))

/-- The number of ready nodes of the Nomad cluster at an address. -/
def nomadReady (address : String) : Action Nat :=
  attempt (Program.perform (I := interface) (.nomadReady address))

/-- Creates a directory and the ones above it. -/
def createDirectories (path : String) : Action (Except FileFault Unit) :=
  always (Program.perform (I := interface) (.createDirectories path))

/-- Writes a file. -/
def writeFile (path contents : String) : Action (Except FileFault Unit) :=
  always (Program.perform (I := interface) (.writeFile path contents))

/-- Removes a directory and everything in it. -/
def removeTree (path : String) : Action (Except FileFault Unit) :=
  always (Program.perform (I := interface) (.removeTree path))

/-- Whether there is something at a path, if that can be told. -/
def pathExists (path : String) : Action (Except FileFault Bool) :=
  always (Program.perform (I := interface) (.pathExists path))

/-- Whether there is a directory at a path. -/
def isDirectory (path : String) : Action Bool :=
  always (Program.perform (I := interface) (.isDirectory path))

/-- Free host ports that nobody was given before. -/
def allocatePorts (count : Nat) : Action (List UInt16) :=
  attempt (Program.perform (I := interface) (.allocatePorts count))

/-- A random secret of thirty-two hexadecimal digits. -/
def freshToken : Action String := always (Program.perform (I := interface) .freshToken)

/-- Records a child of the resource that the action works for. -/
def recordChild (child : Resource) : Action Unit :=
  always (Program.perform (I := interface) (.recordChild child))

/-- The present instant. -/
def now : Action Duration := always (Program.perform (I := interface) .now)

/-- The instant that lies a span ahead. -/
def deadline (after : Duration) : Action Duration :=
  always (Program.perform (I := interface) (.deadline after))

/-- Whether the work was cancelled. -/
def isCancelled : Action Bool := always (Program.perform (I := interface) .isCancelled)

/-- Waits for a span, or until the work is cancelled. -/
def pause (span : Duration) : Action Bool :=
  always (Program.perform (I := interface) (.pause span))

/-- The action with its failure put down to a step of a resource. -/
def within {α : Type} (owner step : String) (action : Action α) : Action α :=
  ExceptT.mk do
    match ← action.run with
    | .ok value => return .ok value
    | .error error => return .error (.provider owner step error)

/-- Refuses with a failure put down to a step of a resource. -/
def refuse {α : Type} (owner step : String) (error : Error) : Action α :=
  throw (.provider owner step error)

end Service

end Moorage
