import Moorage.Cluster.Nomad.Nodes
import Moorage.Docker
import Moorage.Docker.Client
import Moorage.Kubernetes.Access
import Moorage.Kubernetes.Pods
import Moorage.Release.Helm
import Moorage.Text.Encoding

/-!
# `Moorage.Host`: the machine that does the work

What the machine itself offers: exchanges with servers, the `helm` program, files,
a clock and a terminal. Everything that providers ask for is a program over these.

* `Host.Call`, `Host.Answer`: the calls of the machine and their answers.
* `Host.serve`: the program for a call of a provider.
-/

set_option autoImplicit false

namespace Moorage.Host

/-- The calls of the machine. -/
inductive Call where
  | exchange (request : Http.Request)
  | runHelm (arguments : List String)
  | readFile (path : String)
  | openFile (path : String)
  | streamFile (path : String)
  | writeFile (path : String) (contents : ByteArray)
  | packFile (name source archive : String)
  | createDirectories (path : String)
  | removeTree (path : String)
  | pathExists (path : String)
  | isDirectory (path : String)
  | makeStaging
  | uniqueId
  | freshToken
  | allocatePorts (count : Nat)
  | now
  | today
  | isCancelled
  | pause (span : Duration)
  | print (text : String)

/-- The answers to the calls. -/
def Answer : Call → Type
  | .exchange _ => Http.Exchange
  | .runHelm _ => Helm.Outcome
  | .readFile _ => Except FileFault ByteArray
  | .openFile _ => Except FileFault Unit
  | .streamFile _ => ByteArray
  | .writeFile _ _ => Except FileFault Unit
  | .packFile _ _ _ => Except Docker.PackFault Unit
  | .createDirectories _ => Except FileFault Unit
  | .removeTree _ => Except FileFault Unit
  | .pathExists _ => Except FileFault Bool
  | .isDirectory _ => Bool
  | .makeStaging => Except Error String
  | .uniqueId => String
  | .freshToken => String
  | .allocatePorts _ => Except Error (List UInt16)
  | .now => Duration
  | .today => Instant
  | .isCancelled => Bool
  | .pause _ => Bool
  | .print _ => Unit

/-- The interface of these calls. -/
def interface : Interface := ⟨Call, Answer⟩

/-- One call of the machine. -/
def call (c : Call) : Program interface (Answer c) := Program.perform (I := interface) c

/-- The supply of what tasks of the engine at an address need. -/
def supply (engine : String) : (need : Docker.Need) → Program interface (Docker.Supply need)
  | .engine c => do return c.read (← call (.exchange (c.request engine)))
  | .uniqueId => call .uniqueId
  | .makeStaging => call .makeStaging
  | .discardStaging directory => do
      let _ ← call (.removeTree directory)
      return ()
  | .openFile path => call (.openFile path)
  | .createFile path => call (.writeFile path ByteArray.empty)
  | .writeFile path contents => call (.writeFile path contents)
  | .streamFile path => call (.streamFile path)
  | .packFile name source archive => call (.packFile name source archive)

/-- A task of the engine at an address. -/
def perform {α : Type} (engine : String) (task : Docker.Task α) :
    Program interface (Except Error α) :=
  task.run.interpret (supply engine)

/-- The way to the cluster of a kubeconfig. -/
def connect (kubeconfig : String) : Program interface (Except Error ClusterAccess) := do
  let refused (detail : String) : Error := .engine "kubernetes connect" (.exchange detail)
  let files (path : String) : Program interface (Except FileFault ByteArray) :=
    call (.readFile path)
  match ← files kubeconfig with
  | .error fault => return .error (refused fault.message)
  | .ok contents =>
      match Text.Encoding.decode contents with
      | none => return .error (refused FileFault.notText.message)
      | some text =>
          let access ← Kubernetes.access files (← call .today) (Path.parent kubeconfig) text
          return access.mapError fun fault => refused fault.message

/-- The program for a call of a provider, over the engine at an address. Children
are not kept. -/
def serve (engine : String) : (c : Service.Call) → Program interface (Service.Answer c)
  | .imageExists image => perform engine (Docker.imageExists image)
  | .pullImage image => perform engine (Docker.pullImage image)
  | .createContainer name blueprint =>
      perform engine (Docker.createContainer name blueprint.json)
  | .connectNetwork id network address aliases =>
      perform engine (Docker.connectNetwork id network address aliases)
  | .startContainer id => perform engine (Docker.startContainer id)
  | .removeContainer id => perform engine (Docker.removeContainer id)
  | .findContainers fqdn => perform engine (Docker.findContainers fqdn)
  | .containerLogs id => perform engine (Docker.containerLogs id)
  | .copyFromContainer id path => perform engine (Docker.copyFromContainer id path)
  | .createVolume name => perform engine (Docker.createVolume name)
  | .createNetwork name subnet labels => perform engine (Docker.createNetwork name subnet labels)
  | .findNetworks name => perform engine (Docker.findNetworks name)
  | .removeNetwork id => perform engine (Docker.removeNetwork id)
  | .copyImagesToVolume images volume =>
      perform engine (Docker.copyImagesToVolume images volume)
  | .exec id command => perform engine (Docker.exec id command)
  | .kubernetesConnect kubeconfig => connect kubeconfig
  | .podsReady access selector => do
      return Kubernetes.readPods (← call (.exchange (Kubernetes.podsRequest access selector)))
  | .helmInstall release => do
      return Helm.installed (← call (.runHelm release.installArguments))
  | .helmUninstall kubeconfig name namespaceName => do
      return Helm.removed name
        (← call (.runHelm (Release.uninstallArguments kubeconfig name namespaceName)))
  | .nomadReady address => do
      return Cluster.Nomad.readNodes (← call (.exchange (Cluster.Nomad.nodesRequest address)))
  | .createDirectories path => call (.createDirectories path)
  | .writeFile path contents => call (.writeFile path contents.toUTF8)
  | .removeTree path => call (.removeTree path)
  | .pathExists path => call (.pathExists path)
  | .isDirectory path => call (.isDirectory path)
  | .allocatePorts count => call (.allocatePorts count)
  | .freshToken => call .freshToken
  | .recordChild _ => return ()
  | .now => call .now
  | .deadline after => do
      let now : Duration ← call .now
      return (⟨now.nanos + after.nanos⟩ : Duration)
  | .isCancelled => call .isCancelled
  | .pause span => call (.pause span)

/-- An action of a provider, over the engine at an address. -/
def act {α : Type} (engine : String) (action : Action α) : Program interface (Except Error α) :=
  action.run.interpret (serve engine)

end Moorage.Host
