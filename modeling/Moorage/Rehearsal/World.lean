import Moorage.Board
import Moorage.Ports
import Moorage.Rehearsal.FileTree
import Moorage.Rehearsal.Script
import Moorage.Resource.Json
import Moorage.Service
import Moorage.Text.Digits

/-!
# `Moorage.Rehearsal.World`: surroundings without engines and clusters

A world that keeps track of images, containers, networks and files, answers
everything else from scripts, and has a clock of its own. Calls of the services
are recorded before anything happens to them.

* `World`: the state of the surroundings.
* `World.meet`: what becomes of one call: an answer at once, or a wait.
-/

set_option autoImplicit false

namespace Moorage.Rehearsal

/-- A container of the world. -/
structure Vessel where
  id : String
  name : String
  fqdn : String
  deriving DecidableEq, Repr

/-- A recorded call: when it was made, its name and its arguments. -/
structure Entry where
  time : Duration
  call : String
  arguments : List Json
  deriving Repr

/-- The surroundings of a rehearsal. -/
structure World where
  clock : Duration := ⟨0⟩
  images : List String := []
  vessels : List Vessel := []
  /-- The networks: their ids and names. -/
  networks : List (String × String) := []
  /-- How many containers and networks were created. -/
  created : Nat := 0
  files : FileTree := {}
  /-- The files inside of containers, which are the same for all. -/
  innerFiles : List (String × ByteArray) := []
  logs : Script String := []
  outputs : Script ExecOutput := []
  nodes : Script Nat := []
  pods : List (String × Script (Except Error Bool)) := []
  archives : List String := ["/images/images-test.tar"]
  failures : List (Rule Mishap) := []
  delays : List (Rule Duration) := []
  nextPort : UInt16 := Ports.first
  /-- The ports that were handed out, the newest first. -/
  ports : List UInt16 := []
  /-- How many tokens were handed out. -/
  tokens : Nat := 0
  board : Board := {}
  cancelled : Bool := false
  /-- When the work is to be cancelled. -/
  cancelAt : List Duration := []
  /-- The calls so far, the newest first. -/
  record : List Entry := []

/-- What becomes of a call. A call that crashes its task ends in a text. -/
inductive Encounter (α : Type) where
  | answered (outcome : Except String α) (world : World)
  | wait (due : Duration) (cuttable : Bool)
      (resume : (cut : Bool) → World → Except String α × World) (world : World)

namespace World

/-- The world with a call recorded. -/
def noted (w : World) (call : String) (arguments : List Json) : World :=
  { w with record := ⟨w.clock, call, arguments⟩ :: w.record }

/-- The names by which rules know what a call is about: its key, and the name of
the container whose id the key is. -/
def keysOf (w : World) (key : String) : List String :=
  key :: ((w.vessels.find? (·.id = key)).map Vessel.name).toList

/-- What a call comes to: its mishap, or its effect. -/
def settle {α : Type} (mishap : Option Mishap) (effect : World → Except Error α × World)
    (w : World) : Except String (Except Error α) × World :=
  match mishap with
  | some .crash => (.error "scripted panic", w)
  | some (.failure error) => (.ok (.error error), w)
  | none =>
      let (answer, w) := effect w
      (.ok answer, w)

/-- A call with a part in the script. The rules that apply to it are chosen when it
is made. -/
def scripted {α : Type} (w : World) (call key : String) (arguments : List Json)
    (effect : World → Except Error α × World) : Encounter (Except Error α) :=
  let w := w.noted call arguments
  let (delay, delays) := Rule.pick call (w.keysOf key) w.delays
  let (mishap, failures) := Rule.pick call (w.keysOf key) w.failures
  let w := { w with delays := delays, failures := failures }
  let delay := delay.getD ⟨0⟩
  if delay.nanos = 0 then
    let (outcome, w) := settle mishap effect w
    .answered outcome w
  else .wait ⟨w.clock.nanos + delay.nanos⟩ false (fun _ => settle mishap effect) w

/-- An answer at once. -/
def reply {α : Type} (w : World) (answer : α) : Encounter α := .answered (.ok answer) w

/-- An answer at once from a change of the files. -/
def onFiles (w : World) (change : FileTree → Except FileFault Unit × FileTree) :
    Encounter (Except FileFault Unit) :=
  let (outcome, files) := change w.files
  { w with files := files }.reply outcome

/-- A new id, and the world afterwards. -/
def newId (w : World) (stem : String) : String × World :=
  (stem ++ toString (w.created + 1), { w with created := w.created + 1 })

/-- A container comes to be. -/
def addVessel (name : String) (blueprint : Blueprint) (w : World) :
    Except Error String × World :=
  let (id, w) := w.newId "id-"
  let fqdn := ((blueprint.labels.find? (·.1 = Naming.labelFqdn)).map (·.2)).getD ""
  (.ok id, { w with vessels := w.vessels ++ [⟨id, name, fqdn⟩] })

/-- A container goes. -/
def dropVessel (id : String) (w : World) : Except Error Unit × World :=
  if w.vessels.any (·.id = id) then
    (.ok (), { w with vessels := w.vessels.filter (·.id ≠ id) })
  else (.error (.notFound "container" id), w)

/-- A network comes to be. -/
def addNetwork (name : String) (w : World) : Except Error String × World :=
  let (id, w) := w.newId "net-"
  (.ok id, { w with networks := w.networks ++ [(id, name)] })

/-- A network goes. -/
def dropNetwork (id : String) (w : World) : Except Error Unit × World :=
  if w.networks.any (·.1 = id) then
    (.ok (), { w with networks := w.networks.filter (·.1 ≠ id) })
  else (.error (.notFound "network" id), w)

/-- A file from inside of a container. -/
def innerFile (path : String) (w : World) : Except Error ByteArray × World :=
  match w.innerFiles.find? (·.1 = path) with
  | some (_, contents) => (.ok contents, w)
  | none => (.error (.notFound "file" path), w)

/-- The next answer of the pods under a selector, which are ready unless the script
says otherwise. -/
def podAnswer (selector : String) (w : World) : Except Error Bool × World :=
  match w.pods.find? (·.1 = selector) with
  | none => (.ok true, w)
  | some (_, script) =>
      let (answer, script) := script.next (.ok true)
      (answer, { w with
        pods := w.pods.map fun entry => if entry.1 = selector then (selector, script) else entry })

/-- The next log of a container. A log without a script is that of a server that
runs. -/
def nextLog (w : World) : Except Error String × World :=
  let (log, logs) := w.logs.next s!"starting\n{Naming.k3sReadyMarker}\n"
  (.ok log, { w with logs := logs })

/-- The output of the next command. -/
def nextOutput (w : World) : Except Error ExecOutput × World :=
  let (output, outputs) := w.outputs.next {}
  (.ok output, { w with outputs := outputs })

/-- The next count of ready nodes; without a script there are plenty. -/
def nextNodes (w : World) : Except Error Nat × World :=
  let (count, nodes) := w.nodes.next 1000
  (.ok count, { w with nodes := nodes })

/-- Ports that nobody was given before. Every port of the host is free. -/
def takePorts (count : Nat) (w : World) :
    Except String (Except Error (List UInt16)) × World :=
  let (outcome, next) := Ports.serve (fun _ => true) count w.nextPort
  let taken := ((outcome.toOption.bind Except.toOption).getD []).reverse
  (outcome, { w with nextPort := next, ports := taken ++ w.ports })

/-- The token of a number: thirty-two hexadecimal digits. -/
def tokenText (number : Nat) : String :=
  let digits := Nat.toDigits 16 number
  String.ofList (List.replicate (32 - digits.length) '0' ++ digits)

/-- The effect of a call that changes nothing. -/
def nothing {α : Type} (answer : α) (w : World) : Except Error α × World := (.ok answer, w)

/-- What becomes of a call of the resource at position `owner`. -/
def meet (owner : Nat) (w : World) : (call : Service.Call) → Encounter (Service.Answer call)
  | .imageExists image =>
      w.scripted "image_exists" image [.string image] fun w => (.ok (image ∈ w.images), w)
  | .pullImage image =>
      w.scripted "pull_image" image.name [image.json] fun w =>
        (.ok (), { w with images := w.images ++ [image.name] })
  | .createContainer name blueprint =>
      w.scripted "create_container" name [.string name, blueprint.json] (addVessel name blueprint)
  | .connectNetwork id network address aliases =>
      w.scripted "connect_network" network
        [.string id, .string network, .orNull address, .strings aliases]
        (nothing ())
  | .startContainer id => w.scripted "start_container" id [.string id] (nothing ())
  | .removeContainer id => w.scripted "remove_container" id [.string id] (dropVessel id)
  | .findContainers fqdn =>
      w.scripted "find_containers" fqdn [.string fqdn] fun w =>
        (.ok ((w.vessels.filter (·.fqdn = fqdn)).map Vessel.id), w)
  | .containerLogs id => w.scripted "container_logs" id [.string id] nextLog
  | .copyFromContainer id path =>
      w.scripted "copy_from_container" id [.string id, .string path] (innerFile path)
  | .createVolume name => w.scripted "create_volume" name [.string name] (nothing name)
  | .createNetwork name subnet labels =>
      w.scripted "create_network" name
        [.string name, .string subnet, .textMap labels]
        (addNetwork name)
  | .findNetworks name =>
      w.scripted "find_networks" name [.string name] fun w =>
        (.ok ((w.networks.filter (·.2 = name)).map (·.1)), w)
  | .removeNetwork id => w.scripted "remove_network" id [.string id] (dropNetwork id)
  | .copyImagesToVolume images volume =>
      w.scripted "copy_images_to_volume" volume [Json.strings images, .string volume] fun w =>
        (.ok w.archives, w)
  | .exec id command => w.scripted "exec" id [.string id, Json.strings command] nextOutput
  | .kubernetesConnect path =>
      w.scripted "kubernetes_connect" path [.string path] (nothing {})
  | .podsReady _ selector => w.scripted "pods_ready" selector [.string selector] (podAnswer selector)
  | .helmInstall release =>
      w.scripted "helm_install" release.name [Json.strings release.installArguments] (nothing ())
  | .helmUninstall kubeconfig name namespaceName =>
      w.scripted "helm_uninstall" name
        [.string kubeconfig, .string name, .string namespaceName] (nothing ())
  | .nomadReady address => w.scripted "nomad_ready" address [.string address] nextNodes
  | .createDirectories path => w.onFiles fun files => files.createDirectories path
  | .writeFile path contents => w.onFiles fun files => files.write path contents.toUTF8
  | .removeTree path => w.onFiles fun files => files.removeTree path
  | .pathExists path => w.reply (w.files.pathExists path)
  | .isDirectory path => w.reply (w.files.isDirectory path)
  | .allocatePorts count =>
      let (outcome, w) := w.takePorts count
      .answered outcome w
  | .freshToken => { w with tokens := w.tokens + 1 }.reply (tokenText w.tokens)
  | .recordChild child => { w with board := w.board.addChild owner child }.reply ()
  | .now => w.reply w.clock
  | .deadline after =>
      if w.clock.nanos + after.nanos < Nat.pow 2 63 * Duration.nanosPerSec then
        w.reply ⟨w.clock.nanos + after.nanos⟩
      else .answered (.error "overflow when adding duration to instant") w
  | .isCancelled => w.reply w.cancelled
  | .pause span =>
      if w.cancelled then w.reply true
      else if span.nanos = 0 then w.reply false
      else .wait ⟨w.clock.nanos + span.nanos⟩ true (fun cut w => (.ok cut, w)) w

end World

end Moorage.Rehearsal
