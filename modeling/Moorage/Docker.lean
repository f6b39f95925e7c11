import Moorage.Container.Blueprint
import Moorage.Docker.Api
import Moorage.Image.Name
import Moorage.Service
import Moorage.Tar

/-!
# `Moorage.Docker`: the operations of the container engine

Every operation of the engine as a task over its interface.

* `Docker.createContainer`: a new container, off the default network.
* `Docker.copyImagesToVolume`: an archive of images, put into a volume through a
  container that lives as long as the upload.
-/

set_option autoImplicit false

namespace Moorage.Docker

/-- Checks that the engine answers. -/
def ping : Task Unit :=
  request (Fault.error "ping") (call .ping)

/-- Whether an image is in the cache. -/
def imageExists (name : String) : Task Bool :=
  ExceptT.mk do
    match ← call (.inspectImage name) with
    | .ok () => return .ok true
    | .error (.status 404 _) => return .ok false
    | .error fault => return .error (fault.error "inspect image")

/-- Pulls an image. -/
def pullImage (image : Image) : Task Unit :=
  request (Fault.error "pull image") (call (.pullImage image))

/-- The network that the engine attaches new containers to. -/
def defaultNetwork : String := "bridge"

/-- Creates a container and takes it off the default network, where it need not
have been. -/
def createContainer (name : String) (body : Json) : Task String := do
  let id ← request (Fault.error "create container")
    (call (.createContainer name body))
  let _ ← ExceptT.lift
    (call (.disconnectNetwork defaultNetwork id))
  return id

/-- Attaches a container to a network. -/
def connectNetwork (id network : String) (address : Option String) (aliases : List String) :
    Task Unit :=
  request (Fault.errorOn "connect network" "network" network)
    (call (.connectNetwork network id address aliases))

/-- Starts a container. -/
def startContainer (id : String) : Task Unit :=
  request (Fault.errorOn "start container" "container" id)
    (call (.startContainer id))

/-- Removes a container with its anonymous volumes. -/
def removeContainer (id : String) : Task Unit :=
  request (Fault.errorOn "remove container" "container" id)
    (call (.removeContainer id))

/-- Starts a container, and removes it if it cannot be started. -/
def startOrRemove (id : String) : Task Unit :=
  tryCatch (startContainer id) fun error => do
    tryCatch (removeContainer id) fun _ => pure ()
    throw error

/-- The containers whose label carries a name. -/
def findContainers (fqdn : String) : Task (List String) := do
  let listed ← request (Fault.error "list containers")
    (call (.listContainers (Naming.labelFqdn ++ "=" ++ fqdn)))
  return listed.filterMap Listed.id

/-- The output of a container so far. -/
def containerLogs (id : String) : Task String := do
  let frames ← request (Fault.errorOn "container logs" "container" id)
    (call (.containerLogs id))
  return String.join (frames.map Frame.text)

/-- A file of a container: the first one in the archive that the engine sends. -/
def copyFromContainer (id path : String) : Task ByteArray := do
  let archive ← request (Fault.errorOn "copy from container" "file" path)
    (call (.download id path))
  match Tar.firstFile? archive with
  | none => throw (.io path .notArchive)
  | some none => throw (.notFound "file" path)
  | some (some contents) => return contents

/-- Creates a volume, or takes the one with that name. -/
def createVolume (name : String) : Task String :=
  request (Fault.error "create volume") (call (.createVolume name))

/-- Creates a network. -/
def createNetwork (name subnet : String) (labels : TextMap) : Task String :=
  request (Fault.error "create network")
    (call (.createNetwork name subnet labels))

/-- The networks of exactly this name; the engine lists those whose name has it as
a part. -/
def findNetworks (name : String) : Task (List String) := do
  let listed ← request (Fault.error "list networks")
    (call (.listNetworks name))
  return (listed.filter fun network => network.name = some name).filterMap Listed.id

/-- Removes a network. -/
def removeNetwork (id : String) : Task Unit :=
  request (Fault.errorOn "remove network" "network" id)
    (call (.removeNetwork id))

/-- Runs a command in a container. A command without an exit code counts as
failed. -/
def exec (id : String) (command : List String) : Task ExecOutput := do
  let exec ← request (Fault.errorOn "create exec" "container" id)
    (call (.createExec id command))
  let frames ← request Fault.execError
    (call (.startExec exec))
  let exitCode ← request (Fault.error "inspect exec")
    (call (.inspectExec exec))
  return { stdout := textOf .stdout frames, stderr := textOf .stderr frames,
           exitCode := exitCode.getD (-1) }

/-- Saves an archive of images, as the engine exports it, to a file. The file is
made before the engine is asked. -/
def exportImages (images : List String) (path : String) : Task Unit := do
  onFile path (Program.perform (I := interface) (.createFile path))
  let archive ← request (Fault.error "export images")
    (call (.exportImages images))
  onFile path (Program.perform (I := interface) (.writeFile path archive))

/-- Packs a file into an archive under a name. Both files are opened before anything
is packed, and from then on every failure is one of the archive. -/
def pack (name source archive : String) : Task Unit := do
  onFile source (Program.perform (I := interface) (.openFile source))
  onFile archive (Program.perform (I := interface) (.createFile archive))
  ExceptT.mk do
    return (← Program.perform (I := interface) (.packFile name source archive)).mapError
      (PackFault.error archive)

/-- The body that asks for a helper container, which holds a volume and waits. -/
def helperBody (volume : String) : Json :=
  .object [("Image", .string Naming.helperImage),
    ("Cmd", Json.strings ["tail", "-f", "/dev/null"]),
    ("HostConfig", .object [("Mounts", .array [.object [("Target", .string Naming.imagesMount),
      ("Source", .string volume), ("Type", .string VolumeKind.volume.keyword)]])])]

/-- Starts a helper container for a volume. -/
def runHelper (volume : String) : Task String := do
  if ← imageExists Naming.helperImage then pure () else pullImage { name := Naming.helperImage }
  let unique : String ← ExceptT.lift (Program.perform (I := interface) .uniqueId)
  let id ← createContainer s!"helper-{unique}.{Naming.domain}" (helperBody volume)
  startOrRemove id
  return id

/-- Puts the files of an archive into the images directory of a container. An
archive that cannot be read to its end is uploaded as far as it can be read, and it
is for the engine to refuse it. -/
def uploadArchive (id archive : String) : Task Unit := do
  onFile archive (Program.perform (I := interface) (.openFile archive))
  let contents : ByteArray ←
    ExceptT.lift (Program.perform (I := interface) (.streamFile archive))
  request (Fault.error "upload images")
    (call (.upload id Naming.imagesMount contents))

/-- The task, then another one whatever came of it. A failure of the first one
counts before one of the second. -/
def andAlways (task after : Task Unit) : Task Unit :=
  ExceptT.mk do
    let outcome ← task.run
    let afterwards ← after.run
    match outcome with
    | .ok () => return afterwards
    | .error error => return .error error

/-- Puts an archive into a volume through a helper container. -/
def stage (volume archive : String) : Task Unit := do
  let helper ← runHelper volume
  andAlways (uploadArchive helper archive) (removeContainer helper)

/-- The task with a directory for its files, which is there as long as the task. -/
def withStaging {α : Type} (task : String → Task α) : Task α :=
  ExceptT.mk do
    match ← Program.perform (I := interface) .makeStaging with
    | .error error => return .error error
    | .ok directory =>
        let outcome ← (task directory).run
        Program.perform (I := interface) (.discardStaging directory)
        return outcome

/-- Puts an archive of images into a volume, and names the archive there. -/
def copyImagesToVolume (images : List String) (volume : String) : Task (List String) :=
  withStaging fun directory => do
    let name := Image.archive images
    let exported := Path.join directory "images.export"
    let archive := Path.join directory name
    exportImages images exported
    pack name exported archive
    stage volume archive
    return [Path.join Naming.imagesMount name]

end Moorage.Docker
