import Moorage.Host
import Moorage.Ports
import Moorage.Rehearsal.FileTree

/-!
# `Moorage.Rehearsal.Machine`: a machine without a network

A machine with files, a `helm` program whose outcome is fixed, and nobody who could
be reached. It packs no archives: no images can be exported to it in the first
place.

* `Machine.answer`: its answer to a call.
* `Machine.perform`: a program on the machine, up to its end.
-/

set_option autoImplicit false

namespace Moorage.Rehearsal

/-- A machine without a network. -/
structure Machine where
  /-- The directory that relative paths start from. -/
  directory : String := "/"
  files : FileTree := {}
  helm : Helm.Outcome := .missing
  helmPath : String := "/usr/bin/helm"
  /-- The arguments of the last run of `helm`. -/
  helmArguments : List String := []
  /-- What was printed. -/
  printed : String := ""
  clock : Duration := ⟨0⟩
  /-- When the clock started: with the year 2026. -/
  epoch : Instant := ⟨1767225600000000000⟩
  /-- How many ids and tokens were handed out. -/
  issued : Nat := 0
  nextPort : UInt16 := Ports.first

namespace Machine

/-- A path seen from the machine's directory. -/
def locate (m : Machine) (path : String) : String :=
  if path = "" then "" else Path.join m.directory path

/-- The answer from a change of the files. -/
def onFiles (m : Machine) (change : FileTree → Except FileFault Unit × FileTree) :
    Except FileFault Unit × Machine :=
  let (outcome, files) := change m.files
  (outcome, { m with files := files })

/-- The outcome of a run of `helm`. A program that is missing is given no
arguments, and none is started with an argument that holds a nul character. -/
def runHelm (m : Machine) (arguments : List String) : Helm.Outcome × Machine :=
  match m.helm with
  | .missing => (.missing, m)
  | outcome =>
      if arguments.any (·.contains '\x00') then (.notStarted m.helmPath .nulCharacter, m)
      else (outcome, { m with helmArguments := arguments })

/-- The answer to a call, and the machine afterwards. -/
def answer : (c : Host.Call) → Machine → Host.Answer c × Machine
  | .exchange _, m => (.error .unreachable, m)
  | .runHelm arguments, m => m.runHelm arguments
  | .readFile path, m => (m.files.read (m.locate path), m)
  | .openFile path, m => (m.files.openFile (m.locate path), m)
  | .streamFile path, m => ((m.files.read (m.locate path)).toOption.getD ByteArray.empty, m)
  | .writeFile path contents, m => m.onFiles fun files => files.write (m.locate path) contents
  | .packFile _ _ _, m => (.error (.file (.stated "archives are not packed here")), m)
  | .createDirectories path, m => m.onFiles fun files => files.createDirectories (m.locate path)
  | .removeTree path, m => m.onFiles fun files => files.removeTree (m.locate path)
  | .pathExists path, m => (m.files.pathExists (m.locate path), m)
  | .isDirectory path, m => (m.files.isDirectory (m.locate path), m)
  | .makeStaging, m =>
      let directory := s!"/tmp/staging-{m.issued}"
      let (outcome, m) := m.onFiles fun files => files.createDirectories directory
      ((outcome.map fun _ => directory).mapError (.io directory), { m with issued := m.issued + 1 })
  | .uniqueId, m => (toString m.issued, { m with issued := m.issued + 1 })
  | .freshToken, m => (toString m.issued, { m with issued := m.issued + 1 })
  | .allocatePorts count, m =>
      let (ports, next) := Ports.allocate (fun _ => true) count m.nextPort
      (ports, { m with nextPort := next })
  | .now, m => (m.clock, m)
  | .today, m => (⟨m.epoch.nanos + m.clock.nanos⟩, m)
  | .isCancelled, m => (false, m)
  | .pause span, m => (false, { m with clock := ⟨m.clock.nanos + span.nanos⟩ })
  | .print text, m => ((), { m with printed := m.printed ++ text })

/-- The result of a program on the machine, and the machine afterwards. -/
def perform {α : Type} (program : Program Host.interface α) (m : Machine) : α × Machine :=
  program.run answer m

end Machine

end Moorage.Rehearsal
