import Moorage.Command
import Moorage.Http.Wire
import Moorage.Ports
import Std.Async.DNS
import Std.Async.TCP

/-!
# `Moorage.Main`: the program on a real machine

Answers the calls of the machine: files and the clock are those of the system, and
servers are reached over TCP. Neither a `helm` program nor a packer of archives is
run from here: the one is reported as missing, and the other as a fault.

* `LocalMachine.answer`: the answer to a call.
* `LocalMachine.perform`: a program, up to its end.
-/

set_option autoImplicit false

namespace Moorage

open Std.Async
open Std.Net

/-- What the program keeps while it runs. -/
structure LocalMachine where
  /-- The counter of the ports that clusters are given. -/
  nextPort : IO.Ref UInt16

namespace LocalMachine

/-- What is wrong with a file. -/
def faultOf : IO.Error → FileFault
  | .noFileOrDirectory .. => .missing
  | e => .stated (toString e)

/-- The outcome of an action on files. -/
def onFiles {α : Type} (action : IO α) : IO (Except FileFault α) :=
  try return .ok (← action)
  catch e => return .error (faultOf e)

/-- What can be read of a file, up to the first failure. -/
def stream (path : String) : IO ByteArray := do
  match ← onFiles (IO.FS.Handle.mk path .read) with
  | .error _ => return ByteArray.empty
  | .ok handle =>
      let mut bytes := ByteArray.empty
      let mut more := true
      while more do
        match ← onFiles (handle.read 65536) with
        | .ok part =>
            bytes := bytes ++ part
            more := !part.isEmpty
        | .error _ => more := false
      return bytes

/-- Whether there is something at a path. What cannot be opened, such as a socket,
is there nevertheless. -/
def pathExists (path : String) : IO (Except FileFault Bool) := do
  match ← onFiles (IO.FS.Handle.mk path .read) with
  | .ok _ => return .ok true
  | .error .missing => return .ok false
  | .error fault =>
      if Text.occursIn "not a directory" fault.message then return .error fault
      else return .ok true

/-- Whether there is a directory at a path: it can be opened, but not be read. -/
def isDirectory (path : String) : IO Bool := do
  match ← onFiles (IO.FS.Handle.mk path .read) with
  | .error _ => return false
  | .ok handle =>
      match ← onFiles (handle.read 1) with
      | .ok _ => return false
      | .error _ => return true

/-- The digits of random bytes. -/
def randomHex (count : USize) : IO (List Char) := do
  return (← IO.getRandomBytes count).toList.flatMap Digest.Sha256.byteHex

/-- The socket address of a port of a host. -/
def socketAddress (port : UInt16) : IPAddr → SocketAddress
  | .v4 a => .v4 ⟨a, port⟩
  | .v6 a => .v6 ⟨a, port⟩

/-- Whether nobody listens on a port. -/
def isFree (port : UInt16) : IO Bool :=
  try
    let probe ← TCP.Socket.Server.mk
    probe.bind (.v4 ⟨.ofParts 0 0 0 0, port⟩)
    probe.listen 1
    return true
  catch _ => return false

/-- Goes on with a request for ports, for at most `limit` candidates. -/
def allocate (m : LocalMachine) : (limit : Nat) → Ports.Request → IO (Except Error (List UInt16))
  | 0, _ => return .error Ports.exhausted
  | limit + 1, r => do
      if r.wanted = 0 then return .ok r.taken.reverse
      let candidate ← m.nextPort.modifyGet fun next => (next, next + 1)
      match r.offer candidate (← isFree candidate) with
      | .error e => return .error e
      | .ok r => m.allocate limit r

/-- Everything that arrives until the connection ends. -/
def receive (client : TCP.Socket.Client) : IO ByteArray := do
  let mut bytes := ByteArray.empty
  let mut more := true
  while more do
    match ← (client.recv? 65536).block with
    | some part => bytes := bytes ++ part
    | none => more := false
  return bytes

/-- What a server at a socket address answers to some bytes. -/
def converse (address : SocketAddress) (bytes : ByteArray) : IO ByteArray := do
  let client ← TCP.Socket.Client.mk
  (client.connect address).block
  (client.send bytes).block
  receive client

/-- One exchange with an endpoint, at the first of its addresses that answers. -/
def tryAddresses (bytes : ByteArray) (port : UInt16) : List IPAddr → IO Http.Exchange
  | [] => return .error .unreachable
  | address :: rest => do
      match ← onFiles (converse (socketAddress port address) bytes) with
      | .ok answer => return Http.Response.ofWire answer
      | .error _ => tryAddresses bytes port rest

/-- One exchange with a server. -/
def exchange (r : Http.Request) : IO Http.Exchange := do
  if !r.isSendable then return .error .unsendable
  match Http.Endpoint.ofAddress? r.address with
  | none => return .error .unreachable
  | some endpoint =>
      match ← onFiles (DNS.getAddrInfo endpoint.host "").block with
      | .error _ => return .error .unreachable
      | .ok addresses => tryAddresses (r.wire endpoint) endpoint.port addresses.toList

/-- A new directory for files that are passed on. -/
def makeStaging : IO (Except Error String) := do
  let directory := "/tmp/berth-" ++ String.ofList (← randomHex 8)
  return (← onFiles (IO.FS.createDirAll directory)).mapError (.io directory)
    |>.map fun () => directory

/-- The answer to a call. -/
def answer (m : LocalMachine) : (c : Host.Call) → IO (Host.Answer c)
  | .exchange request => exchange request
  | .runHelm _ => return Helm.Outcome.missing
  | .readFile path => onFiles (IO.FS.readBinFile path)
  | .openFile path => onFiles (discard (IO.FS.Handle.mk path .read))
  | .streamFile path => stream path
  | .writeFile path contents => onFiles (IO.FS.writeBinFile path contents)
  | .packFile _ _ _ => return .error (.file (.stated "archives are not packed here"))
  | .createDirectories path => onFiles (IO.FS.createDirAll path)
  | .removeTree path => onFiles (IO.FS.removeDirAll path)
  | .pathExists path => pathExists path
  | .isDirectory path => isDirectory path
  | .makeStaging => makeStaging
  | .uniqueId => do return String.ofList (← randomHex 16)
  | .freshToken => do return String.ofList (← randomHex 16)
  | .allocatePorts count => m.allocate 65536 { wanted := count }
  | .now => do return (⟨← IO.monoNanosNow⟩ : Duration)
  | .today => do return (⟨(← Std.Time.Timestamp.now).toNanosecondsSinceUnixEpoch.val⟩ : Instant)
  | .isCancelled => return false
  | .pause span => do
      IO.sleep (UInt32.ofNat ((span.nanos + 999999) / 1000000))
      return false
  | .print text => IO.eprint text

/-- The result of a program. -/
def perform {α : Type} (m : LocalMachine) : Program Host.interface α → IO α
  | .done value => return value
  | .ask call next => do
      let reply ← m.answer call
      m.perform (next reply)

/-- The environment variables that settings are read from. -/
def settingNames : List String :=
  ["BERTH_HOME", "DOCKER_HOST", "BERTH_START_TIMEOUT", "BERTH_FORCE_PULL", "HOME", "USERPROFILE"]

/-- The environment of the program. -/
def environment : IO Environment := do
  let values ← settingNames.mapM fun name => do return (name, ← IO.getEnv name)
  return fun name => (values.lookup name).join

/-- Does what an invocation asks for. -/
def obey (invocation : Invocation) : IO UInt32 := do
  let cwd := toString (← IO.currentDir)
  let m : LocalMachine := { nextPort := ← IO.mkRef Ports.first }
  match ← m.perform (Command.run cwd (← environment) invocation) with
  | .ok () => return 0
  | .error error =>
      IO.eprintln ("Error: " ++ error.message)
      return 1

/-- Does what the arguments ask for, or says why they ask for nothing. -/
def start (arguments : List String) : IO UInt32 := do
  match Invocation.read arguments with
  | .ok invocation => obey invocation
  | .error fault =>
      if fault.exitCode = 0 then IO.print fault.message else IO.eprint fault.message
      return fault.exitCode

end LocalMachine

end Moorage

/-- The program. -/
def main (arguments : List String) : IO UInt32 := Moorage.LocalMachine.start arguments
