import Moorage.Docker.Api
import Moorage.Naming
import Moorage.Text.Base64

/-!
# `Moorage.Docker.Client`: the engine's interface over HTTP

* `Docker.Call.request`: the request of a call.
* The readings of responses: `nothing`, `idUnder`, `listing`, …

A response with a status of 400 or more is a refusal, whose message the body
states.
-/

set_option autoImplicit false

namespace Moorage.Docker

open Http (Request Response)

/-- The version of the engine's interface, the first part of every path. -/
def version : String := "v1.47"

/-- The credentials of a pull. -/
def credentials (image : Image) (username : String) : Json :=
  .object <| ("username", .string username)
    :: Json.optional "password" (image.password.map .string)

/-- The header that carries the credentials of an image's registry. -/
def authHeaders (image : Image) : List (String × String) :=
  match image.username with
  | none => []
  | some username =>
      [("X-Registry-Auth",
        Text.Base64.encode Text.Base64.forAddresses
          (credentials image username).text.toUTF8.toList)]

/-- The filter of a listing. -/
def filters (key value : String) : String × String :=
  ("filters", (Json.object [(key, Json.strings [value])]).text)

/-- The body that asks for a network. Without a subnet the engine chooses one. -/
def networkBody (name subnet : String) (labels : TextMap) : Json :=
  let pools := if subnet = "" then [] else
    [("Config", Json.array [.object [("Subnet", .string subnet)]])]
  .object [("Name", .string name), ("CheckDuplicate", .boolean true),
    ("Driver", .string "bridge"), ("Attachable", .boolean true), ("IPAM", .object pools),
    ("Labels", .object (labels.map fun (key, value) => (key, .string value)))]

/-- The body that attaches a container to a network. -/
def attachmentBody (id : String) (address : Option String) (aliases : List String) : Json :=
  .object [("Container", .string id), ("EndpointConfig", .object <|
    Json.optional "IPAMConfig" (address.map fun ip => .object [("IPv4Address", .string ip)])
      ++ if aliases.isEmpty then [] else [("Aliases", Json.strings aliases)])]

/-- The request of a call to the engine at an address. -/
def Call.request (address : String) : Call → Request
  | .ping => make .get ["_ping"] [] .empty
  | .inspectImage name => make .get ["images", name, "json"] [] .empty
  | .pullImage image =>
      { make .post ["images", "create"] [("fromImage", image.name)] .empty with
        headers := authHeaders image }
  | .exportImages names => make .get ["images", "get"] (names.map fun name => ("names", name)) .empty
  | .createContainer name body => make .post ["containers", "create"] [("name", name)] (.json body)
  | .startContainer id => make .post ["containers", id, "start"] [] .empty
  | .removeContainer id =>
      make .delete ["containers", id] [("force", "true"), ("v", "true")] .empty
  | .listContainers label =>
      make .get ["containers", "json"] [("all", "true"), filters "label" label] .empty
  | .containerLogs id =>
      make .get ["containers", id, "logs"] [("stdout", "true"), ("stderr", "true")] .empty
  | .download id path => make .get ["containers", id, "archive"] [("path", path)] .empty
  | .upload id directory archive =>
      make .put ["containers", id, "archive"] [("path", directory)] (.tar archive)
  | .createVolume name =>
      make .post ["volumes", "create"] []
        (.json (.object [("Name", .string name), ("Driver", .string "")]))
  | .createNetwork name subnet labels =>
      make .post ["networks", "create"] [] (.json (networkBody name subnet labels))
  | .connectNetwork network id address aliases =>
      make .post ["networks", network, "connect"] [] (.json (attachmentBody id address aliases))
  | .disconnectNetwork network id =>
      make .post ["networks", network, "disconnect"] []
        (.json (.object [("Container", .string id), ("Force", .boolean true)]))
  | .listNetworks name => make .get ["networks"] [filters "name" name] .empty
  | .removeNetwork id => make .delete ["networks", id] [] .empty
  | .createExec id command =>
      make .post ["containers", id, "exec"] []
        (.json (.object [("AttachStdout", .boolean true), ("AttachStderr", .boolean true),
          ("Cmd", Json.strings command)]))
  | .startExec exec => make .post ["exec", exec, "start"] [] (.json (.object []))
  | .inspectExec exec => make .get ["exec", exec, "json"] [] .empty
where
  /-- The request for a path below the version of the interface. -/
  make (method : Http.Method) (path : List String) (query : List (String × String))
      (body : Http.Body) : Request :=
    { address := address, method := method, path := version :: path, query := query,
      body := body }

/-- The text under a key of an object. -/
def textUnder? (key : String) (value : Json) : Option String :=
  match value.field? key with
  | some (.string text) => some text
  | _ => none

/-- The message of a refusal: the one that the body states, or the body. -/
def refusalText (body : ByteArray) : String :=
  ((Json.ofBytes? body).bind (textUnder? "message")).getD (Text.Utf8.decodeLossy body)

/-- The body of a response that is no refusal. -/
def accepted : Http.Exchange → Except Fault ByteArray
  | .error fault => .error (.exchange fault)
  | .ok response =>
      if response.failed then .error (.status response.status (refusalText response.body))
      else .ok response.body

/-- What a reading of the body gives. -/
def reading {α : Type} (read : ByteArray → Option α) (exchange : Http.Exchange) :
    Except Fault α := do
  match read (← accepted exchange) with
  | some value => .ok value
  | none => .error .unreadable

/-- No reading at all. -/
def nothing (exchange : Http.Exchange) : Except Fault Unit := do
  let _ ← accepted exchange

/-- Whether a value is an object. -/
def isObject : Json → Bool
  | .object _ => true
  | _ => false

/-- The reading that asks for an object of any members. -/
def anyObject (body : ByteArray) : Option Unit :=
  (Json.ofBytes? body).bind fun value => if isObject value then some () else none

/-- The reading of the text under a key. -/
def idUnder (key : String) (body : ByteArray) : Option String :=
  (Json.ofBytes? body).bind (textUnder? key)

/-- A text that an object may have under a key. -/
def optionalText? (key : String) (value : Json) : Option (Option String) :=
  match value.field? key with
  | none | some .null => some none
  | some (.string text) => some (some text)
  | some _ => none

/-- One entry of a listing. -/
def listed? (nameKey : String) (value : Json) : Option Listed := do
  if isObject value then
    return { id := ← optionalText? "Id" value, name := ← optionalText? nameKey value }
  else none

/-- The reading of a listing, with the names under a key. -/
def listing (nameKey : String) (body : ByteArray) : Option (List Listed) :=
  match Json.ofBytes? body with
  | some (.array items) => items.mapM (listed? nameKey)
  | _ => none

/-- The reading of an exit code, which may be missing. -/
def exitCode (body : ByteArray) : Option (Option Int) :=
  match Json.ofBytes? body with
  | some (.object members) =>
      match (Json.object members).field? "ExitCode" with
      | none | some .null => some none
      | some (.integer code) => some (some code)
      | some _ => none
  | _ => none

/-- What one line of a pull's progress says. -/
def progressOf (line : String) : Except Fault Unit :=
  match Json.read? line with
  | some (.object members) =>
      match (Json.object members).field? "error" with
      | some (.string _) => .error .stream
      | _ => .ok ()
  | _ => .error .unreadable

/-- The reading of a pull's progress, one JSON object to a line. -/
def progress (exchange : Http.Exchange) : Except Fault Unit := do
  let body ← accepted exchange
  match Text.Utf8.decode body with
  | .error _ => .error .unreadable
  | .ok text => ((Text.lines text).filter (· ≠ "")).forM progressOf

/-- The answer to a call, given what comes of its request. -/
def Call.read (exchange : Http.Exchange) : (call : Call) → Answer call
  | .ping => nothing exchange
  | .inspectImage _ => reading anyObject exchange
  | .pullImage _ => progress exchange
  | .exportImages _ => accepted exchange
  | .createContainer _ _ => reading (idUnder "Id") exchange
  | .startContainer _ => nothing exchange
  | .removeContainer _ => nothing exchange
  | .listContainers _ => reading (listing "Name") exchange
  | .containerLogs _ => reading frames? exchange
  | .download _ _ => accepted exchange
  | .upload _ _ _ => nothing exchange
  | .createVolume _ => reading (idUnder "Name") exchange
  | .createNetwork _ _ _ => reading (idUnder "Id") exchange
  | .connectNetwork _ _ _ _ => nothing exchange
  | .disconnectNetwork _ _ => nothing exchange
  | .listNetworks _ => reading (listing "Name") exchange
  | .removeNetwork _ => nothing exchange
  | .createExec _ _ => reading (idUnder "Id") exchange
  | .startExec _ => reading frames? exchange
  | .inspectExec _ => reading exitCode exchange

end Moorage.Docker
