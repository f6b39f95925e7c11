import Moorage.Error
import Moorage.Yaml.Writer

/-!
# `Moorage.Kubeconfig`: server addresses of a kubeconfig

A cluster writes a kubeconfig whose servers are addressed as the cluster sees
them. Copies for other places differ in the host of every server address alone.

* `replaceHost`: an address with another host.
* `Kubeconfig.rewrite`: a document with the host in every server address.
-/

set_option autoImplicit false

namespace Moorage.Kubeconfig

open Yaml (Value)

/-- The scheme of an address, secure HTTP if it names none, and the rest. -/
def splitScheme (address : List Char) : List Char × List Char :=
  (Text.cutAt "://".toList address).getD ("https".toList, address)

/-- The address with another host: scheme, port and path stay. What follows the
last colon before the path is the port. -/
def replaceHost (address host : String) : String :=
  let (scheme, rest) := splitScheme address.toList
  let authority := Text.upTo '/' rest
  let path := rest.drop authority.length
  let port :=
    match Text.cutLast ':' authority with
    | some (_, port) => ':' :: port
    | none => []
  String.ofList (scheme ++ "://".toList ++ host.toList ++ port ++ path)

/-- A change of the value under a text key of a map. A tag on the map stays. -/
def changeAt (key : String) (missing : ConfigFault) (change : Value → Except ConfigFault Value) :
    Value → Except ConfigFault Value
  | .tagged tag value => do return .tagged tag (← changeAt key missing change value)
  | .mapping entries => do
      match entries.findIdx? (·.1 == .text key) with
      | none => throw missing
      | some index =>
          match entries[index]? with
          | none => throw missing
          | some (name, value) => return .mapping (entries.set index (name, ← change value))
  | _ => .error missing

/-- A change of every item of a sequence. A tag on the sequence stays. -/
def changeItems (missing : ConfigFault) (change : Value → Except ConfigFault Value) :
    Value → Except ConfigFault Value
  | .tagged tag value => do return .tagged tag (← changeItems missing change value)
  | .sequence items => do return .sequence (← items.mapM change)
  | _ => .error missing

/-- The server's address with another host, as a text without a tag. -/
def changeServer (host : String) (server : Value) : Except ConfigFault Value :=
  match server.untagged with
  | .text address => .ok (.text (replaceHost address host))
  | _ => .error .serverNotText

/-- The document with the host in the server address of every cluster. -/
def rewriteValue (host : String) : Value → Except ConfigFault Value :=
  changeAt "clusters" .missingClusters <|
    changeItems .missingClusters <|
      changeAt "cluster" .clusterWithoutServer <|
        changeAt "server" .clusterWithoutServer (changeServer host)

/-- A kubeconfig's text with the host in every server address. -/
def rewrite (text host : String) : Except Error String := do
  let document ← (Value.ofText text).mapError Error.serialization
  let document ← (rewriteValue host document).mapError Error.config
  if document.isWritable then return document.written
  else throw (.serialization .unwritable)

end Moorage.Kubeconfig
