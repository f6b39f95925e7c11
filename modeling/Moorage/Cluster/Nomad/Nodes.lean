import Moorage.Error
import Moorage.Http

/-!
# `Moorage.Cluster.Nomad.Nodes`: the ready nodes of a Nomad cluster
-/

set_option autoImplicit false

namespace Moorage.Cluster.Nomad

/-- The request for the nodes of the cluster at an address. -/
def nodesRequest (address : String) : Http.Request where
  address := address
  method := .get
  path := ["v1", "nodes"]

/-- The status of a node. -/
def nodeStatus? (node : Json) : Option String :=
  match node.field? "Status" with
  | some (.string status) => some status
  | _ => none

/-- The statuses of the nodes of a body. -/
def nodeStatuses? (body : ByteArray) : Option (List String) :=
  match Json.ofBytes? body with
  | some (.array nodes) => nodes.mapM nodeStatus?
  | _ => none

/-- The failure to list the nodes. -/
def nodesFailure (detail : String) : Error := .engine "nomad nodes" (.exchange detail)

/-- The number of ready nodes in a response. -/
def readNodes : Http.Exchange → Except Error Nat
  | .error fault => .error (nodesFailure fault.message)
  | .ok response =>
      if response.failed then .error (nodesFailure s!"status {response.status}")
      else
        match nodeStatuses? response.body with
        | some statuses => .ok (statuses.countP (· = "ready"))
        | none => .error (nodesFailure "unreadable response")

end Moorage.Cluster.Nomad
