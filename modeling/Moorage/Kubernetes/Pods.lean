import Moorage.Http
import Moorage.Service

/-!
# `Moorage.Kubernetes.Pods`: whether pods are ready

* `Kubernetes.podsRequest`: the request for the pods under a selector.
* `Kubernetes.allReady`: whether there are pods and all of them are ready.
-/

set_option autoImplicit false

namespace Moorage.Kubernetes

/-- The request for the pods under a selector. The empty selector asks for all. -/
def podsRequest (access : ClusterAccess) (selector : String) : Http.Request where
  address := access.server
  method := .get
  path := ["api", "v1", "pods"]
  query := if selector = "" then [] else [("labelSelector", selector)]
  headers := access.headers

/-- What a pod reports: its phase, and whether its containers are ready. -/
structure PodStatus where
  phase : Option String := none
  containers : Option (List Bool) := none
  deriving DecidableEq, Repr

/-- A pod is ready when it has succeeded, or runs and all of its containers are
ready. -/
def PodStatus.isReady (s : PodStatus) : Bool :=
  match s.phase with
  | some "Succeeded" => true
  | some "Running" =>
      match s.containers with
      | some containers => containers.all id
      | none => false
  | _ => false

/-- Whether there are pods, and all of them are ready. One without a status is
not. -/
def allReady (pods : List (Option PodStatus)) : Bool :=
  !pods.isEmpty && pods.all fun status => status.any PodStatus.isReady

/-- The value under a key that may be missing, if it has the right form. -/
def optionalAt {α : Type} (key : String) (read : Json → Option α) (value : Json) :
    Option (Option α) :=
  match value.field? key with
  | none | some .null => some none
  | some field => (read field).map some

/-- The items of an array. -/
def items? : Json → Option (List Json)
  | .array items => some items
  | _ => none

/-- Whether a container is ready. -/
def containerReady? (value : Json) : Option Bool :=
  match value.field? "ready" with
  | some (.boolean ready) => some ready
  | _ => none

/-- The text of a string. -/
def text? : Json → Option String
  | .string text => some text
  | _ => none

/-- The status of a pod. -/
def podStatus? (value : Json) : Option PodStatus := do
  return {
    phase := ← optionalAt "phase" text? value
    containers := ← optionalAt "containerStatuses"
      (fun field => do (← items? field).mapM containerReady?) value }

/-- The statuses of the pods of a listing. -/
def podStatuses? (value : Json) : Option (List (Option PodStatus)) :=
  match value.field? "metadata", value.field? "items" with
  | some (.object _), some (.array items) => items.mapM (optionalAt "status" podStatus?)
  | _, _ => none

/-- Whether the pods of a response are ready. -/
def readPods : Http.Exchange → Except Error Bool
  | .error fault => .error (.engine "list pods" (.exchange fault.message))
  | .ok response =>
      if response.failed then
        .error (.engine "list pods" (.exchange s!"status {response.status}"))
      else
        match (Json.ofBytes? response.body).bind podStatuses? with
        | some pods => .ok (allReady pods)
        | none => .error (.engine "list pods" (.exchange "unreadable response"))

end Moorage.Kubernetes
