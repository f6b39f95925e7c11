import Moorage.Poll

/-!
# `Moorage.Health`: waiting for the pods of a cluster

A failure to list pods counts as pods that are not ready: a cluster that starts
up does not answer at first.
-/

set_option autoImplicit false

namespace Moorage.Health

/-- Whether the pods under a selector are ready; not if they cannot be listed. -/
def podsSettled (access : ClusterAccess) (selector : String) : Action Bool :=
  tryCatch (Service.podsReady access selector) fun _ => pure false

/-- Waits for the pods of one selector after another. -/
def waitForPods (access : ClusterAccess) (policy : PollPolicy) (owner : String) :
    List String → Action Unit
  | [] => pure ()
  | selector :: rest => do
      poll policy owner "health check" (podsSettled access selector)
      waitForPods access policy owner rest

/-- The selectors to wait for when none are named: the one of all pods. -/
def selectorsOrAll (selectors : List String) : List String :=
  if selectors.isEmpty then [""] else selectors

end Moorage.Health
