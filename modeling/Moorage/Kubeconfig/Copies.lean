import Moorage.Kubeconfig
import Moorage.Service

/-!
# `Moorage.Kubeconfig.Copies`: the two copies of a cluster's kubeconfig

One copy is for the host of the engine and one for the container networks. Both
are worked out before either is written.
-/

set_option autoImplicit false

namespace Moorage.Kubeconfig

/-- The action of a file operation, whose failure names the path. -/
def onFile (path : String) (action : Action (Except FileFault Unit)) : Action Unit := do
  match ← action with
  | .ok () => pure ()
  | .error fault => throw (.io path fault)

/-- Writes one copy, and the directories above it. -/
def writeCopy (path text : String) : Action Unit := do
  onFile (Path.parent path) (Service.createDirectories (Path.parent path))
  onFile path (Service.writeFile path text)

/-- Writes both copies of a cluster's kubeconfig. -/
def writeCopies (raw cache cluster localHost serverFqdn : String) : Action Unit := do
  let forHost ← ExceptT.mk (pure (rewrite raw localHost))
  let forNetworks ← ExceptT.mk (pure (rewrite raw serverFqdn))
  writeCopy (Naming.localKubeconfig cache cluster) forHost
  writeCopy (Naming.dockerKubeconfig cache cluster) forNetworks

end Moorage.Kubeconfig
