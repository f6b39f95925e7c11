import Moorage.Provider
import Moorage.Walk

/-!
# `Moorage.Walk.Task`: what a walk does for one resource
-/

set_option autoImplicit false

namespace Moorage.Walk

/-- The task of the resource at a position: its provider creates or destroys it. -/
def task (settings : Settings) (g : Graph) (kind : WalkKind) (position : Nat) : Action Unit :=
  match g.resources[position]? with
  | none => pure ()
  | some r =>
      match kind with
      | .apply => Provider.create settings r
      | .destroy => Provider.destroy settings r

end Moorage.Walk
