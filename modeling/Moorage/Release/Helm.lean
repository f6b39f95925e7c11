import Moorage.Error
import Moorage.Release
import Moorage.Text.Utf8

/-!
# `Moorage.Release.Helm`: what comes of running `helm`

* `Helm.Outcome`: what became of a run of the program.
* `Helm.installed`, `Helm.removed`: what it says about the release.
-/

set_option autoImplicit false

namespace Moorage.Helm

/-- What became of a run of the program. -/
inductive Outcome where
  /-- There is no such program. -/
  | missing
  /-- The program at a path could not be started. -/
  | notStarted (path : String) (fault : FileFault)
  | finished (succeeded : Bool) (stdout stderr : ByteArray)

/-- The output of an operation that succeeded. -/
def outputOf (operation : String) : Outcome → Except Error String
  | .missing => .error (.notFound "binary" "helm")
  | .notStarted path fault => .error (.io path fault)
  | .finished true stdout _ => .ok (Text.Utf8.decodeLossy stdout)
  | .finished false _ stderr =>
      .error (.engine operation (.reported (Text.trimmed (Text.Utf8.decodeLossy stderr))))

/-- Whether a release is installed. -/
def installed (outcome : Outcome) : Except Error Unit := do
  let _ ← outputOf "helm install" outcome

/-- Whether a release is removed. A failure that speaks of something not found
is that of a missing release. -/
def removed (name : String) (outcome : Outcome) : Except Error Unit :=
  match outputOf "helm uninstall" outcome with
  | .ok _ => .ok ()
  | .error (.engine operation fault) =>
      if Text.occursIn "not found" fault.message then .error (.notFound "release" name)
      else .error (.engine operation fault)
  | .error error => .error error

end Moorage.Helm
