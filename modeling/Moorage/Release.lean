import Moorage.Resource

/-!
# `Moorage.Release`: Helm releases

The arguments with which the `helm` program installs and removes a release.
-/

set_option autoImplicit false

namespace Moorage

/-- A chart to install. -/
structure Release where
  name : String := ""
  chart : String := ""
  namespaceName : String := ""
  createNamespace : Bool := false
  values : Option String := none
  valuesString : TextMap := []
  kubeconfig : String := ""
  deriving DecidableEq, Repr, Inhabited

namespace Release

/-- The arguments that install the release. -/
def installArguments (r : Release) : List String :=
  ["install", r.name, r.chart, "--namespace", r.namespaceName, "--kubeconfig", r.kubeconfig]
    ++ (if r.createNamespace then ["--create-namespace"] else [])
    ++ (match r.values with
        | some file => ["--values", file]
        | none => [])
    ++ r.valuesString.flatMap fun (key, value) => ["--set-string", key ++ "=" ++ value]

/-- The arguments that remove a release. -/
def uninstallArguments (kubeconfig name namespaceName : String) : List String :=
  ["uninstall", name, "--namespace", namespaceName, "--kubeconfig", kubeconfig]

end Release

end Moorage
