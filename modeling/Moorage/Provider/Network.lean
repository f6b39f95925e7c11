import Moorage.Service

/-!
# `Moorage.Provider.Network`: networks of the engine
-/

set_option autoImplicit false

namespace Moorage.Provider.Network

open Service (within refuse)

/-- The networks of the resource's name. -/
def lookup (r : Resource) : Action (List String) :=
  within r.label "lookup" (Service.findNetworks r.name)

/-- The labels of the resource's network. -/
def labels (r : Resource) : TextMap :=
  TextMap.ofList [(Naming.labelFqdn, r.fqdn), (Naming.labelName, r.name)]

/-- Creates the network, unless one has its name. -/
def create (r : Resource) (spec : NetworkSpec) : Action Unit := do
  let existing ← lookup r
  if existing.isEmpty then
    let _ ← within r.label "network create"
      (Service.createNetwork r.name spec.subnet (labels r))
  else refuse r.label "network create" (.alreadyExists "network" r.name)

/-- Removes a network. One that is gone already is no failure. -/
def remove (owner id : String) : Action Unit :=
  tryCatch (Service.removeNetwork id) fun error =>
    if error.isNotFound then pure () else refuse owner "network remove" error

/-- Removes networks in order. -/
def removeEach (owner : String) : List String → Action Unit
  | [] => pure ()
  | id :: rest => do
      remove owner id
      removeEach owner rest

/-- Removes every network of the resource's name. -/
def destroy (r : Resource) : Action Unit := do
  removeEach r.label (← lookup r)

end Moorage.Provider.Network
