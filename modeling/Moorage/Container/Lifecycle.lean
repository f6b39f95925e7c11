import Moorage.Image.Name
import Moorage.Service
import Moorage.Settings
import Moorage.Target

/-!
# `Moorage.Container.Lifecycle`: creating and removing containers

* `Container.create`: the one way in which containers come to be. A container
  that cannot be attached or started is removed once before the failure goes on.
* `Container.removeAll`: looks every name up before it removes anything.
-/

set_option autoImplicit false

namespace Moorage.Container

open Service (within)

/-- Pulls an image under its canonical name, unless it is cached and pulls are
not forced. -/
def ensureImage (settings : Settings) (image : Image) : Action Unit := do
  let name := Image.canonical image.name
  let pull := Service.pullImage { image with name := name }
  if settings.forcePull then pull
  else if ← Service.imageExists name then pure ()
  else pull

/-- Attaches a container to the network of one attachment. -/
def attachTo (owner id : String) (attachment : NetworkAttachment) : Action Unit :=
  within owner "network attach" do
    let network ← ExceptT.mk (pure (Target.networkName attachment.name))
    Service.connectNetwork id network attachment.ipAddress attachment.aliases

/-- Attaches a container to networks in order. -/
def attachToAll (owner id : String) : List NetworkAttachment → Action Unit
  | [] => pure ()
  | attachment :: rest => do
      attachTo owner id attachment
      attachToAll owner id rest

/-- Attaches a container to the shared network, if there is one. -/
def attachToShared (settings : Settings) (owner id : String) : Action Unit :=
  match settings.wanNetwork with
  | none => pure ()
  | some network => within owner "network attach" (Service.connectNetwork id network none [])

/-- Attaches a new container to its networks and starts it. -/
def bringUp (settings : Settings) (c : Container) (id : String) : Action Unit := do
  attachToAll c.owner id c.spec.networks
  attachToShared settings c.owner id
  within c.owner "container start" (Service.startContainer id)

/-- The action, and the removal of a container if it fails. The failure stays
that of the action. -/
def orRemove (id : String) (action : Action Unit) : Action Unit :=
  tryCatch action fun error => do
    tryCatch (Service.removeContainer id) fun _ => pure ()
    throw error

/-- Creates a container, attaches it and starts it. -/
def create (settings : Settings) (c : Container) : Action String := do
  within c.owner "image pull" (ensureImage settings c.spec.image)
  let blueprint ← ExceptT.mk (pure (Blueprint.ofContainer c))
  let id ← within c.owner "container create" (Service.createContainer c.fqdn blueprint)
  orRemove id (bringUp settings c id)
  return id

/-- Starts a container that was just created, and removes it if that fails. -/
def startOrRemove (id : String) : Action Unit := orRemove id (Service.startContainer id)

/-- Removes a container. One that is gone already is no failure. -/
def remove (id : String) : Action Unit :=
  tryCatch (Service.removeContainer id) fun error =>
    if error.isNotFound then pure () else throw error

/-- The containers of a name. -/
def idsOf (owner fqdn : String) : Action (List String) :=
  within owner "lookup" (Service.findContainers fqdn)

/-- The containers of every name, in order. -/
def idsOfAll (owner : String) : List String → Action (List String)
  | [] => pure []
  | fqdn :: rest => do
      let ids ← idsOf owner fqdn
      return ids ++ (← idsOfAll owner rest)

/-- Removes containers in order, up to the first that cannot be removed. -/
def removeEach (owner : String) : List String → Action Unit
  | [] => pure ()
  | id :: rest => do
      within owner "container remove" (remove id)
      removeEach owner rest

/-- Removes every container of the given names. -/
def removeAll (owner : String) (fqdns : List String) : Action Unit := do
  removeEach owner (← idsOfAll owner fqdns)

end Moorage.Container
