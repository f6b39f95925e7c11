import Moorage.Container.Blueprint
import Moorage.Proofs.Fold

/-!
# `Moorage.Proofs.Container.Blueprint`: the blueprint of a container

A container is described to the engine by a blueprint, which is worked out before anything is
asked. Ports and mounts decide whether a container has one at all: a range of ports may be no
range, and the source of a mount may be relative. What is in it besides them is taken over from the
configuration as it stands.

* `ofContainer_eq_ok_iff`: the blueprint of a container, from its publications and its mounts.
-/

set_option autoImplicit false

namespace Moorage.Blueprint

variable {c : Container} {b : Blueprint}

/-- The blueprint of a container with the publications and the mounts. These two are what may fail
to be worked out, and the rest is read off the configuration. -/
def ofParts (c : Container) (publications : List Publication) (mounts : List Mount) : Blueprint where
  image := c.spec.image.name
  hostname := hostnameOf c.name
  entrypoint := c.spec.entrypoint
  command := c.spec.command
  env := c.spec.env.map fun (key, value) => key ++ "=" ++ value
  labels := labelsOf c
  exposed := exposedBy publications
  bindings := boundBy publications
  mounts := mounts
  privileged := c.spec.privileged
  dns := c.spec.dns
  nanoCpus := (c.spec.limits.getD {}).nanoCpus
  cpuPin := (c.spec.limits.getD {}).cpuPin
  memory := (c.spec.limits.getD {}).memoryBytes

/-- A container has a blueprint when its ports can be published and its volumes mounted. Every
field of a blueprint is found through this. -/
theorem ofContainer_eq_ok_iff :
    ofContainer c = .ok b ↔ ∃ publications mounts, c.spec.publications = .ok publications ∧
      c.spec.volumes.mapM Volume.mount = .ok mounts ∧ b = ofParts c publications mounts := by
  simp only [ofContainer, Except.bind_eq_ok_iff, Except.mapError_eq_ok_iff]
  constructor
  · rintro ⟨publications, hports, mounts, hmounts, heq⟩
    exact ⟨publications, mounts, hports, hmounts, (Except.ok.inj heq).symm⟩
  · rintro ⟨publications, mounts, hports, hmounts, rfl⟩
    exact ⟨publications, hports, mounts, hmounts, rfl⟩

end Moorage.Blueprint
