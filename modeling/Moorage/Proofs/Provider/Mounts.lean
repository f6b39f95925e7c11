import Moorage.Proofs.Document.Rebase
import Moorage.Proofs.Provider.Calls

/-!
# `Moorage.Proofs.Provider.Mounts`: which bind mounts the runtime refuses

A blueprint has no bind mount with a relative source. Loading a document makes the sources of bind
volumes absolute, and every provider hands the volumes of its resource on in a way of its own.

A source can be relative only where a document could not make it absolute, which is where there is
none: an empty source stays empty. A resource that was not loaded may have any source, so that the
check is needed, and it comes behind the reading of the port ranges. A container with a range
that is none is refused for the range, whatever its mounts look like.

The directory of a documentation site is mounted too. It has been made absolute as a path of its own
and not as a volume, and a site is never refused for it.

* `Blueprint.rejectsSource_iff`: which containers are refused for the source of a bind mount. The
  port ranges are read before, and one that cannot be read hides the source.
* `Provider.Builds.exists_isRelative_iff`: no provider adds or loses a relative source.
* `Document.loaded_rejectsSource_iff`: of the resources of a document those are refused that
  declare a bind volume without source.
-/

set_option autoImplicit false

namespace Moorage

/-- A volume cannot be mounted exactly if its source is relative. The empty source counts as
relative. -/
theorem Volume.mount_eq_error_iff {v : Volume} {fault : ConfigFault} :
    v.mount = .error fault ↔ v.IsRelative ∧ fault = .relativeSource v.source := by
  unfold mount IsRelative
  cases hkind : v.kind
  case bind => cases Path.isAbsolute v.source <;> simp [eq_comm]
  case volume => simp
  case tmpfs => simp

/-- The ports of a configuration are published when all of its ranges can be read. Single ports
are always in order. -/
theorem ContainerSpec.publications_ok_iff {spec : ContainerSpec} :
    (∃ publications, spec.publications = .ok publications) ↔
      ∀ range ∈ spec.portRanges, ∃ bounds, range.bounds = .ok bounds := by
  have hranges : (∃ publications, spec.portRanges.mapM PortRange.publications = .ok publications) ↔
      ∀ range ∈ spec.portRanges, ∃ bounds, range.bounds = .ok bounds := by
    rw [Except.mapM_ok_iff]
    refine forall₂_congr fun range _ => ?_
    constructor
    · rintro ⟨publications, h⟩
      obtain ⟨bounds, hbounds, -⟩ := Except.bind_eq_ok_iff.mp h
      exact ⟨bounds, hbounds⟩
    · rintro ⟨bounds, hbounds⟩
      exact ⟨_, Except.bind_eq_ok_iff.mpr ⟨bounds, hbounds, rfl⟩⟩
  rw [← hranges]
  constructor
  · rintro ⟨publications, h⟩
    obtain ⟨ranges, hmap, -⟩ := Except.bind_eq_ok_iff.mp h
    exact ⟨ranges, hmap⟩
  · rintro ⟨ranges, hmap⟩
    exact ⟨_, Except.bind_eq_ok_iff.mpr ⟨ranges, hmap, rfl⟩⟩

namespace Blueprint

/-- The container is refused because a bind mount has a relative source. Which source it is
follows from the order of the volumes. -/
def RejectsSource (c : Container) : Prop :=
  ∃ source, ofContainer c = .error (refusal c (.relativeSource source))

/-- A container is refused for a relative source when it has one, and all of its port ranges can
be read. -/
theorem rejectsSource_iff {c : Container} :
    RejectsSource c ↔
      (∀ range ∈ c.spec.portRanges, ∃ bounds, range.bounds = .ok bounds) ∧
      ∃ v ∈ c.spec.volumes, v.IsRelative := by
  rw [← ContainerSpec.publications_ok_iff]
  constructor
  · rintro ⟨source, h⟩
    rcases Except.bind_eq_error_iff.mp h with hports | ⟨publications, hports, hrest⟩
    · -- The failure of a range is marked as one inside the configuration.
      obtain ⟨fault, -, heq⟩ := Except.mapError_eq_error_iff.mp hports
      cases heq
    refine ⟨⟨publications, Except.mapError_eq_ok_iff.mp hports⟩, ?_⟩
    rcases Except.bind_eq_error_iff.mp hrest with hmounts | ⟨mounts, -, hnone⟩
    · obtain ⟨fault, hmap, -⟩ := Except.mapError_eq_error_iff.mp hmounts
      obtain ⟨v, hv, hmount⟩ := Except.mapM_eq_error hmap
      exact ⟨v, hv, (Volume.mount_eq_error_iff.mp hmount).1⟩
    · cases hnone
  · rintro ⟨⟨publications, hports⟩, v, hv, hrelative⟩
    cases hmap : c.spec.volumes.mapM Volume.mount with
    | ok mounts =>
        obtain ⟨mount, hmount⟩ := Except.mapM_ok_iff.mp ⟨mounts, hmap⟩ v hv
        rw [Volume.mount_eq_error_iff.mpr ⟨hrelative, rfl⟩] at hmount
        cases hmount
    | error fault =>
        obtain ⟨w, -, hmount⟩ := Except.mapM_eq_error hmap
        obtain ⟨-, rfl⟩ := Volume.mount_eq_error_iff.mp hmount
        refine ⟨w.source, Except.bind_eq_error_iff.mpr (.inr ⟨publications, ?_, ?_⟩)⟩
        · exact Except.mapError_eq_ok_iff.mpr hports
        · exact Except.bind_eq_error_iff.mpr
            (.inl (Except.mapError_eq_error_iff.mpr ⟨_, hmap, rfl⟩))

end Blueprint

/-- What a provider adds to the volumes of its resource has no relative source, and it leaves out
none of them. -/
theorem Provider.Builds.exists_isRelative_iff {r : Resource} {c : Container} (h : Builds r c)
    (hsite : ∀ docs, r.spec = .docs docs → Path.isAbsolute docs.path = true) :
    (∃ v ∈ c.spec.volumes, v.IsRelative) ↔ ∃ v ∈ r.spec.volumes, v.IsRelative := by
  cases h with
  | container own | nomadServer own | nomadClient own _ => rw [own]; rfl
  | proxy own =>
      rw [own]
      simp [Container.ofResource, Single.proxySpec, Spec.volumes]
  | site own =>
      rw [own]
      simp [Container.ofResource, Single.siteSpec, Spec.volumes, Volume.IsRelative, hsite _ own]
  | k3sServer own | k3sAgent own _ =>
      -- The volume of the staged images is no bind mount.
      rw [own]
      simp [K8sCluster.node, Cluster.K3s.serverSpec, Cluster.K3s.agentSpec, Cluster.K3s.volumes,
        Spec.volumes, Volume.IsRelative]

namespace Document

/-- What becomes of the declarations of a document, seen from an absolute directory. Each is a
resource of its address, in order, whose paths are absolute where they can be. A container that a
provider builds for it is refused for a relative source exactly if the declaration has a bind
volume without source and no range of ports is at fault before. That of a site never is. -/
theorem loaded_rejectsSource_iff {text base : String} {registry : Registry}
    (hbase : Path.isAbsolute base = true) (hload : load text base = .ok registry) :
    ∃ declarations, read text = .ok declarations ∧
      List.Forall₂ (fun d r => r.reference = d.reference ∧ ∃ declared, d.Declares declared ∧
          declared.SeenFrom base r.spec ∧
          ∀ c, Provider.Builds r c →
            (Blueprint.RejectsSource c ↔
              (∀ range ∈ c.spec.portRanges, ∃ bounds, range.bounds = .ok bounds) ∧
              ∃ v ∈ declared.volumes, v.kind = .bind ∧ v.source = "") ∧
            (r.type = .docs → ¬Blueprint.RejectsSource c))
        declarations registry.resources := by
  obtain ⟨declarations, hread, hall⟩ := forall₂_of_load hload
  refine ⟨declarations, hread, hall.imp fun d r hresource => ?_⟩
  obtain ⟨hreference, declared, hdeclares, hspec⟩ := resource_eq_ok hresource
  have hseen : declared.SeenFrom base r.spec := hspec ▸ seenFrom_rebased hbase declared
  refine ⟨hreference, declared, hdeclares, hseen, fun c hbuilt => ?_⟩
  have hvolumes := hbuilt.exists_isRelative_iff hseen.site
  constructor
  · rw [Blueprint.rejectsSource_iff, hvolumes, Volume.exists_isRelative_iff hseen.volumes]
  · intro hdocs hrejects
    obtain ⟨v, hv, -⟩ := hvolumes.mp (Blueprint.rejectsSource_iff.mp hrejects).2
    rw [Resource.type] at hdocs
    cases hspec : r.spec <;> rw [hspec] at hdocs hv <;> cases hdocs
    cases hv

/-- A site in a relative directory is served, and a container whose bind volume has no source is
refused, as it is declared. -/
theorem loaded_rejectsSource_iff_site :
    let text := "resources:\n- type: docs\n  name: manual\n  path: site\n" ++
      "- type: container\n  name: web\n  volumes:\n  - destination: /data\n"
    let site : DocsSpec := { path := "/work/site" }
    let manual : Resource := { name := "manual", spec := .docs site }
    let unbound : ContainerSpec := { volumes := [{ destination := "/data" }] }
    let web : Resource := { name := "web", spec := .container unbound }
    let registry : Registry := { entries := [⟨0, manual⟩, ⟨1, web⟩], next := 2 }
    Path.isAbsolute "/work" = true ∧ load text "/work" = .ok registry ∧
    ¬Blueprint.RejectsSource (.ofResource manual (Provider.Single.siteSpec site)) ∧
    Blueprint.RejectsSource (.ofResource web unbound) ∧
    ∃ d declared, d.reference = web.reference ∧ Declaration.Declares d declared ∧
      ∃ v ∈ declared.volumes, v.kind = .bind ∧ v.source = "" := by
  intro text site manual unbound web registry
  have hload : load text "/work" = .ok registry := Except.eq_ok_of_toOption (by decide +kernel)
  have hrejects : Blueprint.RejectsSource (.ofResource web unbound) :=
    Blueprint.rejectsSource_iff.mpr ⟨by simp [Container.ofResource, unbound],
      { destination := "/data" }, List.mem_singleton_self _, rfl, by decide⟩
  -- The two resources stand in the order of their declarations.
  obtain ⟨declarations, -, hall⟩ := loaded_rejectsSource_iff (by decide) hload
  obtain ⟨first, rest, hmanual, hrest, -⟩ := List.forall₂_cons_right_iff.mp hall
  obtain ⟨second, -, hweb, -, -⟩ := List.forall₂_cons_right_iff.mp hrest
  obtain ⟨-, _, -, -, hsite⟩ := hmanual
  obtain ⟨hreference, declared, hdeclares, -, hcontainer⟩ := hweb
  exact ⟨by decide, hload, (hsite _ (.site rfl)).2 rfl, hrejects, second, declared,
    hreference.symm, hdeclares, ((hcontainer _ (.container rfl)).1.mp hrejects).2⟩

/-- A container that has a bind volume without source and a port range that is none is refused
for the range. -/
theorem not_rejectsSource_malformedRange :
    let text := "resources:\n- type: container\n  name: web\n  port_ranges:\n  - range: x\n" ++
      "  volumes:\n  - source: ''\n    destination: /data\n"
    let declared : ContainerSpec :=
      { portRanges := [{ range := "x" }], volumes := [{ source := "", destination := "/data" }] }
    let web : Resource := { name := "web", spec := .container declared }
    let c : Container := .ofResource web declared
    load text "/work" = .ok { entries := [⟨0, web⟩], next := 1 } ∧
    (∃ d, read text = .ok [d] ∧ d.reference = web.reference ∧ d.Declares (.container declared)) ∧
    Provider.Builds web c ∧
    (∃ v ∈ declared.volumes, v.kind = .bind ∧ v.source = "") ∧
    ¬Blueprint.RejectsSource c ∧
    Blueprint.ofContainer c = .error (Blueprint.refusal c (.within (.portRange "x"))) := by
  intro text declared web c
  have hread : ((read text).toOption.map fun ds => ds.map fun d =>
      (d.reference, (Spec.shape d.type (.mapping d.fields)).toOption))
        = some [(web.reference, some (.container declared))] := by decide +kernel
  refine ⟨Except.eq_ok_of_toOption (by decide +kernel), ?_, .container rfl,
    ⟨_, List.mem_singleton_self _, rfl, rfl⟩, ?_, ?_⟩
  · obtain ⟨declarations, hsome, hlist⟩ := Option.map_eq_some_iff.mp hread
    obtain ⟨d, rfl, hd⟩ := List.map_eq_singleton_iff.mp hlist
    obtain ⟨hreference, hshape⟩ := Prod.mk.inj hd
    exact ⟨d, Except.eq_ok_of_toOption hsome, hreference, Except.eq_ok_of_toOption hshape⟩
  -- A container that is refused for a source has ranges that can be read.
  · intro hrejects
    obtain ⟨bounds, hbounds⟩ :=
      (Blueprint.rejectsSource_iff.mp hrejects).1 _ (List.mem_singleton_self _)
    cases hbounds
  · rfl

end Document

end Moorage
