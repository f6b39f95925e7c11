import Moorage.Document
import Moorage.Proofs.Path
import Moorage.Proofs.Registry

/-!
# `Moorage.Proofs.Document.Rebase`: what loading does to the paths of a document

`Document.load` makes one resource of each declaration, in order (`forall₂_of_load`). The paths of
its configuration are seen from an absolute base directory then (`Spec.seenFrom_rebased`).

Three sorts of configuration have paths: containers mount directories, a site is a directory, and a
release may have a file of values. A path that is relative is joined to the base, an absolute one
stays, and of a mount only the source is a path on the machine. Named volumes have a source that is
no path, and a mount without a source is left as it was written, for the runtime to refuse.

What is seen is given as a relation between the declared configuration and the one that was loaded.
It says where a path leads by its names, so that nothing is assumed of how paths are joined in text.

* `Volume.SeenFrom`: only the source of a bind mount changes. It is absolute unless it is empty, and
  an empty one stays.
* `Spec.SeenFrom`: the volumes of a configuration, the directory of a site and the values of a
  release.
-/

set_option autoImplicit false

namespace Moorage

/-- The volumes that a configuration declares. Containers and the two kinds of clusters have them,
and no other resource does. -/
def Spec.volumes : Spec → List Volume
  | .container c => c.volumes
  | .k8sCluster c => c.volumes
  | .nomadCluster c => c.volumes
  | .network _ | .helm _ | .ingress _ | .docs _ => []

/-- The address under which a declaration is registered. Its three parts are written in the
document. -/
def Declaration.reference (d : Declaration) : Reference where
  type := d.type
  name := d.name
  moduleName := d.moduleName

/-- The configuration that a declaration writes. -/
def Declaration.Declares (d : Declaration) (spec : Spec) : Prop :=
  Spec.shape d.type (.mapping d.fields) = .ok spec

/-- The second volume is the first one as it is seen from an absolute base directory. Only the
source may change, and it changes for mounts of directories that are not absolute yet. -/
structure Volume.SeenFrom (base : String) (declared seen : Volume) : Prop where
  rest : seen = { declared with source := seen.source }
  isAbsolute : declared.kind = .bind → declared.source ≠ "" → Path.isAbsolute seen.source = true
  below : declared.kind = .bind → declared.source ≠ "" → Path.isAbsolute declared.source = false →
    Path.segments seen.source = Path.segments base ++ Path.segments declared.source
  kept : declared.kind ≠ .bind ∨ declared.source = "" ∨ Path.isAbsolute declared.source = true →
    seen.source = declared.source

/-- The second configuration is the first one with its paths as they are seen from an absolute
base directory. -/
structure Spec.SeenFrom (base : String) (declared seen : Spec) : Prop where
  volumes : List.Forall₂ (Volume.SeenFrom base) declared.volumes seen.volumes
  site : ∀ docs, seen = .docs docs → Path.isAbsolute docs.path = true
  values : ∀ helm file, seen = .helm helm → helm.values = some file → Path.isAbsolute file = true

/-- The runtime could not mount the volume: its source has to be absolute, and is not. -/
def Volume.IsRelative (v : Volume) : Prop := v.kind = .bind ∧ Path.isAbsolute v.source = false

/-- Of the volumes that are seen from an absolute directory only those are relative that had no
source. -/
theorem Volume.SeenFrom.isRelative_iff {base : String} {declared seen : Volume}
    (h : SeenFrom base declared seen) :
    seen.IsRelative ↔ declared.kind = .bind ∧ declared.source = "" := by
  have hkind : seen.kind = declared.kind := by rw [h.rest]
  constructor
  · rintro ⟨hbind, hrelative⟩
    refine ⟨hkind ▸ hbind, ?_⟩
    by_contra hsource
    rw [h.isAbsolute (hkind ▸ hbind) hsource] at hrelative
    cases hrelative
  · rintro ⟨hbind, hempty⟩
    have hsource : seen.source = "" := (h.kept (.inr (.inl hempty))).trans hempty
    exact ⟨hkind.trans hbind, by rw [hsource]; rfl⟩

/-- After loading, the runtime has a mount to refuse where one was declared without a source. A
source that is written is absolute after loading, whatever it was. -/
theorem Volume.exists_isRelative_iff {base : String} {declared seen : List Volume}
    (h : List.Forall₂ (SeenFrom base) declared seen) :
    (∃ v ∈ seen, v.IsRelative) ↔ ∃ v ∈ declared, v.kind = .bind ∧ v.source = "" := by
  induction h with
  | nil => simp
  | cons hv _ ih => simp only [List.exists_mem_cons_iff, hv.isRelative_iff, ih]

namespace Document

/-- A configuration is of the type that it was read as. -/
theorem type_of_shape {type : ResourceType} {value : Yaml.Value} {spec : Spec}
    (h : Spec.shape type value = .ok spec) : spec.type = type := by
  cases type <;> obtain ⟨_, -, rfl⟩ := Except.map_eq_ok_iff.mp h <;> rfl

/-- Seeing the paths from elsewhere keeps the type. So a rebased resource goes to the same
provider. -/
theorem type_rebased (base : String) (spec : Spec) : (rebased base spec).type = spec.type := by
  cases spec <;> rfl

/-- The volumes are seen one by one, whichever sort of configuration has them. Sorts without
volumes keep having none. -/
theorem volumes_rebased (base : String) (spec : Spec) :
    (rebased base spec).volumes = spec.volumes.map (rebasedVolume base) := by
  cases spec <;> rfl

section Base

variable {base : String} (hbase : Path.isAbsolute base = true)

include hbase

/-- Whatever is seen from an absolute directory is absolute. A path that is absolute already is
kept. -/
theorem isAbsolute_join_base (path : String) : Path.isAbsolute (Path.join base path) = true := by
  have hne : base ≠ "" := by
    rintro rfl
    cases hbase
  rw [Path.isAbsolute_join base path hne, hbase, Bool.or_true]

/-- A volume is seen from the base: its source is joined to it where it is a relative path of a
bind mount. -/
theorem seenFrom_rebasedVolume (v : Volume) : v.SeenFrom base (rebasedVolume base v) := by
  unfold rebasedVolume
  split
  case isTrue h =>
    refine ⟨rfl, fun _ _ => isAbsolute_join_base hbase v.source,
      fun _ _ hrelative => Path.segments_join base v.source hrelative, ?_⟩
    rintro (hkind | hempty | habsolute)
    · exact absurd h.1 hkind
    · exact absurd hempty h.2
    · exact if_pos habsolute
  case isFalse h =>
    exact ⟨rfl, fun hkind hsource => absurd ⟨hkind, hsource⟩ h,
      fun hkind hsource => absurd ⟨hkind, hsource⟩ h, fun _ => rfl⟩

/-- A configuration is seen from the base by all of its paths. These are the volumes, and the
files of releases and of documentation. -/
theorem seenFrom_rebased (spec : Spec) : spec.SeenFrom base (rebased base spec) where
  volumes := by
    rw [volumes_rebased, List.forall₂_map_right_iff, List.forall₂_same]
    exact fun v _ => seenFrom_rebasedVolume hbase v
  site := by
    intro docs h
    cases spec <;> cases h
    exact isAbsolute_join_base hbase _
  values := by
    intro helm file h hfile
    cases spec <;> cases h
    obtain ⟨path, -, rfl⟩ := Option.map_eq_some_iff.mp hfile
    exact isAbsolute_join_base hbase path

end Base

/-- Loading a document registers the resource of each declaration, in order. A document that
repeats one does not load. -/
theorem forall₂_of_load {text base : String} {registry : Registry}
    (h : load text base = .ok registry) :
    ∃ declarations, read text = .ok declarations ∧
      List.Forall₂ (fun d r => resource base d = .ok r) declarations registry.resources := by
  obtain ⟨declarations, hread, hfold⟩ := Except.bind_eq_ok_iff.mp h
  refine ⟨declarations, hread, ?_⟩
  obtain ⟨resources, hparts, hall⟩ :=
    Except.forall₂_of_foldlM Registry.resources (fun d r => resource base d = .ok r)
      (fun d _ before after hstep => by
        obtain ⟨r, hresource, hrest⟩ := Except.bind_eq_ok_iff.mp hstep
        obtain ⟨⟨entry, next⟩, hadd, hnext⟩ := Except.bind_eq_ok_iff.mp hrest
        cases hnext
        obtain ⟨-, rfl, rfl⟩ := Registry.add_eq_ok hadd
        exact ⟨r, hresource, by simp [Registry.resources]⟩) hfold
  rw [hparts]
  exact hall

/-- The resource of a declaration has its address, and its configuration with other paths. That
the paths are seen from the base is `seenFrom_rebased`. -/
theorem resource_eq_ok {base : String} {d : Declaration} {r : Resource}
    (h : resource base d = .ok r) :
    r.reference = d.reference ∧ ∃ declared, d.Declares declared ∧ r.spec = rebased base declared := by
  unfold resource at h
  split at h
  case h_1 => cases h
  case h_2 declared hshape =>
    cases h
    refine ⟨?_, declared, hshape, rfl⟩
    simp [Resource.reference, Resource.type, Declaration.reference, type_rebased,
      type_of_shape hshape]

end Document

end Moorage
