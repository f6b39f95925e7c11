import Moorage.Proofs.Graph.Build
import Moorage.Proofs.Reference
import Moorage.Target

/-!
# `Moorage.Proofs.Target`: reading what the graph has resolved

The graph looks a string up among the texts of all references, and once more with the module of
the resource that it belongs to. What is done at run time reads the string again, and takes the
type and the name from it. Both come to the same resource when names and modules have no dots:
`Graph.Reaches.read`.

With dots they may not. The text of a reference says where its parts end only by dots, and a string
that is the text of one reference may be read as another. This is assumed of all resources together,
because the graph looks the string up among all of them.

The one string that they differ on is a mere word for a type. In the module `m` the word
`network` and the module make the text of a network called `m`.
-/

set_option autoImplicit false

namespace Moorage

namespace Graph

open Moorage.Digraph (Vertex)

/-- The string of the resource `r` resolves to the resource `t`, possibly among others. There are
others when the string names a module. -/
def Reaches (resources : List Resource) (r : Resource) (text : String) (t : Resource) : Prop :=
  ∃ vs v, resolve? resources r text = some vs ∧ v ∈ vs ∧ resourceIn? resources v = some t

variable {resources : List Resource} {r t : Resource} {text : String}

/-- A vertex that is found for a text belongs to a resource with that reference. The texts are
compared as they are printed. -/
theorem label_of_vertexIn? {v : Vertex} (hv : vertexIn? resources text = some v)
    (ht : resourceIn? resources v = some t) : t.label = text := by
  obtain ⟨k, u, rfl, hk, hlabel⟩ := vertexIn?_eq_some hv
  cases hk.symm.trans ht
  exact hlabel

/-- A string that names no module resolves to the reference with that text, or to the one in the
module of the resource. -/
theorem Reaches.label (h : Reaches resources r text t) (hmodule : ∀ m, text ≠ "module." ++ m) :
    t.label = text ∨ ∃ m, r.moduleName = some m ∧ t.label = text ++ "." ++ m := by
  obtain ⟨vs, v, hresolve, hv, ht⟩ := h
  unfold resolve? at hresolve
  split at hresolve
  case h_1 name hlead => exact absurd (dropLead?_module.mp hlead) (hmodule _)
  split at hresolve
  case h_1 u hu =>
    cases hresolve
    obtain rfl := List.mem_singleton.mp hv
    exact Or.inl (label_of_vertexIn? hu ht)
  split at hresolve
  case h_2 => cases hresolve
  case h_1 m hm =>
    obtain ⟨u, hu, rfl⟩ := Option.map_eq_some_iff.mp hresolve
    obtain rfl := List.mem_singleton.mp hv
    exact Or.inr ⟨m, hm, label_of_vertexIn? hu ht⟩

/-- What a string leads to is one of the resources. -/
theorem Reaches.mem (h : Reaches resources r text t) : t ∈ resources := by
  obtain ⟨vs, v, -, -, ht⟩ := h
  exact mem_of_resourceIn? ht

/-- A string reads as the type and the name of the resource that it resolves to. The bare word of
a type is left out: with the module as the name it may resolve, but it cannot be read. -/
theorem Reaches.read (h : Reaches resources r text t)
    (hplain : ∀ u ∈ resources, u.reference.IsPlain) (hr : r ∈ resources)
    (hmodule : ∀ m, text ≠ "module." ++ m) (hword : text ≠ t.type.keyword) :
    ∃ q, Reference.read text = .ok q ∧ q.type = t.type ∧ q.name = t.name := by
  have ht := hplain t h.mem
  rcases h.label hmodule with rfl | ⟨m, hm, hlabel⟩
  · exact ⟨t.reference, Reference.read_text ht, rfl, rfl⟩
  · have hpart : Reference.IsPart m := (hplain r hr).2 m hm
    exact ⟨_, Reference.read_of_text_append ht hpart hlabel hword, rfl, rfl⟩

/-- A string that resolves and names no module reaches a resource. The lookup finds a vertex, and
a resource stands there. -/
theorem exists_reaches {targets : List Vertex} (h : resolve? resources r text = some targets)
    (hmodule : ∀ m, text ≠ "module." ++ m) : ∃ t, Reaches resources r text t := by
  have hsingle : ∃ label v, targets = [v] ∧ vertexIn? resources label = some v := by
    unfold resolve? at h
    split at h
    case h_1 name hlead => exact absurd (dropLead?_module.mp hlead) (hmodule _)
    split at h
    case h_1 v hv =>
      cases h
      exact ⟨_, v, rfl, hv⟩
    split at h
    case h_2 => cases h
    case h_1 m hm =>
      obtain ⟨v, hv, rfl⟩ := Option.map_eq_some_iff.mp h
      exact ⟨_, v, rfl, hv⟩
  obtain ⟨label, v, rfl, hv⟩ := hsingle
  obtain ⟨k, t, rfl, hk, -⟩ := vertexIn?_eq_some hv
  exact ⟨t, _, _, h, List.mem_singleton_self _, hk⟩

/-- A string that can be read resolves to resources of the type that it is read with. Here the
bare word of a type is no exception. -/
theorem Reaches.type_eq (h : Reaches resources r text t) {q : Reference}
    (hread : Reference.read text = .ok q) (hmodule : ∀ m, text ≠ "module." ++ m) :
    t.type = q.type := by
  -- The word for the type stands before the first dot, also when the module is added at the end.
  have hlabel : Text.cutFirst '.' t.label.toList
      = some (t.type.keyword.toList, t.reference.path) := by
    show Text.cutFirst '.' t.reference.text.toList = _
    rw [Reference.toList_text, Text.cutFirst_append t.reference.type.dot_notMem_keyword]
    rfl
  have hkeyword : t.type.keyword.toList = q.type.keyword.toList := by
    rcases h.label hmodule with heq | ⟨m, -, heq⟩
    · rw [heq, Reference.cutFirst_of_read hread] at hlabel
      exact (Prod.mk.inj (Option.some.inj hlabel)).1.symm
    · have htext : (text ++ "." ++ m).toList
          = q.type.keyword.toList ++ '.' :: (q.path ++ '.' :: m.toList) := by
        rw [← Reference.text_of_read hread]
        simp [Reference.toList_text]
      rw [heq, htext, Text.cutFirst_append q.type.dot_notMem_keyword] at hlabel
      exact (Prod.mk.inj (Option.some.inj hlabel)).1.symm
  exact ResourceType.keyword_injective (String.toList_inj.mp hkeyword)

/-- The string of the resource `r` stands for resources of the types: it is neither empty nor the
marker of a module nor a mere word, and does not resolve to a resource of another type. -/
structure Aims (resources : List Resource) (r : Resource) (text : String)
    (types : List ResourceType) : Prop where
  ne_empty : text ≠ ""
  ne_module : ∀ m, text ≠ "module." ++ m
  ne_word : ∀ type : ResourceType, text ≠ type.keyword
  type_mem : ∀ t, Reaches resources r text t → t.type ∈ types

/-- Of the strings that the graph resolves, those that stand for resources of the types are the
ones that can be read as references to such resources. -/
theorem aims_iff (hplain : ∀ u ∈ resources, u.reference.IsPlain) (hr : r ∈ resources)
    (hresolves : text ≠ "" → ∃ targets, resolve? resources r text = some targets)
    {types : List ResourceType} : Aims resources r text types ↔
      ∃ q, Reference.read text = .ok q ∧ q.type ∈ types := by
  constructor
  · intro h
    -- The string resolves, and reads as what it resolves to.
    obtain ⟨targets, htargets⟩ := hresolves h.ne_empty
    obtain ⟨t, ht⟩ := exists_reaches htargets h.ne_module
    obtain ⟨q, hread, htype, -⟩ := ht.read hplain hr h.ne_module (h.ne_word _)
    exact ⟨q, hread, htype ▸ h.type_mem t ht⟩
  · rintro ⟨q, hread, htype⟩
    -- Before the first dot stands the word for a type: there is a dot, and the word is no marker.
    have hcut := Reference.cutFirst_of_read hread
    have hmodule : ∀ m, text ≠ "module." ++ m := by
      rintro m rfl
      have hword : Text.cutFirst '.' ("module." ++ m).toList = some ("module".toList, m.toList) := by
        simp [Text.cutFirst]
      rw [hword] at hcut
      have hkeyword := String.toList_inj.mp (Prod.mk.inj (Option.some.inj hcut)).1
      exact q.type.keyword_ne_module hkeyword.symm
    exact
      { ne_empty := by
          rintro rfl
          cases hcut
        ne_module := hmodule
        ne_word := by
          rintro type rfl
          rw [Text.cutFirst_eq_none type.dot_notMem_keyword] at hcut
          cases hcut
        type_mem := fun t ht => ht.type_eq hread hmodule ▸ htype }

end Graph

namespace Target

variable {text : String} {q : Reference}

/-- A string that is read as a network stands for the network of that name. The module is not part
of the name. -/
theorem networkName_of_read (h : Reference.read text = .ok q) (htype : q.type = .network) :
    networkName text = .ok q.name := by
  unfold networkName Reference.parse
  simp [h, htype, Except.mapError, bind, Except.bind, pure, Except.pure]

/-- A string that is read as a cluster stands for the kubeconfig of the cluster of that name. The
graph is not asked, so the name has to be the one that it resolves to. -/
theorem releaseKubeconfig_of_read {spec : HelmSpec} (h : Reference.read spec.cluster = .ok q)
    (htype : q.type = .k8sCluster) (cache : String) :
    releaseKubeconfig cache spec = .ok (Naming.localKubeconfig cache q.name) := by
  unfold releaseKubeconfig Reference.parse
  simp [h, htype, Except.mapError, bind, Except.bind, pure, Except.pure]

/-- Without a service, an ingress forwards to the host of what its target is read as. The port
comes from the ingress itself. -/
theorem ingressHost_of_read {spec : IngressSpec} (hservice : spec.service = none)
    (h : Reference.read spec.target = .ok q) : ingressHost spec = .ok (host q) := by
  unfold ingressHost Reference.parse
  simp [h, hservice, Except.mapError, bind, Except.bind, pure, Except.pure]

end Target

end Moorage
