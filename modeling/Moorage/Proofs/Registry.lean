import Mathlib.Data.List.Induction
import Mathlib.Data.List.Nodup
import Moorage.Proofs.Graph.Coherent
import Moorage.Proofs.Reference

/-!
# `Moorage.Proofs.Registry`: finding what was registered

`Registry.after` is the registry that a sequence of calls leaves behind, refused calls
included. `Registry.Sound` holds of all of them: identities are not given twice, and
references are distinct.

An identity is a number that an entry gets when it is added, and an entry is removed by it. Numbers
of entries that are gone are not used again, which is why a registry remembers the next one. A call
that is refused leaves the registry as it was.

References are compared part by part when they are added, but they are looked up by their
texts, in a registry as in a graph. The two agree as long as no name has a dot in it;
`find_label` says what holds then. With dots a resource can be hidden behind another, and
`find_dotted` shows two that are.
-/

set_option autoImplicit false

namespace Moorage

namespace Registry

/-- A call that is to change a registry. It may be refused, and the calls of a sequence are those
that were made and not those that went through. -/
inductive Change where
  | add (resource : Resource)
  | remove (entry : Entry)
  deriving DecidableEq, Repr

/-- The registry after a call. A call that is refused changes nothing. -/
def change (r : Registry) : Change → Registry
  | .add resource =>
      match r.add resource with
      | .ok (_, next) => next
      | .error _ => r
  | .remove entry =>
      match r.remove entry with
      | .ok next => next
      | .error _ => r

/-- The registry after a sequence of calls, from the empty one on. Every registry that can come
about is one of these. -/
def after (changes : List Change) : Registry := changes.foldl change empty

/-- What holds of a registry at any time: every identity was given once, later ones are
greater, and no two references are the same. -/
structure Sound (r : Registry) : Prop where
  ids_nodup : (r.entries.map Entry.id).Nodup
  ids_lt : ∀ entry ∈ r.entries, entry.id < r.next
  references_nodup : (r.resources.map Resource.reference).Nodup

/-- In the beginning there is nothing to be confused. -/
theorem sound_empty : empty.Sound := ⟨List.nodup_nil, by simp [empty], List.nodup_nil⟩

/-- What an addition does that is not refused. The reference is new, part by part, and the entry
stands at the end under the next number. -/
theorem add_eq_ok {r next : Registry} {resource : Resource} {entry : Entry}
    (h : r.add resource = .ok (entry, next)) :
    (∀ other ∈ r.resources, other.reference ≠ resource.reference) ∧
      entry = { id := r.next, resource := resource } ∧
      next = { entries := r.entries ++ [entry], next := r.next + 1 } := by
  unfold add at h
  split at h
  · cases h
  · next hnew =>
      cases h
      exact ⟨by simpa using hnew, rfl, rfl⟩

/-- What a removal does that is not refused. Entries are told apart by their numbers, so that one
which was added again is not the one that was removed. -/
theorem remove_eq_ok {r next : Registry} {entry : Entry} (h : r.remove entry = .ok next) :
    next = { r with entries := r.entries.filter fun other => other.id ≠ entry.id } := by
  unfold remove at h
  split at h
  · cases h
    rfl
  · cases h

namespace Sound

variable {r next : Registry}

/-- A resource is added under a number that no entry has, and only if its reference is new. -/
theorem add (h : r.Sound) {resource : Resource} {entry : Entry}
    (hadd : r.add resource = .ok (entry, next)) : next.Sound := by
  obtain ⟨hnew, rfl, rfl⟩ := add_eq_ok hadd
  refine ⟨?_, fun e he => ?_, ?_⟩
  · -- The new identity is greater than all others.
    have hfresh : r.next ∉ r.entries.map Entry.id := by
      intro hmem
      obtain ⟨e, he, hid⟩ := List.mem_map.mp hmem
      exact absurd hid (Nat.ne_of_lt (h.ids_lt e he))
    simpa using h.ids_nodup.concat hfresh
  · rcases List.mem_append.mp he with he | he
    · exact Nat.lt_succ_of_lt (h.ids_lt e he)
    · rw [List.mem_singleton.mp he]
      exact Nat.lt_succ_self _
  · have hfresh : resource.reference ∉ r.resources.map Resource.reference := by
      intro hmem
      obtain ⟨other, hother, hreference⟩ := List.mem_map.mp hmem
      exact hnew other hother hreference
    simpa [resources] using h.references_nodup.concat hfresh

/-- A removal takes one entry away and leaves the others as they stand. -/
theorem remove (h : r.Sound) {entry : Entry} (hremove : r.remove entry = .ok next) :
    next.Sound := by
  rw [remove_eq_ok hremove]
  have hsub := List.filter_sublist (p := fun other : Entry => other.id ≠ entry.id) (l := r.entries)
  exact ⟨h.ids_nodup.sublist (hsub.map _), fun e he => h.ids_lt e (hsub.subset he),
    h.references_nodup.sublist ((hsub.map _).map _)⟩

/-- A call keeps a registry sound, whether it is refused or not. -/
theorem change (h : r.Sound) (c : Change) : (r.change c).Sound := by
  cases c with
  | add resource =>
      simp only [Registry.change]
      split
      · next hadd => exact h.add hadd
      · exact h
  | remove entry =>
      simp only [Registry.change]
      split
      · next hremove => exact h.remove hremove
      · exact h

end Sound

/-- Every sequence of calls leaves a sound registry behind. By induction on the sequence, whose
last call keeps what those before it have established. -/
theorem sound_after (changes : List Change) : (after changes).Sound := by
  unfold after
  induction changes using List.reverseRecOn with
  | nil => exact sound_empty
  | append_singleton changes c ih =>
      rw [List.foldl_append]
      exact ih.change c

/-- When no name has a dot in it, distinct references have distinct texts. What the modules are
called does not matter: the first dot behind the type ends the name. -/
theorem nodup_label {resources : List Resource}
    (hreferences : (resources.map Resource.reference).Nodup)
    (hnames : ∀ r ∈ resources, '.' ∉ r.name.toList) : (resources.map Resource.label).Nodup := by
  refine List.Nodup.map_on (fun r hr s hs hlabel => ?_) hreferences.of_map
  have hreference : r.reference = s.reference :=
    Reference.text_injective (hnames r hr) (hnames s hs) hlabel
  exact List.inj_on_of_nodup_map hreferences hr hs hreference

/-- When no text is shared, the entry of a resource is found under its text. The first entry with
the text is the one that is found, and there is no other. -/
theorem find_of_nodup {r : Registry} (hdistinct : (r.resources.map Resource.label).Nodup)
    {entry : Entry} (h : entry ∈ r.entries) : r.find entry.resource.label = .ok entry := by
  have hentries : (r.entries.map fun e => e.resource.label).Nodup := by
    unfold resources at hdistinct
    rwa [List.map_map] at hdistinct
  unfold find
  cases hfind : r.entries.find? fun e => e.resource.label = entry.resource.label with
  | none =>
      have hnone := List.find?_eq_none.mp hfind entry h
      simp at hnone
  | some found =>
      -- What is found has the text, and only the entry itself has it.
      have hlabel : found.resource.label = entry.resource.label := by
        simpa using List.find?_some hfind
      have hfound := List.mem_of_find?_eq_some hfind
      rw [List.inj_on_of_nodup_map hentries hfound h hlabel]

/-- When no name has a dot in it, every resource is addressed by its text, whichever calls
led to the registry: no two texts are the same, a text finds the very entry, and in the
index of a graph it leads to the vertex of the resource itself. -/
theorem find_label (changes : List Change)
    (hnames : ∀ r ∈ (after changes).resources, '.' ∉ r.name.toList) :
    ((after changes).resources.map Resource.label).Nodup ∧
    (∀ entry ∈ (after changes).entries,
      (after changes).find entry.resource.label = .ok entry) ∧
    (∀ k r, (after changes).resources[k]? = some r →
      Graph.vertexIn? (after changes).resources r.label = some (k + 1)) ∧
    ∀ g, Graph.build (after changes) = .ok g →
      ∀ r ∈ (after changes).resources, g.get r.label = .ok r := by
  have hdistinct := nodup_label (sound_after changes).references_nodup hnames
  refine ⟨hdistinct, fun entry => find_of_nodup hdistinct,
    fun k r => Graph.vertexIn?_label hdistinct, fun g hbuild r hr => ?_⟩
  -- A graph looks texts up among the same resources.
  have hcoherent := Graph.BuiltFrom.coherent ⟨hbuild, hdistinct⟩
  obtain ⟨_, -, hresources, -, -⟩ := Graph.build_eq_ok hbuild
  obtain ⟨k, hk⟩ := List.mem_iff_getElem?.mp (hresources ▸ hr)
  unfold Graph.get
  rw [hcoherent.vertex?_label hk, Option.bind_some]
  simp only [Graph.resourceIn?, hk]

/-- A network is registered twice, once in a module and once outside; the one outside is
removed and registered again. -/
def reAdded : List Change :=
  let net : Resource := { name := "net", spec := .network {} }
  let inner : Resource := { net with moduleName := some "m.net" }
  [.add net, .add inner, .add net, .remove ⟨0, net⟩, .add net]

/-- Dots in the names of modules do no harm. -/
theorem find_label_reAdded :
    (∀ r ∈ (after reAdded).resources, '.' ∉ r.name.toList) ∧
    (after reAdded).entries.map Entry.id = [1, 2] ∧
    ∀ entry ∈ (after reAdded).entries,
      (after reAdded).find entry.resource.label = .ok entry := by
  have hnames : ∀ r ∈ (after reAdded).resources, '.' ∉ r.name.toList := by decide
  exact ⟨hnames, by decide, (find_label reAdded hnames).2.1⟩

/-- A network whose name ends in a dot and the name of a module, and one in that module. Their
references are different and their texts are not. -/
def dotted : List Change :=
  [.add { name := "a.b", spec := .network {} },
   .add { name := "a", moduleName := some "b", spec := .network {} }]

/-- Both networks are registered, under one text. The first hides the second from
`Registry.find`, and the second hides the first in the index of a graph. -/
theorem find_dotted :
    (after dotted).resources.map Resource.label = ["network.a.b", "network.a.b"] ∧
    (∃ first second, (after dotted).entries = [first, second] ∧ first ≠ second ∧
      (after dotted).find second.resource.label = .ok first) ∧
    Graph.vertexIn? (after dotted).resources "network.a.b" = some 2 := by
  exact ⟨by decide, ⟨_, _, rfl, by decide, rfl⟩, by decide⟩

end Registry

end Moorage
