import Moorage.Proofs.Graph.Build
import Moorage.Proofs.Reference

/-!
# `Moorage.Proofs.Graph.Failure`: why a registry has no graph

`build_eq_ok_iff` says which registries have a graph. For those that have none, the failure
says why. `Graph.build` adds the edges before it sorts, so a string that denotes nothing is
reported before any cycle, and the first of them in the order of registration is.

A cycle is found at a vertex, and the edge in the message is looked for afterwards. Since the
vertex lies on a cycle of the edges between resources, there is such an edge, and both of its
ends are resources. The second sort cannot fail when the first did not, so that the root has
no part in this.

* `dependencyEdges_eq_error`: the string that is reported.
* `cycleError_eq`: the edge that is reported.
* `build_failure`: the failure of a build, in full.
-/

set_option autoImplicit false

namespace Moorage

/-- A registry of a container that waits for one that is not there, behind two that wait for
each other. -/
def Registry.loopAndStray : Registry :=
  let ping : Resource := { name := "ping", dependsOn := ["container.pong"], spec := .container {} }
  let pong : Resource := { name := "pong", dependsOn := ["container.ping"], spec := .container {} }
  let stray : Resource :=
    { name := "stray", dependsOn := ["container.ping", "container.gone"], spec := .container {} }
  { entries := [⟨0, ping⟩, ⟨1, pong⟩, ⟨2, stray⟩], next := 3 }

/-- A registry of two containers that wait for each other. It is the shortest cycle that is not a
resource waiting for itself. -/
def Registry.loop : Registry :=
  { entries := Registry.loopAndStray.entries.take 2, next := 2 }

namespace Graph

open Moorage.Digraph (Vertex Edges Edge)
open Relation (TransGen ReflTransGen)

variable {resources : List Resource}

/-- No label is the name of the root. A label has a dot in it, so a failure that names the root
could not be mistaken for one about a resource. -/
theorem label_ne_root (r : Resource) : r.label ≠ "root" := by
  intro hroot
  have hdot : '.' ∈ r.label.toList := r.reference.dot_mem_text
  rw [hroot] at hdot
  revert hdot
  decide

/-- The string `s` of the resource `r` is the first that denotes nothing: each string of the
resources before `r` denotes something, and so does each that `r` has before `s`. -/
structure FirstUnresolved (resources : List Resource) (r : Resource) (s : String) : Prop where
  first : ∃ before after, resources = before ++ r :: after ∧
    ∀ q ∈ before, ∀ u ∈ q.dependencyReferences, ∃ t, Denotes resources q u t
  firstOwn : ∃ before after, r.dependencyReferences = before ++ s :: after ∧
    ∀ u ∈ before, ∃ t, Denotes resources r u t
  unresolved : ∀ t, ¬ Denotes resources r s t

/-- The edge from `source` to `target` lies on a cycle of needs: `target` needs `source`, and
is `source` or needed by it, directly or not. -/
structure OnCycle (resources : List Resource) (source target : Resource) : Prop where
  needs : Needs resources target source
  back : ReflTransGen (Needs resources) source target

/-! ### Strings that denote nothing -/

/-- The edges of a string cannot be added when it denotes nothing, and the failure says which
one it is. -/
theorem addDependency_eq_error (hdistinct : (resources.map Resource.label).Nodup)
    {r : Resource} {dependent : Vertex} {edges : Edges} {s : String} {error : Error}
    (h : addDependency resources r dependent edges s = .error error) :
    error = .unresolvedDependency r.label s ∧ ∀ t, ¬ Denotes resources r s t := by
  unfold addDependency at h
  split at h
  · next hnone =>
      cases h
      refine ⟨rfl, fun t ht => ?_⟩
      obtain ⟨targets, hsome⟩ := (resolve?_isSome hdistinct r s).mpr ⟨t, ht⟩
      cases hnone.symm.trans hsome
  · cases h

/-- The edges cannot be added when some string denotes nothing, and the failure says which
one is the first. -/
theorem dependencyEdges_eq_error (hdistinct : (resources.map Resource.label).Nodup)
    {error : Error} (h : dependencyEdges resources = .error error) :
    ∃ r s, FirstUnresolved resources r s ∧ error = .unresolvedDependency r.label s := by
  obtain ⟨before, r, after, edges, hsplit, hbefore, hr⟩ := Except.foldlM_eq_error h
  obtain ⟨earlier, s, later, edges', hstrings, hearlier, hs⟩ := Except.foldlM_eq_error hr
  obtain ⟨herror, hnone⟩ := addDependency_eq_error hdistinct hs
  refine ⟨r, s, ⟨⟨before, after, hsplit, fun q hq u hu => ?_⟩,
    ⟨earlier, later, hstrings, fun u hu => ?_⟩, hnone⟩, herror⟩
  · have hresolves := (Except.foldlM_ok_iff
      (fun q _ edges => addResource_ok_iff q edges) []).mp ⟨edges, hbefore⟩
    exact (resolve?_isSome hdistinct q u).mp (hresolves q hq u hu)
  · have hresolves := (Except.foldlM_ok_iff
      (fun u _ edges => addDependency_ok_iff r _ edges u) edges).mp ⟨edges', hearlier⟩
    exact (resolve?_isSome hdistinct r u).mp (hresolves u hu)

/-! ### Cycles -/

/-- The name of the vertex of a resource is its reference text. Failures are worded with it. -/
theorem vertexLabel_of_resourceIn? {v : Vertex} {r : Resource}
    (h : resourceIn? resources v = some r) : vertexLabel resources v = r.label := by
  unfold vertexLabel
  rw [h]

/-- Chains of edges between resources are chains of needs, the other way. -/
theorem reflTransGen_needs (hdistinct : (resources.map Resource.label).Nodup) {edges : Edges}
    (hedges : dependencyEdges resources = .ok edges) {u v : Vertex} {t r : Resource}
    (hu : resourceIn? resources u = some t) (hv : resourceIn? resources v = some r)
    (h : ReflTransGen (Edge edges) u v) : ReflTransGen (Needs resources) r t := by
  rcases Relation.reflTransGen_iff_eq_or_transGen.mp h with rfl | hpath
  · cases hu.symm.trans hv
    exact .refl
  · obtain ⟨r', t', hr, ht, hneeds⟩ := (transGen_edge_iff hdistinct hedges).mp hpath
    cases hv.symm.trans hr
    cases hu.symm.trans ht
    exact hneeds.to_reflTransGen

/-- The failure for a vertex on a cycle names an edge on a cycle. The code looks for a neighbour
that can be reached back from, and finds one on a cycle. -/
theorem cycleError_eq (hdistinct : (resources.map Resource.label).Nodup) {edges : Edges}
    (hedges : dependencyEdges resources = .ok edges) {v : Vertex}
    (hv : TransGen (Edge edges) v v) :
    ∃ source target, OnCycle resources source target ∧
      cycleError resources edges v = .cycle source.label target.label := by
  have hproper := proper_dependencyEdges hedges
  obtain ⟨hedge, hback⟩ := Digraph.cycleTarget_onCycle hproper.nodup
    (fun e he => (hproper.target e he).2) hv
  obtain ⟨target, source, htarget, hsource, hneeds⟩ :=
    (mem_dependencyEdges hdistinct hedges).mp hedge
  refine ⟨source, target, ⟨hneeds, reflTransGen_needs hdistinct hedges htarget hsource hback⟩, ?_⟩
  unfold cycleError
  rw [vertexLabel_of_resourceIn? hsource, vertexLabel_of_resourceIn? htarget]

/-- Both ends of the edge are resources. So neither of the two names in the failure is that of the
root. -/
theorem OnCycle.mem {source target : Resource} (h : OnCycle resources source target) :
    source ∈ resources ∧ target ∈ resources :=
  ⟨h.needs.mem, h.needs.1⟩

/-- The edge leads from a resource to itself only if that resource needs itself. Otherwise the
failure names two different resources. -/
theorem OnCycle.needs_self (hdistinct : (resources.map Resource.label).Nodup)
    {source target : Resource} (h : OnCycle resources source target)
    (hlabel : source.label = target.label) : Needs resources source source := by
  have hneeds := h.needs
  rwa [List.inj_on_of_nodup_map hdistinct h.mem.2 h.mem.1 hlabel.symm] at hneeds

/-! ### The build -/

/-- A build fails with its edges, or at a vertex on a cycle of these. Which vertex it is depends
on the order of the search, and is left open here. -/
theorem build_eq_error {registry : Registry} {error : Error}
    (h : build registry = .error error) :
    dependencyEdges registry.resources = .error error ∨
      ∃ edges v, dependencyEdges registry.resources = .ok edges ∧ TransGen (Edge edges) v v ∧
        error = cycleError registry.resources edges v := by
  rcases Except.bind_eq_error_iff.mp h with hedges | ⟨edges, hedges, hsort⟩
  · exact Or.inl hedges
  · have hproper := proper_dependencyEdges hedges
    rcases Except.bind_eq_error_iff.mp hsort with hfirst | ⟨first, hfirst, hsecond⟩
    · unfold sorted at hfirst
      cases hv : Digraph.sort edges (registry.resources.length + 1) with
      | ok order => rw [hv] at hfirst; cases hfirst
      | error v =>
          rw [hv] at hfirst
          cases hfirst
          exact Or.inr ⟨edges, v, hedges, Digraph.transGen_of_sort_eq_error
            (fun e he => (hproper.source e he).2) (fun e he => (hproper.target e he).2) hv, rfl⟩
    · -- The first sort succeeded, so there is a graph.
      have hacyclic := (Digraph.sort_eq_ok_iff (fun e he => (hproper.source e he).2)
        fun e he => (hproper.target e he).2).mp ⟨first, sorted_eq_ok.mp hfirst⟩
      obtain ⟨g, hg⟩ := exists_build_iff.mpr ⟨edges, hedges, hacyclic⟩
      cases h.symm.trans hg

/-- What the failure of a build says. If some string denotes nothing, it names the first such
string and the resource that has it, whatever cycles there are. Otherwise it names an edge on a
cycle, from a resource to itself only if that resource needs itself. In either case it names
no root. -/
theorem build_failure {registry : Registry}
    (hdistinct : (registry.resources.map Resource.label).Nodup) {error : Error}
    (h : build registry = .error error) :
    ((∃ r ∈ registry.resources, ∃ s ∈ r.dependencyReferences,
        ∀ t, ¬ Denotes registry.resources r s t) →
      ∃ r s, FirstUnresolved registry.resources r s ∧ r.label ≠ "root" ∧
        error = .unresolvedDependency r.label s) ∧
    ((∀ r ∈ registry.resources, ∀ s ∈ r.dependencyReferences,
        ∃ t, Denotes registry.resources r s t) →
      ∃ source target, OnCycle registry.resources source target ∧
        (source.label = target.label → Needs registry.resources source source) ∧
        source.label ≠ "root" ∧ target.label ≠ "root" ∧
        error = .cycle source.label target.label) := by
  constructor
  · rintro ⟨r, hr, s, hs, hnone⟩
    rcases build_eq_error h with herror | ⟨edges, v, hedges, -⟩
    · obtain ⟨r, s, hfirst, herror⟩ := dependencyEdges_eq_error hdistinct herror
      exact ⟨r, s, hfirst, label_ne_root r, herror⟩
    · obtain ⟨t, ht⟩ := (dependencyEdges_ok_iff hdistinct).mp ⟨edges, hedges⟩ r hr s hs
      exact absurd ht (hnone t)
  · intro hall
    rcases build_eq_error h with herror | ⟨edges, v, hedges, hv, rfl⟩
    · obtain ⟨edges, hedges⟩ := (dependencyEdges_ok_iff hdistinct).mpr hall
      cases herror.symm.trans hedges
    · obtain ⟨source, target, hcycle, herror⟩ := cycleError_eq hdistinct hedges hv
      exact ⟨source, target, hcycle, hcycle.needs_self hdistinct, label_ne_root source,
        label_ne_root target, herror⟩

/-- Two containers that wait for each other are reported, and so is, before them, the string of
a third one that denotes nothing. -/
theorem build_failure_loop :
    (∃ r s, FirstUnresolved Registry.loopAndStray.resources r s ∧ r.label ≠ "root" ∧
      Error.unresolvedDependency "container.stray" "container.gone" =
        .unresolvedDependency r.label s) ∧
    ∃ source target, OnCycle Registry.loop.resources source target ∧
      (source.label = target.label → Needs Registry.loop.resources source source) ∧
      source.label ≠ "root" ∧ target.label ≠ "root" ∧
      Error.cycle "container.pong" "container.ping" = .cycle source.label target.label := by
  have hstray : (Registry.loopAndStray.resources.map Resource.label).Nodup := by decide
  have hloop : (Registry.loop.resources.map Resource.label).Nodup := by decide
  constructor
  · refine (build_failure hstray rfl).1 ⟨_, List.mem_of_getElem? (i := 2) rfl,
      "container.gone", by decide, fun t ht => ?_⟩
    obtain ⟨targets, hsome⟩ := (resolve?_isSome hstray _ _).mpr ⟨t, ht⟩
    cases hsome
  · exact (build_failure hloop rfl).2 ((dependencyEdges_ok_iff hloop).mp ⟨_, rfl⟩)

end Graph

end Moorage
