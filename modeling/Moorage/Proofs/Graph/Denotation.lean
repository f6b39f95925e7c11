import Moorage.Proofs.Graph.Coherent

/-!
# `Moorage.Proofs.Graph.Denotation`: what dependency strings denote

`Denotes` says in terms of resources alone which of them a dependency string stands for,
and `Needs` which resources a resource depends on by any of its strings. Under the
assumption that no two resources share a reference text, the theorems say that the
resolution of strings to vertices follows the one and the edges of a graph follow the
other:

* `resolve?_eq`: a string resolves to the vertices of what it denotes, and does not resolve
  when it denotes nothing.
* `dependencyEdges_ok_iff`: there are edges exactly when every string denotes something.
* `mem_dependencyEdges`: the edges are the pairs of `Needs`, turned around.
-/

set_option autoImplicit false

namespace Moorage

namespace Resource

/-- The strings that a resource waits for are those that it declares and those that its
configuration names, the empty one left out. -/
theorem mem_dependencyReferences {r : Resource} {s : String} :
    s ∈ r.dependencyReferences ↔ s ≠ "" ∧ (s ∈ r.dependsOn ∨ s ∈ r.spec.references) := by
  have hfold : ∀ (texts seen : List String),
      s ∈ texts.foldl (fun seen text => if text = "" ∨ text ∈ seen then seen else seen ++ [text])
          seen ↔ s ∈ seen ∨ s ≠ "" ∧ s ∈ texts := by
    intro texts
    induction texts with
    | nil => simp
    | cons text texts ih =>
        intro seen
        rw [List.foldl_cons, ih]
        split <;> grind
  unfold dependencyReferences
  rw [hfold, List.mem_append]
  simp

end Resource

namespace Graph

open Moorage.Digraph (Vertex Edges)

variable {resources : List Resource}

/-- The resources `t` that a dependency string `s` of the resource `r` denotes: the members
of a module; otherwise the resource with that reference text; or else the one with that
type and name in the module of `r`. -/
inductive Denotes (resources : List Resource) (r : Resource) (s : String) (t : Resource) : Prop
  | member (m : String) (hs : s = "module." ++ m) (ht : t ∈ resources)
      (hm : t.moduleName = some m)
  | named (hs : ∀ m, s ≠ "module." ++ m) (ht : t ∈ resources) (hlabel : t.label = s)
  | sibling (m : String) (hs : ∀ m, s ≠ "module." ++ m) (hnone : ∀ u ∈ resources, u.label ≠ s)
      (hr : r.moduleName = some m) (ht : t ∈ resources) (hlabel : t.label = s ++ "." ++ m)

/-- One of the strings of the resource `r` denotes `t`. The relation is told from the declarations
alone, without vertices, edges or a lookup. -/
def Needs (resources : List Resource) (r t : Resource) : Prop :=
  r ∈ resources ∧ ∃ s ∈ r.dependencyReferences, Denotes resources r s t

/-- What is denoted is among the resources. A string cannot denote what is declared nowhere. -/
theorem Denotes.mem {r t : Resource} {s : String} (h : Denotes resources r s t) :
    t ∈ resources := by
  cases h <;> assumption

/-- What a resource needs is one of the resources. -/
theorem Needs.mem {r t : Resource} (h : Needs resources r t) : t ∈ resources := by
  obtain ⟨-, s, -, hs⟩ := h
  exact hs.mem

/-! ### Resources and their vertices -/

/-- The vertex of a resource is not the root. It is one more than the position at which the
resource stands. -/
theorem resourceIn?_eq_some {v : Vertex} {t : Resource} :
    resourceIn? resources v = some t ↔ ∃ k, v = k + 1 ∧ resources[k]? = some t := by
  cases v with
  | zero => simp [resourceIn?]
  | succ k => simp [resourceIn?]

/-- Every resource has a vertex. -/
theorem exists_resourceIn? {t : Resource} (ht : t ∈ resources) :
    ∃ v, resourceIn? resources v = some t := by
  obtain ⟨k, hk⟩ := List.mem_iff_getElem?.mp ht
  exact ⟨k + 1, hk⟩

/-- A vertex of a resource gives one of the resources. -/
theorem mem_of_resourceIn? {v : Vertex} {t : Resource} (h : resourceIn? resources v = some t) :
    t ∈ resources := by
  obtain ⟨k, -, hk⟩ := resourceIn?_eq_some.mp h
  exact List.mem_of_getElem? hk

section Distinct

variable (hdistinct : (resources.map Resource.label).Nodup)

include hdistinct

/-- A text leads to the vertex of the resource with that reference text. When no text is shared,
this determines the vertex. -/
theorem vertexIn?_eq_some_iff {label : String} {v : Vertex} :
    vertexIn? resources label = some v ↔
      ∃ t, resourceIn? resources v = some t ∧ t.label = label := by
  constructor
  · intro hv
    obtain ⟨k, t, rfl, hk, hlabel⟩ := vertexIn?_eq_some hv
    exact ⟨t, hk, hlabel⟩
  · rintro ⟨t, ht, rfl⟩
    obtain ⟨k, rfl, hk⟩ := resourceIn?_eq_some.mp ht
    exact vertexIn?_label hdistinct hk

omit hdistinct in
/-- A text leads nowhere when it is that of no resource. A sibling is tried in that case only. -/
theorem vertexIn?_eq_none {label : String} :
    vertexIn? resources label = none ↔ ∀ u ∈ resources, u.label ≠ label := by
  constructor
  · rintro hnone u hu rfl
    obtain ⟨v, hv⟩ := exists_vertexIn?_label hu
    cases hnone.symm.trans hv
  · intro hne
    cases hv : vertexIn? resources label with
    | none => rfl
    | some v =>
        obtain ⟨k, t, -, hk, hlabel⟩ := vertexIn?_eq_some hv
        exact absurd hlabel (hne t (List.mem_of_getElem? hk))

/-! ### Resolution -/

omit hdistinct in
/-- A string names a module when it begins in the way of one. The rest of it is the name, whatever
characters it has. -/
theorem dropLead?_module {s : String} {name : List Char} :
    Text.dropLead? "module.".toList s.toList = some name ↔
      s = "module." ++ String.ofList name := by
  rw [Text.dropLead?_eq_some, ← @String.toList_inj s, String.toList_append,
    String.toList_ofList (l := name)]

omit hdistinct in
/-- A string that no module name can be dropped from names no module. -/
theorem ne_module_of_dropLead?_eq_none {s : String}
    (h : Text.dropLead? "module.".toList s.toList = none) (m : String) : s ≠ "module." ++ m := by
  intro hs
  rw [← String.ofList_toList (s := m), ← dropLead?_module, h] at hs
  cases hs

omit hdistinct in
/-- What a string that names a module denotes. -/
theorem denotes_module {r t : Resource} {m : String} :
    Denotes resources r ("module." ++ m) t ↔ t ∈ resources ∧ t.moduleName = some m := by
  constructor
  · intro h
    cases h with
    | member n hs ht hm => exact ⟨ht, (String.append_right_inj _).mp hs ▸ hm⟩
    | named hs _ _ => exact absurd rfl (hs m)
    | sibling _ hs _ _ _ _ => exact absurd rfl (hs m)
  · rintro ⟨ht, hm⟩
    exact .member m rfl ht hm

omit hdistinct in
/-- What a string that names no module denotes, when it is a reference text. Then a sibling of the
same name is out of question. -/
theorem denotes_named {r t u : Resource} {s : String} (hs : ∀ m, s ≠ "module." ++ m)
    (hu : u ∈ resources) (hlabel : u.label = s) :
    Denotes resources r s t ↔ t ∈ resources ∧ t.label = s := by
  constructor
  · intro h
    cases h with
    | member m hm _ _ => exact absurd hm (hs m)
    | named _ ht hlabel => exact ⟨ht, hlabel⟩
    | sibling _ _ hnone _ _ _ => exact absurd hlabel (hnone u hu)
  · rintro ⟨ht, hlabel⟩
    exact .named hs ht hlabel

omit hdistinct in
/-- What a string that names no module denotes, when it is no reference text. It is then read
within the module of the resource that has it, if that is in one. -/
theorem denotes_sibling {r t : Resource} {s : String} (hs : ∀ m, s ≠ "module." ++ m)
    (hnone : ∀ u ∈ resources, u.label ≠ s) :
    Denotes resources r s t ↔
      ∃ m, r.moduleName = some m ∧ t ∈ resources ∧ t.label = s ++ "." ++ m := by
  constructor
  · intro h
    cases h with
    | member m hm _ _ => exact absurd hm (hs m)
    | named _ ht hlabel => exact absurd hlabel (hnone t ht)
    | sibling m _ _ hr ht hlabel => exact ⟨m, hr, ht, hlabel⟩
  · rintro ⟨m, hr, ht, hlabel⟩
    exact .sibling m hs hnone hr ht hlabel

/-- The vertices of the members of a module. The code looks each member up by its text, which
finds the member itself as no text is shared. -/
theorem mem_memberVertices (m : String) (v : Vertex) :
    v ∈ ((resources.filter fun r => r.moduleName = some m).filterMap fun r =>
        vertexIn? resources r.label) ↔
      ∃ t, resourceIn? resources v = some t ∧ t ∈ resources ∧ t.moduleName = some m := by
  simp only [List.mem_filterMap, List.mem_filter, decide_eq_true_eq]
  constructor
  · rintro ⟨u, ⟨hu, hm⟩, hv⟩
    obtain ⟨t, ht, hlabel⟩ := (vertexIn?_eq_some_iff hdistinct).mp hv
    rw [List.inj_on_of_nodup_map hdistinct (mem_of_resourceIn? ht) hu hlabel] at ht
    exact ⟨u, ht, hu, hm⟩
  · rintro ⟨t, ht, hmem, hm⟩
    exact ⟨t, ⟨hmem, hm⟩, (vertexIn?_eq_some_iff hdistinct).mpr ⟨t, ht, rfl⟩⟩

/-- The vertex that is found under a text, as a list. -/
theorem mem_vertexIn?_toList (label : String) (v : Vertex) :
    v ∈ (vertexIn? resources label).toList ↔
      ∃ t, resourceIn? resources v = some t ∧ t ∈ resources ∧ t.label = label := by
  rw [Option.mem_toList, vertexIn?_eq_some_iff hdistinct]
  exact exists_congr fun t =>
    and_congr_right fun ht => (and_iff_right (mem_of_resourceIn? ht)).symm

/-- A string resolves to the vertices of what it denotes; it does not resolve when there
are none. -/
theorem resolve?_eq (r : Resource) (s : String) :
    ∃ vs : List Vertex,
      (∀ v, v ∈ vs ↔ ∃ t, resourceIn? resources v = some t ∧ Denotes resources r s t) ∧
      resolve? resources r s = if vs = [] then none else some vs := by
  unfold resolve?
  cases hlead : Text.dropLead? "module.".toList s.toList with
  | some name =>
      obtain rfl := dropLead?_module.mp hlead
      have hmem := mem_memberVertices hdistinct (String.ofList name)
      simp only [← denotes_module (r := r)] at hmem
      refine ⟨_, hmem, ?_⟩
      dsimp only
      split
      · next hnil => rw [if_pos hnil]
      · next hne => rw [if_neg hne]
  | none =>
      -- The string names no module. Its own text is tried before that in the module.
      have hs := ne_module_of_dropLead?_eq_none hlead
      dsimp only
      cases hfound : vertexIn? resources s with
      | some v =>
          obtain ⟨u, hu, hlabel⟩ := (vertexIn?_eq_some_iff hdistinct).mp hfound
          refine ⟨[v], fun w => ?_, rfl⟩
          have hw := mem_vertexIn?_toList hdistinct s w
          simp only [denotes_named hs (mem_of_resourceIn? hu) hlabel]
          rwa [hfound] at hw
      | none =>
          simp only [denotes_sibling hs (vertexIn?_eq_none.mp hfound)]
          cases hm : r.moduleName with
          | none => exact ⟨[], by simp, rfl⟩
          | some m =>
              refine ⟨(vertexIn? resources (s ++ "." ++ m)).toList, fun w => ?_, ?_⟩
              · simpa using mem_vertexIn?_toList hdistinct (s ++ "." ++ m) w
              · cases hsibling : vertexIn? resources (s ++ "." ++ m) with
                | none => simp [toString, hsibling]
                | some w => simp [toString, hsibling]

/-- A string resolves exactly when it denotes something. For a module this needs a member of it,
since one without members counts as unresolved. -/
theorem resolve?_isSome (r : Resource) (s : String) :
    (∃ targets, resolve? resources r s = some targets) ↔ ∃ t, Denotes resources r s t := by
  obtain ⟨vs, hmem, hresolve⟩ := resolve?_eq hdistinct r s
  rw [hresolve]
  constructor
  · rintro ⟨targets, htargets⟩
    obtain ⟨hne, -⟩ := Option.ite_none_left_eq_some.mp htargets
    obtain ⟨v, hv⟩ := List.exists_mem_of_ne_nil vs hne
    obtain ⟨t, -, ht⟩ := (hmem v).mp hv
    exact ⟨t, ht⟩
  · rintro ⟨t, ht⟩
    obtain ⟨v, hv⟩ := exists_resourceIn? ht.mem
    exact ⟨vs, if_neg (List.ne_nil_of_mem ((hmem v).mpr ⟨t, hv, ht⟩))⟩

/-- The vertices that a string resolves to are those of what it denotes. The three cases are those
of the code: a module, a reference text, and a sibling. -/
theorem mem_resolve? {r : Resource} {s : String} {targets : List Vertex}
    (h : resolve? resources r s = some targets) {v : Vertex} :
    v ∈ targets ↔ ∃ t, resourceIn? resources v = some t ∧ Denotes resources r s t := by
  obtain ⟨vs, hmem, hresolve⟩ := resolve?_eq hdistinct r s
  rw [hresolve] at h
  obtain ⟨-, hsome⟩ := Option.ite_none_left_eq_some.mp h
  cases hsome
  exact hmem v

/-! ### The edges of the strings -/

omit hdistinct in
/-- Edges added one after another. Only membership is told; that none is repeated is
`Proper.addEdge`. -/
theorem mem_foldl_addEdge {targets : List Vertex} {dependent : Vertex} {edges : Edges}
    {e : Vertex × Vertex} :
    e ∈ targets.foldl (fun edges target => Digraph.addEdge edges target dependent) edges ↔
      e ∈ edges ∨ e.1 ∈ targets ∧ e.2 = dependent := by
  induction targets generalizing edges with
  | nil => simp
  | cons v targets ih =>
      obtain ⟨u, w⟩ := e
      rw [List.foldl_cons, ih]
      unfold Digraph.addEdge
      split <;> grind

omit hdistinct in
/-- The edges of a string can be added when it resolves. Nothing else stops the loop over the
strings. -/
theorem addDependency_ok_iff (r : Resource) (dependent : Vertex) (edges : Edges) (s : String) :
    (∃ after, addDependency resources r dependent edges s = .ok after) ↔
      ∃ targets, resolve? resources r s = some targets := by
  unfold addDependency
  cases resolve? resources r s <;> simp

/-- A string adds the edges from what it denotes. They lead to the vertex of the resource that has
the string, since creation goes along the edges. -/
theorem mem_addDependency {r : Resource} {dependent : Vertex} {edges after : Edges} {s : String}
    (h : addDependency resources r dependent edges s = .ok after) (e : Vertex × Vertex) :
    e ∈ after ↔ e ∈ edges ∨ e.2 = dependent ∧
      ∃ t, resourceIn? resources e.1 = some t ∧ Denotes resources r s t := by
  unfold addDependency at h
  split at h
  · cases h
  · next targets hresolve =>
      cases h
      rw [mem_foldl_addEdge, mem_resolve? hdistinct hresolve, and_comm]

omit hdistinct in
/-- The edges of a resource can be added when each of its strings resolves. What has been added
before does not matter for that. -/
theorem addResource_ok_iff (r : Resource) (edges : Edges) :
    (∃ after, addResource resources edges r = .ok after) ↔
      ∀ s ∈ r.dependencyReferences, ∃ targets, resolve? resources r s = some targets :=
  Except.foldlM_ok_iff (fun s _ edges => addDependency_ok_iff r _ edges s) edges

/-- A resource adds the edges to its own vertex from what its strings denote. The loop over its
strings only adds, so the edges of the resources before it stay. -/
theorem mem_addResource {r : Resource} (hr : r ∈ resources) {edges after : Edges}
    (h : addResource resources edges r = .ok after) (e : Vertex × Vertex) :
    e ∈ after ↔ e ∈ edges ∨ ∃ t, resourceIn? resources e.1 = some t ∧
      resourceIn? resources e.2 = some r ∧ Needs resources r t := by
  obtain ⟨v, hv⟩ := exists_resourceIn? hr
  have hfound : vertexIn? resources r.label = some v :=
    (vertexIn?_eq_some_iff hdistinct).mpr ⟨r, hv, rfl⟩
  -- Only the vertex of `r` itself has `r` at it.
  have hown : resourceIn? resources e.2 = some r ↔ e.2 = v := by
    constructor
    · intro he
      have hfound' := (vertexIn?_eq_some_iff hdistinct).mpr ⟨r, he, rfl⟩
      exact Option.some.inj (hfound'.symm.trans hfound)
    · rintro rfl
      exact hv
  unfold addResource at h
  rw [hfound, Option.getD_some] at h
  rw [Except.mem_foldlM (fun s _ _ _ hadd => mem_addDependency hdistinct hadd) h e, hown]
  unfold Needs
  grind

omit hdistinct in
/-- There are edges exactly when every string of every resource resolves. -/
theorem dependencyEdges_ok_iff_resolves :
    (∃ edges, dependencyEdges resources = .ok edges) ↔ ∀ r ∈ resources,
      ∀ s ∈ r.dependencyReferences, ∃ targets, resolve? resources r s = some targets :=
  Except.foldlM_ok_iff (fun r _ edges => addResource_ok_iff r edges) []

/-- There are edges exactly when every string of every resource denotes something. Together with
the lack of cycles, this is when a graph can be built. -/
theorem dependencyEdges_ok_iff :
    (∃ edges, dependencyEdges resources = .ok edges) ↔
      ∀ r ∈ resources, ∀ s ∈ r.dependencyReferences, ∃ t, Denotes resources r s t := by
  simp only [dependencyEdges_ok_iff_resolves, resolve?_isSome hdistinct]

/-- The edges lead to the vertices of resources from those of what they need. Each pair of `Needs`
has one edge, however many strings it comes from. -/
theorem mem_dependencyEdges {edges : Edges} (h : dependencyEdges resources = .ok edges)
    {u v : Vertex} :
    (u, v) ∈ edges ↔ ∃ r t, resourceIn? resources v = some r ∧
      resourceIn? resources u = some t ∧ Needs resources r t := by
  rw [Except.mem_foldlM (fun r hr _ _ hadd => mem_addResource hdistinct hr hadd) h (u, v)]
  constructor
  · rintro (hnil | ⟨r, -, t, ht, hr, hneeds⟩)
    · exact absurd hnil List.not_mem_nil
    · exact ⟨r, t, hr, ht, hneeds⟩
  · rintro ⟨r, t, hr, ht, hneeds⟩
    exact Or.inr ⟨r, mem_of_resourceIn? hr, t, ht, hr, hneeds⟩

end Distinct

end Graph

end Moorage
