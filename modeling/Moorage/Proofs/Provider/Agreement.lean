import Moorage.Proofs.Graph.Build
import Moorage.Proofs.Provider.Cleanup
import Moorage.Proofs.Provider.K8sCluster.Order
import Moorage.Proofs.Target

/-!
# `Moorage.Proofs.Provider.Agreement`: references lead to what was created

A string of a configuration is resolved twice: by the graph, to the resource that has to be
created first, and at run time, to the name of a runtime object. The two do not know of each other.
The graph compares references, with their modules, and the run time builds a name out of the text.

`references_agree` says that the name is the one under which the resource has created that object.
Which object this is depends on what reads the string: a container is attached to a network, an
ingress forwards to a container, and a release goes to the cluster of a kubeconfig. So there are
three parts, and each rests on what a creation that succeeds has asked for: `exists_network_of_ok`,
`exists_container_of_ok` and `exists_kubeconfig_of_ok`. That the creation succeeds is assumed. One
that fails may have made the object or not.

The object is the one that was made by that creation, told by its call. That it is still there when
it is used is not said here.

The graph also resolves the mere word for a type, to a resource that has the name of the module.
There is no object for it at run time (`word_resolves`).
-/

set_option autoImplicit false

namespace Moorage

open Service (Call)

/-- A container that was created was asked for under its name. The answer to this was its
identity, which is the result. -/
theorem Container.exists_creation_of_ok {settings : Settings} {c : Container} {log : Exchanges}
    {id : String} (h : Action.Yields (create settings c) log (.ok id)) :
    ∃ blueprint, (⟨.createContainer c.fqdn blueprint, .ok id⟩ : Exchange Service.interface) ∈ log := by
  have hcourse := course_of_yields h
  cases hcourse with
  | up =>
      exact ⟨_, List.mem_append_left _ (List.mem_append_right _ (List.mem_singleton_self _))⟩

namespace Provider

variable {settings : Settings} {r t : Resource}

/-- The name of the container that answers for a resource: its own, or that of its server.
Networks and releases have none, and the name means nothing for them. -/
def frontFqdn (t : Resource) : String :=
  match t.type with
  | .k8sCluster => Cluster.K3s.serverFqdn t
  | .nomadCluster => Cluster.Nomad.serverFqdn t
  | _ => t.fqdn

/-- The log has a container that was created under the name. Which blueprint it has is left open. -/
def Creates (log : Exchanges) (fqdn : String) : Prop :=
  ∃ blueprint id, (⟨.createContainer fqdn blueprint, .ok id⟩ : Exchange Service.interface) ∈ log

/-- A container resource has created a container of its name, since the creation of one that
succeeds has made the call for it and was granted it. -/
theorem Single.creates_of_ok {spec : ContainerSpec} {log : Exchanges}
    (h : Action.Yields (create settings t spec) log (.ok ())) : Creates log t.fqdn := by
  obtain ⟨first, id, second, hfirst, -, rfl⟩ := Action.Yields.of_bind_ok h
  obtain ⟨blueprint, hmem⟩ := Container.exists_creation_of_ok hfirst
  exact ⟨blueprint, id, List.mem_append_left second hmem⟩

/-- An ingress has created a container of its own name, whichever host that forwards to. -/
theorem Single.creates_of_ok_ingress {spec : IngressSpec} {log : Exchanges}
    (h : Action.Yields (createIngress settings t spec) log (.ok ())) : Creates log t.fqdn := by
  obtain ⟨first, host, second, -, hsecond, rfl⟩ := Action.Yields.of_bind_ok h
  obtain ⟨blueprint, id, hmem⟩ := creates_of_ok hsecond
  exact ⟨blueprint, id, List.mem_append_right first hmem⟩

/-- Docs have created a container of their own name, after their directory was found. -/
theorem Single.creates_of_ok_docs {spec : DocsSpec} {log : Exchanges}
    (h : Action.Yields (createDocs settings t spec) log (.ok ())) : Creates log t.fqdn := by
  obtain ⟨first, found, second, -, hsecond, rfl⟩ := Action.Yields.of_bind_ok h
  split at hsecond
  · obtain ⟨blueprint, id, hmem⟩ := creates_of_ok hsecond
    exact ⟨blueprint, id, List.mem_append_right first hmem⟩
  · exact absurd hsecond Action.not_yields_throw_ok

/-- A creation that succeeds had a driver that there is, so that it went through all its steps. -/
theorem K8sCluster.goes_of_ok {spec : K8sSpec} {log : Exchanges}
    (h : Action.Yields (create settings t spec) log (.ok ())) :
    ∃ f, Goes settings t (steps settings t spec f) log (.ok ()) := by
  by_cases hdriver : spec.driver = Cluster.K3s.driver
  · exact exists_goes_of_yields hdriver h
  · obtain ⟨-, heq⟩ := eq_of_yields_of_driver hdriver h
    cases heq

/-- The container that answers for a Kubernetes cluster is its server. -/
theorem K8sCluster.creates_of_ok {spec : K8sSpec} {log : Exchanges}
    (h : Action.Yields (create settings t spec) log (.ok ())) :
    Creates log (Cluster.K3s.serverFqdn t) := by
  obtain ⟨f, hgoes⟩ := goes_of_ok h
  have hstep : Step.node (server t spec f.ports f.token) f.server .create
      ∈ steps settings t spec f := by
    simp [steps, serverSteps, nodeSteps, Container.Step.all, Container.Step.making]
  obtain ⟨own, hown, hperforms⟩ := hgoes.performs_of_mem hstep
  cases hperforms with
  | node step =>
      cases step with
      | created => exact ⟨_, _, hown List.mem_cons_self⟩

/-- The kubeconfig of a cluster that was created was written for the host. A release on the
cluster reads it from there. -/
theorem K8sCluster.writes_of_ok {spec : K8sSpec} {log : Exchanges}
    (h : Action.Yields (create settings t spec) log (.ok ())) :
    ∃ text, (⟨.writeFile (Naming.localKubeconfig settings.cacheDir t.name) text, .ok ()⟩ :
      Exchange Service.interface) ∈ log := by
  obtain ⟨f, hgoes⟩ := goes_of_ok h
  have hstep : Step.write (Naming.localKubeconfig settings.cacheDir t.name) f.forHost
      ∈ steps settings t spec f := by
    simp [steps, joinSteps, copySteps]
  obtain ⟨own, hown, hperforms⟩ := hgoes.performs_of_mem hstep
  generalize hresult : (Except.ok () : Except Error Unit) = result at hperforms
  cases hperforms with
  | write path text answer =>
      cases answer with
      | ok value => exact ⟨_, hown List.mem_cons_self⟩
      | error fault => cases hresult

/-- The container that answers for a Nomad cluster is its server. -/
theorem NomadCluster.creates_of_ok {spec : NomadSpec} {log : Exchanges}
    (h : Action.Yields (create settings t spec) log (.ok ())) :
    Creates log (Cluster.Nomad.serverFqdn t) := by
  obtain ⟨first, existing, rest, -, hrest, rfl⟩ := Action.Yields.of_bind_ok h
  split at hrest
  case isFalse => exact absurd hrest Action.not_yields_throw_ok
  obtain ⟨ports, port, nodes, -, hnodes, rfl⟩ := Action.Yields.of_bind_ok hrest
  -- The server is started before anything else.
  obtain ⟨server, _, others, hserver, -, rfl⟩ := Action.Yields.of_bind_ok hnodes
  obtain ⟨made, id, noted, hmade, -, rfl⟩ := Action.Yields.of_bind_ok hserver
  obtain ⟨blueprint, hmem⟩ := Container.exists_creation_of_ok hmade
  refine ⟨blueprint, id, List.mem_append_right _ (List.mem_append_right _ ?_)⟩
  exact List.mem_append_left _ (List.mem_append_left _ hmem)

/-- A network that was created has the bare name of its resource. Containers are attached to it by
that name. -/
theorem Network.creates_of_ok {spec : NetworkSpec} {log : Exchanges}
    (h : Action.Yields (create t spec) log (.ok ())) :
    ∃ id, (⟨.createNetwork t.name spec.subnet (labels t), .ok id⟩ : Exchange Service.interface)
      ∈ log := by
  obtain ⟨first, existing, rest, -, hrest, rfl⟩ := Action.Yields.of_bind_ok h
  split at hrest
  case isFalse => exact absurd hrest Action.not_yields_throw_ok
  obtain ⟨made, id, _, hmade, -, rfl⟩ := Action.Yields.of_bind_ok hrest
  obtain ⟨outcome, hcall, heq⟩ := Action.yields_within_iff.mp hmade
  obtain rfl := Program.yields_perform_iff.mp hcall
  cases outcome with
  | ok made =>
      cases heq
      exact ⟨id, List.mem_append_right _ (List.mem_append_left _ (List.mem_singleton_self _))⟩
  | error error => cases heq

/-! ### What a creation that succeeds has made -/

/-- A resource that is a network has created a network of its name. Its subnet and its labels do
not matter for those that are attached to it. -/
theorem exists_network_of_ok (htype : t.type = .network) {log : Exchanges}
    (h : Action.Yields (create settings t) log (.ok ())) :
    ∃ subnet labels id,
      (⟨.createNetwork t.name subnet labels, .ok id⟩ : Exchange Service.interface) ∈ log := by
  unfold create at h
  cases hspec : t.spec with
  | network spec =>
      rw [hspec] at h
      obtain ⟨id, hmem⟩ := Network.creates_of_ok h
      exact ⟨_, _, id, hmem⟩
  | _ => simp [Resource.type, hspec, Spec.type] at htype

/-- A resource with containers has created the one that answers for it, with the name that a proxy
forwards to. -/
theorem exists_container_of_ok (htype : t.type ∈ containerTypes) {log : Exchanges}
    (h : Action.Yields (create settings t) log (.ok ())) : Creates log (frontFqdn t) := by
  unfold create at h
  unfold frontFqdn
  cases hspec : t.spec with
  | network => simp [Resource.type, hspec, Spec.type, containerTypes] at htype
  | helm => simp [Resource.type, hspec, Spec.type, containerTypes] at htype
  | container spec =>
      rw [hspec] at h
      simpa [Resource.type, hspec, Spec.type] using Single.creates_of_ok h
  | ingress spec =>
      rw [hspec] at h
      simpa [Resource.type, hspec, Spec.type] using Single.creates_of_ok_ingress h
  | docs spec =>
      rw [hspec] at h
      simpa [Resource.type, hspec, Spec.type] using Single.creates_of_ok_docs h
  | k8sCluster spec =>
      rw [hspec] at h
      simpa [Resource.type, hspec, Spec.type] using K8sCluster.creates_of_ok h
  | nomadCluster spec =>
      rw [hspec] at h
      simpa [Resource.type, hspec, Spec.type] using NomadCluster.creates_of_ok h

/-- A cluster has written the kubeconfig that releases on it are given. It was written after the
server had come up, and before the images were imported. -/
theorem exists_kubeconfig_of_ok (htype : t.type = .k8sCluster) {log : Exchanges}
    (h : Action.Yields (create settings t) log (.ok ())) :
    ∃ text, (⟨.writeFile (Naming.localKubeconfig settings.cacheDir t.name) text, .ok ()⟩ :
      Exchange Service.interface) ∈ log := by
  unfold create at h
  cases hspec : t.spec with
  | k8sCluster spec =>
      rw [hspec] at h
      exact K8sCluster.writes_of_ok h
  | _ => simp [Resource.type, hspec, Spec.type] at htype

/-! ### What references lead to -/

/-- The container that answers for a resource has the host name of its reference. An ingress
forwards to this name. -/
theorem host_eq_frontFqdn {q : Reference} (htype : q.type = t.type) (hname : q.name = t.name) :
    Target.host q = frontFqdn t := by
  unfold Target.host frontFqdn
  rw [htype, hname]
  cases ht : t.type <;>
    simp [Cluster.K3s.serverFqdn, Cluster.Nomad.serverFqdn, Resource.fqdn, ht]

/-- A string of a configuration that is neither the marker of a module nor a mere word for a type
means at run time what the graph resolves it to: the network, the kubeconfig or the container
that a creation of that resource has made under the very name. -/
theorem references_agree {registry : Registry}
    (hplain : ∀ u ∈ registry.resources, u.reference.IsPlain) (settings : Settings)
    {r t : Resource} (hr : r ∈ registry.resources) {text : String}
    (hmodule : ∀ m, text ≠ "module." ++ m) (hword : text ≠ t.type.keyword)
    (hreaches : Graph.Reaches registry.resources r text t) :
    (t.type = .network → Target.networkName text = .ok t.name ∧
      ∀ log, Action.Yields (create settings t) log (.ok ()) → ∃ subnet labels id,
        (⟨.createNetwork t.name subnet labels, .ok id⟩ : Exchange Service.interface) ∈ log) ∧
    (∀ spec, r.spec = .helm spec → spec.cluster = text → t.type = .k8sCluster →
      Target.releaseKubeconfig settings.cacheDir spec
        = .ok (Naming.localKubeconfig settings.cacheDir t.name) ∧
      ∀ log, Action.Yields (create settings t) log (.ok ()) → ∃ contents,
        (⟨.writeFile (Naming.localKubeconfig settings.cacheDir t.name) contents, .ok ()⟩ :
          Exchange Service.interface) ∈ log) ∧
    (∀ spec, r.spec = .ingress spec → spec.service = none → spec.target = text →
      t.type ∈ containerTypes → Target.ingressHost spec = .ok (frontFqdn t) ∧
      ∀ log, Action.Yields (create settings t) log (.ok ()) → Creates log (frontFqdn t)) := by
  obtain ⟨q, hread, hqtype, hqname⟩ := hreaches.read hplain hr hmodule hword
  refine ⟨fun htype => ⟨?_, fun log => exists_network_of_ok htype⟩, ?_, ?_⟩
  · rw [Target.networkName_of_read hread (hqtype.trans htype), hqname]
  · rintro spec - rfl htype
    refine ⟨?_, fun log => exists_kubeconfig_of_ok htype⟩
    rw [Target.releaseKubeconfig_of_read hread (hqtype.trans htype), hqname]
  · rintro spec - hservice rfl htype
    refine ⟨?_, fun log => exists_container_of_ok htype⟩
    rw [Target.ingressHost_of_read hservice hread, host_eq_frontFqdn hqtype hqname]

/-- The container of a module is attached to the network of that module, which its text leaves
out, and creations of that network succeed. -/
theorem references_agree_web :
    let settings := Settings.ofHome "/home"
    let net : Resource := { name := "net", moduleName := some "shop", spec := .network {} }
    Target.networkName "network.net" = .ok "net" ∧
    (∃ log, Action.Yields (create settings net) log (.ok ())) ∧
    ∀ log, Action.Yields (create settings net) log (.ok ()) → ∃ subnet labels id,
      (⟨.createNetwork "net" subnet labels, .ok id⟩ : Exchange Service.interface) ∈ log := by
  intro settings net
  let web : Resource :=
    { name := "web", moduleName := some "shop", dependsOn := ["network.net.shop"],
      spec := .container { networks := [{ name := "network.net" }] } }
  have hplain : ∀ u ∈ Registry.jobAfterShop.resources, u.reference.IsPlain := by decide
  have hreaches : Graph.Reaches Registry.jobAfterShop.resources web "network.net" net :=
    ⟨[1], 1, rfl, List.mem_singleton_self _, rfl⟩
  obtain ⟨hname, hmade⟩ := (references_agree hplain settings (by decide)
    (Graph.ne_module_of_dropLead?_eq_none rfl) (by decide) hreaches).1 rfl
  -- There is no such network yet, and the engine makes one.
  have hyields : Action.Yields (create settings net)
      [⟨.findNetworks "net", .ok []⟩, ⟨.createNetwork "net" "" (Network.labels net), .ok "net-1"⟩]
      (.ok ()) := .ask _ (.ask _ (.done _))
  exact ⟨hname, ⟨_, hyields⟩, hmade⟩

/-- In a module that has the name of a network, the mere word resolves to that network, and
cannot be read when a container of the module is to be attached. -/
theorem word_resolves :
    let net : Resource := { name := "shop", spec := .network {} }
    let web : Resource :=
      { name := "web", moduleName := some "shop",
        spec := .container { networks := [{ name := "network" }] } }
    let registry : Registry := { entries := [⟨0, net⟩, ⟨1, web⟩], next := 2 }
    (∀ u ∈ registry.resources, u.reference.IsPlain) ∧
    (∃ g, Graph.build registry = .ok g) ∧ (∀ m, "network" ≠ "module." ++ m) ∧
    Graph.Reaches registry.resources web "network" net ∧
    Target.networkName "network" = .error (.invalidReference "network" .segmentCount) := by
  refine ⟨by decide, ⟨_, rfl⟩, Graph.ne_module_of_dropLead?_eq_none rfl, ?_, rfl⟩
  exact ⟨[1], 1, rfl, List.mem_singleton_self _, rfl⟩

end Provider

end Moorage
