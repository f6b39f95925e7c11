import Mathlib.Data.List.Induction
import Moorage.Cluster.K3s
import Moorage.Proofs.Container.Blueprint

/-!
# `Moorage.Proofs.Container.Publication`: the ports that reach the engine

A configuration declares ports one by one and in ranges. `Exposes` and `Binds` say which endpoints
it declares, and on which ports of the host. A blueprint keeps one host port for an endpoint, the
one that is declared last.

An endpoint is a port of the container and its protocol. It may be declared any number of times,
for a port of the host or for none, and a range that is published binds each of its endpoints to
the port of the same number. `Exposes` and `Binds` are relations, so that an endpoint may be bound
to several ports by what is declared. In the blueprint it is bound to one.

The endpoints are a set and the bindings a map, so the order of declarations shows in the bindings
alone. A k3s server declares ports of its own in front of those of its cluster, and keeps them
unless the cluster declares one of them otherwise.

* `mem_publications`: what a configuration publishes is what it declares.
* `mem_exposedBy`, `getElem?_boundBy`: what a blueprint makes of publications.
* `bound_iff_declared`: everything declared is exposed, and everything that is bound was declared.
  Everything that is declared for an endpoint is bound exactly if all of it is the same host port.
* `bound_overwritten`: a port that is declared for two ports of the host loses one of them.
-/

set_option autoImplicit false

namespace Moorage

/-- The endpoint is one of the range. Its text has to be one that writes a range. -/
def PortRange.Covers (r : PortRange) (e : Endpoint) : Prop :=
  ∃ first last, r.bounds = .ok (first, last) ∧ first ≤ e.port ∧ e.port ≤ last ∧
    e.protocol = r.protocol

/-- The ports and ranges declare the endpoint. For this it does not matter whether they bind it to
the host. -/
def Exposes (ports : List Port) (ranges : List PortRange) (e : Endpoint) : Prop :=
  (∃ p ∈ ports, e = ⟨p.containerPort, p.protocol⟩) ∨ ∃ r ∈ ranges, r.Covers e

/-- The ports and ranges declare the endpoint for the port of the host. A range does so for its
own ports, if it does at all. -/
def Binds (ports : List Port) (ranges : List PortRange) (e : Endpoint) (host : UInt16) : Prop :=
  (∃ p ∈ ports, e = ⟨p.containerPort, p.protocol⟩ ∧ p.hostPort = some host) ∨
  ∃ r ∈ ranges, r.Covers e ∧ r.enableHost = true ∧ host = e.port

/-! ### Declared publications -/

/-- A range publishes the endpoints that it covers. On the host they have the same numbers, or
they are not published there. -/
theorem PortRange.mem_publications {r : PortRange} {publications : List Publication}
    (h : r.publications = .ok publications) {p : Publication} :
    p ∈ publications ↔ r.Covers p.endpoint ∧
      p.hostPort = if r.enableHost then some p.endpoint.port else none := by
  obtain ⟨⟨first, last⟩, hbounds, heq⟩ := Except.bind_eq_ok_iff.mp h
  cases heq
  simp only [List.mem_map, List.mem_range'_1]
  constructor
  · rintro ⟨n, ⟨hfirst, hlast⟩, rfl⟩
    -- Every number of the range is one of a port, the last port of all included.
    have hle : n ≤ last.toNat := by omega
    have hport : (UInt16.ofNat n).toNat = n :=
      UInt16.toNat_ofNat_of_lt (Nat.lt_of_le_of_lt hle last.toNat_lt)
    refine ⟨⟨first, last, hbounds, ?_, ?_, rfl⟩, rfl⟩
    · rwa [UInt16.le_iff_toNat_le, hport]
    · rwa [UInt16.le_iff_toNat_le, hport]
  · rintro ⟨⟨first', last', hbounds', hfirst, hlast, hprotocol⟩, hhost⟩
    cases hbounds.symm.trans hbounds'
    rw [UInt16.le_iff_toNat_le] at hfirst hlast
    refine ⟨p.endpoint.port.toNat, ⟨hfirst, by omega⟩, ?_⟩
    rw [UInt16.ofNat_toNat, ← hprotocol, ← hhost]

/-- Ranges publish the endpoints that one of them covers. An endpoint in two ranges is published
twice. -/
theorem PortRange.mem_flatten_publications {ranges : List PortRange}
    {publications : List (List Publication)}
    (h : ranges.mapM PortRange.publications = .ok publications) {p : Publication} :
    p ∈ publications.flatten ↔ ∃ r ∈ ranges, r.Covers p.endpoint ∧
      p.hostPort = if r.enableHost then some p.endpoint.port else none := by
  have heach := Except.mapM_eq_ok_iff.mp h
  clear h
  induction heach with
  | nil => simp
  | cons hr _ ih =>
      simp only [List.flatten_cons, List.mem_append, mem_publications hr, ih,
        List.exists_mem_cons_iff]

/-- A configuration publishes its ports and the endpoints of its ranges. It says so in declared
terms, and the order is left out. -/
theorem ContainerSpec.mem_publications {spec : ContainerSpec} {publications : List Publication}
    (h : spec.publications = .ok publications) {p : Publication} :
    p ∈ publications ↔ (∃ port ∈ spec.ports, p = port.publication) ∨
      ∃ r ∈ spec.portRanges, r.Covers p.endpoint ∧
        p.hostPort = if r.enableHost then some p.endpoint.port else none := by
  obtain ⟨ofRanges, hranges, heq⟩ := Except.bind_eq_ok_iff.mp h
  cases heq
  rw [List.mem_append, PortRange.mem_flatten_publications hranges, List.mem_map]
  simp only [eq_comm]

namespace Blueprint

/-! ### Publications in a blueprint -/

/-- What is published is exposed. An endpoint that is published twice is exposed once. -/
theorem mem_exposedBy {publications : List Publication} {e : Endpoint} :
    e ∈ exposedBy publications ↔ ∃ p ∈ publications, p.endpoint = e := by
  induction publications using List.reverseRecOn with
  | nil => simp [exposedBy]
  | append_singleton publications p ih =>
      have hlast : exposedBy (publications ++ [p])
          = (exposedBy publications).insert p.endpoint := by
        simp [exposedBy]
      rw [hlast, Std.HashSet.mem_insert, ih]
      simp [or_comm]

/-- The ports of the host that publications bind an endpoint to, in order. The last one of them
counts. -/
def hostPorts (e : Endpoint) (publications : List Publication) : List UInt16 :=
  publications.filterMap fun p => if p.endpoint = e then p.hostPort else none

/-- The host ports of an endpoint are those that it is published on. The order is left out here. -/
theorem mem_hostPorts {publications : List Publication} {e : Endpoint} {host : UInt16} :
    host ∈ hostPorts e publications ↔
      ∃ p ∈ publications, p.endpoint = e ∧ p.hostPort = some host := by
  simp [hostPorts]

/-- An endpoint is bound to the last one of its host ports. The bindings are a map, and a later
entry takes the place of an earlier one. -/
theorem getElem?_boundBy {publications : List Publication} {e : Endpoint} :
    (boundBy publications)[e]? = (hostPorts e publications).getLast? := by
  induction publications using List.reverseRecOn with
  | nil => simp [boundBy, hostPorts]
  | append_singleton publications p ih =>
      cases hhost : p.hostPort with
      | none =>
          have hlast : boundBy (publications ++ [p]) = boundBy publications := by
            simp [boundBy, hhost]
          rw [hlast, ih]
          simp [hostPorts, hhost]
      | some host =>
          have hlast : boundBy (publications ++ [p])
              = (boundBy publications).insert p.endpoint host := by
            simp [boundBy, hhost]
          rw [hlast, Std.HashMap.getElem?_insert, ih]
          by_cases he : p.endpoint = e <;> simp [hostPorts, hhost, he]

/-- A blueprint exposes and binds what its configuration publishes. The two are worked out from
one list. -/
theorem publications_of_ofContainer {c : Container} {b : Blueprint} (h : ofContainer c = .ok b) :
    ∃ publications, c.spec.publications = .ok publications ∧
      b.exposed = exposedBy publications ∧ b.bindings = boundBy publications := by
  obtain ⟨publications, mounts, hpublications, -, rfl⟩ := ofContainer_eq_ok_iff.mp h
  exact ⟨publications, hpublications, rfl, rfl⟩

end Blueprint

namespace ContainerSpec

variable {spec : ContainerSpec} {publications : List Publication} {e : Endpoint}

/-- The endpoints that are published are the declared ones. This takes the ranges as texts, as
they are declared. -/
theorem exposes_iff (h : spec.publications = .ok publications) :
    (∃ p ∈ publications, p.endpoint = e) ↔ Exposes spec.ports spec.portRanges e := by
  simp only [mem_publications h]
  constructor
  · rintro ⟨p, ⟨port, hport, rfl⟩ | ⟨r, hr, hcovers, -⟩, rfl⟩
    · exact Or.inl ⟨port, hport, rfl⟩
    · exact Or.inr ⟨r, hr, hcovers⟩
  · rintro (⟨port, hport, rfl⟩ | ⟨r, hr, hcovers⟩)
    · exact ⟨port.publication, Or.inl ⟨port, hport, rfl⟩, rfl⟩
    · exact ⟨⟨e, if r.enableHost then some e.port else none⟩, Or.inr ⟨r, hr, hcovers, rfl⟩, rfl⟩

/-- The ports of the host that an endpoint is published on are the declared ones. There may be
more than one of them. -/
theorem binds_iff (h : spec.publications = .ok publications) {host : UInt16} :
    (∃ p ∈ publications, p.endpoint = e ∧ p.hostPort = some host) ↔
      Binds spec.ports spec.portRanges e host := by
  simp only [mem_publications h]
  constructor
  · rintro ⟨p, ⟨port, hport, rfl⟩ | ⟨r, hr, hcovers, hshown⟩, rfl, hhost⟩
    · exact Or.inl ⟨port, hport, rfl, hhost⟩
    · obtain ⟨henable, heq⟩ := Option.ite_none_right_eq_some.mp (hshown.symm.trans hhost)
      exact Or.inr ⟨r, hr, hcovers, henable, (Option.some.inj heq).symm⟩
  · rintro (⟨port, hport, rfl, hhost⟩ | ⟨r, hr, hcovers, henable, rfl⟩)
    · exact ⟨port.publication, Or.inl ⟨port, hport, rfl⟩, rfl, hhost⟩
    · exact ⟨⟨e, some e.port⟩, Or.inr ⟨r, hr, hcovers, by simp [henable]⟩, rfl, rfl⟩

end ContainerSpec

/-! ### What reaches the engine -/

namespace Blueprint

variable {c : Container} {b : Blueprint} {e : Endpoint}

/-- A blueprint exposes what is declared. It exposes all of it, and nothing else. -/
theorem mem_exposed_iff (h : ofContainer c = .ok b) :
    e ∈ b.exposed ↔ Exposes c.spec.ports c.spec.portRanges e := by
  obtain ⟨publications, hpublications, hexposed, -⟩ := publications_of_ofContainer h
  rw [hexposed, mem_exposedBy, ContainerSpec.exposes_iff hpublications]

/-- What a blueprint binds was declared. The converse fails for endpoints with two ports of the
host. -/
theorem binds_of_bound (h : ofContainer c = .ok b) {host : UInt16}
    (hbound : b.bindings[e]? = some host) : Binds c.spec.ports c.spec.portRanges e host := by
  obtain ⟨publications, hpublications, -, hbindings⟩ := publications_of_ofContainer h
  rw [hbindings, getElem?_boundBy] at hbound
  exact (ContainerSpec.binds_iff hpublications).mp
    (mem_hostPorts.mp (List.mem_of_getLast? hbound))

/-- An endpoint that is declared for some port of the host is bound to one. It need not be that
port. -/
theorem exists_bound_of_binds (h : ofContainer c = .ok b) {host : UInt16}
    (hbinds : Binds c.spec.ports c.spec.portRanges e host) :
    ∃ host', b.bindings[e]? = some host' := by
  obtain ⟨publications, hpublications, -, hbindings⟩ := publications_of_ofContainer h
  have hmem := mem_hostPorts.mpr ((ContainerSpec.binds_iff hpublications).mpr hbinds)
  rw [hbindings, getElem?_boundBy]
  exact ⟨_, List.getLast?_eq_some_getLast (List.ne_nil_of_mem hmem)⟩

/-- An endpoint is bound to the one port of the host that it is declared for. That there is only
one is assumed, since otherwise the last one counts. -/
theorem bound_of_binds (h : ofContainer c = .ok b) {host : UInt16}
    (hbinds : Binds c.spec.ports c.spec.portRanges e host)
    (honly : ∀ host', Binds c.spec.ports c.spec.portRanges e host' → host = host') :
    b.bindings[e]? = some host := by
  obtain ⟨host', hbound⟩ := exists_bound_of_binds h hbinds
  rw [hbound, honly host' (binds_of_bound h hbound)]

end Blueprint

namespace Cluster.K3s

/-- The ports that every server publishes: its interface and its node ports. They come before
those that the cluster declares. -/
def ownPorts (ports : ServerPorts) : List Port :=
  [.published ports.api ports.api, .published (UInt16.ofNat Naming.nodePorts.1) ports.nodes.1,
    .published (UInt16.ofNat Naming.nodePorts.2) ports.nodes.2]

/-- A server declares its own ports beside the declared ones of the cluster. So a cluster can take
one of them over by declaring it again. -/
theorem binds_serverSpec_iff {k : K8sSpec} {ports : ServerPorts} {fqdn token : String}
    {e : Endpoint} {host : UInt16} :
    Binds (serverSpec k ports fqdn token).ports (serverSpec k ports fqdn token).portRanges e host ↔
      (∃ p ∈ ownPorts ports, e = p.publication.endpoint ∧ p.hostPort = some host) ∨
        Binds k.ports k.portRanges e host := by
  have hports : (serverSpec k ports fqdn token).ports = ownPorts ports ++ k.ports := rfl
  simp only [Binds, hports, List.mem_append, or_and_right, exists_or, or_assoc]
  rfl

/-- The ports that a server publishes are different ones, when that of its interface is a high
one. -/
theorem eq_of_mem_ownPorts {ports : ServerPorts} (hapi : Naming.highPortStart ≤ ports.api.toNat)
    {p q : Port} (hp : p ∈ ownPorts ports) (hq : q ∈ ownPorts ports)
    (h : p.publication.endpoint = q.publication.endpoint) : p = q := by
  have hfirst : ports.api ≠ UInt16.ofNat Naming.nodePorts.1 := by
    intro heq
    rw [heq] at hapi
    exact absurd hapi (by decide)
  have hsecond : ports.api ≠ UInt16.ofNat Naming.nodePorts.2 := by
    intro heq
    rw [heq] at hapi
    exact absurd hapi (by decide)
  have hnodes : UInt16.ofNat Naming.nodePorts.1 ≠ UInt16.ofNat Naming.nodePorts.2 := by decide
  have hport : p.containerPort = q.containerPort := congrArg Endpoint.port h
  simp only [ownPorts, List.mem_cons, List.not_mem_nil, or_false] at hp hq
  rcases hp with rfl | rfl | rfl <;> rcases hq with rfl | rfl | rfl <;>
    first | rfl | exact absurd hport (by assumption) | exact absurd hport.symm (by assumption)

end Cluster.K3s

namespace Blueprint

open Cluster.K3s (ServerPorts serverSpec ownPorts)

/-- A blueprint exposes the declared endpoints, and binds every endpoint that is declared for ports
of the host to one of these. It binds all that is declared for an endpoint exactly if that is one
port of the host only. So a k3s server keeps its own ports, whatever ports and ranges are declared
for the cluster, as long as these bind none of its own to another port of the host. -/
theorem bound_iff_declared {c : Container} {b : Blueprint} (h : ofContainer c = .ok b) :
    (∀ e, e ∈ b.exposed ↔ Exposes c.spec.ports c.spec.portRanges e) ∧
    (∀ e host, b.bindings[e]? = some host → Binds c.spec.ports c.spec.portRanges e host) ∧
    (∀ e host, Binds c.spec.ports c.spec.portRanges e host →
      ∃ host', b.bindings[e]? = some host') ∧
    (∀ e, (∀ host, b.bindings[e]? = some host ↔ Binds c.spec.ports c.spec.portRanges e host) ↔
      ∀ host host', Binds c.spec.ports c.spec.portRanges e host →
        Binds c.spec.ports c.spec.portRanges e host' → host = host') ∧
    ∀ (k : K8sSpec) (ports : ServerPorts) (fqdn token : String),
      c.spec = serverSpec k ports fqdn token → Naming.highPortStart ≤ ports.api.toNat →
      ∀ p ∈ ownPorts ports,
        (∀ host, Binds k.ports k.portRanges p.publication.endpoint host →
          p.hostPort = some host) →
        b.bindings[p.publication.endpoint]? = p.hostPort := by
  refine ⟨fun e => mem_exposed_iff h, fun e host => binds_of_bound h,
    fun e host => exists_bound_of_binds h, fun e => ⟨?_, ?_⟩, ?_⟩
  -- If all that is declared is bound, two ports of the host are both the one that is bound.
  · intro hall host host' hhost hhost'
    exact Option.some.inj (((hall host).mpr hhost).symm.trans ((hall host').mpr hhost'))
  · intro hone host
    exact ⟨binds_of_bound h, fun hhost => bound_of_binds h hhost fun host' => hone host host' hhost⟩
  -- A port of the server is declared for one port of the host, by the server and by the cluster.
  · intro k ports fqdn token hspec hapi p hp hdeclared
    obtain ⟨host, hhost⟩ : ∃ host, p.hostPort = some host := by
      simp only [ownPorts, List.mem_cons, List.not_mem_nil, or_false] at hp
      rcases hp with rfl | rfl | rfl <;> exact ⟨_, rfl⟩
    rw [hhost]
    refine bound_of_binds h ?_ fun host' hhost' => ?_
    · rw [hspec]
      exact Cluster.K3s.binds_serverSpec_iff.mpr (Or.inl ⟨p, hp, rfl, hhost⟩)
    · rw [hspec] at hhost'
      rcases Cluster.K3s.binds_serverSpec_iff.mp hhost' with ⟨q, hq, heq, hq'⟩ | hother
      · obtain rfl := Cluster.K3s.eq_of_mem_ownPorts hapi hp hq heq
        exact Option.some.inj (hhost.symm.trans hq')
      · exact Option.some.inj (hhost.symm.trans (hdeclared host' hother))

/-- A cluster with a range at the end of all ports, and a port beside it. The last port of all is
the end of the range. -/
def farRange : K8sSpec where
  ports := [.published 80 8080]
  portRanges := [{ range := "65534-65535", enableHost := true }]

/-- The ports of the host that a server is given. They are the first of the range that is set
aside for this. -/
def givenPorts : ServerPorts where
  api := 64000
  nodes := (64001, 64002)

/-- The server of a cluster. Its names and its token are fixed, since no statement is about them. -/
def server (k : K8sSpec) : Container where
  owner := "k8s_cluster.dev"
  fqdn := "server.dev.k8s_cluster.berth.run"
  name := "server.dev"
  type := .k8sCluster
  spec := serverSpec k givenPorts "server.dev.k8s_cluster.berth.run" "t"

/-- The last port of all is exposed and bound, beside the ports of the server itself. A loop over
the range that stopped before its end would miss it. -/
theorem bound_iff_declared_server :
    ∃ b, ofContainer (server farRange) = .ok b ∧ (⟨65535, .tcp⟩ : Endpoint) ∈ b.exposed ∧
      (∃ host, b.bindings[(⟨65535, .tcp⟩ : Endpoint)]? = some host) ∧
      b.bindings[(⟨30000, .tcp⟩ : Endpoint)]? = some 64001 := by
  have hcovers : PortRange.Covers { range := "65534-65535", enableHost := true } ⟨65535, .tcp⟩ :=
    ⟨65534, 65535, rfl, by decide, by decide, rfl⟩
  have hnone : ∀ host, ¬ Binds farRange.ports farRange.portRanges ⟨30000, .tcp⟩ host := by
    rintro host (⟨p, hp, heq, -⟩ | ⟨r, hr, ⟨first, last, hbounds, hfirst, -⟩, -⟩)
    · obtain rfl := List.mem_singleton.mp hp
      exact absurd heq (by decide)
    · obtain rfl := List.mem_singleton.mp hr
      cases hbounds
      exact absurd hfirst (by decide)
  obtain ⟨b, h⟩ : ∃ b, ofContainer (server farRange) = .ok b := ⟨_, rfl⟩
  obtain ⟨hexposed, -, hbound, -, hkept⟩ := bound_iff_declared h
  refine ⟨b, h, (hexposed _).mpr (Or.inr ⟨_, List.mem_singleton_self _, hcovers⟩),
    hbound _ 65535 (Or.inr ⟨_, List.mem_singleton_self _, hcovers, rfl, rfl⟩), ?_⟩
  exact hkept farRange givenPorts _ _ rfl (by decide) (.published 30000 64001)
    (List.mem_cons_of_mem _ List.mem_cons_self) fun host hhost => absurd hhost (hnone host)

/-- A container whose port is declared for two ports of the host. Both declarations are in order
on their own. -/
def twice : Container where
  owner := "container.web"
  fqdn := "web.container.berth.run"
  name := "web"
  type := .container
  spec := { ports := [.published 80 8080, .published 80 8081] }

/-- Of two ports of the host for one port of a container, the first is not bound. So a server loses
a node port to a declared port of the same number. -/
theorem bound_overwritten :
    (∃ b, ofContainer twice = .ok b ∧
      Binds twice.spec.ports twice.spec.portRanges ⟨80, .tcp⟩ 8080 ∧
      b.bindings[(⟨80, .tcp⟩ : Endpoint)]? = some 8081) ∧
    ∃ b, ofContainer (server { ports := [.published 30000 8080] }) = .ok b ∧
      b.bindings[(⟨30000, .tcp⟩ : Endpoint)]? = some 8080 := by
  refine ⟨⟨_, rfl, Or.inl ⟨_, List.mem_cons_self, rfl, rfl⟩, ?_⟩, _, rfl, ?_⟩
  · exact getElem?_boundBy
  · exact getElem?_boundBy

end Blueprint

end Moorage
