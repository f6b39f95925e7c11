import Moorage.Proofs.Naming
import Moorage.Proofs.Provider.Cleanup
import Moorage.Proofs.Provider.Configuration
import Moorage.Proofs.Provider.Network

/-!
# `Moorage.Proofs.Provider.Isolation`: whose containers and networks are destroyed

Resources that differ in type or name never touch each other's containers and networks
(`objects_apart`). A creation asks for objects of the resource's own names only, a destruction
removes those of its own names only, and no name belongs to both: `containerFqdns_apart`.

The statement is about what `Lasts`: an object that a creation made and that is still there when the
other resource is looked up and destroyed. It is not reported then, and not taken away. In between
lie deeds for any resources in any order, each of which may fail anywhere. For the engine it is
assumed that it finds its containers and its networks, so a view of each has to follow the answers.

The module of a resource is no part of these names. So two networks of one name in different
modules, which can be registered together, are one to the engine, and the destruction of one
takes the other's network away (`destroy_sibling`).
-/

set_option autoImplicit false

namespace Moorage.Provider

open Moorage.Action (Runs)
open Service (Call)

/-! ### Names -/

/-- The name that a container of a resource has before its type: that of the resource, and for
a node of a cluster with a word of its own before it. -/
def NodeName (type : ResourceType) (name node : String) : Prop :=
  match type with
  | .k8sCluster | .nomadCluster => ∃ word : String, '.' ∉ word.toList ∧ node = word ++ "." ++ name
  | _ => node = name

/-- The name of a container tells the name of the resource. The prefix of a node has no part in
it, since it ends at a dot and the type is known. -/
theorem NodeName.injective {type : ResourceType} {m n node : String} (hm : NodeName type m node)
    (hn : NodeName type n node) : m = n := by
  cases type with
  | k8sCluster | nomadCluster =>
      obtain ⟨v, hv, hnode⟩ := hm
      obtain ⟨w, hw, hnode'⟩ := hn
      exact (Naming.lead_injective hv hw (hnode.symm.trans hnode')).2
  | _ => exact hm.symm.trans hn

/-- The name of a cluster's container begins with a word for the node, and the rest is the name of
the cluster. -/
theorem exists_nodeName_of_word {r : Resource} {word : String} (hword : '.' ∉ word.toList)
    (htype : r.type = .k8sCluster ∨ r.type = .nomadCluster) :
    ∃ node, word ++ "." ++ r.fqdn = Naming.fqdn node r.type.keyword ∧
      NodeName r.type r.name node := by
  refine ⟨word ++ "." ++ r.name, Naming.append_fqdn _ _ _, ?_⟩
  rcases htype with htype | htype <;> rw [htype] <;> exact ⟨word, hword, rfl⟩

/-- Every container of a resource is named after the resource and its type. Nodes have a prefix,
and others have none. -/
theorem exists_nodeName {r : Resource} {fqdn : String} (h : fqdn ∈ containerFqdns r) :
    ∃ node, fqdn = Naming.fqdn node r.type.keyword ∧ NodeName r.type r.name node := by
  unfold containerFqdns at h
  have hserver : '.' ∉ "server".toList := by decide
  cases hspec : r.spec with
  | network | helm => simp [hspec] at h
  | container | ingress | docs =>
      rw [hspec] at h
      obtain rfl := List.mem_singleton.mp h
      refine ⟨r.name, rfl, ?_⟩
      simp [Resource.type, hspec, Spec.type, NodeName]
  -- A cluster puts a word in front of the names of its nodes, and no such word has a dot in it.
  | k8sCluster spec =>
      have htype : r.type = .k8sCluster := by simp [Resource.type, hspec, Spec.type]
      rw [hspec] at h
      rcases List.mem_cons.mp h with rfl | h
      · exact exists_nodeName_of_word hserver (Or.inl htype)
      · obtain ⟨number, -, rfl⟩ := List.mem_map.mp h
        have hword : '.' ∉ ("agent-" ++ toString number).toList :=
          Naming.dot_notMem_numbered (by decide) number
        exact exists_nodeName_of_word hword (Or.inl htype)
  | nomadCluster spec =>
      have htype : r.type = .nomadCluster := by simp [Resource.type, hspec, Spec.type]
      rw [hspec] at h
      rcases List.mem_cons.mp h with rfl | h
      · exact exists_nodeName_of_word hserver (Or.inr htype)
      · obtain ⟨number, -, rfl⟩ := List.mem_map.mp h
        have hword : '.' ∉ ("client-" ++ toString number).toList :=
          Naming.dot_notMem_numbered (by decide) number
        exact exists_nodeName_of_word hword (Or.inr htype)

/-- No container has a name that belongs to two resources of different types or names. This does
not hold for resources that differ in their module only. -/
theorem containerFqdns_apart {r s : Resource} (hne : r.type ≠ s.type ∨ r.name ≠ s.name)
    {fqdn : String} (hr : fqdn ∈ containerFqdns r) : fqdn ∉ containerFqdns s := by
  intro hs
  obtain ⟨node, rfl, hnode⟩ := exists_nodeName hr
  obtain ⟨node', heq, hnode'⟩ := exists_nodeName hs
  obtain ⟨rfl, htype⟩ := Naming.fqdn_injective heq
  refine hne.elim (fun h => h htype) fun h => ?_
  rw [htype] at hnode
  exact h (hnode.injective hnode')

/-- No container carries a name of two resources that differ in type or name. A container has one
label, and so one name. -/
theorem not_carriesOneOf {r s : Resource} (hne : r.type ≠ s.type ∨ r.name ≠ s.name)
    {b : Blueprint} (hs : b.CarriesOneOf (containerFqdns s)) :
    ¬ b.CarriesOneOf (containerFqdns r) := by
  rintro ⟨fqdn, hr, hfqdn⟩
  obtain ⟨other, hother, hlabel⟩ := hs
  obtain rfl : fqdn = other := Option.some.inj (hfqdn.symm.trans hlabel)
  exact containerFqdns_apart hne hr hother

/-- No network has a name that belongs to two resources of different types or names. Networks are
named by the bare name. -/
theorem ne_of_mem_networkNames {r s : Resource} (hne : r.type ≠ s.type ∨ r.name ≠ s.name)
    (htype : r.type = .network) {name : String} (h : name ∈ networkNames s) : name ≠ r.name := by
  unfold networkNames at h
  cases hspec : s.spec with
  | network spec =>
      rw [hspec] at h
      obtain rfl := List.mem_singleton.mp h
      have hsame : r.type = s.type := by rw [htype, Resource.type, hspec, Spec.type]
      exact fun heq => hne.elim (fun h => h hsame) fun h => h heq.symm
  | _ => simp [hspec] at h

/-! ### What is destroyed -/

variable {settings : Settings} {r : Resource}

/-- Removing a release asks for no container and no network to go. What runs in the cluster is not
the engine's. -/
theorem Helm.asks_destroy (spec : HelmSpec) :
    Action.Asks (fun call => (∀ answer, Exchange.Quiet ⟨call, answer⟩) ∧ call.LeavesNetworks)
      (destroy settings r spec) := by
  refine Action.asks_bind (Action.asks_within trivial) fun file => ?_
  refine Action.asks_bind ?_ fun found => ?_
  · refine Action.asks_bind (Action.asks_always (Program.asks_perform ?_)) fun answer =>
      Action.asks_pure _
    exact ⟨fun _ => trivial, trivial⟩
  split
  · refine Action.asks_tryCatch (Program.asks_perform ⟨fun _ => trivial, trivial⟩) fun error => ?_
    split
    · exact Action.asks_pure ()
    · exact Action.asks_throw _
  · exact Action.asks_pure ()

/-- The destruction of anything but a network asks for no network to go. A container leaves its
networks when it goes. -/
theorem destroy_leavesNetworks (htype : r.type ≠ .network) :
    Action.Asks Call.LeavesNetworks (destroy settings r) := by
  have hremoval : ∀ fqdns, Action.Asks Call.LeavesNetworks (Container.removeAll r.label fqdns) := by
    intro fqdns
    refine (Container.asks_removeAll r.label fqdns).mono fun call hcall => ?_
    rcases hcall with ⟨_, -, rfl⟩ | ⟨_, rfl⟩ <;> trivial
  unfold destroy
  cases hspec : r.spec with
  | network => simp [Resource.type, hspec, Spec.type] at htype
  | helm spec => exact (Helm.asks_destroy spec).mono fun call hcall => hcall.2
  | k8sCluster spec =>
      refine (K8sCluster.asks_destroy settings r spec).mono fun call hcall => ?_
      rcases hcall with (⟨_, -, rfl⟩ | ⟨_, rfl⟩) | rfl <;> trivial
  | _ => exact hremoval _

/-- Whatever is refused, a destruction leaves the containers that carry none of the resource's
names. -/
theorem destroy_keeps_container {before after : Containers} {result : Except Error Unit}
    (h : Runs Containers.Tracked (destroy settings r) before result after) {id : String}
    {b : Blueprint} (hid : before id = some b) (hb : ¬ b.CarriesOneOf (containerFqdns r)) :
    after id = some b := by
  unfold destroy at h
  unfold containerFqdns at hb
  cases hspec : r.spec with
  | container | ingress | docs | nomadCluster =>
      rw [hspec] at h hb
      exact Container.removeAll_tracked h hid hb
  | k8sCluster spec =>
      rw [hspec] at h hb
      rcases h.of_bind with ⟨error, hremoval, -⟩ | ⟨_, between, hremoval, hrest⟩
      · exact Container.removeAll_tracked hremoval hid hb
      · rw [(K8sCluster.removeConfiguration_runs (fun hone => hone) hrest).1]
        exact Container.removeAll_tracked hremoval hid hb
  | network spec =>
      rw [hspec] at h
      obtain ⟨log, hyields, hreplays⟩ := h
      -- The calls are for networks only.
      have hquiet : ∀ x ∈ log, Exchange.Quiet x := by
        rintro ⟨call, answer⟩ hx
        rcases Program.Asks.call_of_mem (Network.asks_destroy r) hyields hx with h | ⟨_, h⟩ <;>
          cases h <;> trivial
      rw [hreplays.eq_of_forall hquiet Containers.Tracked.eq_of_quiet, hid]
  | helm spec =>
      rw [hspec] at h
      obtain ⟨log, hyields, hreplays⟩ := h
      have hquiet : ∀ x ∈ log, Exchange.Quiet x := fun x hx =>
        (Program.Asks.call_of_mem (Helm.asks_destroy spec) hyields hx).1 x.answer
      rw [hreplays.eq_of_forall hquiet Containers.Tracked.eq_of_quiet, hid]

/-- Whatever is refused, a destruction leaves the networks that do not have the name of a
network resource. -/
theorem destroy_keeps_network {before after : Networks} {result : Except Error Unit}
    (h : Runs Networks.Tracked (destroy settings r) before result after) {id name : String}
    (hid : before id = some name) (hname : r.type = .network → name ≠ r.name) :
    after id = some name := by
  by_cases htype : r.type = .network
  · unfold destroy at h
    cases hspec : r.spec with
    | network spec =>
        rw [hspec] at h
        exact Network.destroy_runs h hid (hname htype)
    | _ => simp [Resource.type, hspec, Spec.type] at htype
  · obtain ⟨log, hyields, hreplays⟩ := h
    have hleaves : ∀ x ∈ log, x.call.LeavesNetworks := fun x hx =>
      Program.Asks.call_of_mem (destroy_leavesNetworks htype) hyields hx
    rw [hreplays.eq_of_forall hleaves Networks.Tracked.eq_of_leaves, hid]

/-! ### What is found -/

/-- A resource with containers finds no others. Under the promise of the engine, it finds those
that carry one of its names. -/
theorem lookup_containers (htype : r.type ∈ containerTypes) {before after : Containers}
    {result : Except Error (List String)} {ids : List String}
    (h : Runs Containers.Tracked (lookup settings r) before result after) (hids : result = .ok ids) :
    ∀ id ∈ ids, ∃ b, before id = some b ∧ b.CarriesOneOf (containerFqdns r) := by
  -- One of the names is looked for.
  have hsearch : ∃ fqdn ∈ containerFqdns r,
      Runs Containers.Tracked (Container.idsOf r.label fqdn) before result after := by
    unfold lookup at h
    unfold containerFqdns
    cases hspec : r.spec with
    | network => simp [Resource.type, hspec, Spec.type, containerTypes] at htype
    | helm => simp [Resource.type, hspec, Spec.type, containerTypes] at htype
    | _ =>
        rw [hspec] at h
        exact ⟨_, List.mem_cons_self, h⟩
  obtain ⟨fqdn, hfqdn, hfound⟩ := hsearch
  intro id hid
  obtain ⟨b, hb, hlabel⟩ := ((Container.idsOf_runs (fun hone => hone) hfound).2.1 ids hids id).mp hid
  exact ⟨b, hb, fqdn, hfqdn, hlabel⟩

/-- A network finds no networks of other names. The engine may list more, and they are sorted
out. -/
theorem lookup_networks (htype : r.type = .network) {before after : Networks}
    {result : Except Error (List String)} {ids : List String}
    (h : Runs Networks.Tracked (lookup settings r) before result after) (hids : result = .ok ids) :
    ∀ id ∈ ids, before id = some r.name := by
  unfold lookup at h
  cases hspec : r.spec with
  | network spec =>
      rw [hspec] at h
      exact fun id => ((Network.lookup_runs h).2 ids hids id).mp
  | _ => simp [Resource.type, hspec, Spec.type] at htype

/-- A release is found under its own name, if at all. Nothing is asked of the engine for this. -/
theorem lookup_release (htype : r.type = .helm) {log : Exchanges}
    {result : Except Error (List String)} {ids : List String}
    (h : Action.Yields (lookup settings r) log result) (hids : result = .ok ids) :
    ids ⊆ [r.name] := by
  subst hids
  unfold lookup at h
  cases hspec : r.spec with
  | helm spec =>
      rw [hspec] at h
      obtain ⟨_, file, _, -, h, -⟩ := Action.Yields.of_bind_ok h
      obtain ⟨_, found, _, -, h, -⟩ := Action.Yields.of_bind_ok h
      split at h
      all_goals
        obtain ⟨-, heq⟩ := Action.yields_pure_iff.mp h
        cases heq
        simp
  | _ => simp [Resource.type, hspec, Spec.type] at htype

/-! ### Creations and destructions in order -/

/-- What is done for a resource. Histories are sequences of these, in any order and with
repetitions. -/
inductive Deed where
  | create (r : Resource)
  | destroy (r : Resource)

/-- The action of a deed. -/
def Deed.action (settings : Settings) : Deed → Action Unit
  | create r => Provider.create settings r
  | destroy r => Provider.destroy settings r

/-- The surroundings after deeds in order, whatever becomes of each. A deed that fails is followed
by the next one. -/
def afterDeeds {σ : Type} (answer : (call : Call) → σ → Service.Answer call × σ)
    (settings : Settings) (deeds : List Deed) (s : σ) : σ :=
  deeds.foldl (fun s deed => ((deed.action settings).run.run answer s).2) s

/-- An object that was made between two states, and is there in a later one. It counts as made if
it was not there with the same contents before. -/
def Lasts {β : Type} (start made later : String → Option β) (id : String) (object : β) : Prop :=
  start id ≠ some object ∧ made id = some object ∧ later id = some object

section

variable {σ : Type} (answer : (call : Call) → σ → Service.Answer call × σ) (settings : Settings)
  {r s : Resource}

/-- A container that a creation makes carries a name of the resource. This is so for creations
that fail, too. -/
theorem carriesOneOf_of_made (containers : σ → Containers)
    (hcontainers : ∀ call state, (containers state).Tracked ⟨call, (answer call state).1⟩
      (containers (answer call state).2))
    {start : σ} {id : String} {b : Blueprint} (hnew : containers start id ≠ some b)
    (hmade : containers ((create settings s).run.run answer start).2 id = some b) :
    b.CarriesOneOf (containerFqdns s) := by
  have hasked := makesOnly_of_yields (Program.yields_trace answer (create settings s).run start)
  have hcreation := Program.replays_trace (I := Service.interface) answer hcontainers
    (create settings s).run start
  exact (Containers.leftover hcreation hasked hmade).resolve_right fun hbefore => hnew hbefore.1

/-- A network that a creation makes has a name of the resource. The engine may have made it
although it refused to. -/
theorem mem_networkNames_of_made (networks : σ → Networks)
    (hnetworks : ∀ call state, (networks state).Tracked ⟨call, (answer call state).1⟩
      (networks (answer call state).2))
    {start : σ} {id name : String} (hnew : networks start id ≠ some name)
    (hmade : networks ((create settings s).run.run answer start).2 id = some name) :
    name ∈ networkNames s := by
  have hasked := makesOnly_of_yields (Program.yields_trace answer (create settings s).run start)
  have hcreation := Program.replays_trace (I := Service.interface) answer hnetworks
    (create settings s).run start
  exact (Networks.leftover hcreation hasked hmade).resolve_right hnew

/-- What was made for a resource is neither taken away nor reported for one of another type or
name, whatever was created and destroyed in between, and whatever failed. -/
theorem objects_apart (hne : r.type ≠ s.type ∨ r.name ≠ s.name)
    (containers : σ → Containers) (networks : σ → Networks)
    (hcontainers : ∀ call state, (containers state).Tracked ⟨call, (answer call state).1⟩
      (containers (answer call state).2))
    (hnetworks : ∀ call state, (networks state).Tracked ⟨call, (answer call state).1⟩
      (networks (answer call state).2))
    (start : σ) (deeds : List Deed) :
    let made := ((create settings s).run.run answer start).2
    let later := afterDeeds answer settings deeds made
    let found := ((lookup settings r).run.run answer later).1
    let gone := ((destroy settings r).run.run answer later).2
    (∀ id b, Lasts (containers start) (containers made) (containers later) id b →
      containers gone id = some b ∧
        (r.type ∈ containerTypes → ∀ ids, found = .ok ids → id ∉ ids)) ∧
    (∀ id name, Lasts (networks start) (networks made) (networks later) id name →
      networks gone id = some name ∧
        (r.type = .network → ∀ ids, found = .ok ids → id ∉ ids)) ∧
    (r.type = .helm → s.type = .helm → ∀ ids, found = .ok ids → s.name ∉ ids) := by
  intro made later found gone
  refine ⟨fun id b ⟨hnew, hmade, hlater⟩ => ?_, fun id name ⟨hnew, hmade, hlater⟩ => ?_, ?_⟩
  · -- The container carries a name of the one resource, so none of the other.
    have hnot := not_carriesOneOf hne
      (carriesOneOf_of_made answer settings containers hcontainers hnew hmade)
    refine ⟨destroy_keeps_container (Runs.of_run answer hcontainers _ later) hlater hnot, ?_⟩
    intro htype ids hids hid
    have hsearch := Runs.of_run answer hcontainers (lookup settings r) later
    obtain ⟨other, hother, hcarries⟩ := lookup_containers htype hsearch hids id hid
    obtain rfl : b = other := Option.some.inj (hlater.symm.trans hother)
    exact hnot hcarries
  · have hname := mem_networkNames_of_made answer settings networks hnetworks hnew hmade
    have hnot : r.type = .network → name ≠ r.name := fun htype =>
      ne_of_mem_networkNames hne htype hname
    refine ⟨destroy_keeps_network (Runs.of_run answer hnetworks _ later) hlater hnot, ?_⟩
    intro htype ids hids hid
    have hsearch := Runs.of_run answer hnetworks (lookup settings r) later
    have hfound := lookup_networks htype hsearch hids id hid
    exact hnot htype (Option.some.inj (hlater.symm.trans hfound))
  · intro htype hother ids hids hname
    have hsearch := Program.yields_trace (I := Service.interface) answer
      (lookup settings r).run later
    have heq := List.mem_singleton.mp (lookup_release htype hsearch hids hname)
    exact hne.elim (fun h => h (htype.trans hother.symm)) fun h => h heq.symm

end

/-- An engine with all images, and with room for one container and one network. It finds what it
has, and refuses what it has no room for. -/
def cabin : (call : Call) → Option Blueprint × Option String →
    Service.Answer call × (Option Blueprint × Option String)
  | .findContainers fqdn, s =>
      (.ok (if s.1.bind Blueprint.fqdn? = some fqdn then ["0"] else []), s)
  | .imageExists _, s => (.ok true, s)
  | .createContainer _ blueprint, (none, network) => (.ok "0", (some blueprint, network))
  | .connectNetwork _ _ _ _, s => (.ok (), s)
  | .startContainer _, s => (.ok (), s)
  | .removeContainer "0", s => (.ok (), (none, s.2))
  | .findNetworks name, s => (.ok (if s.2 = some name then ["1"] else []), s)
  | .createNetwork name _ _, (container, none) => (.ok "1", (container, some name))
  | .removeNetwork "1", s => (.ok (), (s.1, none))
  | call, s => (Container.refuse call, s)

/-- The one network of the cabin. -/
def inCabin (s : Option String) : Networks := fun id => if id = "1" then s else none

/-- The cabin finds its container. This is its promise about containers. -/
theorem containers_tracked_cabin (call : Call) (s : Option Blueprint × Option String) :
    (Container.onCramped s.1).Tracked ⟨call, (cabin call s).1⟩
      (Container.onCramped (cabin call s).2.1) := by
  unfold cabin
  split
  case h_1 s fqdn =>
    refine ⟨rfl, fun id => ?_⟩
    by_cases hid : id = "0"
    · simp [Container.onCramped, hid, Option.bind_eq_some_iff]
    · rw [Container.onCramped, if_neg hid]
      split <;> simp [hid]
  case h_3 | h_6 =>
    refine funext fun id => ?_
    by_cases hid : id = "0" <;> simp [Container.onCramped, Function.update, hid]
  case h_10 =>
    -- What is refused has no effect.
    cases call <;> first | rfl | exact Or.inl rfl
  all_goals rfl

/-- The cabin finds its network. This is its promise about networks. -/
theorem networks_tracked_cabin (call : Call) (s : Option Blueprint × Option String) :
    (inCabin s.2).Tracked ⟨call, (cabin call s).1⟩ (inCabin (cabin call s).2.2) := by
  unfold cabin
  split
  case h_7 name s =>
    refine ⟨rfl, fun id => ?_⟩
    by_cases hid : id = "1"
    · simp [inCabin, hid]
    · rw [inCabin, if_neg hid]
      split <;> simp [hid]
  case h_8 | h_9 =>
    refine funext fun id => ?_
    by_cases hid : id = "1" <;> simp [inCabin, Function.update, hid]
  case h_10 => cases call <;> first | rfl | exact Or.inl rfl
  all_goals rfl

/-- A network with nothing but a name. It may be in a module, which its name on the engine does
not show. -/
def bareNetwork (name : String) (moduleName : Option String) : Resource where
  name := name
  moduleName := moduleName
  spec := .network {}

/-- A container of an image. -/
def bareContainer (name : String) : Resource where
  name := name
  spec := .container { image := .ofName "nginx" }

/-- A network and a container of one name: the network goes and the container stays. They differ
in type, which is enough. -/
theorem objects_apart_web :
    let settings := Settings.ofHome "/home"
    let network := bareNetwork "web" none
    let container := bareContainer "web"
    let made := ((create settings container).run.run cabin (none, none)).2
    let later := afterDeeds cabin settings [.create network] made
    let gone := ((destroy settings network).run.run cabin later).2
    network.type ≠ container.type ∧ (inCabin later.2 "1" = some "web" ∧ gone.2 = none) ∧
    ∃ b, Lasts (Container.onCramped none) (Container.onCramped made.1)
        (Container.onCramped later.1) "0" b ∧
      Container.onCramped gone.1 "0" = some b := by
  intro settings network container made later gone
  have htype : network.type ≠ container.type := by decide
  obtain ⟨hkept, -, -⟩ := objects_apart cabin settings (r := network) (s := container)
    (Or.inl htype) (fun s => Container.onCramped s.1) (fun s => inCabin s.2)
    containers_tracked_cabin networks_tracked_cabin (none, none) [.create network]
  have hmade : made.1.isSome := rfl
  obtain ⟨b, hb⟩ := Option.isSome_iff_exists.mp hmade
  -- The container was made, and it is there after the network was.
  have hlasts : Lasts (Container.onCramped none) (Container.onCramped made.1)
      (Container.onCramped later.1) "0" b := ⟨nofun, hb, hb⟩
  exact ⟨htype, ⟨rfl, rfl⟩, b, hlasts, (hkept "0" b hlasts).1⟩

/-- Two networks of one name, the second in a module, can be registered together. The second
is not created, since the first has the name. It is found all the same, and destroying it
takes the first away. -/
theorem destroy_sibling :
    let settings := Settings.ofHome "/home"
    let net := bareNetwork "net" none
    let sibling := bareNetwork "net" (some "m")
    let made := ((create settings net).run.run cabin (none, none)).2
    let later := afterDeeds cabin settings [.create sibling] made
    (net.reference ≠ sibling.reference ∧
      (Registry.ofResources [net, sibling]).map Registry.resources = .ok [net, sibling]) ∧
    Lasts (inCabin none) (inCabin made.2) (inCabin later.2) "1" "net" ∧
    ((lookup settings sibling).run.run cabin later).1 = .ok ["1"] ∧
    inCabin ((destroy settings sibling).run.run cabin later).2.2 "1" = none :=
  ⟨⟨by decide, rfl⟩, ⟨nofun, rfl, rfl⟩, rfl, rfl⟩

end Moorage.Provider
