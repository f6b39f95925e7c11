import Moorage.Proofs.Container.Create
import Moorage.Proofs.Container.Removal
import Moorage.Proofs.Provider.Calls

/-!
# `Moorage.Proofs.Provider.Cleanup`: what a creation leaves is found again

A resource with containers knows their names before there are any. Its creation asks for
containers of these names only, wherever it stops (`makesOnly_of_yields`), and its destruction
looks for all of them. So a destruction that is refused nothing takes away whatever
an earlier creation left, whichever calls of that one failed (`destroy_after_create`).

A creation that fails has seen to its last container itself, by a removal that may have failed too,
and has left those that came before it. Nothing is noted of these but the names, which a destruction
works out anew from the configuration. What is assumed of the engine is that it finds containers by
their labels, while the creation may be answered in any way. That the destruction is refused nothing
is assumed of its own calls only.

Networks and releases have no containers, and are left out by `containerTypes`.
-/

set_option autoImplicit false

namespace Moorage

open Moorage.Action (Runs)
open Service (Call)

variable {settings : Settings} {r : Resource}

namespace Provider

/-- The types of resource that have containers. Networks are objects of another sort, and releases
are in a cluster. -/
def containerTypes : List ResourceType :=
  [.container, .ingress, .docs, .k8sCluster, .nomadCluster]

/-- The creation of a resource asks for no containers and no networks but those that belong to
it. -/
theorem makesOnly_of_yields {log : Exchanges} {result : Except Error Unit}
    (h : Action.Yields (create settings r) log result) :
    ∀ x ∈ log, x.call.MakesOnly (containerFqdns r) (networkNames r) := by
  have hasked : (create settings r).Asks (Call.MakesOnly (containerFqdns r) (networkNames r)) := by
    refine asks_create (fun call hplain => ?_) (fun c blueprint hbuilt hspec => ?_)
      (fun name subnet labels hname => hname) (fun path text _ => trivial) fun port => trivial
    · cases call <;> trivial
    · exact ⟨c.fqdn, hbuilt.fqdn_mem, Blueprint.fqdn?_eq hspec⟩
  exact fun x => Program.Asks.call_of_mem hasked h

/-- The removal of a configuration has no part in the containers, and succeeds when nothing is
refused. -/
theorem K8sCluster.removeConfiguration_runs
    {effect : Containers → Exchange Service.interface → Containers → Prop}
    (htracked : ∀ {before x after}, effect before x after → Containers.Tracked before x after)
    {before after : Containers} {result : Except Error Unit}
    (h : Runs effect (removeConfiguration settings r) before result after) :
    after = before ∧
    ((∀ {before x after}, effect before x after → x.Granted) → result = .ok ()) := by
  rcases h.of_bind with ⟨error, hremoval, -⟩ | ⟨removed, between, hremoval, hrest⟩
  · obtain ⟨_, heq, -⟩ := hremoval.of_call
    cases heq
  obtain ⟨_, heq, hone⟩ := hremoval.of_call
  cases heq
  obtain rfl : between = before := htracked hone
  split at hrest
  case h_3 fault hfault =>
    exact ⟨hrest.of_throw.2, fun hgranted => absurd (hgranted hone) hfault⟩
  all_goals exact ⟨hrest.of_pure.2, fun _ => hrest.of_pure.1⟩

/-- When nothing is refused, a destruction takes the containers of the resource away, and no
others. -/
theorem destroy_granted (htype : r.type ∈ containerTypes) {before after : Containers}
    {result : Except Error Unit}
    (h : Runs Containers.TrackedGranted (destroy settings r) before result after) :
    result = .ok () ∧
    ∀ id b, after id = some b ↔ before id = some b ∧ ¬ b.CarriesOneOf (containerFqdns r) := by
  unfold destroy at h
  unfold containerFqdns
  cases hspec : r.spec with
  | network => simp [Resource.type, hspec, Spec.type, containerTypes] at htype
  | helm => simp [Resource.type, hspec, Spec.type, containerTypes] at htype
  | container | ingress | docs | nomadCluster =>
      rw [hspec] at h
      exact Container.removeAll_granted h
  | k8sCluster spec =>
      rw [hspec] at h
      -- The containers of a cluster go before its configuration.
      rcases h.of_bind with ⟨error, hremoval, -⟩ | ⟨_, between, hremoval, hrest⟩
      · obtain ⟨heq, -⟩ := Container.removeAll_granted hremoval
        cases heq
      obtain ⟨rfl, hok⟩ := K8sCluster.removeConfiguration_runs And.left hrest
      exact ⟨hok And.right, (Container.removeAll_granted hremoval).2⟩

/-- Whatever becomes of a creation, a later destruction that is refused nothing succeeds, and
what exists then was there before the creation: none of the containers that were made is left. -/
theorem destroy_after_create {σ : Type}
    (answer : (call : Call) → σ → Service.Answer call × σ) (settings : Settings) {r : Resource}
    (htype : r.type ∈ containerTypes) (s : σ) (containers : σ → Containers)
    (hengine : ∀ call s,
      (containers s).Tracked ⟨call, (answer call s).1⟩ (containers (answer call s).2))
    (hgranted : ∀ x ∈ (destroy settings r).run.trace answer
      ((create settings r).run.run answer s).2, x.Granted) :
    let left := ((create settings r).run.run answer s).2
    ((destroy settings r).run.run answer left).1 = .ok () ∧
    ∀ id b, containers ((destroy settings r).run.run answer left).2 id = some b →
      containers s id = some b ∧
        id ∉ Exchanges.createdIds ((create settings r).run.trace answer s) := by
  intro left
  have hcreation := Program.replays_trace (I := Service.interface) answer hengine
    (create settings r).run s
  have hdestruction : Runs Containers.TrackedGranted (destroy settings r) (containers left)
      ((destroy settings r).run.run answer left).1
      (containers ((destroy settings r).run.run answer left).2) :=
    ⟨_, Program.yields_trace (I := Service.interface) answer (destroy settings r).run left,
      (Program.replays_trace (I := Service.interface) answer hengine
        (destroy settings r).run left).and_forall hgranted⟩
  obtain ⟨hok, hgone⟩ := destroy_granted htype hdestruction
  -- What is left now was left by the creation, and carries none of the names.
  refine ⟨hok, fun id b hid => ?_⟩
  obtain ⟨hleft, hcarries⟩ := (hgone id b).mp hid
  have hasked := makesOnly_of_yields (Program.yields_trace answer (create settings r).run s)
  exact (Containers.leftover hcreation hasked hleft).resolve_left hcarries

/-- An engine with all images and room for one container. It cannot be started, and it is
removed at the second attempt only, which the flag in the state tells. -/
def stubborn : (call : Call) → Option Blueprint × Bool →
    Service.Answer call × (Option Blueprint × Bool)
  | .findContainers fqdn, s =>
      (.ok (if s.1.bind Blueprint.fqdn? = some fqdn then ["0"] else []), s)
  | .createVolume name, s => (.ok name, s)
  | .allocatePorts _, s => (.ok [64000, 64001, 64002], s)
  | .imageExists _, s => (.ok true, s)
  | .createContainer _ blueprint, (none, tried) => (.ok "0", (some blueprint, tried))
  | .connectNetwork _ _ _ _, s => (.ok (), s)
  | .removeContainer "0", (_, true) => (.ok (), (none, true))
  | .removeContainer _, s => (.error (.engine "remove" (.reported "busy")), (s.1, true))
  | call, s => (Container.refuse call, s)

/-- The stubborn engine finds its containers. It refuses the first removal, but it never loses a
container. -/
theorem tracked_stubborn (call : Call) (s : Option Blueprint × Bool) :
    (Container.onCramped s.1).Tracked ⟨call, (stubborn call s).1⟩
      (Container.onCramped (stubborn call s).2.1) := by
  unfold stubborn
  split
  case h_1 s fqdn =>
    refine ⟨rfl, fun id => ?_⟩
    by_cases hid : id = "0"
    · simp [Container.onCramped, hid, Option.bind_eq_some_iff]
    · rw [Container.onCramped, if_neg hid]
      split <;> simp [hid]
  case h_5 =>
    refine funext fun id => ?_
    by_cases hid : id = "0" <;> simp [Container.onCramped, Function.update, hid]
  case h_7 =>
    refine funext fun id => ?_
    by_cases hid : id = "0" <;> simp [Container.onCramped, Function.update, hid]
  case h_8 => exact Or.inl rfl
  case h_9 =>
    -- What is refused has no effect.
    cases call <;> first | rfl | exact Or.inl rfl
  all_goals rfl

/-- A cluster with nothing but a name. What it does not say has defaults. -/
def dev : Resource where
  name := "dev"
  spec := .k8sCluster {}

/-- The server of the cluster cannot be started, nor removed at first. The destruction finds it
by its label and takes it away. -/
theorem destroy_after_create_dev :
    let creation := (create (Settings.ofHome "/home") dev).run
    let destruction := (destroy (Settings.ofHome "/home") dev).run
    let left := (creation.run stubborn (none, false)).2
    dev.type ∈ containerTypes ∧
    (Exchanges.createdIds (creation.trace stubborn (none, false)) = ["0"] ∧ left.1.isSome) ∧
    (∀ x ∈ destruction.trace stubborn left, x.Granted) ∧
    (destruction.run stubborn left).1 = .ok () ∧
    Container.onCramped (destruction.run stubborn left).2.1 "0" = none := by
  have hlog : (destroy (Settings.ofHome "/home") dev).run.trace stubborn
      ((create (Settings.ofHome "/home") dev).run.run stubborn (none, false)).2
      = [⟨.findContainers "server.dev.k8s_cluster.berth.run", .ok ["0"]⟩,
        ⟨.removeContainer "0", .ok ()⟩, ⟨.removeTree "/home/config/dev", .error .missing⟩] := rfl
  intro creation destruction left
  have htype : dev.type ∈ containerTypes := by decide
  have hgranted : ∀ x ∈ destruction.trace stubborn left, x.Granted := by
    intro x hx
    have hx' : x ∈ (destroy (Settings.ofHome "/home") dev).run.trace stubborn
      ((create (Settings.ofHome "/home") dev).run.run stubborn (none, false)).2 := hx
    rw [hlog] at hx'
    simp only [List.mem_cons, List.not_mem_nil, or_false] at hx'
    rcases hx' with rfl | rfl | rfl <;> trivial
  obtain ⟨hok, hleft⟩ := destroy_after_create stubborn (Settings.ofHome "/home") htype (none, false)
    (fun s => Container.onCramped s.1) tracked_stubborn hgranted
  have hcreated : Exchanges.createdIds (creation.trace stubborn (none, false)) = ["0"] := rfl
  refine ⟨htype, ⟨hcreated, rfl⟩, hgranted, hok, ?_⟩
  -- What exists was there before, and nothing was.
  cases hid : Container.onCramped (destruction.run stubborn left).2.1 "0" with
  | none => rfl
  | some b => exact absurd (hleft "0" b hid).1 nofun

end Provider

end Moorage
