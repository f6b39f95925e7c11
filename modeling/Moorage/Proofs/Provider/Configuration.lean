import Moorage.Proofs.Container.Create
import Moorage.Proofs.Container.LookUpFirst
import Moorage.Proofs.Container.Removal
import Moorage.Proofs.Path
import Moorage.Proofs.Service.Files
import Moorage.Provider.K8sCluster
import Moorage.Registry

/-!
# `Moorage.Proofs.Provider.Configuration`: whose configuration is destroyed, and when

Every cluster keeps its configuration in a directory of the cache, which goes with the cluster. A
cluster whose name is the name of a directory takes no other configuration with it
(`destroy_ownConfiguration`). Nothing keeps a cluster from having another name, though, and
`destroy_nameless` shows what that does: the empty name is joined to the cache and leads to the
cache itself, so that the configurations of all clusters go.

Whether a directory holds another is asked of places and not of texts, so a name of two dots, one
with a slash in it and one that is an absolute path are all left out by the same assumption.

The configuration goes after the nodes. As long as a node is left, or may be, the kubeconfig stays
and the cluster can be reached (`configuration_removed_last`). This is a matter of the order of
calls, which is shown for all answers, and of what is written, for which the files must be those of
a file system that keeps its word.
-/

set_option autoImplicit false

namespace Moorage.Provider.K8sCluster

open Moorage.Path (place)
open Service (Call)

/-- Of files, destroying a cluster asks for nothing but the removal of its configuration. It
neither reads nor writes any other file. -/
theorem asks_destroy (settings : Settings) (r : Resource) (spec : K8sSpec) :
    Action.Asks
      (fun call =>
        Container.RemovalOf (Cluster.K3s.serverFqdn r :: Cluster.K3s.agentFqdns r spec) call ∨
        call = .removeTree (Naming.clusterDir settings.cacheDir r.name))
      (destroy settings r spec) := by
  refine Action.asks_bind ((Container.asks_removeAll _ _).mono fun _ => Or.inl) fun _ => ?_
  refine Action.asks_bind (Action.asks_always (Program.asks_perform (Or.inr rfl))) fun removed => ?_
  -- What was answered decides on the failure alone.
  split
  · exact Action.asks_pure ()
  · exact Action.asks_pure ()
  · exact Action.asks_throw _

/-- A tree that is removed is the directory of the cluster's configuration. The name of the
cluster may be anything here, the empty one as well. -/
theorem eq_clusterDir_of_mem_trace {σ : Type}
    {answer : (call : Call) → σ → Service.Answer call × σ} {settings : Settings} {r : Resource}
    {spec : K8sSpec} {s : σ} {x : Exchange Service.interface}
    (hx : x ∈ (destroy settings r spec).run.trace answer s) {path : String}
    (hcall : x.call = .removeTree path) : path = Naming.clusterDir settings.cacheDir r.name := by
  have hasked := Program.Asks.of_mem_trace (asks_destroy settings r spec) hx
  rw [hcall] at hasked
  -- Of the calls that it makes, only the one removes a tree.
  rcases hasked with (⟨_, -, h⟩ | ⟨_, h⟩) | h <;> cases h
  rfl

/-- Whatever a destruction meets, the tree that it removes lies below the cache directory, and
the directory of another cluster is neither that tree, nor in it, nor around it. -/
theorem destroy_ownConfiguration {σ : Type}
    (answer : (call : Call) → σ → Service.Answer call × σ) (settings : Settings)
    {r other : Resource} (spec : K8sSpec) (cwd : List String) (s : σ)
    (hname : Path.IsName r.name) (hother : Path.IsName other.name) (hne : r.name ≠ other.name) :
    ∀ x ∈ (destroy settings r spec).run.trace answer s, ∀ path, x.call = .removeTree path →
      path = Naming.clusterDir settings.cacheDir r.name ∧
      (place cwd settings.cacheDir <+: place cwd path ∧
        place cwd path ≠ place cwd settings.cacheDir) ∧
      Path.Apart (place cwd path) (place cwd (Naming.clusterDir settings.cacheDir other.name)) := by
  intro x hx path hcall
  obtain rfl := eq_clusterDir_of_mem_trace hx hcall
  unfold Naming.clusterDir
  -- Both names lead right below the place of the cache directory.
  rw [Path.place_join cwd settings.cacheDir hname, Path.place_join cwd settings.cacheDir hother]
  refine ⟨rfl, ⟨List.prefix_append _ _, ?_⟩, Path.apart_concat hne⟩
  simp

/-- The answers where there are no containers, and where what is to be removed is there. Whatever
else is asked for is refused. -/
def vacant : (call : Call) → Unit → Service.Answer call × Unit
  | .findContainers _, s => (.ok [], s)
  | .removeTree _, s => (.ok (), s)
  | call, s => (Container.refuse call, s)

/-- A cluster with nothing but a name. It may be empty, which nothing keeps a document from
declaring. -/
def named (name : String) : Resource where
  name := name
  spec := .k8sCluster {}

/-- The configuration of one cluster goes, and that of another stays. Both are in the cache
directory, side by side. -/
theorem destroy_ownConfiguration_dev :
    let settings := Settings.ofHome "/home"
    let removal : Exchange Service.interface := ⟨.removeTree "/home/config/dev", .ok ()⟩
    (Path.IsName (named "dev").name ∧ Path.IsName (named "prod").name ∧
      (named "dev").name ≠ (named "prod").name) ∧
    removal ∈ (destroy settings (named "dev") {}).run.trace vacant () ∧
    Path.Apart (place [] "/home/config/dev")
      (place [] (Naming.clusterDir settings.cacheDir "prod")) := by
  have htrace : (destroy (Settings.ofHome "/home") (named "dev") {}).run.trace vacant ()
      = [⟨.findContainers "server.dev.k8s_cluster.berth.run", .ok []⟩,
        ⟨.removeTree "/home/config/dev", .ok ()⟩] := rfl
  intro settings removal
  have hmem : removal ∈ (destroy settings (named "dev") {}).run.trace vacant () := by
    simp [settings, removal, htrace]
  have hnames : Path.IsName (named "dev").name ∧ Path.IsName (named "prod").name ∧
      (named "dev").name ≠ (named "prod").name := by decide
  obtain ⟨-, -, hapart⟩ := destroy_ownConfiguration vacant settings {} [] () hnames.1 hnames.2.1
    hnames.2.2 removal hmem _ rfl
  exact ⟨hnames, hmem, hapart⟩

/-- A cluster without a name can be registered beside one with a name. Its directory is the
cache directory, so destroying it takes the configuration of the other along. -/
theorem destroy_nameless :
    let settings := Settings.ofHome "/home"
    let removal : Exchange Service.interface := ⟨.removeTree "/home/config/", .ok ()⟩
    (Registry.ofResources [named "", named "dev"]).map Registry.resources
      = .ok [named "", named "dev"] ∧
    removal ∈ (destroy settings (named "") {}).run.trace vacant () ∧
    place [] "/home/config/" = place [] settings.cacheDir ∧
    place [] "/home/config/" <+: place [] (Naming.clusterDir settings.cacheDir "dev") := by
  have htrace : (destroy (Settings.ofHome "/home") (named "") {}).run.trace vacant ()
      = [⟨.findContainers "server..k8s_cluster.berth.run", .ok []⟩,
        ⟨.removeTree "/home/config/", .ok ()⟩] := rfl
  exact ⟨rfl, by simp [htrace], by decide, by decide⟩

/-! ### When the configuration goes -/

/-- The nodes of a cluster go before its configuration, whatever the surroundings answer. The two
programs are named, so that the order can be told from the answers to each. -/
structure NodesFirst {σ : Type} (answer : (call : Call) → σ → Service.Answer call × σ)
    (removal destruction : Program Service.interface (Except Error Unit)) (directory : String)
    (s : σ) : Prop where
  /-- A failure of the removal is that of the destruction, which does nothing more. The files stay
  as they were. -/
  kept : ∀ error s', removal.run answer s = (.error error, s') →
    destruction.run answer s = (.error error, s') ∧
    destruction.trace answer s = removal.trace answer s ∧
    (∀ x ∈ destruction.trace answer s, ∀ path, x.call ≠ .removeTree path) ∧
    ∀ cwd (files : σ → Files),
      (∀ call s, (files s).Effect cwd ⟨call, (answer call s).1⟩ (files (answer call s).2)) →
      files s' = files s
  /-- When the removal succeeds, the directory is removed next. -/
  gone : ∀ s', removal.run answer s = (.ok (), s') → ∃ removed,
    destruction.trace answer s = removal.trace answer s ++ [⟨.removeTree directory, removed⟩]

/-- What removing the containers of some names asks for leaves the files alone. So a removal that
fails has changed no configuration. -/
theorem files_eq_of_removeAll {σ : Type} {answer : (call : Call) → σ → Service.Answer call × σ}
    {cwd : List String} {files : σ → Files}
    (heffect : ∀ call s, (files s).Effect cwd ⟨call, (answer call s).1⟩ (files (answer call s).2))
    (owner : String) (fqdns : List String) (s : σ) :
    files ((Container.removeAll owner fqdns).run.run answer s).2 = files s := by
  have hreplays := Program.replays_trace (I := Service.interface) answer heffect
    (Container.removeAll owner fqdns).run s
  refine hreplays.eq_of_forall (P := fun x => Container.RemovalOf fqdns x.call)
    (fun x hx => Program.Asks.of_mem_trace (Container.asks_removeAll owner fqdns) hx) ?_
  rintro before ⟨call, answer⟩ after heffect (⟨fqdn, -, rfl⟩ | ⟨id, rfl⟩)
  · exact heffect
  · exact heffect

/-- The directory is removed with one call, and its own, whatever the outcome. A missing directory
is no failure. -/
theorem yields_removeConfiguration {settings : Settings} {r : Resource} {log : Exchanges}
    {result : Except Error Unit} (h : (removeConfiguration settings r).Yields log result) :
    ∃ removed, log = [⟨.removeTree (Naming.clusterDir settings.cacheDir r.name), removed⟩] := by
  obtain ⟨removed, rest, rfl, hrest⟩ := (Action.yields_call_bind_iff _).mp h
  refine ⟨removed, congrArg _ ?_⟩
  -- What was answered decides on the failure alone.
  split at hrest
  · exact (Action.yields_pure_iff.mp hrest).1
  · exact (Action.yields_pure_iff.mp hrest).1
  · exact (Action.yields_throw_iff.mp hrest).1

/-- A destruction removes the nodes first. When that fails it ends there, and when it does not,
the directory is all that is left to be removed. -/
theorem nodesFirst {σ : Type} (answer : (call : Call) → σ → Service.Answer call × σ)
    (settings : Settings) (r : Resource) (spec : K8sSpec) (s : σ) :
    NodesFirst answer
      (Container.removeAll r.label (Cluster.K3s.serverFqdn r :: Cluster.K3s.agentFqdns r spec)).run
      (destroy settings r spec).run (Naming.clusterDir settings.cacheDir r.name) s := by
  constructor
  -- The containers cannot be removed: that is all that was done, and no call of it is about files.
  · intro error s' hrun
    obtain ⟨hresult, htrace⟩ :=
      Action.run_bind_of_error hrun fun _ => removeConfiguration settings r
    refine ⟨hresult, htrace, fun x hx path hcall => ?_, fun cwd files heffect => ?_⟩
    · have hasked := Program.Asks.of_mem_trace (Container.asks_removeAll _ _) (htrace ▸ hx)
      rw [hcall] at hasked
      rcases hasked with ⟨_, -, h⟩ | ⟨_, h⟩ <;> cases h
    · have hkept := files_eq_of_removeAll heffect r.label
        (Cluster.K3s.serverFqdn r :: Cluster.K3s.agentFqdns r spec) s
      rwa [hrun] at hkept
  -- They are removed, and one call follows.
  · intro s' hrun
    obtain ⟨-, htrace⟩ := Action.run_bind_of_ok hrun fun _ => removeConfiguration settings r
    obtain ⟨removed, hlast⟩ := yields_removeConfiguration
      (Program.yields_trace (I := Service.interface) answer (removeConfiguration settings r).run s')
    exact ⟨removed, htrace.trans (congrArg _ hlast)⟩

/-- Removing the containers of some names looks all of them up first and stops at the first
container that it cannot remove. A cluster that is destroyed removes its server and then its agents,
which are numbered from one and of which there is one for each other node. It keeps its
configuration until that has succeeded for all of them. -/
theorem configuration_removed_last {σ : Type}
    (answer : (call : Call) → σ → Service.Answer call × σ) :
    (∀ owner fqdns s, Container.LookedUpFirst owner fqdns
      ((Container.removeAll owner fqdns).run.trace answer s)
      ((Container.removeAll owner fqdns).run.run answer s).1) ∧
    ∀ (settings : Settings) (r : Resource) (spec : K8sSpec) (s : σ), NodesFirst answer
      (Container.removeAll r.label (("server." ++ r.fqdn) ::
        (List.range' 1 (max spec.nodes.toNat 1 - 1)).map fun number =>
          s!"agent-{number}.{r.fqdn}")).run
      (destroy settings r spec).run (Naming.clusterDir settings.cacheDir r.name) s := by
  refine ⟨fun owner fqdns s => ?_, nodesFirst answer⟩
  exact (Container.removes_of_yields
    (Program.yields_trace (I := Service.interface) answer _ s)).lookedUpFirst

/-- The answers where a cluster of three nodes has all of its containers in the books. That of the
server is gone already, and those of the agents cannot be removed. -/
def reluctant : (call : Call) → Files → Service.Answer call × Files
  | .findContainers fqdn, s =>
      (.ok [if fqdn = "server.dev.k8s_cluster.berth.run" then "0"
        else if fqdn = "agent-1.dev.k8s_cluster.berth.run" then "1" else "2"], s)
  | .removeContainer id, s =>
      (.error (if id = "0" then .notFound "container" id
        else .engine "remove" (.reported "busy")), s)
  | .removeTree _, _ => (.ok (), fun _ => none)
  | call, s => (Container.refuse call, s)

/-- The server that is gone is passed over, and the first agent is the last container that is tried.
The configuration stays. -/
theorem configuration_removed_last_reluctant :
    let destruction := (destroy (Settings.ofHome "/home") (named "dev") { nodes := 3 }).run
    let files : Files := fun _ => some "clusters"
    (∀ call s, Files.Effect [] s ⟨call, (reluctant call s).1⟩ (reluctant call s).2) ∧
    destruction.trace reluctant files =
      [⟨.findContainers "server.dev.k8s_cluster.berth.run", .ok ["0"]⟩,
        ⟨.findContainers "agent-1.dev.k8s_cluster.berth.run", .ok ["1"]⟩,
        ⟨.findContainers "agent-2.dev.k8s_cluster.berth.run", .ok ["2"]⟩,
        ⟨.removeContainer "0", .error (.notFound "container" "0")⟩,
        ⟨.removeContainer "1", .error (.engine "remove" (.reported "busy"))⟩] ∧
    (destruction.run reluctant files).2 = files := by
  intro destruction files
  have heffect : ∀ call s, Files.Effect [] s ⟨call, (reluctant call s).1⟩ (reluctant call s).2 := by
    intro call s
    cases call with
    | writeFile path contents => exact fun _ _ => rfl
    | findContainers fqdn | removeContainer id | createDirectories path => rfl
    | _ => trivial
  -- The removal of the containers fails with the second one, and the rest follows from that.
  obtain ⟨-, hnodes⟩ := configuration_removed_last reluctant
  obtain ⟨hresult, htrace, -, hfiles⟩ :=
    (hnodes (Settings.ofHome "/home") (named "dev") { nodes := 3 } files).kept
      (.provider "k8s_cluster.dev" "container remove" (.engine "remove" (.reported "busy")))
      files rfl
  refine ⟨heffect, htrace.trans rfl, ?_⟩
  exact (congrArg Prod.snd hresult).trans (hfiles [] id heffect)

end Moorage.Provider.K8sCluster
