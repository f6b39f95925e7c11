import Moorage.Host
import Moorage.Proofs.Graph.Build
import Moorage.Proofs.Service
import Moorage.Proofs.Walk.StartOrder
import Moorage.Provider

/-!
# `Moorage.Proofs.Provider.Helm`: which failures a destroyed release hides

Removing a release asks the machine two things at most: whether the kubeconfig of its cluster
exists, and then for a run of the `helm` program. `destroy_ok_iff` says for which answers this
ends well, and what a walk does otherwise: the release has failed, and its cluster stays.

Meant to be passed over is a release that is gone. A missing program is passed over as well,
and a kubeconfig that could not be looked for, and whatever `helm` says to be not found
(`destroy_unseen`). The program reports a release that is gone in words, which is why its output is
searched for them, and a missing binary is an error of the same kind as a missing release.

The release has to have a cluster that can be read, since the path of the kubeconfig is worked out
from it. The provider's calls are followed down to the machine, because it is there that a missing
program and a program that fails are two answers. Whether the release is in fact there is nowhere
asked, so that `TakenAsGone` is about the answer and not about the cluster.
-/

set_option autoImplicit false

namespace Moorage

/-! ### A failed destruction in a walk -/

/-- What a resource needs whose destruction failed is not destroyed, and keeps its status. So a
release that could not be removed keeps its cluster. -/
theorem Walk.kept_of_failed {g : Graph} {registry : Registry} (hg : g.BuiltFrom registry)
    {b : Board} {hs : List Happening} {w : Walk} (run : Walk.Run g .destroy b hs w) {p q : Nat}
    {r t : Resource} (hp : g.resources[p]? = some r) (hq : g.resources[q]? = some t)
    (hneeds : Graph.Needs g.resources r t) {error : Error}
    (hended : Happening.ended p (.error error) ∈ hs) :
    q ∉ Walk.started hs ∧ w.board.status q = b.status q := by
  have hr := run.reached hg.coherent
  have hfailed : p ∈ Walk.failed hs := Walk.mem_failed.mpr ⟨error, hended⟩
  have hdepends : g.DependsOn p q := (hg.dependsOn_iff hp hq).mpr hneeds
  have hkept : q ∉ Walk.started hs :=
    hr.not_started_of_failed hfailed (WalkKind.transGen_awaits_destroy.mpr (.single hdepends))
  refine ⟨hkept, hr.marks.kept q hkept ?_⟩
  -- Nothing is dragged along when resources are destroyed.
  rintro ⟨-, hkind, -⟩
  cases hkind

namespace Helm

/-! ### Runs of the program -/

/-- After such a run a release is taken to be gone: the program succeeded, there is no such
program, or what it printed speaks of something not found. -/
def Outcome.TakenAsGone : Outcome → Prop
  | .missing => True
  | .notStarted _ _ => False
  | .finished succeeded _ stderr => succeeded = true ∨
      Text.occursIn "not found" (Text.trimmed (Text.Utf8.decodeLossy stderr)) = true

/-- A release that is taken to be gone is removed or reported as missing. This ties what `helm`
printed to what the program makes of it. -/
theorem takenAsGone_iff {name : String} {outcome : Outcome} :
    outcome.TakenAsGone ↔ ∀ error, removed name outcome = .error error → error.isNotFound := by
  cases outcome with
  | missing => simp [Outcome.TakenAsGone, removed, outputOf, Error.isNotFound]
  | notStarted => simp [Outcome.TakenAsGone, removed, outputOf, Error.isNotFound]
  | finished succeeded stdout stderr =>
      cases succeeded with
      | true => simp [Outcome.TakenAsGone, removed, outputOf]
      | false =>
          -- The text that was printed decides which failure it is.
          by_cases hsays : Text.occursIn "not found"
              (Text.trimmed (Text.Utf8.decodeLossy stderr)) = true
          · simp [Outcome.TakenAsGone, removed, outputOf, EngineFault.message, hsays,
              Error.isNotFound]
          · simp [Outcome.TakenAsGone, removed, outputOf, EngineFault.message, hsays,
              Error.isNotFound]

end Helm

namespace Provider.Helm

variable {settings : Settings} {r : Resource} {spec : HelmSpec} {file : String}

/-- What a destruction makes of the removal of the release. A release that is missing counts as
removed. -/
def verdict (r : Resource) : Except Error Unit → Except Error Unit
  | .ok () => .ok ()
  | .error error =>
      if error.isNotFound then .ok () else .error (.provider r.label "helm uninstall" error)

/-- The removal is passed over when it succeeded and when its failure says that something is not
found. -/
theorem verdict_ok_iff {removal : Except Error Unit} :
    verdict r removal = .ok () ↔ ∀ error, removal = .error error → error.isNotFound := by
  cases removal with
  | ok => simp [verdict]
  | error error =>
      unfold verdict
      cases error.isNotFound <;> simp

/-- A failure that is not passed over is put down to the removal of the release. So it names the
resource. -/
theorem verdict_eq_error {removal : Except Error Unit} {error : Error}
    (h : verdict r removal = .error error) :
    ∃ cause, error = .provider r.label "helm uninstall" cause := by
  cases removal with
  | ok => cases h
  | error cause =>
      cases hmissing : cause.isNotFound with
      | true => simp [verdict, hmissing] at h
      | false =>
          simp only [verdict, hmissing, Bool.false_eq_true, if_false, Except.error.injEq] at h
          exact ⟨cause, h.symm⟩

/-- The kubeconfig is looked for with one call. A failure of that counts as no kubeconfig, and
then nothing is removed. -/
theorem yields_clusterExists_iff {log : Exchanges} {result : Except Error Bool} :
    Action.Yields (clusterExists file) log result ↔
      ∃ found : Except FileFault Bool, log = [⟨.pathExists file, found⟩] ∧
        result = .ok (found.toOption.getD false) := by
  refine Iff.trans (Action.yields_call_bind_iff (.pathExists file)) ?_
  constructor
  · rintro ⟨found, rest, rfl, hrest⟩
    obtain ⟨rfl, rfl⟩ := Action.yields_pure_iff.mp hrest
    exact ⟨found, rfl, rfl⟩
  · rintro ⟨found, rfl, rfl⟩
    exact ⟨found, [], rfl, Action.yields_pure_iff.mpr ⟨rfl, rfl⟩⟩

/-- What becomes of the removal decides on the destruction. It is one call of the provider. -/
theorem of_yields_removal {log : Exchanges} {result : Except Error Unit}
    (h : Action.Yields (tryCatch (Service.helmUninstall file r.name spec.namespaceName)
      fun error => if error.isNotFound then pure () else Service.refuse r.label "helm uninstall" error)
      log result) :
    ∃ removal, log = [⟨.helmUninstall file r.name spec.namespaceName, removal⟩] ∧
      result = verdict r removal := by
  rcases Action.yields_tryCatch_iff.mp h with ⟨value, hcall, rfl⟩ |
    ⟨first, error, second, hcall, hsecond, rfl⟩
  · exact ⟨.ok value, Program.yields_perform_iff.mp hcall, rfl⟩
  obtain rfl := Program.yields_perform_iff.mp hcall
  -- After a failure nothing more is asked for.
  have hhandled : second = [] ∧ result = verdict r (.error error) := by
    unfold verdict
    dsimp only
    split at hsecond
    case isTrue hmissing => simpa [hmissing] using Action.yields_pure_iff.mp hsecond
    case isFalse hmissing => simpa [hmissing] using Action.yields_throw_iff.mp hsecond
  obtain ⟨rfl, rfl⟩ := hhandled
  exact ⟨.error error, rfl, rfl⟩

/-- A destruction looks for the kubeconfig of the cluster, and removes the release if it is
there. -/
theorem of_yields_destroy (hfile : Target.releaseKubeconfig settings.cacheDir spec = .ok file)
    {log : Exchanges} {result : Except Error Unit}
    (h : Action.Yields (destroy settings r spec) log result) :
    (∃ found, found ≠ .ok true ∧ log = [⟨.pathExists file, found⟩] ∧ result = .ok ()) ∨
    ∃ removal, log = [⟨.pathExists file, .ok true⟩,
        ⟨.helmUninstall file r.name spec.namespaceName, removal⟩] ∧
      result = verdict r removal := by
  -- The name of the file is known beforehand.
  have hrest : Action.Yields (clusterExists file >>= fun present =>
      if present then
        tryCatch (Service.helmUninstall file r.name spec.namespaceName) fun error =>
          if error.isNotFound then pure () else Service.refuse r.label "helm uninstall" error
      else pure ()) log result := by
    unfold destroy kubeconfig at h
    rwa [hfile] at h
  rcases Action.yields_bind_iff.mp hrest with ⟨error, hfail, -⟩ |
    ⟨first, present, second, hfirst, hsecond, rfl⟩
  · obtain ⟨_, -, heq⟩ := yields_clusterExists_iff.mp hfail
    cases heq
  obtain ⟨found, rfl, heq⟩ := yields_clusterExists_iff.mp hfirst
  cases heq
  by_cases hfound : found = .ok true
  · subst hfound
    obtain ⟨removal, rfl, rfl⟩ := of_yields_removal hsecond
    exact Or.inr ⟨removal, rfl, rfl⟩
  · -- A kubeconfig that cannot be looked for counts as missing.
    have habsent : found.toOption.getD false = false := by
      match found with
      | .ok true => exact absurd rfl hfound
      | .ok false => rfl
      | .error _ => rfl
    rw [habsent] at hsecond
    obtain ⟨rfl, rfl⟩ := Action.yields_pure_iff.mp hsecond
    exact Or.inl ⟨found, hfound, rfl, rfl⟩

/-- The same on a machine, which looks for the file and runs the program. Here what `helm` did is
told by how it ended. -/
theorem of_yields_act (hfile : Target.releaseKubeconfig settings.cacheDir spec = .ok file)
    {engine : String} {log : List (Exchange Host.interface)} {result : Except Error Unit}
    (h : Program.Yields (Host.act engine (destroy settings r spec)) log result) :
    (∃ found, found ≠ .ok true ∧ log = [⟨.pathExists file, found⟩] ∧ result = .ok ()) ∨
    ∃ outcome, log = [⟨.pathExists file, .ok true⟩,
        ⟨.runHelm (Release.uninstallArguments file r.name spec.namespaceName), outcome⟩] ∧
      result = verdict r (Moorage.Helm.removed r.name outcome) := by
  -- The calls of the provider come first. Each of them is served by one call of the machine.
  obtain ⟨asked, hasked, hserved⟩ := Program.exists_served_of_yields h
  rcases of_yields_destroy hfile hasked with ⟨found, hfound, rfl, rfl⟩ | ⟨removal, rfl, rfl⟩
  · cases hserved with
    | cons first rest =>
        cases rest
        obtain rfl := Program.yields_perform_iff.mp first
        exact Or.inl ⟨found, hfound, rfl, rfl⟩
  · cases hserved with
    | cons first rest =>
        cases rest with
        | cons second rest =>
            cases rest
            obtain rfl := Program.yields_perform_iff.mp first
            obtain ⟨_, outcome, _, hrun, hread, rfl⟩ := Program.yields_bind_iff.mp second
            obtain rfl := Program.yields_perform_iff.mp hrun
            obtain ⟨rfl, rfl⟩ := Program.yields_done_iff.mp hread
            exact Or.inr ⟨outcome, rfl, rfl⟩

section

variable (hfile : Target.releaseKubeconfig settings.cacheDir spec = .ok file) {engine : String}
  {log : List (Exchange Host.interface)} {result : Except Error Unit}
  (h : Program.Yields (Host.act engine (destroy settings r spec)) log result)

include hfile h

/-- The destruction ends well when no kubeconfig was seen, and when the run of `helm` was one
after which the release is taken to be gone. -/
theorem act_ok_iff : result = .ok () ↔
    (∃ found : Except FileFault Bool,
      (⟨.pathExists file, found⟩ : Exchange Host.interface) ∈ log ∧ found ≠ .ok true) ∨
    ∃ outcome : Helm.Outcome, (⟨.runHelm (Release.uninstallArguments file r.name
      spec.namespaceName), outcome⟩ : Exchange Host.interface) ∈ log ∧ outcome.TakenAsGone := by
  rcases of_yields_act hfile h with ⟨found, hfound, rfl, rfl⟩ | ⟨outcome, rfl, rfl⟩
  · exact ⟨fun _ => Or.inl ⟨found, List.mem_singleton_self _, hfound⟩, fun _ => rfl⟩
  constructor
  · intro hok
    have hgone := Helm.takenAsGone_iff.mpr (verdict_ok_iff.mp hok)
    exact Or.inr ⟨outcome, List.mem_cons_of_mem _ (List.mem_singleton_self _), hgone⟩
  · -- Both exchanges are known, and the first found the file.
    rintro (⟨found, hmem, hfound⟩ | ⟨other, hmem, hgone⟩)
    · rcases List.mem_cons.mp hmem with heq | hmem
      · cases heq
        exact absurd rfl hfound
      · cases List.mem_singleton.mp hmem
    · rcases List.mem_cons.mp hmem with heq | hmem
      · cases heq
      · cases List.mem_singleton.mp hmem
        exact verdict_ok_iff.mpr (Helm.takenAsGone_iff.mp hgone)

/-- A destruction that fails is put down to the removal, since the search for the kubeconfig
cannot fail. -/
theorem act_eq_error {error : Error} (herror : result = .error error) :
    ∃ cause, error = .provider r.label "helm uninstall" cause := by
  rcases of_yields_act hfile h with ⟨found, hfound, -, rfl⟩ | ⟨outcome, -, rfl⟩
  · cases herror
  · exact verdict_eq_error herror

end

/-- A release needs the cluster that it names. So the graph destroys it before that cluster. -/
theorem needs_cluster (hspec : r.spec = .helm spec)
    (hfile : Target.releaseKubeconfig settings.cacheDir spec = .ok file)
    {resources : List Resource} (hr : r ∈ resources) {t : Resource}
    (ht : Graph.Denotes resources r spec.cluster t) : Graph.Needs resources r t := by
  refine ⟨hr, spec.cluster, Resource.mem_dependencyReferences.mpr ⟨?_, Or.inr ?_⟩, ht⟩
  · -- The empty text is no reference.
    intro hempty
    rw [Target.releaseKubeconfig, hempty] at hfile
    cases hfile
  · simp [hspec, Spec.references]

/-- Whatever the machine answers, the destruction of a release succeeds exactly when the
kubeconfig of its cluster was not seen to exist, or the release is taken to be gone after a run
of the program. In all other cases it fails, and in a walk in which it failed so the release is
marked as failed and the destruction of its cluster is never started. -/
theorem destroy_ok_iff {σ : Type} (answer : (call : Host.Call) → σ → Host.Answer call × σ)
    (engine : String) (settings : Settings) {r : Resource} {spec : HelmSpec} {file : String}
    (hspec : r.spec = .helm spec)
    (hfile : Target.releaseKubeconfig settings.cacheDir spec = .ok file) (s : σ) :
    let destruction := Host.act engine (Provider.destroy settings r)
    let log := destruction.trace answer s
    let result := (destruction.run answer s).1
    (result = .ok () ↔
      (∃ found : Except FileFault Bool,
        (⟨.pathExists file, found⟩ : Exchange Host.interface) ∈ log ∧ found ≠ .ok true) ∨
      ∃ outcome : Helm.Outcome, (⟨.runHelm (Release.uninstallArguments file r.name
        spec.namespaceName), outcome⟩ : Exchange Host.interface) ∈ log ∧ outcome.TakenAsGone) ∧
    ∀ error, result = .error error →
      (∃ cause, error = .provider r.label "helm uninstall" cause) ∧
      ∀ (registry : Registry) (g : Graph) (b : Board) (hs : List Happening) (w : Walk) (p : Nat),
        g.BuiltFrom registry → Walk.Run g .destroy b hs w → g.resources[p]? = some r →
        .ended p result ∈ hs →
        w.board.status p = .failed ∧
        ∀ q t, g.resources[q]? = some t → Graph.Denotes g.resources r spec.cluster t →
          q ∉ Walk.started hs ∧ w.board.status q = b.status q := by
  intro destruction log result
  have hyields : Program.Yields (Host.act engine (destroy settings r spec)) log result := by
    have hdestroy : Provider.destroy settings r = destroy settings r spec := by
      unfold Provider.destroy
      rw [hspec]
    rw [← hdestroy]
    exact Program.yields_trace (I := Host.interface) answer destruction s
  refine ⟨act_ok_iff hfile hyields, fun error herror => ⟨act_eq_error hfile hyields herror, ?_⟩⟩
  intro registry g b hs w p hg run hp hended
  rw [herror] at hended
  -- In the graph the release needs its cluster, so the walk keeps the cluster while the release is
  -- there.
  have hneeds := fun t => needs_cluster (t := t) hspec hfile (List.mem_of_getElem? hp)
  have hr := run.reached hg.coherent
  refine ⟨hr.marks.failed p (Walk.mem_failed.mpr ⟨error, hended⟩), fun q t hq ht => ?_⟩
  exact Walk.kept_of_failed hg run hp hq (hneeds t ht) hended

/-- A machine with nothing but a kubeconfig that may be seen, and a `helm` program that may be
missing. -/
def bare (found : Except FileFault Bool) (outcome : Helm.Outcome) :
    (call : Host.Call) → Unit → Host.Answer call × Unit
  | .pathExists _, s => (found, s)
  | .runHelm _, s => (outcome, s)
  | .exchange _, s => (.error .unreachable, s)
  | .readFile _, s | .openFile _, s => (.error .missing, s)
  | .streamFile _, s => (ByteArray.empty, s)
  | .packFile _ _ _, s => (.error (.file .missing), s)
  | .writeFile _ _, s | .createDirectories _, s | .removeTree _, s => (.error .missing, s)
  | .makeStaging, s => (.error (.io "" .missing), s)
  | .allocatePorts _, s => (.ok [], s)
  | .uniqueId, s | .freshToken, s => ("", s)
  | .isDirectory _, s | .isCancelled, s | .pause _, s => (false, s)
  | .now, s => ((⟨0⟩ : Duration), s)
  | .today, s => ((⟨0⟩ : Instant), s)
  | .print _, s => ((), s)

/-- The configuration of a release on the cluster `dev`. Its chart and namespace are the
defaults. -/
def onDev : HelmSpec := { cluster := "k8s_cluster.dev" }

/-- A release on the cluster `dev`. It waits for the cluster by its configuration alone. -/
def app : Resource := { name := "app", spec := .helm onDev }

/-- The registry of the cluster `dev`, at position 0, and of a release on it, at position 1. -/
def appOnDevRegistry : Registry where
  entries := [⟨0, { name := "dev", spec := .k8sCluster {} }⟩, ⟨1, app⟩]
  next := 2

/-- The graph of the cluster and the release. Vertex 0 is the root, which the release leads to. -/
def appOnDev : Graph where
  resources := appOnDevRegistry.resources
  edges := [(2, 0), (1, 2)]
  order := [1, 2, 0]

/-- The graph comes from its registry, so that the walk of the witness is one over a graph that
was built. -/
theorem appOnDev_built : appOnDev.BuiltFrom appOnDevRegistry := ⟨rfl, by decide⟩

/-- The program cannot be started: the destruction fails, and the cluster stays. What keeps it
from being started is not that it is missing. -/
theorem destroy_ok_iff_app :
    let destruction := Host.act "" (Provider.destroy (Settings.ofHome "/home") app)
    let failed := bare (.ok true) (.notStarted "/bin/helm" (.stated "permission denied"))
    let result := (destruction.run failed ()).1
    Target.releaseKubeconfig (Settings.ofHome "/home").cacheDir onDev
      = .ok "/home/config/dev/kubeconfig.yaml" ∧
    (∃ cause, result = .error (.provider "helm.app" "helm uninstall" cause)) ∧
    ∃ hs w, Walk.Run appOnDev .destroy (.ofResources appOnDev.resources) hs w ∧
      .ended 1 result ∈ hs ∧ w.board.status 1 = .failed ∧ 0 ∉ Walk.started hs := by
  intro destruction failed result
  have hfile : Target.releaseKubeconfig (Settings.ofHome "/home").cacheDir onDev
      = .ok "/home/config/dev/kubeconfig.yaml" := rfl
  have hresult : result
      = .error (.provider "helm.app" "helm uninstall"
        (.io "/bin/helm" (.stated "permission denied"))) := rfl
  obtain ⟨-, hfailed⟩ := destroy_ok_iff failed "" (Settings.ofHome "/home") (r := app) rfl hfile ()
  obtain ⟨hcause, hwalk⟩ := hfailed _ hresult
  have hbegin : Walk.Run appOnDev .destroy (.ofResources appOnDev.resources) [] _ := .begin rfl
  have hrun := (hbegin.next false rfl).finish result rfl List.mem_cons_self
  have hended := List.mem_cons_of_mem (Happening.started 1)
    (List.mem_singleton_self (Happening.ended 1 result))
  obtain ⟨hstatus, hcluster⟩ := hwalk appOnDevRegistry _ _ _ _ 1 appOnDev_built hrun rfl hended
  have hdev : Graph.Denotes appOnDev.resources app onDev.cluster _ :=
    .named (Graph.ne_module_of_dropLead?_eq_none rfl) List.mem_cons_self rfl
  exact ⟨hfile, ⟨_, hresult⟩, _, _, hrun, hended, hstatus, (hcluster 0 _ rfl hdev).1⟩

/-- A destruction ends well although the release may still be there: when the program is
missing, and when the kubeconfig cannot be looked for. -/
theorem destroy_unseen :
    let destruction := Host.act "" (Provider.destroy (Settings.ofHome "/home") app)
    (destruction.run (bare (.ok true) .missing) ()).1 = .ok () ∧
    (destruction.run (bare (.error .notDirectory) .missing) ()).1 = .ok () :=
  ⟨rfl, rfl⟩

end Provider.Helm

end Moorage
