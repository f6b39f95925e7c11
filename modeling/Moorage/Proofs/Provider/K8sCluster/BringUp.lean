import Mathlib.Data.List.Basic
import Moorage.Proofs.Kubeconfig.Copies
import Moorage.Proofs.Provider.K8sCluster.Steps

/-!
# `Moorage.Proofs.Provider.K8sCluster.BringUp`: a cluster is brought up in order

`Follows` compares an action with a sequence of steps: whatever the action is answered, its run
is one that goes through the steps, for something that it may have found on the way. The
judgement is closed under putting actions together (`Follows.bind`, which joins the sequences),
so there is one lemma for each function of the bring-up, and `follows_bringUp` joins them in the
order in which the functions are called.

The steps that come later depend on what was found before: the agents are given the port that was
taken, and the archives that are imported are those that were staged. So a sequence of steps is a
function of the findings `Φ`, and where two parts are joined the findings are paired. What a part
returns is a function of its findings as well, for it is what the next part goes on from. Findings
that a failed run did not get to may be anything, as its steps do not get there either.

Two functions do not fit at once. The copies of a kubeconfig are written under one step, but are
several calls, and a step is put down to the owner as a whole: `Follows.within_bind` moves the
step to the parts. And a container has steps of its own, which are steps of its cluster, with the
removal of the container behind the one that failed.

* `follows_createContainer`: a node goes through the steps of its container.
* `exists_goes_of_yields`, `eq_of_yields_of_driver`: the runs of `K8sCluster.create`.
-/

set_option autoImplicit false

namespace Moorage.Provider.K8sCluster

open Cluster.K3s (ServerPorts serverFqdn agentFqdn)

/-- Every run of the action goes through the steps for something that it may have found, and a
run that succeeds returns the value of what it found. -/
def Follows {Φ α : Type} (settings : Settings) (r : Resource) (action : Action α)
    (steps : Φ → List Step) (value : Φ → α) : Prop :=
  ∀ log result, action.Yields log result →
    ∃ f, Goes settings r (steps f) log (result.map fun _ => ()) ∧ ∀ a, result = .ok a → value f = a

variable {settings : Settings} {r : Resource} {Φ Ψ α β : Type}

namespace Follows

/-- An action that asks nothing goes through no steps, and nothing can be found in it. -/
theorem pure (value : α) :
    Follows settings r (pure value) (fun _ : Unit => []) (fun _ => value) := by
  intro log result h
  obtain ⟨rfl, rfl⟩ := Action.yields_pure_iff.mp h
  exact ⟨(), .done, fun a heq => Except.ok.inj heq⟩

/-- The steps of two parts; those of the second may depend on what the first returned. What the
whole finds is what both have found. -/
theorem bind [Inhabited Ψ] {action : Action α} {next : α → Action β} {steps : Φ → List Step}
    {value : Φ → α} {rest : α → Ψ → List Step} {last : α → Ψ → β}
    (h : Follows settings r action steps value)
    (hnext : ∀ a, Follows settings r (next a) (rest a) (last a)) :
    Follows settings r (action >>= next)
      (fun f : Φ × Ψ => steps f.1 ++ rest (value f.1) f.2) (fun f => last (value f.1) f.2) := by
  intro log result hyields
  rcases Action.yields_bind_iff.mp hyields with
    ⟨error, hfirst, rfl⟩ | ⟨first, a, second, hfirst, hsecond, rfl⟩
  · -- The second part found nothing, and its steps are not reached.
    obtain ⟨f, hgoes, -⟩ := h log _ hfirst
    exact ⟨(f, default), goes_append_iff.mpr (Or.inl ⟨error, hgoes, rfl⟩), nofun⟩
  · obtain ⟨f, hgoes, hvalue⟩ := h first _ hfirst
    obtain ⟨g, hrest, hlast⟩ := hnext a second result hsecond
    obtain rfl := hvalue a rfl
    exact ⟨(f, g), goes_append_iff.mpr (Or.inr ⟨first, second, hgoes, hrest, rfl⟩), hlast⟩

/-- What was found may be told in other words. The steps and the value have to be the same in
both. -/
theorem reindex {action : Action α} {steps : Φ → List Step} {value : Φ → α}
    {steps' : Ψ → List Step} {value' : Ψ → α} (h : Follows settings r action steps value)
    (g : Φ → Ψ) (hsteps : ∀ f, steps' (g f) = steps f) (hvalue : ∀ f, value' (g f) = value f) :
    Follows settings r action steps' value' := by
  intro log result hyields
  obtain ⟨f, hgoes, hf⟩ := h log result hyields
  refine ⟨g f, ?_, fun a heq => (hvalue f).trans (hf a heq)⟩
  rw [hsteps f]
  exact hgoes

/-- An action that is a single step. When it fails nothing has to be undone. -/
theorem of_step {action : Action α} {step : Φ → Step} {value : Φ → α}
    (h : ∀ log result, action.Yields log result →
      ∃ f, (step f).Performs settings r log (result.map fun _ => ()) ∧
        ∀ a, result = .ok a → value f = a)
    (hundo : ∀ f, (step f).Undo []) : Follows settings r action (fun f => [step f]) value := by
  intro log result hyields
  obtain ⟨f, hstep, hf⟩ := h log result hyields
  refine ⟨f, ?_, hf⟩
  rw [← List.append_nil log]
  cases result with
  | ok a => exact .passed hstep .done
  | error error => exact .failed hstep (hundo f)

end Follows

/-! ### Nodes -/

/-- The steps of a container are steps of its cluster. Undoing is left to the cluster's steps,
which say what follows a failure. -/
theorem goes_node {c : Container} {id : String} {steps : List Container.Step} {log undo : Exchanges}
    {result : Except Error Unit} (h : Container.Goes settings c id steps log result)
    (hfailed : ∀ error, result = .error error → ∀ step ∈ steps, (Step.node c id step).Undo undo)
    (hok : result = .ok () → undo = []) :
    Goes settings r (steps.map (.node c id)) (log ++ undo) result := by
  induction h with
  | done =>
      rw [hok rfl]
      exact .done
  | failed here => exact .failed (.node here) (hfailed _ rfl _ List.mem_cons_self)
  | passed here _ ih =>
      rw [List.append_assoc]
      refine .passed (.node here) (ih (fun error heq step hstep => ?_) hok)
      exact hfailed error heq step (List.mem_cons_of_mem _ hstep)

/-- Creating a container goes through its steps, and through its removal if one fails. What is
found is its identity. -/
theorem follows_createContainer (c : Container) :
    Follows settings r (Container.create settings c)
      (fun id => (Container.Step.all settings c).map (.node c id)) id := by
  have hsplit : ∀ id, (Container.Step.all settings c).map (Step.node c id) =
      Container.Step.making.map (.node c id) ++
        (Container.Step.attachments settings c ++ [Container.Step.start]).map (.node c id) :=
    fun id => List.map_append
  intro log result h
  simp only [hsplit, goes_append_iff]
  -- All steps succeed, or the container is not made, or it is made and removed again.
  rcases Container.yields_create_iff.mp h with ⟨id, hall, rfl⟩ | ⟨id, error, hmaking, rfl⟩ |
    ⟨id, made, up, error, answer, hmade, hup, rfl, rfl⟩
  · refine ⟨id, ?_, fun a heq => Except.ok.inj heq⟩
    rw [← goes_append_iff, ← hsplit, ← List.append_nil log]
    exact goes_node hall nofun fun _ => rfl
  · refine ⟨id, Or.inl ⟨error, ?_, rfl⟩, nofun⟩
    rw [← List.append_nil log]
    refine goes_node hmaking (fun _ _ step hstep => ?_) fun _ => rfl
    rcases Container.Step.mem_making.mp hstep with rfl | rfl | rfl <;> rfl
  · refine ⟨id, Or.inr ⟨made, _, ?_, ?_, rfl⟩, nofun⟩
    · rw [← List.append_nil made]
      exact goes_node hmade nofun fun _ => rfl
    · refine goes_node hup (fun _ _ step hstep => ?_) nofun
      rw [List.mem_append, Container.Step.mem_attachments, List.mem_singleton] at hstep
      rcases hstep with (⟨attachment, -, rfl⟩ | ⟨network, -, rfl⟩) | rfl <;> exact ⟨answer, rfl⟩

/-- A node is created and noted. Its identifier is what was found, and the one that is handed on. -/
theorem follows_startNode (fqdn name : String) (spec : ContainerSpec) :
    Follows settings r (startNode settings r fqdn name spec)
      (nodeSteps settings (node r fqdn name spec)) id := by
  have hrecord : ∀ id : String, Follows settings r
      (Service.recordChild { name := name, spec := .container spec } >>= fun _ => pure id)
      (fun _ : Unit => [.record (node r fqdn name spec)]) (fun _ => id) := by
    refine fun id => .of_step (fun log result h => ⟨(), ?_⟩) fun _ => rfl
    obtain ⟨_, log, rfl, hrest⟩ := (Action.yields_call_bind_iff (.recordChild _)).mp h
    obtain ⟨rfl, rfl⟩ := Action.yields_pure_iff.mp hrest
    exact ⟨.record _, fun a heq => Except.ok.inj heq⟩
  exact ((follows_createContainer (node r fqdn name spec)).bind hrecord).reindex Prod.fst
    (fun _ => rfl) fun _ => rfl

/-- The agents go through their steps in the order of the numbers, each with an identifier of its
own. A run that fails has found the first of them only, and the rest are made up. -/
theorem follows_startAgents (spec : ContainerSpec) (numbers : List Nat) :
    Follows settings r (startAgents settings r spec numbers)
      (agentSteps settings r spec numbers) (fun _ => ()) := by
  induction numbers with
  | nil => exact (Follows.pure ()).reindex (fun _ => []) (fun _ => rfl) fun _ => rfl
  | cons number numbers ih =>
      exact ((follows_startNode _ _ spec).bind fun _ => ih).reindex (fun f => f.1 :: f.2)
        (fun _ => rfl) fun _ => rfl

/-! ### The other steps -/

/-- The volume of images is one call, and the name that the engine answers is not used. -/
theorem follows_volume :
    Follows settings r
      (Service.within r.label "volume create"
        (Service.createVolume (Naming.volume Naming.imagesVolume)))
      (fun _ : String => [.volume]) id := by
  refine .of_step (fun log result h => ?_) fun _ => rfl
  obtain ⟨outcome, hcall, rfl⟩ := Action.yields_within_iff.mp h
  obtain rfl := Program.yields_perform_iff.mp hcall
  cases outcome with
  | ok name => exact ⟨name, .volume (.ok name), fun a heq => Except.ok.inj heq⟩
  | error error => exact ⟨"", .volume (.error error), nofun⟩

/-- The ports are what was found. An answer with another number of them is a failure of the step. -/
theorem follows_allocatePorts :
    Follows settings r (allocatePorts r) (fun found => [.ports found]) id := by
  refine .of_step (fun log result h => ?_) fun _ => rfl
  obtain ⟨outcome, hall, rfl⟩ := Action.yields_within_iff.mp h
  rcases Action.yields_bind_iff.mp hall with
    ⟨error, hcall, rfl⟩ | ⟨_, ports, _, hcall, hrest, rfl⟩
  · obtain rfl := Program.yields_perform_iff.mp hcall
    exact ⟨default, .portsFailed error, nofun⟩
  · obtain rfl := Program.yields_perform_iff.mp hcall
    split at hrest
    case h_1 api first second =>
      obtain ⟨rfl, rfl⟩ := Action.yields_pure_iff.mp hrest
      exact ⟨_, .ports { api := api, nodes := (first, second) }, fun a heq => Except.ok.inj heq⟩
    -- The answer has another number of ports than was asked for.
    case h_2 hother =>
      obtain ⟨rfl, rfl⟩ := Action.yields_throw_iff.mp hrest
      refine ⟨default, .portsShort fun hlength => ?_, nofun⟩
      obtain ⟨api, first, second, rfl⟩ := List.length_eq_three.mp hlength
      exact hother api first second rfl

/-- The token is what was found, and it cannot be refused. -/
theorem follows_freshToken :
    Follows settings r Service.freshToken (fun found => [.token found]) id := by
  refine .of_step (fun log result h => ?_) fun _ => rfl
  obtain ⟨found, rfl, rfl⟩ := (Action.yields_call_iff .freshToken).mp h
  exact ⟨found, .token found, fun a heq => Except.ok.inj heq⟩

/-- A look at the log makes one exchange, and its failure is put down to the wait. -/
theorem reports_of_yields {id : String} {log : Exchanges} {result : Except Error Bool}
    (h : Action.Yields (serverReports r id) log result) : Reports r id log result := by
  rcases Action.yields_bind_iff.mp h with ⟨error, hlook, rfl⟩ | ⟨_, text, _, hlook, hrest, rfl⟩
  -- The call fails for the whole, or its text is searched for the marker.
  · obtain ⟨outcome, hcall, heq⟩ := Action.yields_within_iff.mp hlook
    obtain rfl := Program.yields_perform_iff.mp hcall
    cases outcome with
    | ok text => cases heq
    | error cause =>
        cases heq
        exact ⟨.error cause, rfl, rfl⟩
  · obtain ⟨outcome, hcall, heq⟩ := Action.yields_within_iff.mp hlook
    obtain rfl := Program.yields_perform_iff.mp hcall
    obtain ⟨rfl, rfl⟩ := Action.yields_pure_iff.mp hrest
    cases outcome with
    | ok text =>
        cases heq
        exact ⟨.ok text, rfl, rfl⟩
    | error cause => cases heq

/-- The wait for the server is one step, however often the log is looked at. It finds nothing that
a later step depends on. -/
theorem follows_waitForServer (id : String) :
    Follows settings r (waitForServer settings r id) (fun _ : Unit => [.ready id]) (fun _ => ()) := by
  refine .of_step (fun log result h => ⟨(), ?_, fun _ _ => rfl⟩) fun _ => rfl
  have hwait := Poll.polls_of_yields (fun _ _ => reports_of_yields) h
  cases result <;> exact .ready hwait

/-- Reading the kubeconfig is one step, and the text is what was found. Bytes that are no text
fail it. -/
theorem follows_readKubeconfig (id : String) :
    Follows settings r (readKubeconfig r id) (fun text => [.copyOut id text]) (fun text => text) := by
  refine .of_step (fun log result h => ?_) fun _ => rfl
  obtain ⟨outcome, hall, rfl⟩ := Action.yields_within_iff.mp h
  rcases Action.yields_bind_iff.mp hall with ⟨error, hcall, rfl⟩ | ⟨_, raw, _, hcall, hrest, rfl⟩
  · obtain rfl := Program.yields_perform_iff.mp hcall
    exact ⟨"", .copyFailed error, nofun⟩
  · obtain rfl := Program.yields_perform_iff.mp hcall
    cases hdecode : Text.Utf8.decode raw with
    | ok text =>
        rw [hdecode] at hrest
        obtain ⟨rfl, rfl⟩ := Action.yields_pure_iff.mp hrest
        exact ⟨text, .copied hdecode, fun a heq => Except.ok.inj heq⟩
    | error fault =>
        rw [hdecode] at hrest
        obtain ⟨rfl, rfl⟩ := Action.yields_throw_iff.mp hrest
        exact ⟨"", .garbled hdecode, nofun⟩

/-- A failure of parts is a failure of one of them. So an action that is put down to a step can be
taken apart inside it. -/
theorem Follows.within_bind {owner step : String} {action : Action Unit} {next : Unit → Action Unit}
    {steps : Φ → List Step} {value : Φ → Unit}
    (h : Follows settings r
      (Service.within owner step action >>= fun _ => Service.within owner step (next ()))
      steps value) :
    Follows settings r (Service.within owner step (action >>= next)) steps value := by
  intro log result hyields
  refine h log result (Action.yields_then_iff.mpr ?_)
  obtain ⟨outcome, hboth, rfl⟩ := Action.yields_within_iff.mp hyields
  rcases Action.yields_then_iff.mp hboth with
    ⟨error, hfirst, rfl⟩ | ⟨first, second, hfirst, hsecond, rfl⟩
  · exact Or.inl ⟨_, Action.yields_within_iff.mpr ⟨_, hfirst, rfl⟩, rfl⟩
  · exact Or.inr ⟨first, second, Action.yields_within_iff.mpr ⟨_, hfirst, rfl⟩,
      Action.yields_within_iff.mpr ⟨_, hsecond, rfl⟩, rfl⟩

/-- A copy is written in two steps, one for its directory and one for the file. Both are put down
to the same step of the owner. -/
theorem follows_writeCopy (path text : String) :
    Follows settings r (Service.within r.label "kubeconfig" (Kubeconfig.writeCopy path text))
      (fun _ : Unit => copySteps path text) (fun _ => ()) := by
  -- Both parts fail under the name of the same step, so that name may be moved inwards.
  have hdirectories : Follows settings r
      (Service.within r.label "kubeconfig" (Kubeconfig.onFile (Path.parent path)
        (Service.createDirectories (Path.parent path))))
      (fun _ : Unit => [.directories (Path.parent path)]) (fun _ => ()) := by
    refine .of_step (fun log result h => ⟨(), ?_, fun _ _ => rfl⟩) fun _ => rfl
    obtain ⟨outcome, hfile, rfl⟩ := Action.yields_within_iff.mp h
    obtain ⟨answer, hcall, rfl⟩ := Kubeconfig.onFile_of_yields hfile
    obtain rfl := Program.yields_perform_iff.mp hcall
    cases answer <;> exact .directories _ _
  have hwrite : Follows settings r
      (Service.within r.label "kubeconfig" (Kubeconfig.onFile path (Service.writeFile path text)))
      (fun _ : Unit => [.write path text]) (fun _ => ()) := by
    refine .of_step (fun log result h => ⟨(), ?_, fun _ _ => rfl⟩) fun _ => rfl
    obtain ⟨outcome, hfile, rfl⟩ := Action.yields_within_iff.mp h
    obtain ⟨answer, hcall, rfl⟩ := Kubeconfig.onFile_of_yields hfile
    obtain rfl := Program.yields_perform_iff.mp hcall
    cases answer <;> exact .write _ _ _
  exact ((hdirectories.bind fun _ => hwrite).within_bind).reindex (fun _ => ()) (fun _ => rfl)
    fun _ => rfl

/-- Both texts are worked out in one step before either of them is written. That step asks
nothing, so that its failure leaves no trace but the result. -/
theorem follows_writeCopies (text : String) :
    Follows settings r
      (Service.within r.label "kubeconfig" (Kubeconfig.writeCopies text settings.cacheDir r.name
        settings.publishedHost (serverFqdn r)))
      (fun f : String × String => .rewrite text f.1 f.2 ::
        (copySteps (Naming.localKubeconfig settings.cacheDir r.name) f.1 ++
          copySteps (Naming.dockerKubeconfig settings.cacheDir r.name) f.2))
      (fun _ => ()) := by
  have hcopies : ∀ forHost forNetworks, Follows settings r
      (Service.within r.label "kubeconfig"
        (Kubeconfig.writeCopy (Naming.localKubeconfig settings.cacheDir r.name) forHost >>= fun _ =>
          Kubeconfig.writeCopy (Naming.dockerKubeconfig settings.cacheDir r.name) forNetworks))
      (fun _ : Unit × Unit => copySteps (Naming.localKubeconfig settings.cacheDir r.name) forHost ++
        copySteps (Naming.dockerKubeconfig settings.cacheDir r.name) forNetworks)
      (fun _ => ()) := fun forHost forNetworks =>
    ((follows_writeCopy _ forHost).bind fun _ => follows_writeCopy _ forNetworks).within_bind
  intro log result h
  obtain ⟨outcome, hall, rfl⟩ := Action.yields_within_iff.mp h
  rcases Action.yields_bind_iff.mp hall with
    ⟨error, hhost, rfl⟩ | ⟨_, forHost, _, hhost, hrest, rfl⟩
  · obtain ⟨rfl, heq⟩ := Action.yields_mk_pure_iff.mp hhost
    exact ⟨("", ""), .failed (.unreadable heq.symm) rfl, nofun⟩
  obtain ⟨rfl, hforHost⟩ := Action.yields_mk_pure_iff.mp hhost
  rcases Action.yields_bind_iff.mp hrest with
    ⟨error, hnetworks, rfl⟩ | ⟨_, forNetworks, _, hnetworks, hwrite, rfl⟩
  · obtain ⟨rfl, heq⟩ := Action.yields_mk_pure_iff.mp hnetworks
    exact ⟨("", ""), .failed (.unfit hforHost.symm heq.symm) rfl, nofun⟩
  obtain ⟨rfl, hforNetworks⟩ := Action.yields_mk_pure_iff.mp hnetworks
  -- Both texts are there before anything is written.
  obtain ⟨_, hgoes, -⟩ := hcopies forHost forNetworks _ _
    (Action.yields_within_iff.mpr ⟨outcome, hwrite, rfl⟩)
  exact ⟨(forHost, forNetworks), .passed (.rewritten hforHost.symm hforNetworks.symm) hgoes,
    fun _ _ => rfl⟩

/-- The kubeconfig is read and then copied. What was found is the text and its two forms. -/
theorem follows_writeKubeconfig (id : String) :
    Follows settings r (writeKubeconfig settings r id)
      (fun f : String × String × String => .copyOut id f.1 :: .rewrite f.1 f.2.1 f.2.2 ::
        (copySteps (Naming.localKubeconfig settings.cacheDir r.name) f.2.1 ++
          copySteps (Naming.dockerKubeconfig settings.cacheDir r.name) f.2.2))
      (fun _ => ()) :=
  ((follows_readKubeconfig id).bind follows_writeCopies).reindex (fun f => f) (fun _ => rfl)
    fun _ => rfl

/-- The cluster is reached in one step, and its pods settle in another one that is given the
access. -/
theorem follows_checkHealth :
    Follows settings r (checkHealth settings r) (fun access => [.connect access, .settle access])
      (fun _ => ()) := by
  have hconnect : Follows settings r
      (Service.within r.label "health check"
        (Service.kubernetesConnect (Naming.localKubeconfig settings.cacheDir r.name)))
      (fun access => [.connect access]) (fun access => access) := by
    refine .of_step (fun log result h => ?_) fun _ => rfl
    obtain ⟨outcome, hcall, rfl⟩ := Action.yields_within_iff.mp h
    obtain rfl := Program.yields_perform_iff.mp hcall
    cases outcome with
    | ok access => exact ⟨access, .connected access, fun a heq => Except.ok.inj heq⟩
    | error error => exact ⟨default, .connectFailed error, nofun⟩
  -- The access that was found is what the pods are looked at with.
  have hsettle : ∀ access, Follows settings r
      (poll (.ofSettings settings) r.label "health check" (Health.podsSettled access ""))
      (fun _ : Unit => [.settle access]) (fun _ => ()) := by
    refine fun access => .of_step (fun log result h => ⟨(), ?_, fun _ _ => rfl⟩) fun _ => rfl
    have hwait := Poll.polls_of_yields (fun _ _ => Health.exists_answer_of_yields) h
    cases result <;> exact .settle hwait
  exact (hconnect.bind fun access => (hsettle access).bind fun _ => .pure ()).reindex Prod.fst
    (fun _ => rfl) fun _ => rfl

/-- Seeing to an image makes the exchanges that `Pulls` allows: it is pulled at once if the
settings say so, and otherwise only if it is not there. -/
theorem pulls_of_yields {image : Image} {log : Exchanges} {result : Except Error Unit}
    (h : Action.Yields (Container.ensureImage settings image) log result) :
    Pulls settings image log result := by
  unfold Container.ensureImage at h
  -- With a forced pull the image is not looked up at all.
  cases hforce : settings.forcePull with
  | true =>
      simp only [hforce, if_true] at h
      obtain rfl := Action.yields_pullImage_iff.mp h
      exact .forced hforce result
  | false =>
      simp only [hforce, Bool.false_eq_true, if_false] at h
      rcases Action.yields_bind_iff.mp h with ⟨error, hlook, rfl⟩ | ⟨_, found, _, hlook, hrest, rfl⟩
      · obtain rfl := Action.yields_imageExists_iff.mp hlook
        exact .unknown hforce error
      · obtain rfl := Action.yields_imageExists_iff.mp hlook
        cases found with
        | true =>
            obtain ⟨rfl, rfl⟩ := Action.yields_pure_iff.mp hrest
            exact .cached hforce
        | false =>
            obtain rfl := Action.yields_pullImage_iff.mp hrest
            exact .missing hforce result

/-- The images are seen to in the order in which they are declared, with a step for each. -/
theorem follows_pullImages (images : List Image) :
    Follows settings r (pullImages settings r images) (fun _ : Unit => images.map .pull)
      (fun _ => ()) := by
  induction images with
  | nil => exact .pure ()
  | cons image images ih =>
      -- The first image is a step by itself, and the others follow it.
      have hpull : Follows settings r
          (Service.within r.label "image import" (Container.ensureImage settings image))
          (fun _ : Unit => [.pull image]) (fun _ => ()) := by
        refine .of_step (fun log result h => ⟨(), ?_, fun _ _ => rfl⟩) fun _ => rfl
        obtain ⟨outcome, hown, rfl⟩ := Action.yields_within_iff.mp h
        cases outcome <;> exact .pull (pulls_of_yields hown)
      exact (hpull.bind fun _ => ih).reindex (fun _ => ()) (fun _ => rfl) fun _ => rfl

/-- The archives are imported in the order in which they were staged, with a step for each. -/
theorem follows_importArchives (id : String) (archives : List String) :
    Follows settings r (importArchives r id archives)
      (fun _ : Unit => archives.map (.importArchive id)) (fun _ => ()) := by
  induction archives with
  | nil => exact .pure ()
  | cons archive archives ih =>
      -- One archive is one command. It may fail to start, and it may end with a code other than
      -- zero.
      have himport : Follows settings r (importArchive r id archive)
          (fun _ : Unit => [.importArchive id archive]) (fun _ => ()) := by
        refine .of_step (fun log result h => ⟨(), ?_, fun _ _ => rfl⟩) fun _ => rfl
        obtain ⟨outcome, hall, rfl⟩ := Action.yields_within_iff.mp h
        rcases Action.yields_bind_iff.mp hall with
          ⟨error, hcall, rfl⟩ | ⟨_, output, _, hcall, hrest, rfl⟩
        · obtain rfl := Program.yields_perform_iff.mp hcall
          exact .importFailed error
        · obtain rfl := Program.yields_perform_iff.mp hcall
          split at hrest
          case isTrue hcode =>
            obtain ⟨rfl, rfl⟩ := Action.yields_pure_iff.mp hrest
            exact .imported hcode
          case isFalse hcode =>
            obtain ⟨rfl, rfl⟩ := Action.yields_throw_iff.mp hrest
            exact .importRefused (by simpa using hcode)
      exact (himport.bind fun _ => ih).reindex (fun _ => ()) (fun _ => rfl) fun _ => rfl

/-- Images are imported in three parts, of which the last depends on the archives that were found.
A cluster without images has none of them. -/
theorem follows_importImages (id : String) (images : List Image) :
    Follows settings r (importImages settings r id images) (imageSteps id images)
      (fun _ => ()) := by
  unfold importImages imageSteps
  split
  · exact (Follows.pure ()).reindex (fun _ => []) (fun _ => rfl) fun _ => rfl
  -- The archives are what staging answers, so this step is the one that finds something.
  have hstage : Follows settings r
      (Service.within r.label "image import"
        (Service.copyImagesToVolume (images.map fun image => Image.canonical image.name)
          (Naming.volume Naming.imagesVolume)))
      (fun archives => [.stage (images.map fun image => Image.canonical image.name) archives])
      (fun archives => archives) := by
    refine .of_step (fun log result h => ?_) fun _ => rfl
    obtain ⟨outcome, hcall, rfl⟩ := Action.yields_within_iff.mp h
    obtain rfl := Program.yields_perform_iff.mp hcall
    cases outcome with
    | ok archives => exact ⟨archives, .staged _ archives, fun a heq => Except.ok.inj heq⟩
    | error error => exact ⟨[], .stageFailed error, nofun⟩
  exact ((follows_pullImages images).bind fun _ =>
    hstage.bind fun archives => follows_importArchives id archives).reindex (fun f => f.2.1)
      (fun _ => rfl) fun _ => rfl

/-! ### The whole -/

/-- Once no server was found, the steps behind the search follow. The search itself is the head of
all steps. -/
theorem follows_bringUp (spec : K8sSpec) :
    Follows settings r (bringUp settings r spec) (fun f => (steps settings r spec f).tail)
      (fun _ => ()) := by
  unfold bringUp
  -- The functions in the order of the bring-up; what they find is collected into `Findings`.
  refine Follows.reindex
    (follows_volume.bind fun _ => follows_allocatePorts.bind fun ports =>
      follows_freshToken.bind fun token => (follows_startNode _ _ _).bind fun id =>
      (follows_waitForServer id).bind fun _ => (follows_startAgents _ _).bind fun _ =>
      (follows_writeKubeconfig id).bind fun _ => follows_checkHealth.bind fun _ =>
      follows_importImages id spec.images)
    (fun (_, ports, token, id, _, agents, (text, forHost, forNetworks), access, archives) =>
      { ports := ports, token := token, server := id, agents := agents, text := text,
        forHost := forHost, forNetworks := forNetworks, access := access, archives := archives })
    (fun f => ?_) fun _ => rfl
  simp [steps, serverSteps, joinSteps, server, Cluster.K3s.agentNumbers_eq]

/-- Creating a cluster with a driver that there is goes through all steps. What it finds on its
way is not known in advance, so that there is some `f`. -/
theorem exists_goes_of_yields {spec : K8sSpec} (hdriver : spec.driver = Cluster.K3s.driver)
    {log : Exchanges} {result : Except Error Unit}
    (h : Action.Yields (create settings r spec) log result) :
    ∃ f, Goes settings r (steps settings r spec f) log result := by
  unfold create at h
  rw [if_neg (not_not_intro hdriver)] at h
  rcases Action.yields_bind_iff.mp h with ⟨error, hlookup, rfl⟩ | ⟨_, ids, log, hlookup, hrest, rfl⟩
  · obtain ⟨outcome, hcall, heq⟩ := Action.yields_within_iff.mp hlookup
    obtain rfl := Action.yields_findContainers_iff.mp hcall
    cases outcome with
    | ok ids => cases heq
    | error cause =>
        cases heq
        exact ⟨default, .failed (.lookupFailed cause) rfl⟩
  · obtain ⟨outcome, hcall, heq⟩ := Action.yields_within_iff.mp hlookup
    obtain rfl := Action.yields_findContainers_iff.mp hcall
    cases outcome with
    | error cause => cases heq
    | ok found =>
        cases heq
        -- Without a server the bring-up follows, and with one the creation is over.
        cases ids with
        | nil =>
            obtain ⟨f, hgoes, -⟩ := follows_bringUp spec log result hrest
            refine ⟨f, .passed .absent ?_⟩
            cases result <;> exact hgoes
        | cons id ids =>
            obtain ⟨rfl, rfl⟩ := Action.yields_throw_iff.mp hrest
            exact ⟨default, .failed (.alreadyThere (List.cons_ne_nil id ids)) rfl⟩

/-- A driver that there is not is refused, and nothing is asked. So this comes before every step. -/
theorem eq_of_yields_of_driver {spec : K8sSpec} (hdriver : spec.driver ≠ Cluster.K3s.driver)
    {log : Exchanges} {result : Except Error Unit}
    (h : Action.Yields (create settings r spec) log result) :
    log = [] ∧ result = .error (.provider r.label "validate"
      (.config (.unsupportedDriver spec.driver))) := by
  unfold create at h
  rw [if_pos hdriver] at h
  exact Action.yields_throw_iff.mp h

end Moorage.Provider.K8sCluster
