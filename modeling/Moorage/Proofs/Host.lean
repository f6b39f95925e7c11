import Moorage.Host
import Moorage.Proofs.Blame

/-!
# `Moorage.Proofs.Host`: the machine never blames a reference

What providers ask for is carried out by the engine, by clusters, by `helm` and by the machine.
None of these knows references: `act_blameless` says that an action fails by blaming one only if it
does so of its own.

A call of a provider is served by a program whose own calls are those of the machine. So there are
two interfaces and a bound for each: `Service.Spares` for what a provider is answered, and
`Host.Spares` for what the machine answers. Between them stand the tasks of the engine, which have
an interface of their own and the bound `Docker.Spares`.

Nothing is assumed of what servers respond, of files and of `helm`: their answers are bytes, texts
and exit codes, and it is the operations that make failures of them. Two calls of the machine answer
with failures that are already made, the one for a directory and the one for ports. They are taken
to be blameless.

The operations of the engine are nearly all of one form, a request whose fault is turned into a
failure, and `neverBlames_mapError` does for these. Those that do more have a lemma of their own.
-/

set_option autoImplicit false

namespace Moorage

/-- The answer to a provider's call blames no reference. Answers that are failures already have to
be harmless, and all others can say what they want. -/
def Service.Spares (x : Exchange Service.interface) : Prop :=
  match x with
  | ⟨.imageExists _, answer⟩ | ⟨.pullImage _, answer⟩ | ⟨.createContainer _ _, answer⟩
  | ⟨.connectNetwork _ _ _ _, answer⟩ | ⟨.startContainer _, answer⟩ | ⟨.removeContainer _, answer⟩
  | ⟨.findContainers _, answer⟩ | ⟨.containerLogs _, answer⟩ | ⟨.copyFromContainer _ _, answer⟩
  | ⟨.createVolume _, answer⟩ | ⟨.createNetwork _ _ _, answer⟩ | ⟨.findNetworks _, answer⟩
  | ⟨.removeNetwork _, answer⟩ | ⟨.copyImagesToVolume _ _, answer⟩ | ⟨.exec _ _, answer⟩
  | ⟨.kubernetesConnect _, answer⟩ | ⟨.podsReady _ _, answer⟩ | ⟨.helmInstall _, answer⟩
  | ⟨.helmUninstall _ _ _, answer⟩ | ⟨.nomadReady _, answer⟩ | ⟨.allocatePorts _, answer⟩ =>
      Blameless answer
  | _ => True

/-! ### Tasks of the engine -/

namespace Docker

/-- The answer to a task's need blames no reference. All needs but one are answered by a fault, of
which the program itself makes a failure. -/
def Spares (x : Exchange interface) : Prop :=
  match x with
  | ⟨.makeStaging, answer⟩ => Blameless answer
  | _ => True

variable {α : Type}

/-- A fault of the engine becomes a failure of the engine, of whatever operation. The text of the
engine's message stands in it and is never read as a reference. -/
theorem Fault.blamesReference_error (operation : String) (fault : Fault) :
    (fault.error operation).blamesReference = false := rfl

/-- Where something was operated on, a fault may also say that it is missing. It is an object of
the engine that is missing then, and not a resource. -/
theorem Fault.blamesReference_errorOn (operation object id : String) (fault : Fault) :
    (fault.errorOn operation object id).blamesReference = false := by
  unfold errorOn
  split <;> rfl

/-- A program whose faults become blameless failures. Nothing is asked of its answers, since a
fault is no failure yet. -/
theorem neverBlames_mapError {ε : Type} {f : ε → Error}
    (h : ∀ fault, (f fault).blamesReference = false)
    (program : Program interface (Except ε α)) :
    NeverBlames Spares (ExceptT.mk do return (← program).mapError f) :=
  Program.ensures_bind program.ensures_true fun value _ => blameless_mapError h value

/-- A request whose faults are failures of the engine. Most operations are one of these, and need
no proof of their own. -/
theorem neverBlames_request (operation : String) (program : Program interface (Except Fault α)) :
    NeverBlames Spares (request (Fault.error operation) program) :=
  neverBlames_mapError (Fault.blamesReference_error operation) program

/-- A request that operates on something, which the engine may not have. That it is not found is a
failure which names the object and no reference. -/
theorem neverBlames_requestOn (operation object id : String)
    (program : Program interface (Except Fault α)) :
    NeverBlames Spares (request (Fault.errorOn operation object id) program) :=
  neverBlames_mapError (Fault.blamesReference_errorOn operation object id) program

/-- What goes wrong while an archive is packed is told at the file that it is packed into, or as a
failure of the engine. -/
theorem PackFault.blamesReference_error (archive : String) (fault : PackFault) :
    (fault.error archive).blamesReference = false := by
  cases fault <;> rfl

/-- A command that cannot be started is a failure of the engine. That its container is gone is
told apart in it. -/
theorem Fault.blamesReference_execError (fault : Fault) :
    fault.execError.blamesReference = false := by
  cases fault <;> rfl

/-- A fault of a file becomes a failure at its path. A path is no reference, whatever it looks
like. -/
theorem neverBlames_onFile (path : String) (program : Program interface (Except FileFault α)) :
    NeverBlames Spares (onFile path program) :=
  neverBlames_mapError (fun _ => rfl) program

/-- A missing image is an answer, and everything else is a failure of the engine. So the one fault
that is not a failure is sorted out first. -/
theorem neverBlames_imageExists (name : String) : NeverBlames Spares (imageExists name) := by
  refine Program.ensures_bind (Program.ensures_true _) fun answer _ => ?_
  split
  · exact blameless_ok true
  · exact blameless_ok false
  · exact blameless_error rfl

/-- Only the creation can fail. What is answered when the container is taken off the default
network is not looked at. -/
theorem neverBlames_createContainer (name : String) (body : Json) :
    NeverBlames Spares (createContainer name body) := by
  refine .bind (neverBlames_request _ _) fun id => ?_
  exact .bind (.lift _) fun _ => .pure id

/-- The failure is that of the start, with the removal passed over. A container that was started
is not removed. -/
theorem neverBlames_startOrRemove (id : String) : NeverBlames Spares (startOrRemove id) := by
  refine .tryCatch (neverBlames_requestOn _ _ _ _) fun error herror => ?_
  refine .bind ?_ fun _ => .throw herror
  exact .tryCatch (neverBlames_requestOn _ _ _ _) fun _ _ => .pure ()

/-- The containers are filtered by the engine, and what it lists is taken as it is. -/
theorem neverBlames_findContainers (fqdn : String) : NeverBlames Spares (findContainers fqdn) :=
  .bind (neverBlames_request _ _) fun _ => .pure _

/-- Frames of a log that are no text are shown as well as they can be, which cannot fail. -/
theorem neverBlames_containerLogs (id : String) : NeverBlames Spares (containerLogs id) :=
  .bind (neverBlames_requestOn _ _ _ _) fun _ => .pure _

/-- The archive of the engine may be none, or have no file in it. Both are told at the path that
was asked for. -/
theorem neverBlames_copyFromContainer (id path : String) :
    NeverBlames Spares (copyFromContainer id path) := by
  refine .bind (neverBlames_requestOn _ _ _ _) fun archive => ?_
  split
  · exact .throw rfl
  · exact .throw rfl
  · exact .pure _

/-- The engine lists networks by a part of their name, and they are compared afterwards. -/
theorem neverBlames_findNetworks (name : String) : NeverBlames Spares (findNetworks name) :=
  .bind (neverBlames_request _ _) fun _ => .pure _

/-- A command takes three requests: one makes it, one starts it, and one asks for its exit code.
Each of them can fail on its own. -/
theorem neverBlames_exec (id : String) (command : List String) :
    NeverBlames Spares (exec id command) := by
  refine .bind (neverBlames_requestOn _ _ _ _) fun exec => ?_
  refine .bind (neverBlames_mapError Fault.blamesReference_execError _) fun frames => ?_
  exact .bind (neverBlames_request _ _) fun exitCode => .pure _

/-! The archive of images -/

/-- A file is made, the engine is asked for the images, and they are written. The stream may break
off in between. -/
theorem neverBlames_exportImages (images : List String) (path : String) :
    NeverBlames Spares (exportImages images path) := by
  refine .bind (neverBlames_onFile _ _) fun _ => ?_
  exact .bind (neverBlames_request _ _) fun archive => neverBlames_onFile _ _

/-- Both files are opened before anything is packed, so there are three places to fail at. -/
theorem neverBlames_pack (name source archive : String) :
    NeverBlames Spares (pack name source archive) :=
  .bind (neverBlames_onFile _ _) fun _ => .bind (neverBlames_onFile _ _) fun _ =>
    neverBlames_mapError (PackFault.blamesReference_error archive) _

/-- The image of the helper is one of the program's own, and its container is named at random. So
no reference is near it. -/
theorem neverBlames_runHelper (volume : String) : NeverBlames Spares (runHelper volume) := by
  refine .bind (neverBlames_imageExists _) fun found => ?_
  have hrest : NeverBlames Spares do
      let unique : String ← ExceptT.lift (Program.perform (I := interface) .uniqueId)
      let id ← createContainer s!"helper-{unique}.{Naming.domain}" (helperBody volume)
      startOrRemove id
      return id := by
    refine .bind (.lift _) fun unique => ?_
    refine .bind (neverBlames_createContainer _ _) fun id => ?_
    exact .bind (neverBlames_startOrRemove id) fun _ => .pure id
  -- The image is pulled before the rest when it is missing.
  split
  · exact hrest
  · exact .bind (neverBlames_request _ _) fun _ => hrest

/-- Reading the archive cannot fail once it is open, so that a file and a request are left. What
could not be read is missing from the request. -/
theorem neverBlames_uploadArchive (id archive : String) :
    NeverBlames Spares (uploadArchive id archive) :=
  .bind (neverBlames_onFile _ _) fun _ => .bind (.lift _) fun _ => neverBlames_request _ _

/-- The second task is carried out in any case, and what is reported is a failure of one of the
two. -/
theorem neverBlames_andAlways {task after : Task Unit} (htask : NeverBlames Spares task)
    (hafter : NeverBlames Spares after) : NeverBlames Spares (andAlways task after) := by
  -- What comes afterwards is done after a failure, too, which counts first.
  refine Program.ensures_bind htask fun outcome houtcome => ?_
  refine Program.ensures_bind hafter fun afterwards hafterwards => ?_
  cases outcome with
  | ok value => exact hafterwards
  | error error => exact houtcome

/-- A helper is run, and the upload is followed by its removal. A failed removal is passed over. -/
theorem neverBlames_stage (volume archive : String) :
    NeverBlames Spares (stage volume archive) := by
  refine .bind (neverBlames_runHelper volume) fun helper => ?_
  exact neverBlames_andAlways (neverBlames_uploadArchive helper archive)
    (neverBlames_requestOn _ _ _ _)

/-- The directory is asked of the machine, which answers with a failure that is already made: this
is where the bound on the answers comes in. -/
theorem neverBlames_withStaging {task : String → Task α}
    (h : ∀ directory, NeverBlames Spares (task directory)) :
    NeverBlames Spares (withStaging task) := by
  -- This answer is a failure already, or a directory.
  have hmake : (Program.perform (I := interface) .makeStaging).Ensures Spares Blameless :=
    fun _ h => h
  refine Program.ensures_bind hmake fun made hmade => ?_
  cases made with
  | error error => exact blameless_error (hmade error rfl)
  | ok directory =>
      refine Program.ensures_bind (h directory) fun outcome houtcome => ?_
      exact fun _ _ => houtcome

/-- Staging is put together from the parts before, inside one directory. It needs the bound on the
answers for the directory only. -/
theorem neverBlames_copyImagesToVolume (images : List String) (volume : String) :
    NeverBlames Spares (copyImagesToVolume images volume) := by
  refine neverBlames_withStaging fun directory => ?_
  refine .bind (neverBlames_exportImages _ _) fun _ => ?_
  refine .bind (neverBlames_pack _ _ _) fun _ => ?_
  exact .bind (neverBlames_stage _ _) fun _ => .pure _

end Docker

/-! ### Clusters and `helm` -/

/-- A cluster that cannot be reached, one that refuses and one that sends no list of pods are told
apart, and all three are failures of the cluster. -/
theorem Kubernetes.blameless_readPods (exchange : Http.Exchange) :
    Blameless (readPods exchange) := by
  unfold readPods
  split
  · exact blameless_error rfl
  split
  · exact blameless_error rfl
  split
  · exact blameless_ok _
  · exact blameless_error rfl

/-- As for pods, with a list of nodes. An answer that is no such list is a failure of the
cluster. -/
theorem Cluster.Nomad.blameless_readNodes (exchange : Http.Exchange) :
    Blameless (readNodes exchange) := by
  unfold readNodes
  split
  · exact blameless_error rfl
  split
  · exact blameless_error rfl
  split
  · exact blameless_ok _
  · exact blameless_error rfl

/-- `helm` may be missing, it may not have been started, and it may end with a code other than
zero. -/
theorem Helm.blameless_outputOf (operation : String) (outcome : Outcome) :
    Blameless (outputOf operation outcome) := by
  unfold outputOf
  split
  · exact blameless_error rfl
  · exact blameless_error rfl
  · exact blameless_ok _
  · exact blameless_error rfl

/-- What `helm` printed when it installed a release is not looked at. Its exit code is, and so are
the failures to start it. -/
theorem Helm.blameless_installed (outcome : Outcome) : Blameless (installed outcome) :=
  (blameless_outputOf _ outcome).bind fun _ => blameless_ok ()

/-- That a release is missing is read off what `helm` printed, and is a failure of its own. The
release is named in it, and not the resource. -/
theorem Helm.blameless_removed (name : String) (outcome : Outcome) :
    Blameless (removed name outcome) := by
  have houtput := blameless_outputOf "helm uninstall" outcome
  unfold removed
  split
  case h_1 => exact blameless_ok ()
  case h_2 => split <;> exact blameless_error rfl
  case h_3 error _ herror => exact blameless_error (houtput error herror)

/-! ### The machine -/

namespace Host

/-- The answer to a call of the machine blames no reference. Two calls are answered with failures
that are already made, and the bound is on these. -/
def Spares (x : Exchange interface) : Prop :=
  match x with
  | ⟨.makeStaging, answer⟩ | ⟨.allocatePorts _, answer⟩ => Blameless answer
  | _ => True

/-- What a task needs is supplied without blaming a reference. Only the directory for staging
comes with a failure of its own. -/
theorem supply_spares (engine : String) (need : Docker.Need) :
    (supply engine need).Ensures Spares fun answer => Docker.Spares ⟨need, answer⟩ := by
  cases need with
  | makeStaging => exact fun _ h => h
  | _ => exact Program.ensures_true _

/-- A task of the engine is carried out over the machine without a reference being blamed. The
machine speaks HTTP with the engine, which changes nothing about failures. -/
theorem perform_blameless (engine : String) {α : Type} {task : Docker.Task α}
    (h : NeverBlames Docker.Spares task) : (perform engine task).Ensures Spares Blameless :=
  Program.Ensures.interpret h (supply_spares engine)

/-- A kubeconfig that cannot be read or used is a failure of the cluster, whatever stands in it.
The date is asked for on the way, for the certificates. -/
theorem connect_blameless (kubeconfig : String) :
    (connect kubeconfig).Ensures Spares Blameless := by
  refine Program.ensures_bind (Program.ensures_true _) fun contents _ => ?_
  split
  · exact blameless_error rfl
  split
  · exact blameless_error rfl
  refine Program.ensures_bind (Program.ensures_true _) fun today _ => ?_
  refine Program.ensures_bind (Program.ensures_true _) fun access _ => ?_
  exact blameless_mapError (fun _ => rfl) access

/-- Every call of a provider is served without blaming a reference. This has one case for each
call, and a new call needs one here. -/
theorem serve_spares (engine : String) (c : Service.Call) :
    (serve engine c).Ensures Spares fun answer => Service.Spares ⟨c, answer⟩ := by
  cases c with
  | imageExists => exact perform_blameless engine (Docker.neverBlames_imageExists _)
  | createContainer => exact perform_blameless engine (Docker.neverBlames_createContainer _ _)
  | findContainers => exact perform_blameless engine (Docker.neverBlames_findContainers _)
  | containerLogs => exact perform_blameless engine (Docker.neverBlames_containerLogs _)
  | copyFromContainer =>
      exact perform_blameless engine (Docker.neverBlames_copyFromContainer _ _)
  | findNetworks => exact perform_blameless engine (Docker.neverBlames_findNetworks _)
  | copyImagesToVolume =>
      exact perform_blameless engine (Docker.neverBlames_copyImagesToVolume _ _)
  | exec => exact perform_blameless engine (Docker.neverBlames_exec _ _)
  | pullImage | createVolume | createNetwork =>
      exact perform_blameless engine (Docker.neverBlames_request _ _)
  | connectNetwork | startContainer | removeContainer | removeNetwork =>
      exact perform_blameless engine (Docker.neverBlames_requestOn _ _ _ _)
  | kubernetesConnect => exact connect_blameless _
  | podsReady => exact fun response _ => Kubernetes.blameless_readPods response
  | helmInstall => exact fun outcome _ => Helm.blameless_installed outcome
  | helmUninstall => exact fun outcome _ => Helm.blameless_removed _ outcome
  | nomadReady => exact fun response _ => Cluster.Nomad.blameless_readNodes response
  | allocatePorts => exact fun _ h => h
  | _ => exact Program.ensures_true _

/-- An action that never blames a reference does not do so on a machine. Here the bound on the
answers to a provider is traded for the one on those of the machine. -/
theorem act_blameless (engine : String) {α : Type} {action : Action α}
    (h : NeverBlames Service.Spares action) : (act engine action).Ensures Spares Blameless :=
  Program.Ensures.interpret h (serve_spares engine)

end Host

end Moorage
