import Moorage.Proofs.Docker.Tasks

/-!
# `Moorage.Proofs.Docker.Failures`: the failure of a task is its earliest one

A task makes many exchanges, and of those that fail only one can be reported. Which one it is
follows from what comes after a failure: nothing, or a removal whose outcome is not looked at.

`failure?` reads off an exchange whether it is a failure, and which. It does so without regard to
the task that made it, in the words that the operation has for it. `Reports` says of a task that
it comes to the earliest failure of its exchanges, and that only a removal can fail after another
failure. It has a law for each way of putting tasks together, and an exchange that cannot fail, such
as reading a file that is open, satisfies it trivially.

The second half of `Reports` is there for the removals. Without it nothing would be said of a task
that fails twice, and the first half could be had by a task that goes on after a failure.

* `reports_startOrRemove`, `reports_stage`: a start or an upload counts before a removal.
* `reports_copyImagesToVolume`: staging reports its earliest failure.
-/

set_option autoImplicit false

namespace Moorage.Docker

variable {α β : Type}

/-! ### What a failure is -/

/-- The failure that an outcome is, if it is one. Logs are searched for failures, and this is what
the search is compared with. -/
def errorOf {α : Type} : Except Error α → Option Error
  | .ok _ => none
  | .error error => some error

/-- The failure of an outcome is what it is the failure of, so that both ways of saying it are
one. -/
theorem errorOf_eq_some_iff {outcome : Except Error α} {error : Error} :
    errorOf outcome = some error ↔ outcome = .error error := by
  cases outcome <;> simp [errorOf]

/-- The failure that an exchange is, if it is one. An image that is missing is none, nor is a
container that was not on the default network. -/
def failure? : Exchange interface → Option Error
  | ⟨.makeStaging, answer⟩ => errorOf answer
  | ⟨.openFile path, answer⟩ => errorOf (answer.mapError (Error.io path))
  | ⟨.createFile path, answer⟩ => errorOf (answer.mapError (Error.io path))
  | ⟨.writeFile path _, answer⟩ => errorOf (answer.mapError (Error.io path))
  | ⟨.packFile _ _ archive, answer⟩ => errorOf (answer.mapError (PackFault.error archive))
  | ⟨.engine (.inspectImage _), answer⟩ => errorOf (presence answer)
  | ⟨.engine (.pullImage _), answer⟩ => errorOf (answer.mapError (Fault.error "pull image"))
  | ⟨.engine (.exportImages _), answer⟩ => errorOf (answer.mapError (Fault.error "export images"))
  | ⟨.engine (.createContainer _ _), answer⟩ =>
      errorOf (answer.mapError (Fault.error "create container"))
  | ⟨.engine (.startContainer id), answer⟩ =>
      errorOf (answer.mapError (Fault.errorOn "start container" "container" id))
  | ⟨.engine (.upload _ _ _), answer⟩ => errorOf (answer.mapError (Fault.error "upload images"))
  | ⟨.engine (.removeContainer id), answer⟩ =>
      errorOf (answer.mapError (Fault.errorOn "remove container" "container" id))
  | _ => none

/-! ### What tasks report -/

/-- The failure of the task is its earliest one, and only a removal can fail after it. A task that
succeeds may have a failed removal, too. -/
def Reports (task : Task α) : Prop :=
  ∀ log result, Task.Yields task log result →
    log.findSome? failure? = errorOf result ∧
    ∀ x ∈ log, ∀ error, failure? x = some error →
      (∃ id, x.call = .engine (.removeContainer id)) ∨ errorOf result = some error

/-- A task that needs nothing has no exchange that could have failed. -/
theorem reports_pure (value : α) : Reports (pure value) := by
  intro log result h
  obtain ⟨rfl, rfl⟩ := Task.yields_pure_iff.mp h
  exact ⟨rfl, by simp⟩

/-- The exchanges of the second part come after those of the first, and there are none when the
first fails. So the earliest failure is that of the part that failed. -/
theorem reports_bind {task : Task α} {next : α → Task β} (h : Reports task)
    (hnext : ∀ value, Reports (next value)) : Reports (task >>= next) := by
  intro log result hyields
  rcases Task.yields_bind_iff.mp hyields with ⟨error, hfirst, rfl⟩ |
    ⟨first, value, second, hfirst, hsecond, rfl⟩
  · exact h _ _ hfirst
  · obtain ⟨hnone, hremovals⟩ := h _ _ hfirst
    obtain ⟨hearliest, hfailures⟩ := hnext value _ _ hsecond
    refine ⟨by rw [List.findSome?_append, hnone, hearliest]; rfl, fun x hx error herror => ?_⟩
    rcases List.mem_append.mp hx with hx | hx
    · exact (hremovals x hx error herror).imp_right nofun
    · exact hfailures x hx error herror

/-- A single exchange, read as what it is. The reading has to agree with the answer on what a
failure is. -/
theorem reports_need {need : Need} {read : Supply need → Except Error α}
    (h : ∀ answer, failure? ⟨need, answer⟩ = errorOf (read answer)) :
    Reports (ExceptT.mk do return read (← Program.perform (I := interface) need)) := by
  intro log result hyields
  obtain ⟨answer, rfl, rfl⟩ := Task.yields_need_iff.mp hyields
  refine ⟨List.findSome?_singleton.trans (h answer), fun x hx error herror => ?_⟩
  obtain rfl := List.mem_singleton.mp hx
  exact Or.inr ((h answer).symm.trans herror)

/-- A need that is met with whatever there is cannot fail. Names, and archives that are read, are
of this kind. -/
theorem reports_supply {need : Need} (h : ∀ answer, failure? ⟨need, answer⟩ = none) :
    Reports (ExceptT.lift (Program.perform (I := interface) need)) := by
  intro log result hyields
  obtain ⟨answer, hanswer, rfl⟩ := Task.yields_lift_iff.mp hyields
  obtain rfl := Program.yields_perform_iff.mp hanswer
  refine ⟨List.findSome?_singleton.trans (h answer), fun x hx error herror => ?_⟩
  obtain rfl := List.mem_singleton.mp hx
  cases (h answer).symm.trans herror

/-- A missing image is no failure of the exchange, as it is none of the task. This agrees with
`presence`, by which it is read. -/
theorem reports_imageExists (name : String) : Reports (imageExists name) := by
  rw [imageExists_eq]
  exact reports_need fun _ => rfl

/-- The container that was made is taken off the default network. A fault of that is no failure,
so only that of the creation counts. -/
theorem reports_createContainer (name : String) (body : Json) :
    Reports (createContainer name body) := by
  intro log result h
  rcases of_yields_createContainer h with ⟨fault, rfl, rfl⟩ | ⟨id, answer, rfl, rfl⟩
  · refine ⟨rfl, fun x hx error herror => ?_⟩
    obtain rfl := List.mem_singleton.mp hx
    exact Or.inr herror
  · refine ⟨rfl, fun x hx error herror => ?_⟩
    simp only [List.mem_cons, List.not_mem_nil, or_false] at hx
    rcases hx with rfl | rfl <;> cases herror

/-- A failed start counts before a failed removal. The latter is passed over. -/
theorem reports_startOrRemove (id : String) : Reports (startOrRemove id) := by
  intro log result h
  rcases of_yields_startOrRemove h with ⟨rfl, rfl⟩ | ⟨fault, answer, rfl, rfl⟩
  · refine ⟨rfl, fun x hx error herror => ?_⟩
    obtain rfl := List.mem_singleton.mp hx
    cases herror
  · refine ⟨rfl, fun x hx error herror => ?_⟩
    simp only [List.mem_cons, List.not_mem_nil, or_false] at hx
    rcases hx with rfl | rfl
    · exact Or.inr herror
    · exact Or.inl ⟨id, rfl⟩

/-- An archive that is read only in part is no failure of its own. What was read of it is
uploaded. -/
theorem reports_uploadArchive (id archive : String) : Reports (uploadArchive id archive) := by
  refine reports_bind (reports_need fun _ => rfl) fun _ => ?_
  exact reports_bind (reports_supply fun _ => rfl) fun contents => reports_need fun _ => rfl

/-- Three exchanges, of which each is reached when those before it succeeded. The first and the
last are about a file, and the second is about the engine. -/
theorem reports_exportImages (images : List String) (path : String) :
    Reports (exportImages images path) :=
  reports_bind (reports_need fun _ => rfl) fun _ =>
    reports_bind (reports_need fun _ => rfl) fun _ => reports_need fun _ => rfl

/-- The source is opened and the archive made before anything is packed. The failure of the third
exchange is told at the archive. -/
theorem reports_pack (name source archive : String) : Reports (pack name source archive) :=
  reports_bind (reports_need fun _ => rfl) fun _ =>
    reports_bind (reports_need fun _ => rfl) fun _ => reports_need fun _ => rfl

/-- A name is asked for, which cannot fail, and then the helper is created and started. -/
theorem reports_launchHelper (volume : String) : Reports (launchHelper volume) := by
  refine reports_bind (reports_supply fun _ => rfl) fun unique => ?_
  refine reports_bind (reports_createContainer _ _) fun id => ?_
  exact reports_bind (reports_startOrRemove id) fun _ => reports_pure id

/-- The image of the helper comes first, and is pulled where it is missing. -/
theorem reports_runHelper (volume : String) : Reports (runHelper volume) := by
  rw [runHelper_eq]
  refine reports_bind (reports_imageExists _) fun found => ?_
  split
  · exact reports_launchHelper volume
  · exact reports_bind (reports_need fun _ => rfl) fun _ => reports_launchHelper volume

/-- A failed upload counts before a failed removal. After an upload that went through, a failed
removal is the failure of the task. -/
theorem reports_stage (volume archive : String) : Reports (stage volume archive) := by
  refine reports_bind (reports_runHelper volume) fun id => ?_
  intro log result h
  obtain ⟨first, outcome, second, afterwards, hupload, hremoval, rfl, rfl⟩ :=
    of_yields_andAlways h
  obtain ⟨hearliest, hfailures⟩ := reports_uploadArchive id archive _ _ hupload
  obtain ⟨answer, rfl, rfl⟩ := yields_removeContainer_iff.mp hremoval
  refine ⟨?_, fun x hx error herror => ?_⟩
  -- The removal comes last, so that its failure is the earliest one only if the upload went
  -- through.
  · rw [List.findSome?_append, hearliest]
    cases outcome with
    | ok _ => exact List.findSome?_singleton
    | error error => rfl
  · rcases List.mem_append.mp hx with hx | hx
    · refine (hfailures x hx error herror).imp_right fun hupload => ?_
      cases outcome with
      | ok _ => cases hupload
      | error error => exact hupload
    · obtain rfl := List.mem_singleton.mp hx
      exact Or.inl ⟨id, rfl⟩

/-- The failure of staging is the earliest one that there was, from the directory to the upload.
Only the removal of the helper can fail as well, and it is reported when nothing else failed. -/
theorem reports_copyImagesToVolume (images : List String) (volume : String) :
    Reports (copyImagesToVolume images volume) := by
  intro log result h
  rcases of_yields_withStaging h with ⟨error, rfl, rfl⟩ | ⟨directory, own, hown, rfl⟩
  · refine ⟨rfl, fun x hx error' herror => ?_⟩
    obtain rfl := List.mem_singleton.mp hx
    exact Or.inr herror
  · have hreports : Reports (stageIn images volume directory) :=
      reports_bind (reports_exportImages _ _) fun _ =>
        reports_bind (reports_pack _ _ _) fun _ =>
          reports_bind (reports_stage _ _) fun _ => reports_pure _
    -- Neither the directory nor its end is a failure.
    have hmade : failure? ⟨.makeStaging, .ok directory⟩ = none := rfl
    have hdiscarded : failure? ⟨.discardStaging directory, ()⟩ = none := rfl
    obtain ⟨hearliest, hfailures⟩ := hreports _ _ hown
    refine ⟨?_, fun x hx error herror => ?_⟩
    · rw [List.findSome?_cons, hmade, List.findSome?_append, hearliest, List.findSome?_singleton,
        hdiscarded, Option.or_none]
    · simp only [List.mem_cons, List.mem_append, List.not_mem_nil, or_false] at hx
      rcases hx with rfl | hx | rfl
      · cases hmade.symm.trans herror
      · exact hfailures x hx error herror
      · cases hdiscarded.symm.trans herror

end Moorage.Docker
