import Moorage.Proofs.Docker.Failures
import Moorage.Proofs.Fold
import Moorage.Proofs.Program.Calls

/-!
# `Moorage.Proofs.Docker.Staging`: staging leaves no container behind

An archive of images is put into a volume through a helper container: the engine cannot write to a
volume, but to a container that has it. The images are exported to a file, the file is packed, the
archive is uploaded to the helper, and the helper is removed. Any of these can fail.

Two functions see to the removal: one when the helper cannot be started, the other after the upload.
Between them the helper is handed over, and neither function alone says that it is removed.
`HandsOver` is the word that the one gives to the other: what it comes to is a container that it
made, or none is left. `Course` says what becomes of the helper in the end. It is a property of
exchanges, with the order of creation and removal in it, so that a removal of something else or at
another time does not count.

The proof goes up from parts that have nothing to do with containers, `IsIdle`, to those that hand
one over and to the whole, `Tidy`. The other two guarantees are about the same exchanges: which
parts were carried out on success, `Complete`, and which failure is reported otherwise.

A container whose removal fails stays. This is not excluded, and could not be: what is guaranteed is
that the removal is asked for, once. What the archive holds is not described. It is packed by the
machine, and uploaded as far as it could be read.

* `tidy_copyImagesToVolume`: a helper that was made is removed once.
* `complete_of_yields`: on success all parts were carried out.
* `copyImagesToVolume_staged`: these two and the earliest failure, whatever is answered.
-/

set_option autoImplicit false

namespace Moorage.Docker

variable {α β : Type} {log : Supplies}

/-! ### The helper container -/

/-- Something other than a container is asked for, and none is removed. Starting a container is
idle in this sense. -/
def Need.Idle : Need → Prop
  | .engine (.createContainer _ _) | .engine (.removeContainer _) => False
  | _ => True

/-- What becomes of the helper container: it is not asked for, it is refused, or it is made and
removed once afterwards, whatever is answered to that. -/
inductive Course : Supplies → Prop
  | idle {log : Supplies} (all : ∀ x ∈ log, x.call.Idle) : Course log
  | refused {before after : Supplies} {name : String} {body : Json} {fault : Fault}
      (before_idle : ∀ x ∈ before, x.call.Idle) (after_idle : ∀ x ∈ after, x.call.Idle) :
      Course (before ++ ⟨.engine (.createContainer name body), .error fault⟩ :: after)
  | removed {before between after : Supplies} {name id : String} {body : Json}
      {answer : Except Fault Unit} (before_idle : ∀ x ∈ before, x.call.Idle)
      (between_idle : ∀ x ∈ between, x.call.Idle) (after_idle : ∀ x ∈ after, x.call.Idle) :
      Course (before ++ ⟨.engine (.createContainer name body), .ok id⟩ ::
        (between ++ ⟨.engine (.removeContainer id), answer⟩ :: after))

/-- The container was made, and it is still there. Nothing else was made, before or after. -/
def Leaves (log : Supplies) (id : String) : Prop :=
  ∃ (before between : Supplies) (name : String) (body : Json), (∀ x ∈ before, x.call.Idle) ∧
    (∀ x ∈ between, x.call.Idle) ∧
    log = before ++ ⟨.engine (.createContainer name body), .ok id⟩ :: between

section Idle

variable {idle : Supplies} (hidle : ∀ x ∈ idle, x.call.Idle)

include hidle

/-- Needs without a part in containers may come before. They change nothing about the course. -/
theorem Course.prepend (h : Course log) : Course (idle ++ log) := by
  cases h with
  | idle hall => exact .idle (List.forall_mem_append.mpr ⟨hidle, hall⟩)
  | refused hbefore hafter =>
      rw [← List.append_assoc]
      exact .refused (List.forall_mem_append.mpr ⟨hidle, hbefore⟩) hafter
  | removed hbefore hbetween hafter =>
      rw [← List.append_assoc]
      exact .removed (List.forall_mem_append.mpr ⟨hidle, hbefore⟩) hbetween hafter

/-- Needs without a part in containers may follow, such as discarding the directory. -/
theorem Course.append (h : Course log) : Course (log ++ idle) := by
  cases h with
  | idle hall => exact .idle (List.forall_mem_append.mpr ⟨hall, hidle⟩)
  | refused hbefore hafter =>
      rw [List.append_assoc, List.cons_append]
      exact .refused hbefore (List.forall_mem_append.mpr ⟨hafter, hidle⟩)
  | removed hbefore hbetween hafter =>
      rw [List.append_assoc, List.cons_append, List.append_assoc, List.cons_append]
      exact .removed hbefore hbetween (List.forall_mem_append.mpr ⟨hafter, hidle⟩)

/-- The container that is left was made after needs that have no part in it. They may be those of
parts that come first. -/
theorem Leaves.prepend {id : String} (h : Leaves log id) : Leaves (idle ++ log) id := by
  obtain ⟨before, between, name, body, hbefore, hbetween, rfl⟩ := h
  exact ⟨idle ++ before, between, name, body, List.forall_mem_append.mpr ⟨hidle, hbefore⟩, hbetween,
    (List.append_assoc _ _ _).symm⟩

/-- The container is still there after needs that do not remove it. These may use it. -/
theorem Leaves.append {id : String} (h : Leaves log id) : Leaves (log ++ idle) id := by
  obtain ⟨before, between, name, body, hbefore, hbetween, rfl⟩ := h
  exact ⟨before, between ++ idle, name, body, hbefore, List.forall_mem_append.mpr ⟨hbetween, hidle⟩,
    List.append_assoc _ _ _⟩

/-- A container that is removed at last is gone. Whether the removal is granted does not matter
for the course. -/
theorem Leaves.removed {id : String} (h : Leaves log id) (answer : Except Fault Unit) :
    Course (log ++ (idle ++ [⟨.engine (.removeContainer id), answer⟩])) := by
  obtain ⟨before, between, name, body, hbefore, hbetween, rfl⟩ := h
  rw [List.append_assoc, List.cons_append, ← List.append_assoc between]
  exact .removed hbefore (List.forall_mem_append.mpr ⟨hbetween, hidle⟩) (by simp)

end Idle

/-- The task has idle needs only. This is about what it may ask for, whatever it is supplied
with. -/
def IsIdle (task : Task α) : Prop := Program.Asks (I := interface) Need.Idle (ExceptT.run task)

/-- Parts that are idle make an idle task. Most operations are shown to be idle by this. -/
theorem isIdle_bind {task : Task α} {next : α → Task β} (h : IsIdle task)
    (hnext : ∀ value, IsIdle (next value)) : IsIdle (task >>= next) :=
  Program.asks_fallible_bind h hnext

/-- A single need is idle as the need is, whatever its answer is read as. -/
theorem isIdle_need {need : Need} {read : Supply need → Except Error α} (h : need.Idle) :
    IsIdle (ExceptT.mk do return read (← Program.perform (I := interface) need)) :=
  Program.asks_bind (Program.asks_perform h) fun _ => trivial

/-- A need that cannot fail is idle as the need is. -/
theorem isIdle_supply {need : Need} (h : need.Idle) :
    IsIdle (ExceptT.lift (Program.perform (I := interface) need)) :=
  Program.asks_bind (Program.asks_perform h) fun _ => trivial

/-- The exchanges of an idle task are idle, whatever it was supplied with. -/
theorem IsIdle.of_yields {task : Task α} (h : IsIdle task) {result : Except Error α}
    (hyields : Task.Yields task log result) : ∀ x ∈ log, x.call.Idle :=
  fun _ hx => Program.Asks.call_of_mem h hyields hx

/-- Looking an image up has no part in containers. -/
theorem isIdle_imageExists (name : String) : IsIdle (imageExists name) := by
  rw [imageExists_eq]
  exact isIdle_need trivial

/-- An upload goes to a container without making or removing it. -/
theorem isIdle_uploadArchive (id archive : String) : IsIdle (uploadArchive id archive) := by
  refine isIdle_bind (isIdle_need trivial) fun _ => ?_
  exact isIdle_bind (isIdle_supply trivial) fun _ => isIdle_need trivial

/-- Exporting images is about images and files. -/
theorem isIdle_exportImages (images : List String) (path : String) :
    IsIdle (exportImages images path) :=
  isIdle_bind (isIdle_need trivial) fun _ =>
    isIdle_bind (isIdle_need trivial) fun _ => isIdle_need trivial

/-- Packing is about files. -/
theorem isIdle_pack (name source archive : String) : IsIdle (pack name source archive) :=
  isIdle_bind (isIdle_need trivial) fun _ =>
    isIdle_bind (isIdle_need trivial) fun _ => isIdle_need trivial

/-- Whatever the task comes to, no container is left behind. That is so for the task as a whole. -/
def Tidy (task : Task α) : Prop := ∀ log result, Task.Yields task log result → Course log

/-- The task comes to a container that it made, or leaves none behind. So whoever is handed a
container has to remove it, and nobody else. -/
def HandsOver (task : Task String) : Prop :=
  ∀ log result, Task.Yields task log result → match result with
    | .ok id => Leaves log id
    | .error _ => Course log

/-- Idle parts may come before a task that leaves no container behind. When they fail, there is
none. -/
theorem tidy_bind {task : Task α} {next : α → Task β} (h : IsIdle task)
    (hnext : ∀ value, Tidy (next value)) : Tidy (task >>= next) := by
  intro log result hyields
  rcases Task.yields_bind_iff.mp hyields with ⟨error, hfirst, -⟩ |
    ⟨first, value, second, hfirst, hsecond, rfl⟩
  · exact .idle (h.of_yields hfirst)
  · exact (hnext value _ _ hsecond).prepend (h.of_yields hfirst)

/-- Idle parts may come before a task that hands a container over. When they fail, there is none
to be handed over. -/
theorem handsOver_bind {task : Task α} {next : α → Task String} (h : IsIdle task)
    (hnext : ∀ value, HandsOver (next value)) : HandsOver (task >>= next) := by
  intro log result hyields
  rcases Task.yields_bind_iff.mp hyields with ⟨error, hfirst, rfl⟩ |
    ⟨first, value, second, hfirst, hsecond, rfl⟩
  · exact .idle (h.of_yields hfirst)
  · have hown := hnext value _ _ hsecond
    cases result with
    | ok id => exact Leaves.prepend (h.of_yields hfirst) hown
    | error error => exact Course.prepend (h.of_yields hfirst) hown

/-- A helper that cannot be started is removed here, and any other one is handed over. -/
theorem handsOver_launchHelper (volume : String) : HandsOver (launchHelper volume) := by
  refine handsOver_bind (isIdle_supply trivial) fun unique => ?_
  intro log result h
  rcases Task.yields_bind_iff.mp h with ⟨error, hmade, rfl⟩ | ⟨first, id, second, hmade, hrest, rfl⟩
  -- There is no helper, and so nothing to be removed.
  · rcases of_yields_createContainer hmade with ⟨fault, rfl, -⟩ | ⟨_, _, -, heq⟩
    · exact @Course.refused [] [] _ _ fault (by simp) (by simp)
    · cases heq
  -- There is one. It is still there behind its creation, whatever was answered about the network.
  · rcases of_yields_createContainer hmade with ⟨_, -, heq⟩ | ⟨id, answer, rfl, heq⟩
    · cases heq
    cases heq
    have hmade : Leaves [⟨.engine (.createContainer s!"helper-{unique}.{Naming.domain}"
        (helperBody volume)), .ok id⟩, ⟨.engine (.disconnectNetwork defaultNetwork id), answer⟩] id :=
      ⟨[], _, _, _, by simp, by simp [Need.Idle], rfl⟩
    rcases Task.yields_bind_iff.mp hrest with ⟨error, hstart, rfl⟩ |
      ⟨start, _, last, hstart, hlast, rfl⟩
    · rcases of_yields_startOrRemove hstart with ⟨-, heq⟩ | ⟨fault, removal, rfl, -⟩
      · cases heq
      · have hidle : ∀ x ∈ ([⟨.engine (.startContainer id), .error fault⟩] : Supplies),
            x.call.Idle := by simp [Need.Idle]
        exact hmade.removed hidle removal
    · rcases of_yields_startOrRemove hstart with ⟨rfl, -⟩ | ⟨_, _, -, heq⟩
      · obtain ⟨rfl, rfl⟩ := Task.yields_pure_iff.mp hlast
        exact hmade.append (by simp [Need.Idle])
      · cases heq

/-- The image of the helper is seen to before anything is made, in both of the ways there are. -/
theorem handsOver_runHelper (volume : String) : HandsOver (runHelper volume) := by
  rw [runHelper_eq]
  refine handsOver_bind (isIdle_imageExists _) fun found => ?_
  split
  · exact handsOver_launchHelper volume
  · exact handsOver_bind (isIdle_need trivial) fun _ => handsOver_launchHelper volume

/-- A helper that is handed over is removed after the upload. It is removed after a failed upload
as well. -/
theorem tidy_stage (volume archive : String) : Tidy (stage volume archive) := by
  intro log result h
  rcases Task.yields_bind_iff.mp h with ⟨error, hhelper, -⟩ |
    ⟨first, id, second, hhelper, hrest, rfl⟩
  · exact handsOver_runHelper volume _ _ hhelper
  · have hleft : Leaves first id := handsOver_runHelper volume _ _ hhelper
    obtain ⟨upload, _, removal, _, hupload, hremoval, rfl, -⟩ := of_yields_andAlways hrest
    obtain ⟨answer, rfl, -⟩ := yields_removeContainer_iff.mp hremoval
    exact hleft.removed ((isIdle_uploadArchive id archive).of_yields hupload) answer

/-- Staging leaves no container behind. The directory that it works in is no container, and is
discarded on its own. -/
theorem tidy_copyImagesToVolume (images : List String) (volume : String) :
    Tidy (copyImagesToVolume images volume) := by
  intro log result h
  rcases of_yields_withStaging h with ⟨error, rfl, -⟩ | ⟨directory, own, hown, rfl⟩
  · exact .idle (by simp [Need.Idle])
  · have htidy : Tidy (stageIn images volume directory) := by
      refine tidy_bind (isIdle_exportImages _ _) fun _ => tidy_bind (isIdle_pack _ _ _) fun _ => ?_
      intro log result hrest
      -- What comes after the staging of the archive is a value.
      rcases Task.yields_bind_iff.mp hrest with ⟨error, hstage, -⟩ |
        ⟨first, _, second, hstage, hlast, rfl⟩
      · exact tidy_stage _ _ _ _ hstage
      · obtain ⟨rfl, -⟩ := Task.yields_pure_iff.mp hlast
        rw [List.append_nil]
        exact tidy_stage _ _ _ _ hstage
    have hdirectory : ∀ x ∈ ([⟨.makeStaging, .ok directory⟩] : Supplies), x.call.Idle := by
      simp [Need.Idle]
    exact ((htidy _ _ hown).append (by simp [Need.Idle])).prepend hdirectory

/-! ### Success -/

/-- The image of the helper is there, or it is pulled. Both are a course of exchanges that
succeeded. -/
inductive SeesToImage : Supplies → Prop
  | cached : SeesToImage [⟨.engine (.inspectImage Naming.helperImage), .ok ()⟩]
  | pulled (message : String) :
      SeesToImage [⟨.engine (.inspectImage Naming.helperImage), .error (.status 404 message)⟩,
        ⟨.engine (.pullImage { name := Naming.helperImage }), .ok ()⟩]

/-- The images are exported and packed. All files are in the directory that was made for staging. -/
def prepared (images : List String) (directory : String) (raw : ByteArray) : Supplies :=
  let exported := Path.join directory "images.export"
  let archive := Path.join directory (Image.archive images)
  [⟨.createFile exported, .ok ()⟩, ⟨.engine (.exportImages images), .ok raw⟩,
    ⟨.writeFile exported raw, .ok ()⟩, ⟨.openFile exported, .ok ()⟩, ⟨.createFile archive, .ok ()⟩,
    ⟨.packFile (Image.archive images) exported archive, .ok ()⟩]

/-- The helper is created and started. That it is taken off the default network is tried only. -/
def launched (volume unique id : String) (detached : Except Fault Unit) : Supplies :=
  [⟨.uniqueId, unique⟩,
    ⟨.engine (.createContainer s!"helper-{unique}.{Naming.domain}" (helperBody volume)), .ok id⟩,
    ⟨.engine (.disconnectNetwork defaultNetwork id), detached⟩,
    ⟨.engine (.startContainer id), .ok ()⟩]

/-- The archive is uploaded as it was read, and the helper is removed. The archive goes to where
the volume is mounted. -/
def finished (archive id : String) (packed : ByteArray) : Supplies :=
  [⟨.openFile archive, .ok ()⟩, ⟨.streamFile archive, packed⟩,
    ⟨.engine (.upload id Naming.imagesMount packed), .ok ()⟩,
    ⟨.engine (.removeContainer id), .ok ()⟩]

/-- All parts of staging were carried out, in order, and every one of them succeeded. This is the
log of a success, up to what the engine and the machine were free to choose. -/
inductive Complete (images : List String) (volume : String) : Supplies → Prop
  | intro {directory unique id : String} {raw packed : ByteArray}
      {detached : Except Fault Unit} {image : Supplies} (seen : SeesToImage image) :
      Complete images volume
        (⟨.makeStaging, .ok directory⟩ :: (prepared images directory raw ++
          (image ++ launched volume unique id detached ++
            finished (Path.join directory (Image.archive images)) id packed) ++
          [⟨.discardStaging directory, ()⟩]))

/-- The images were exported when their file was made, the engine sent them and they were written.
What was written is what the engine sent. -/
theorem exported_of_yields {images : List String} {path : String}
    (h : Task.Yields (exportImages images path) log (.ok ())) :
    ∃ raw : ByteArray, log = [⟨.createFile path, .ok ()⟩,
      ⟨.engine (.exportImages images), .ok raw⟩, ⟨.writeFile path raw, .ok ()⟩] := by
  obtain ⟨first, _, rest, hmade, hrest, rfl⟩ := h.of_bind_ok
  obtain ⟨second, raw, last, hexported, hsaved, rfl⟩ := hrest.of_bind_ok
  obtain ⟨answer, rfl, heq⟩ := yields_createFile_iff.mp hmade
  obtain rfl := Except.mapError_eq_ok_iff.mp heq.symm
  obtain ⟨answer, rfl, heq⟩ := Task.yields_need_iff.mp hexported
  obtain rfl := Except.mapError_eq_ok_iff.mp heq.symm
  obtain ⟨answer, rfl, heq⟩ := yields_writeFile_iff.mp hsaved
  obtain rfl := Except.mapError_eq_ok_iff.mp heq.symm
  exact ⟨raw, rfl⟩

/-- The archive was packed when both files could be opened and the packing went through. What is
in it is left to the machine. -/
theorem packed_of_yields {name source archive : String}
    (h : Task.Yields (pack name source archive) log (.ok ())) :
    log = [⟨.openFile source, .ok ()⟩, ⟨.createFile archive, .ok ()⟩,
      ⟨.packFile name source archive, .ok ()⟩] := by
  obtain ⟨first, _, rest, hopened, hrest, rfl⟩ := h.of_bind_ok
  obtain ⟨second, _, last, hmade, hpacked, rfl⟩ := hrest.of_bind_ok
  obtain ⟨answer, rfl, heq⟩ := yields_openFile_iff.mp hopened
  obtain rfl := Except.mapError_eq_ok_iff.mp heq.symm
  obtain ⟨answer, rfl, heq⟩ := yields_createFile_iff.mp hmade
  obtain rfl := Except.mapError_eq_ok_iff.mp heq.symm
  obtain ⟨answer, rfl, heq⟩ := Task.yields_need_iff.mp hpacked
  obtain rfl := Except.mapError_eq_ok_iff.mp heq.symm
  rfl

/-- The archive was uploaded when it could be opened and the engine took what was read of it. That
it was read to its end is not said. -/
theorem uploaded_of_yields {id archive : String}
    (h : Task.Yields (uploadArchive id archive) log (.ok ())) :
    ∃ packed : ByteArray, log = [⟨.openFile archive, .ok ()⟩, ⟨.streamFile archive, packed⟩,
      ⟨.engine (.upload id Naming.imagesMount packed), .ok ()⟩] := by
  obtain ⟨first, _, rest, hopened, hrest, rfl⟩ := h.of_bind_ok
  obtain ⟨second, packed, last, hread, huploaded, rfl⟩ := hrest.of_bind_ok
  obtain ⟨answer, rfl, heq⟩ := yields_openFile_iff.mp hopened
  obtain rfl := Except.mapError_eq_ok_iff.mp heq.symm
  obtain ⟨_, hread, heq⟩ := Task.yields_lift_iff.mp hread
  cases heq
  obtain rfl := Program.yields_perform_iff.mp hread
  obtain ⟨answer, rfl, heq⟩ := Task.yields_need_iff.mp huploaded
  obtain rfl := Except.mapError_eq_ok_iff.mp heq.symm
  exact ⟨packed, rfl⟩

/-- The helper was launched when it was created and started. What was answered when it was taken
off the default network is left open. -/
theorem launched_of_yields {volume id : String}
    (h : Task.Yields (launchHelper volume) log (.ok id)) :
    ∃ unique detached, log = launched volume unique id detached := by
  obtain ⟨first, unique, rest, hunique, hrest, rfl⟩ := h.of_bind_ok
  obtain ⟨second, id', later, hcreated, hlater, rfl⟩ := hrest.of_bind_ok
  obtain ⟨third, _, last, hstarted, hlast, rfl⟩ := hlater.of_bind_ok
  obtain ⟨_, hunique, heq⟩ := Task.yields_lift_iff.mp hunique
  cases heq
  obtain rfl := Program.yields_perform_iff.mp hunique
  rcases of_yields_createContainer hcreated with ⟨_, -, heq⟩ | ⟨_, detached, rfl, heq⟩
  · cases heq
  cases heq
  rcases of_yields_startOrRemove hstarted with ⟨rfl, -⟩ | ⟨_, _, -, heq⟩
  · obtain ⟨rfl, heq⟩ := Task.yields_pure_iff.mp hlast
    cases heq
    exact ⟨unique, detached, rfl⟩
  · cases heq

/-- A helper that runs has its image, and was launched after that had been seen to. -/
theorem helped_of_yields {volume id : String} (h : Task.Yields (runHelper volume) log (.ok id)) :
    ∃ image unique detached, SeesToImage image ∧
      log = image ++ launched volume unique id detached := by
  rw [runHelper_eq] at h
  obtain ⟨first, found, rest, hfound, hrest, rfl⟩ := h.of_bind_ok
  obtain ⟨answer, rfl, heq⟩ := yields_imageExists_iff.mp hfound
  unfold presence at heq
  split at heq
  · cases heq
    obtain ⟨unique, detached, rfl⟩ := launched_of_yields hrest
    exact ⟨_, unique, detached, .cached, rfl⟩
  · cases heq
    obtain ⟨second, _, last, hpulled, hlast, rfl⟩ := hrest.of_bind_ok
    obtain ⟨answer, rfl, heq⟩ := yields_pullImage_iff.mp hpulled
    obtain rfl := Except.mapError_eq_ok_iff.mp heq.symm
    obtain ⟨unique, detached, rfl⟩ := launched_of_yields hlast
    exact ⟨_, unique, detached, .pulled _, rfl⟩
  · cases heq

/-- On success every part of staging was carried out. So no part can have been left out without a
failure. -/
theorem complete_of_yields {images archives : List String} {volume : String}
    (h : Task.Yields (copyImagesToVolume images volume) log (.ok archives)) :
    Complete images volume log ∧
      archives = [Path.join Naming.imagesMount (Image.archive images)] := by
  rcases of_yields_withStaging h with ⟨error, -, heq⟩ | ⟨directory, own, hown, rfl⟩
  · cases heq
  -- Since the whole succeeds, each of its parts does, and the exchanges of a part are known then.
  obtain ⟨first, _, rest, hexported, hrest, rfl⟩ := hown.of_bind_ok
  obtain ⟨second, _, later, hpacked, hlater, rfl⟩ := hrest.of_bind_ok
  obtain ⟨third, _, last, hstaged, hlast, rfl⟩ := hlater.of_bind_ok
  obtain ⟨raw, rfl⟩ := exported_of_yields hexported
  obtain rfl := packed_of_yields hpacked
  obtain ⟨rfl, heq⟩ := Task.yields_pure_iff.mp hlast
  cases heq
  obtain ⟨helper, id, end_, hhelper, hend, rfl⟩ := hstaged.of_bind_ok
  obtain ⟨image, unique, detached, hseen, rfl⟩ := helped_of_yields hhelper
  obtain ⟨upload, outcome, removal, afterwards, hupload, hremoval, rfl, heq⟩ :=
    of_yields_andAlways hend
  -- The upload decides, as a failure of it would be that of the whole.
  cases outcome with
  | error _ => cases heq
  | ok _ =>
      obtain ⟨packed, rfl⟩ := uploaded_of_yields hupload
      obtain ⟨answer, rfl, hanswer⟩ := yields_removeContainer_iff.mp hremoval
      obtain rfl := Except.mapError_eq_ok_iff.mp (heq.trans hanswer).symm
      refine ⟨?_, rfl⟩
      simpa [prepared, launched, finished] using
        @Complete.intro images volume directory unique id raw packed detached image hseen

/-- Where all parts were carried out nothing failed. This is the other direction, for telling a
success by its log. -/
theorem Complete.findSome?_failure? {images : List String} {volume : String}
    (h : Complete images volume log) : log.findSome? failure? = none := by
  obtain ⟨hseen⟩ := h
  cases hseen <;> rfl

/-! ### What is guaranteed -/

/-- The container that an exchange made. A creation that was refused has made none. -/
def createdId? : Exchange interface → Option String
  | ⟨.engine (.createContainer _ _), .ok id⟩ => some id
  | _ => none

/-- The container that an exchange was to remove, whatever came of it. So a removal that failed
counts as one. -/
def removedId? : Exchange interface → Option String
  | ⟨.engine (.removeContainer id), _⟩ => some id
  | _ => none

/-- Whether a container is asked for. -/
def Need.creates : Need → Bool
  | .engine (.createContainer _ _) => true
  | _ => false

/-- What is idle has no part in the containers. Each of the three counts skips it. -/
theorem Need.Idle.uncounted {x : Exchange interface} (h : x.call.Idle) :
    x.call.creates = false ∧ createdId? x = none ∧ removedId? x = none := by
  obtain ⟨need, answer⟩ := x
  cases need with
  | engine call => cases call <;> first | exact h.elim | exact ⟨rfl, rfl, rfl⟩
  | _ => exact ⟨rfl, rfl, rfl⟩

/-- Where nothing has a part in containers there are none to be counted. -/
theorem counts_of_idle (h : ∀ x ∈ log, x.call.Idle) :
    log.countP (·.call.creates) = 0 ∧ log.filterMap createdId? = [] ∧
      log.filterMap removedId? = [] := by
  refine ⟨List.countP_eq_zero.mpr fun x hx => ?_, List.filterMap_eq_nil_iff.mpr fun x hx => ?_,
    List.filterMap_eq_nil_iff.mpr fun x hx => ?_⟩
  · simp [(h x hx).uncounted]
  · exact (h x hx).uncounted.2.1
  · exact (h x hx).uncounted.2.2

/-- A container is asked for at most once, and what was made is removed once. This is what is left
of the course when the order is forgotten. -/
theorem Course.counts (h : Course log) :
    log.countP (·.call.creates) ≤ 1 ∧ log.filterMap removedId? = log.filterMap createdId? := by
  cases h with
  | idle hall =>
      obtain ⟨hcreations, hcreated, hremoved⟩ := counts_of_idle hall
      exact ⟨hcreations ▸ Nat.zero_le 1, hremoved.trans hcreated.symm⟩
  | refused hbefore hafter =>
      simp only [List.countP_append, List.countP_cons, List.filterMap_append, List.filterMap_cons,
        counts_of_idle hbefore, counts_of_idle hafter]
      exact ⟨Nat.le_refl 1, rfl⟩
  | removed hbefore hbetween hafter =>
      simp only [List.countP_append, List.countP_cons, List.filterMap_append, List.filterMap_cons,
        counts_of_idle hbefore, counts_of_idle hbetween, counts_of_idle hafter]
      exact ⟨Nat.le_refl 1, rfl⟩

/-- What staging guarantees, whatever it is supplied with. Its parts are about the helper, the log
of a success and the failure that is reported. -/
structure Staged (images : List String) (volume : String) (log : Supplies)
    (result : Except Error (List String)) : Prop where
  /-- A container is asked for at most once. -/
  creations_le : log.countP (·.call.creates) ≤ 1
  /-- A container that was made is removed once, and no other one is. -/
  removed_eq : log.filterMap removedId? = log.filterMap createdId?
  /-- The removal follows the creation. -/
  course : Course log
  /-- Success means that every part succeeded. -/
  ok_iff : ∀ archives, result = .ok archives ↔
    Complete images volume log ∧ archives = [Path.join Naming.imagesMount (Image.archive images)]
  /-- The failure is the earliest one. -/
  error_iff : ∀ error, result = .error error ↔ log.findSome? failure? = some error
  /-- A failure of anything but the removal is that of the whole. -/
  failure_eq : ∀ x ∈ log, ∀ error, failure? x = some error →
    (∃ id, x.call = .engine (.removeContainer id)) ∨ result = .error error

/-- The three guarantees together. That success means that every part was carried out is shown
both ways: where all were carried out nothing has failed, so that the result can only be a
success. -/
theorem staged_of_yields {images : List String} {volume : String}
    {result : Except Error (List String)}
    (h : Task.Yields (copyImagesToVolume images volume) log result) :
    Staged images volume log result := by
  have hcourse := tidy_copyImagesToVolume images volume _ _ h
  obtain ⟨hearliest, hfailures⟩ := reports_copyImagesToVolume images volume _ _ h
  obtain ⟨hcreations, hremoved⟩ := hcourse.counts
  refine ⟨hcreations, hremoved, hcourse, fun archives => ⟨?_, ?_⟩, fun error => ?_,
    fun x hx error herror => ?_⟩
  · rintro rfl
    exact complete_of_yields h
  · rintro ⟨hcomplete, rfl⟩
    -- Nothing failed, so that there is a result, which can only be this one.
    cases result with
    | ok archives => rw [(complete_of_yields h).2]
    | error error => cases hcomplete.findSome?_failure?.symm.trans hearliest
  · rw [hearliest, errorOf_eq_some_iff]
  · exact (hfailures x hx error herror).imp_right errorOf_eq_some_iff.mp

/-- Staging through any engine and any files leaves no container behind, and comes to the earliest
failure if there is one. Nothing is assumed of the answers, and the exchanges are those of a run,
so that there is one for each of them. -/
theorem copyImagesToVolume_staged {σ : Type} (answer : (need : Need) → σ → Supply need × σ)
    (images : List String) (volume : String) (s : σ) :
    Staged images volume ((copyImagesToVolume images volume).run.trace answer s)
      ((copyImagesToVolume images volume).run.run answer s).1 :=
  staged_of_yields (Program.yields_trace (I := interface) answer _ s)

/-- An engine that has the image of the helper and starts it, and refuses everything else. So the
helper cannot be removed. -/
def jammed : (call : Call) → Answer call
  | .inspectImage _ | .startContainer _ | .disconnectNetwork _ _ => .ok ()
  | .exportImages _ => .ok ByteArray.empty
  | .createContainer _ _ => .ok "7"
  | .ping | .pullImage _ | .removeContainer _ | .listContainers _ | .containerLogs _ | .download _ _
  | .upload _ _ _ | .createVolume _ | .createNetwork _ _ _ | .connectNetwork _ _ _ _
  | .listNetworks _ | .removeNetwork _ | .createExec _ _ | .startExec _ | .inspectExec _ =>
      .error (.status 500 "full")

/-- The jammed engine on a machine with room for every file. An archive is read as empty. -/
def onJammed : (need : Need) → Unit → Supply need × Unit
  | .engine call, s => (jammed call, s)
  | .uniqueId, s => ("0", s)
  | .makeStaging, s => (.ok "/tmp/staging", s)
  | .discardStaging _, s => ((), s)
  | .openFile _, s | .createFile _, s | .writeFile _ _, s | .packFile _ _ _, s => (.ok (), s)
  | .streamFile _, s => (ByteArray.empty, s)

/-- The upload fails, and then the removal. The removal was tried once, and the failure is that of
the upload. -/
theorem copyImagesToVolume_staged_jammed :
    let log := (copyImagesToVolume ["web"] "images").run.trace onJammed ()
    log.filterMap createdId? = ["7"] ∧ log.filterMap removedId? = ["7"] ∧
    ⟨.engine (.removeContainer "7"), .error (.status 500 "full")⟩ ∈ log ∧
    ((copyImagesToVolume ["web"] "images").run.run onJammed ()).1
      = .error ((Fault.status 500 "full").error "upload images") := by
  intro log
  have hstaged := copyImagesToVolume_staged onJammed ["web"] "images" ()
  have hcreated : log.filterMap createdId? = ["7"] := rfl
  -- The removal follows the upload, and only the end of the directory comes after it.
  have hremoval : log[15]? = some ⟨.engine (.removeContainer "7"), .error (.status 500 "full")⟩ :=
    rfl
  refine ⟨hcreated, hstaged.removed_eq.trans hcreated, List.mem_of_getElem? hremoval, ?_⟩
  exact (hstaged.error_iff _).mpr rfl

end Moorage.Docker
