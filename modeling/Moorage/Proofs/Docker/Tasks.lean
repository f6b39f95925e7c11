import Moorage.Docker
import Moorage.Proofs.Program.Fallible

/-!
# `Moorage.Proofs.Docker.Tasks`: what tasks ask for and what they get

`Task.Yields` is `Program.Yields` for the tasks of the container engine: the needs of a task with
what it was supplied with for each, and what it comes to. A request makes one exchange, and so does
a file operation; the operations that are used for staging are put together from these.

A need is a request to the engine, something of the machine's files, a directory or a name that is
not used yet. What it is supplied with is not restricted: an engine may refuse anything, and a file
that could be opened may be read only in part. Packing is one need as well. What the archive has in
it is left to the machine, as the tasks do not look at it.

The equivalences say of a single exchange what it makes of its answer. They have the failure in the
words of the operation, because a fault of the engine means different things where it is answered:
that there is no such image is an answer to one request and a failure of another.

* `yields_need_iff`: a single exchange.
* `of_yields_createContainer`, `of_yields_startOrRemove`: a container is made, and started or
  removed.
* `of_yields_andAlways`, `of_yields_withStaging`: what is done whatever has come before.
-/

set_option autoImplicit false

namespace Moorage.Docker

/-- What a task asked for, with what it got. It is to tasks what a log is to the actions of a
provider. -/
abbrev Supplies := List (Exchange interface)

/-- The task asks for what is on the list, when it is supplied as the list says, and comes to the
result. -/
def Task.Yields {α : Type} (task : Task α) (log : Supplies) (result : Except Error α) : Prop :=
  Program.Yields (I := interface) (ExceptT.run task) log result

namespace Task

variable {α β : Type} {task : Task α} {log : Supplies}

/-- A task that needs nothing has its value as the only result. -/
theorem yields_pure_iff {value : α} {result : Except Error α} :
    Yields (pure value) log result ↔ log = [] ∧ result = .ok value := Program.yields_done_iff

/-- A task that gives up needs nothing, and its failure is the one that it was given. -/
theorem yields_throw_iff {error : Error} {result : Except Error α} :
    Yields (throw error) log result ↔ log = [] ∧ result = .error error := Program.yields_done_iff

/-- The second part follows when the first succeeds; a failure of the first is that of both. This
takes tasks apart, so that their definitions need no unfolding of the monad. -/
theorem yields_bind_iff {next : α → Task β} {result : Except Error β} :
    Yields (task >>= next) log result ↔
      (∃ error, Yields task log (.error error) ∧ result = .error error) ∨
      ∃ first value second, Yields task first (.ok value) ∧
        Yields (next value) second result ∧ log = first ++ second :=
  Program.yields_fallible_bind_iff

/-- Where two tasks in a row succeed both of them did. Proofs about success take a task apart with
this and never see a failure. -/
theorem Yields.of_bind_ok {next : α → Task β} {value : β}
    (h : Yields (task >>= next) log (.ok value)) :
    ∃ first between second, Yields task first (.ok between) ∧
      Yields (next between) second (.ok value) ∧ log = first ++ second :=
  Program.Yields.of_fallible_bind_ok h

/-- The handler follows when the first part fails, and what it comes to is the result of the
whole. -/
theorem yields_tryCatch_iff {handler : Error → Task α} {result : Except Error α} :
    Yields (tryCatch task handler) log result ↔
      (∃ value, Yields task log (.ok value) ∧ result = .ok value) ∨
      ∃ first error second, Yields task first (.error error) ∧
        Yields (handler error) second result ∧ log = first ++ second :=
  Program.yields_fallible_tryCatch_iff

/-- A program that cannot fail is a task that succeeds. For names, which can always be made up. -/
theorem yields_lift_iff {program : Program interface α} {result : Except Error α} :
    Yields (ExceptT.lift program) log result ↔
      ∃ value, Program.Yields program log value ∧ result = .ok value :=
  Program.yields_fallible_lift_iff

/-- A program whose answer is read as an outcome makes its own exchanges. Reading asks nothing. -/
theorem yields_read_iff {γ : Type} {read : γ → Except Error α} {program : Program interface γ}
    {result : Except Error α} :
    Yields (ExceptT.mk do return read (← program)) log result ↔
      ∃ answer, Program.Yields program log answer ∧ result = read answer := by
  refine Iff.trans Program.yields_bind_iff ?_
  constructor
  · rintro ⟨first, answer, second, hfirst, hsecond, rfl⟩
    obtain ⟨rfl, rfl⟩ := Program.yields_done_iff.mp hsecond
    rw [List.append_nil]
    exact ⟨answer, hfirst, rfl⟩
  · rintro ⟨answer, hfirst, rfl⟩
    exact ⟨log, answer, [], hfirst, .done _, (List.append_nil log).symm⟩

/-- A need whose answer is read as an outcome makes a single exchange. Most laws of this module
are this one, for some need. -/
theorem yields_need_iff {need : Need} {read : Supply need → Except Error α}
    {result : Except Error α} :
    Yields (ExceptT.mk do return read (← Program.perform (I := interface) need)) log result ↔
      ∃ answer : Supply need, log = [⟨need, answer⟩] ∧ result = read answer :=
  yields_read_iff.trans (exists_congr fun _ => and_congr_left' Program.yields_perform_iff)

end Task

variable {α : Type} {log : Supplies}

/-! ### Single exchanges -/

/-- A fault of the start may mean that the container is missing, and is told so then. -/
theorem yields_startContainer_iff {id : String} {result : Except Error Unit} :
    Task.Yields (startContainer id) log result ↔
      ∃ answer : Except Fault Unit, log = [⟨.engine (.startContainer id), answer⟩] ∧
        result = answer.mapError (Fault.errorOn "start container" "container" id) :=
  Task.yields_need_iff

/-- A fault of the removal may mean that the container is gone, which callers pass over. -/
theorem yields_removeContainer_iff {id : String} {result : Except Error Unit} :
    Task.Yields (removeContainer id) log result ↔
      ∃ answer : Except Fault Unit, log = [⟨.engine (.removeContainer id), answer⟩] ∧
        result = answer.mapError (Fault.errorOn "remove container" "container" id) :=
  Task.yields_need_iff

/-- An image that cannot be pulled is a failure of the engine, also where it says that it is
missing. -/
theorem yields_pullImage_iff {image : Image} {result : Except Error Unit} :
    Task.Yields (pullImage image) log result ↔
      ∃ answer : Except Fault Unit, log = [⟨.engine (.pullImage image), answer⟩] ∧
        result = answer.mapError (Fault.error "pull image") :=
  Task.yields_need_iff

/-- What cannot be written is told at the path that it was to be written to. What was written of
it is left there. -/
theorem yields_writeFile_iff {path : String} {contents : ByteArray} {result : Except Error Unit} :
    Task.Yields (onFile path (Program.perform (I := interface) (.writeFile path contents))) log
        result ↔
      ∃ answer : Except FileFault Unit, log = [⟨.writeFile path contents, answer⟩] ∧
        result = answer.mapError (.io path) :=
  Task.yields_need_iff

/-- A file that cannot be made is told at its path. One that is there already is emptied. -/
theorem yields_createFile_iff {path : String} {result : Except Error Unit} :
    Task.Yields (onFile path (Program.perform (I := interface) (.createFile path))) log result ↔
      ∃ answer : Except FileFault Unit, log = [⟨.createFile path, answer⟩] ∧
        result = answer.mapError (.io path) :=
  Task.yields_need_iff

/-- A file that cannot be opened is told at its path. What is read afterwards is another need. -/
theorem yields_openFile_iff {path : String} {result : Except Error Unit} :
    Task.Yields (onFile path (Program.perform (I := interface) (.openFile path))) log result ↔
      ∃ answer : Except FileFault Unit, log = [⟨.openFile path, answer⟩] ∧
        result = answer.mapError (.io path) :=
  Task.yields_need_iff

/-- What the engine says about an image. Only a missing one is no failure, and it is told by its
status. -/
def presence : Except Fault Unit → Except Error Bool
  | .ok () => .ok true
  | .error (.status 404 _) => .ok false
  | .error fault => .error (fault.error "inspect image")

/-- Looking an image up is one request whose answer is read by `presence`. -/
theorem imageExists_eq (name : String) :
    imageExists name = ExceptT.mk do return presence (← call (.inspectImage name)) := by
  refine congrArg ExceptT.mk (congrArg (bind _) (funext fun answer => ?_))
  unfold presence
  split <;> simp_all

/-- A missing image is no failure here: the request is answered with a fault and the task with
`false`. -/
theorem yields_imageExists_iff {name : String} {result : Except Error Bool} :
    Task.Yields (imageExists name) log result ↔
      ∃ answer : Except Fault Unit, log = [⟨.engine (.inspectImage name), answer⟩] ∧
        result = presence answer := by
  rw [imageExists_eq]
  exact Task.yields_need_iff

/-! ### The life of a container -/

/-- A container is off the default network before it is handed over, whatever is answered to
that. -/
theorem of_yields_createContainer {name : String} {body : Json} {result : Except Error String}
    (h : Task.Yields (createContainer name body) log result) :
    (∃ fault : Fault, log = [⟨.engine (.createContainer name body), .error fault⟩] ∧
      result = .error (fault.error "create container")) ∨
    ∃ (id : String) (answer : Except Fault Unit),
      log = [⟨.engine (.createContainer name body), .ok id⟩,
        ⟨.engine (.disconnectNetwork defaultNetwork id), answer⟩] ∧ result = .ok id := by
  rcases Task.yields_bind_iff.mp h with ⟨error, hcreated, rfl⟩ |
    ⟨first, id, second, hcreated, hrest, rfl⟩
  · obtain ⟨answer, rfl, heq⟩ := Task.yields_need_iff.mp hcreated
    cases answer with
    | ok id => cases heq
    | error fault => exact Or.inl ⟨fault, rfl, heq⟩
  · obtain ⟨answer, rfl, heq⟩ := Task.yields_need_iff.mp hcreated
    cases answer with
    | error fault => cases heq
    | ok id =>
        cases heq
        -- The container is there now. Whatever is answered about the network is dropped.
        rcases Task.yields_bind_iff.mp hrest with ⟨error, hoff, -⟩ |
          ⟨first, answer, last, hoff, hdone, rfl⟩
        · obtain ⟨_, -, heq⟩ := Task.yields_lift_iff.mp hoff
          cases heq
        · obtain ⟨answer, hanswer, -⟩ := Task.yields_lift_iff.mp hoff
          obtain rfl := Program.yields_perform_iff.mp hanswer
          obtain ⟨rfl, rfl⟩ := Task.yields_pure_iff.mp hdone
          exact Or.inr ⟨id, answer, rfl, rfl⟩

/-- A removal that is tried only comes to nothing that could be seen. It is made once all the
same. -/
theorem of_yields_tryRemove {id : String} {result : Except Error Unit}
    (h : Task.Yields (tryCatch (removeContainer id) fun _ => pure ()) log result) :
    result = .ok () ∧
      ∃ answer : Except Fault Unit, log = [⟨.engine (.removeContainer id), answer⟩] := by
  rcases Task.yields_tryCatch_iff.mp h with ⟨_, hremoved, rfl⟩ |
    ⟨first, error, second, hremoved, hlast, rfl⟩
  · obtain ⟨answer, rfl, -⟩ := yields_removeContainer_iff.mp hremoved
    exact ⟨rfl, answer, rfl⟩
  · obtain ⟨answer, rfl, -⟩ := yields_removeContainer_iff.mp hremoved
    obtain ⟨rfl, rfl⟩ := Task.yields_pure_iff.mp hlast
    exact ⟨rfl, answer, rfl⟩

/-- A container that cannot be started is removed, whatever is answered to that. The failure is
that of the start. -/
theorem of_yields_startOrRemove {id : String} {result : Except Error Unit}
    (h : Task.Yields (startOrRemove id) log result) :
    (log = [⟨.engine (.startContainer id), .ok ()⟩] ∧ result = .ok ()) ∨
    ∃ (fault : Fault) (answer : Except Fault Unit),
      log = [⟨.engine (.startContainer id), .error fault⟩,
        ⟨.engine (.removeContainer id), answer⟩] ∧
      result = .error (fault.errorOn "start container" "container" id) := by
  rcases Task.yields_tryCatch_iff.mp h with ⟨_, hstarted, rfl⟩ |
    ⟨first, error, second, hstarted, hundone, rfl⟩
  · obtain ⟨answer, rfl, heq⟩ := yields_startContainer_iff.mp hstarted
    cases answer with
    | ok _ => exact Or.inl ⟨rfl, rfl⟩
    | error fault => cases heq
  · obtain ⟨answer, rfl, heq⟩ := yields_startContainer_iff.mp hstarted
    cases answer with
    | ok _ => cases heq
    | error fault =>
        cases heq
        -- The removal is tried only, so that what follows it is the failure of the start.
        rcases Task.yields_bind_iff.mp hundone with ⟨error, hremoved, -⟩ |
          ⟨own, _, last, hremoved, hthrown, rfl⟩
        · cases (of_yields_tryRemove hremoved).1
        · obtain ⟨-, answer, rfl⟩ := of_yields_tryRemove hremoved
          obtain ⟨rfl, rfl⟩ := Task.yields_throw_iff.mp hthrown
          exact Or.inr ⟨fault, answer, rfl, rfl⟩

/-! ### The parts of staging -/

/-- The second task follows whatever comes of the first, whose failure counts before its own. -/
theorem of_yields_andAlways {task after : Task Unit} {result : Except Error Unit}
    (h : Task.Yields (andAlways task after) log result) :
    ∃ first outcome second afterwards, Task.Yields task first outcome ∧
      Task.Yields after second afterwards ∧ log = first ++ second ∧
      result = outcome.bind fun _ => afterwards := by
  obtain ⟨first, outcome, rest, hfirst, hrest, rfl⟩ := Program.yields_bind_iff.mp h
  obtain ⟨second, afterwards, last, hsecond, hlast, rfl⟩ := Program.yields_bind_iff.mp hrest
  refine ⟨first, outcome, second, afterwards, hfirst, hsecond, ?_⟩
  cases outcome with
  | ok _ =>
      obtain ⟨rfl, rfl⟩ := Program.yields_done_iff.mp hlast
      exact ⟨by rw [List.append_nil], rfl⟩
  | error error =>
      obtain ⟨rfl, rfl⟩ := Program.yields_done_iff.mp hlast
      exact ⟨by rw [List.append_nil], rfl⟩

/-- The directory is discarded whatever comes of the task. When it cannot be made there is nothing
to discard. -/
theorem of_yields_withStaging {task : String → Task α} {result : Except Error α}
    (h : Task.Yields (withStaging task) log result) :
    (∃ error, log = [⟨.makeStaging, .error error⟩] ∧ result = .error error) ∨
    ∃ (directory : String) (own : Supplies), Task.Yields (task directory) own result ∧
      log = ⟨.makeStaging, .ok directory⟩ :: (own ++ [⟨.discardStaging directory, ()⟩]) := by
  obtain ⟨first, answer, rest, hfirst, hrest, rfl⟩ := Program.yields_bind_iff.mp h
  obtain rfl := Program.yields_perform_iff.mp hfirst
  cases answer with
  | error error =>
      obtain ⟨rfl, rfl⟩ := Program.yields_done_iff.mp hrest
      exact Or.inl ⟨error, rfl, rfl⟩
  | ok directory =>
      obtain ⟨own, outcome, later, hown, hlater, rfl⟩ := Program.yields_bind_iff.mp hrest
      obtain ⟨second, _, last, hsecond, hlast, rfl⟩ := Program.yields_bind_iff.mp hlater
      obtain rfl := Program.yields_perform_iff.mp hsecond
      obtain ⟨rfl, rfl⟩ := Program.yields_done_iff.mp hlast
      exact Or.inr ⟨directory, own, hown, rfl⟩

/-- The start of a helper container whose image is there. It is a part of the operation, set apart
because there are two ways to it. -/
def launchHelper (volume : String) : Task String := do
  let unique : String ← ExceptT.lift (Program.perform (I := interface) .uniqueId)
  let id ← createContainer s!"helper-{unique}.{Naming.domain}" (helperBody volume)
  startOrRemove id
  return id

/-- The image is pulled first if it is missing. After that, both ways are the same. -/
theorem runHelper_eq (volume : String) :
    runHelper volume = imageExists Naming.helperImage >>= fun found =>
      if found then launchHelper volume
      else pullImage { name := Naming.helperImage } >>= fun _ => launchHelper volume := rfl

/-- The parts of staging that have a directory for their files. What remains of staging is to make
it and to discard it. -/
def stageIn (images : List String) (volume directory : String) : Task (List String) := do
  exportImages images (Path.join directory "images.export")
  pack (Image.archive images) (Path.join directory "images.export")
    (Path.join directory (Image.archive images))
  stage volume (Path.join directory (Image.archive images))
  return [Path.join Naming.imagesMount (Image.archive images)]

end Moorage.Docker
