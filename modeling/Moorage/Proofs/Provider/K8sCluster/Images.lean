import Moorage.Proofs.Image.Name
import Moorage.Proofs.Provider.K8sCluster.BringUp

/-!
# `Moorage.Proofs.Provider.K8sCluster.Images`: the images of a cluster

A cluster hands the images of its volume over under the names for which they were looked up or
pulled before. `Fetches` says how an image of a name is had, whoever made up the name, and
`Imports` puts an import together from that.

The names are canonical from the first call on: the archive that the server reads names its images,
and a name without a tag would be another image there. `Imports` takes a list of names and knows
nothing of images. That the list is the one of the canonical names, in the order of the
configuration, is the statement.

An import ends in one of three ways. A name could not be had, and those before it were; the images
could not be staged, all of them having been had; or they were staged, and the archives are imported
one by one. Each way says which call failed and what becomes of the failure.

* `imports_of_yields`: an import is one of the canonical names of its images, in their order.
* `images_under_one_name`: what that means for every list of images, with the laws of canonical
  names.
-/

set_option autoImplicit false

namespace Moorage.Provider.K8sCluster

variable {settings : Settings} {r : Resource}

/-- The exchanges after which there is an image of the name: it was pulled, or it was found where
pulls are not forced. -/
inductive Fetches (settings : Settings) (name : String) : Exchanges → Prop
  | forced {image : Image} (force : settings.forcePull = true) (named : image.name = name) :
      Fetches settings name [⟨.pullImage image, .ok ()⟩]
  | cached (force : settings.forcePull = false) :
      Fetches settings name [⟨.imageExists name, .ok true⟩]
  | missing {image : Image} (force : settings.forcePull = false) (named : image.name = name) :
      Fetches settings name [⟨.imageExists name, .ok false⟩, ⟨.pullImage image, .ok ()⟩]

/-- The exchanges after which there is no image of the name: the search for it failed or its pull
did, and the error is that of the last exchange. -/
inductive Misses (settings : Settings) (name : String) (error : Error) : Exchanges → Prop
  | forced {image : Image} (force : settings.forcePull = true) (named : image.name = name) :
      Misses settings name error [⟨.pullImage image, .error error⟩]
  | unknown (force : settings.forcePull = false) :
      Misses settings name error [⟨.imageExists name, .error error⟩]
  | missing {image : Image} (force : settings.forcePull = false) (named : image.name = name) :
      Misses settings name error
        [⟨.imageExists name, .ok false⟩, ⟨.pullImage image, .error error⟩]

/-- The exchanges of importing images of the names into the container, and the result. Every failure
is one of the step `image import` of the cluster. -/
inductive Imports (settings : Settings) (r : Resource) (id : String) :
    List String → Exchanges → Except Error Unit → Prop
  | none : Imports settings r id [] [] (.ok ())
  /-- One of the images cannot be had. None is handed over. -/
  | missed {had rest : List String} {name : String} {parts : List Exchanges} {attempt : Exchanges}
      {error : Error} (fetched : List.Forall₂ (Fetches settings) had parts)
      (sought : Misses settings name error attempt) :
      Imports settings r id (had ++ name :: rest) (parts.flatten ++ attempt)
        (.error (.provider r.label "image import" error))
  /-- All of them are there, but they do not get into the volume. -/
  | unstaged {names : List String} {parts : List Exchanges} {error : Error} (some : names ≠ [])
      (fetched : List.Forall₂ (Fetches settings) names parts) :
      Imports settings r id names
        (parts.flatten ++
          [⟨.copyImagesToVolume names (Naming.volume Naming.imagesVolume), .error error⟩])
        (.error (.provider r.label "image import" error))
  /-- All of them are there and go to the volume, and the archives that are named there go into the
  container in their order, each by one command, up to the first command that fails. -/
  | handed {names archives : List String} {parts : List Exchanges} {after : Exchanges}
      {result : Except Error Unit} (some : names ≠ [])
      (fetched : List.Forall₂ (Fetches settings) names parts)
      (commands : Goes settings r (archives.map (.importArchive id)) after result) :
      Imports settings r id names
        (parts.flatten ++
          ⟨.copyImagesToVolume names (Naming.volume Naming.imagesVolume), .ok archives⟩ :: after)
        result

/-! ### One image -/

/-- A pull that fails misses the image under its canonical name. The failure is the one that was
answered, before the step wraps it. -/
theorem Pulls.misses {image : Image} {log : Exchanges} {error : Error}
    (h : Pulls settings image log (.error error)) :
    Misses settings (Image.canonical image.name) error log := by
  cases h with
  | forced force => exact .forced force rfl
  | unknown force => exact .unknown force
  | missing force => exact .missing force rfl

/-- A pull that succeeds fetches the image under its canonical name. An image that is there
already is not pulled unless this is forced. -/
theorem Pulls.fetches {image : Image} {log : Exchanges} (h : Pulls settings image log (.ok ())) :
    Fetches settings (Image.canonical image.name) log := by
  cases h with
  | forced force => exact .forced force rfl
  | cached force => exact .cached force
  | missing force => exact .missing force rfl

/-- The step of an image is its pull, whose error the step wraps. The wrapping names the cluster. -/
theorem Step.Performs.pulls {image : Image} {log : Exchanges} {result : Except Error Unit}
    (h : (Step.pull image).Performs settings r log result) :
    ∃ outcome, Pulls settings image log outcome ∧
      result = outcome.mapError (.provider r.label "image import") := by
  cases h with
  | pull own => exact ⟨_, own, rfl⟩

/-! ### Lists of images -/

/-- Pulling images comes to all of them, or to the first that cannot be had. By induction on the
images. -/
theorem Goes.pulls {images : List Image} {log : Exchanges} {result : Except Error Unit}
    (h : Goes settings r (images.map .pull) log result) :
    (result = .ok () ∧ ∃ parts, log = parts.flatten ∧
      List.Forall₂ (Fetches settings) (images.map fun image => Image.canonical image.name) parts) ∨
    ∃ had name rest parts attempt error,
      (images.map fun image => Image.canonical image.name) = had ++ name :: rest ∧
      List.Forall₂ (Fetches settings) had parts ∧ Misses settings name error attempt ∧
      log = parts.flatten ++ attempt ∧
      result = .error (.provider r.label "image import" error) := by
  induction images generalizing log with
  | nil =>
      obtain ⟨rfl, rfl⟩ := goes_nil_iff.mp h
      exact Or.inl ⟨rfl, [], rfl, .nil⟩
  | cons image images ih =>
      cases h with
      -- The first image cannot be had, and none is pulled after it.
      | failed here undone =>
          obtain ⟨outcome, hpulls, heq⟩ := here.pulls
          obtain rfl := undone
          cases outcome with
          | ok _ => cases heq
          | error cause =>
              obtain rfl := Except.error.inj heq
              exact Or.inr ⟨[], _, _, [], _, cause, rfl, .nil, hpulls.misses, List.append_nil _, rfl⟩
      -- The first image was fetched, so its exchanges come in front of what the others come to.
      | passed here later =>
          obtain ⟨outcome, hpulls, heq⟩ := here.pulls
          obtain rfl := Except.mapError_eq_ok_iff.mp heq.symm
          rcases ih later with ⟨hok, parts, rfl, hfetched⟩ |
            ⟨had, name, rest, parts, attempt, error, hnames, hfetched, hsought, rfl, rfl⟩
          · exact Or.inl ⟨hok, _ :: parts, rfl, .cons hpulls.fetches hfetched⟩
          · refine Or.inr ⟨_ :: had, name, rest, _ :: parts, attempt, error, ?_,
              .cons hpulls.fetches hfetched, hsought, (List.append_assoc _ _ _).symm, rfl⟩
            rw [List.map_cons, hnames, List.cons_append]

/-- The steps of the images are an import of them under their canonical names. This says in calls
what the steps say in parts. -/
theorem Goes.imports {id : String} {images : List Image} {archives : List String} {log : Exchanges}
    {result : Except Error Unit} (h : Goes settings r (imageSteps id images archives) log result) :
    Imports settings r id (images.map fun image => Image.canonical image.name) log result := by
  cases images with
  | nil =>
      obtain ⟨rfl, rfl⟩ := goes_nil_iff.mp h
      exact .none
  | cons image images =>
      rcases goes_append_iff.mp h with ⟨error, hpulls, rfl⟩ |
        ⟨first, second, hpulls, hrest, rfl⟩
      · rcases hpulls.pulls with ⟨hok, -⟩ |
          ⟨had, name, rest, parts, attempt, cause, hnames, hfetched, hsought, rfl, heq⟩
        · cases hok
        · obtain rfl := Except.error.inj heq
          rw [hnames]
          exact .missed hfetched hsought
      · rcases hpulls.pulls with ⟨-, parts, rfl, hfetched⟩ | ⟨_, _, _, _, _, _, -, -, -, -, hok⟩
        · -- The staging comes first, and a failure of it is the end.
          cases hrest with
          | failed here undone =>
              obtain rfl := undone
              rw [List.append_nil]
              cases here with
              | stageFailed error => exact .unstaged (List.cons_ne_nil _ _) hfetched
          | passed here later =>
              cases here with
              | staged => exact .handed (List.cons_ne_nil _ _) hfetched later
        · cases hok

/-- Every run of an import is one of the three, for the canonical names of its images. Both sides
are told over all answers. -/
theorem imports_of_yields {id : String} {images : List Image} {log : Exchanges}
    {result : Except Error Unit} (h : Action.Yields (importImages settings r id images) log result) :
    Imports settings r id (images.map fun image => Image.canonical image.name) log result := by
  obtain ⟨archives, hgoes, -⟩ := follows_importImages id images log result h
  rw [show (result.map fun _ => ()) = result by cases result <;> rfl] at hgoes
  exact hgoes.imports

/-- A canonical name begins with the name, has a tag, and is the name itself exactly if that has
one; what stands before a slash does not matter. So every import looks for its images and hands
them over under the same names, in the same order. -/
theorem images_under_one_name :
    (∀ name : String, name.toList <+: (Image.canonical name).toList ∧
      Image.IsTagged (Image.canonical name) ∧
      (Image.canonical name = name ↔ Image.IsTagged name) ∧
      Image.canonical (Image.canonical name) = Image.canonical name) ∧
    (∀ registry path : String,
      Image.canonical (registry ++ "/" ++ path) = registry ++ "/" ++ Image.canonical path) ∧
    ∀ (σ : Type) (answer : (call : Service.Call) → σ → Service.Answer call × σ)
      (settings : Settings) (r : Resource) (id : String) (images : List Image) (s : σ),
      Imports settings r id (images.map fun image => Image.canonical image.name)
        ((importImages settings r id images).run.trace answer s)
        ((importImages settings r id images).run.run answer s).1 := by
  refine ⟨fun name => ⟨Image.prefix_canonical name, Image.isTagged_canonical name,
    Image.canonical_eq_self_iff, Image.canonical_canonical name⟩, Image.canonical_join, ?_⟩
  intro σ answer settings r id images s
  have hyields := Program.yields_trace answer (importImages settings r id images).run s
  exact imports_of_yields hyields

end Moorage.Provider.K8sCluster
