import Mathlib.Logic.Function.Basic
import Moorage.Proofs.Path
import Moorage.Proofs.Service

/-!
# `Moorage.Proofs.Service.Files`: files are written

`Files` is a view of the surroundings: which files there are, and what is in them. A file is known
by the place that its path leads to, so that two spellings of a path mean one file.
`Files.Effect` says what a file system promises of a single exchange. Of a write that failed it
promises that no other file was touched, and of a tree that was removed nothing.

Directories are no files here: to make them changes nothing that this view shows. Looking for
containers and removing them leaves files alone, which is asked of the engine because a removal of
nodes comes before that of a cluster's directory. Of all other calls nothing is promised.
-/

set_option autoImplicit false

namespace Moorage

/-- The files that exist: the contents of each, by its place. A place is a list of names from the
root, which is what a path comes to when it is followed. -/
abbrev Files := List String → Option String

/-- What a file system promises of an exchange of somebody who works in a directory: the files
afterwards. -/
def Files.Effect (cwd : List String) (before : Files) (x : Exchange Service.interface)
    (after : Files) : Prop :=
  match x with
  | ⟨.writeFile path contents, .ok _⟩ =>
      after = Function.update before (Path.place cwd path) (some contents)
  | ⟨.writeFile path _, .error _⟩ =>
      ∀ place, place ≠ Path.place cwd path → after place = before place
  | ⟨.createDirectories _, _⟩ | ⟨.findContainers _, _⟩ | ⟨.removeContainer _, _⟩ => after = before
  | _ => True

end Moorage
