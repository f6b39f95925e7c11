import Moorage.Error
import Moorage.Path

/-!
# `Moorage.Rehearsal.FileTree`: a tree of files

The files of a rehearsal. A path leads from the top of the tree through
directories that have to exist; two dots lead back to the directory above. A name
and a whole path may only be so long.

* `locate`: where a path leads.
* `read`, `openFile`, `write`, `createDirectories`, `removeTree`: what can be done
  there.
* `below`: everything under a directory, a directory before what it holds.
-/

set_option autoImplicit false

namespace Moorage.Rehearsal

/-- A place in a tree: the names that lead to it. -/
abbrev Place := List String

/-- What is at a place. -/
inductive FileNode where
  | directory
  | file (contents : ByteArray)
  deriving Inhabited

/-- Whether a node is a directory. -/
def FileNode.isDirectory : FileNode → Bool
  | directory => true
  | file _ => false

/-- A tree of files. The place of no names is always a directory. -/
structure FileTree where
  entries : List (Place × FileNode) := []
  deriving Inhabited

namespace FileTree

/-- What is at a place. -/
def node? (t : FileTree) (place : Place) : Option FileNode :=
  if place = [] then some .directory
  else (t.entries.find? fun entry => entry.1 = place).map (·.2)

/-- Whether there is a directory at a place. -/
def holdsDirectory (t : FileTree) (place : Place) : Bool :=
  (t.node? place).any FileNode.isDirectory

/-- The tree with something at a place. -/
def put (t : FileTree) (place : Place) (node : FileNode) : FileTree :=
  ⟨t.entries.filter (fun entry => entry.1 ≠ place) ++ [(place, node)]⟩

/-- The tree without what is at a place and below it. -/
def prune (t : FileTree) (place : Place) : FileTree :=
  ⟨t.entries.filter fun entry => !place.isPrefixOf entry.1⟩

/-- The names of a path, in which a slash at the end counts as a dot. -/
def steps (path : String) : List String :=
  let names := (Text.cutAll '/' path.toList).map String.ofList
  let inner := names.filter (· ≠ "")
  if names.getLast? = some "" then inner ++ ["."] else inner

/-- The most bytes of a name. -/
def nameLimit : Nat := 255

/-- The most bytes of a path. -/
def pathLimit : Nat := 4095

/-- What is wrong with the text of a path, whatever the tree holds. -/
def textFault? (path : String) : Option FileFault :=
  if path.contains '\x00' then some .nulCharacter
  else if pathLimit < path.utf8ByteSize then some .nameTooLong
  else none

/-- The place below a directory to which one name leads. -/
def stepTo (place : Place) (name : String) : Place :=
  if name = ".." then place.dropLast else if name = "." then place else place ++ [name]

/-- Where names lead from a place. Each of them is looked up in a directory; there
need be nothing at the last place. -/
def follow (t : FileTree) (place : Place) : List String → Except FileFault Place
  | [] => .ok place
  | name :: rest =>
      match t.node? place with
      | some .directory =>
          if nameLimit < name.utf8ByteSize then .error .nameTooLong
          else t.follow (stepTo place name) rest
      | some (.file _) => .error .notDirectory
      | none => .error .missing

/-- Where an absolute path leads. -/
def locate (t : FileTree) (path : String) : Except FileFault Place :=
  match textFault? path with
  | some fault => .error fault
  | none => if path = "" then .error .missing else t.follow [] (steps path)

/-- Whether there is something at a path. That cannot be told when the path leads
through a file. -/
def pathExists (t : FileTree) (path : String) : Except FileFault Bool :=
  match t.locate path with
  | .ok place => .ok (t.node? place).isSome
  | .error .missing => .ok false
  | .error fault => .error fault

/-- Whether there is a directory at a path. -/
def isDirectory (t : FileTree) (path : String) : Bool :=
  match t.locate path with
  | .ok place => t.holdsDirectory place
  | .error _ => false

/-- The contents of a file. -/
def read (t : FileTree) (path : String) : Except FileFault ByteArray :=
  match t.locate path with
  | .error fault => .error fault
  | .ok place =>
      match t.node? place with
      | some (.file contents) => .ok contents
      | some .directory => .error .isDirectory
      | none => .error .missing

/-- Opens a file or a directory for reading. -/
def openFile (t : FileTree) (path : String) : Except FileFault Unit :=
  match t.locate path with
  | .error fault => .error fault
  | .ok place => if (t.node? place).isSome then .ok () else .error .missing

/-- Writes a file into a directory that exists. -/
def write (t : FileTree) (path : String) (contents : ByteArray) :
    Except FileFault Unit × FileTree :=
  match t.locate path with
  | .error fault => (.error fault, t)
  | .ok place =>
      if t.holdsDirectory place then (.error .isDirectory, t)
      else if !t.holdsDirectory place.dropLast then (.error .missing, t)
      else (.ok (), t.put place (.file contents))

/-- Creates the directories through which names lead from a place. The ones before
a name that leads nowhere stay. -/
def createAlong (t : FileTree) (place : Place) : List String → Except FileFault Unit × FileTree
  | [] => (.ok (), t)
  | name :: rest =>
      if nameLimit < name.utf8ByteSize then (.error .nameTooLong, t)
      else
        let next := stepTo place name
        match t.node? next with
        | some .directory => t.createAlong next rest
        | some (.file _) => (.error .notDirectory, t)
        | none => (t.put next .directory).createAlong next rest

/-- Creates the directory of an absolute path, and the ones above it. -/
def createDirectories (t : FileTree) (path : String) : Except FileFault Unit × FileTree :=
  match textFault? path with
  | some fault => (.error fault, t)
  | none => t.createAlong [] (steps path)

/-- Removes a directory and everything below it. A directory that is named by
dots is only emptied: by one dot it cannot be removed, and by two the way to it is
gone. -/
def removeTree (t : FileTree) (path : String) : Except FileFault Unit × FileTree :=
  match t.locate path with
  | .error fault => (.error fault, t)
  | .ok place =>
      match t.node? place with
      | none => (.error .missing, t)
      | some (.file _) => (.error .notDirectory, t)
      | some .directory =>
          let emptied := (t.prune place).put place .directory
          match (Text.cutAll '/' path.toList).getLast? with
          | some ['.'] => (.error (.stated "invalid argument"), emptied)
          | some ['.', '.'] => (.error .missing, emptied)
          | _ => (.ok (), t.prune place)

/-- Everything below a place, in the order of the names, with the names that lead
there from the place. -/
def below (t : FileTree) (place : Place) : List (Place × FileNode) :=
  let inside := t.entries.filterMap fun entry =>
    if place.isPrefixOf entry.1 ∧ entry.1 ≠ place then
      some (entry.1.drop place.length, entry.2)
    else none
  inside.mergeSort fun a b => (compare a.1 b.1).isLE

/-- The tree with a file at a place, and the directories above it. -/
def plant (t : FileTree) (path : String) (contents : ByteArray) : FileTree :=
  ((t.createDirectories (Path.parent path)).2.write path contents).2

end FileTree

end Moorage.Rehearsal
