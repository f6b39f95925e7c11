import Moorage.Text.Cut

/-!
# `Moorage.Path`: paths as text

A path is a `String` whose segments a slash separates. Nothing here looks at a
disk, and nothing is normalised unless the name says so.

* `join`: a path below another one.
* `parent`: the directory that holds a path.
* `absolute`: a path seen from a working directory.
-/

set_option autoImplicit false

namespace Moorage.Path

/-- Whether a path starts at the root directory. -/
def isAbsolute (path : String) : Bool :=
  path.toList.head? = some '/'

/-- The path `sub` seen from `base`. An absolute `sub` stands for itself; an
empty one leaves `base` with a slash at its end. -/
def join (base sub : String) : String :=
  if isAbsolute sub then sub
  else if base = "" ∨ base.toList.getLast? = some '/' then base ++ sub
  else base ++ "/" ++ sub

/-- The segments of a path: empty ones and single dots say nothing and are left
out. -/
def segments (path : String) : List String :=
  ((Text.cutAll '/' path.toList).filter fun s => s ≠ [] ∧ s ≠ ['.']).map String.ofList

/-- A path, its last character first, without slashes and single dots behind its
last name. -/
def trimmedBack : List Char → List Char
  | '/' :: c :: rest => trimmedBack (c :: rest)
  | '.' :: '/' :: rest => trimmedBack ('/' :: rest)
  | path => path

/-- The directory that holds what a path names: the path without its last name,
empty for a bare name. -/
def parent (path : String) : String :=
  let back := trimmedBack path.toList.reverse
  if back = ['/'] then ""
  else String.ofList (trimmedBack (back.dropWhile (· ≠ '/'))).reverse

/-- The path seen from the directory `cwd`, without empty segments and single
dots; two dots stay, and so does a slash at the end. An empty path has no
absolute form. -/
def absolute? (cwd path : String) : Option String :=
  if path = "" then none
  else
    let start :=
      if isAbsolute path then
        if (Text.dropLead? ['/', '/'] path.toList).any (·.head? ≠ some '/') then "//" else "/"
      else cwd
    let whole := (segments path).foldl join start
    some (if path.toList.getLast? = some '/' then join whole "" else whole)

end Moorage.Path
