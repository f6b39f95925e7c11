import Mathlib.Data.List.TakeWhile
import Moorage.Path

/-!
# `Moorage.Proofs.Path`: the names of a path

A path is text, and what it says are its names. The laws here tell which names the operations on
paths lead to, so that no proof about files has to look at slashes.

Text is cut at slashes, and parts that are empty or a single dot say nothing. `names` is this on
characters and `segments` on strings. Whether a path is absolute is not one of its names, so the
laws come in pairs, one for the names and one for the start. Two slashes at the start, and no
more, are a third case: they are kept as a root of their own, `startsDoubled`.

A file is known by the place that its path leads to, `place`, where two dots lead back up. Places
are compared as lists: what lies below a directory has its list as a prefix, and `Apart` says of
two that neither lies below the other. Links are left out, which is an assumption about the
directories and not about the paths.

The directory of a file is worked out on text as well, from the back: the last name is cut off and
what is left is trimmed. The second half of the module is about this, and comes to `directory`,
which says in names what was done in characters.

* `segments_join`: a relative path that is joined adds its names.
* `segments_parent`, `absolute?_parent`: the directory of a file has the names of the
  path but the last, and its absolute form starts at the root or the working directory.
* `place_join`: a plain name below a directory leads to a place of its own right below it.
-/

set_option autoImplicit false

namespace Moorage.Path

open Text (cutAll)

/-! ### Names -/

/-- The names of a path. Parts that are empty or a single dot are no names, and two dots are one,
since they lead somewhere. -/
def names (path : List Char) : List (List Char) :=
  (cutAll '/' path).filter fun part => part ≠ [] ∧ part ≠ ['.']

/-- The names of a path are told on characters here, since all that is said about slashes is said
of lists. -/
theorem segments_eq (path : String) : segments path = (names path.toList).map String.ofList := rfl

/-- The empty path has no names. It stands for the directory that one is in. -/
@[simp]
theorem names_nil : names [] = [] := by simp [names, cutAll]

/-- A single dot has no names, and stands for the same directory. -/
@[simp]
theorem names_dot : names ['.'] = [] := by decide

/-- A slash parts names: those before it and those after it do not touch each other. -/
@[simp]
theorem names_append_slash (before after : List Char) :
    names (before ++ '/' :: after) = names before ++ names after := by
  simp [names, Text.cutAll_append]

/-- A slash at the start adds no name. It makes the path absolute, which the names do not say. -/
@[simp]
theorem names_slash (after : List Char) : names ('/' :: after) = names after :=
  names_append_slash [] after

/-- A part between slashes that says something is the only name in it. -/
theorem names_of_notMem {part : List Char} (hslash : '/' ∉ part) (hne : part ≠ [])
    (hdot : part ≠ ['.']) : names part = [part] := by
  simp [names, Text.cutAll_of_notMem hslash, hne, hdot]

/-- Names are parts that say something: they have no slash in them, and are neither empty nor a
dot. -/
theorem mem_names {path part : List Char} (h : part ∈ names path) :
    '/' ∉ part ∧ part ≠ [] ∧ part ≠ ['.'] := by
  simp only [names, List.mem_filter, decide_eq_true_eq] at h
  exact ⟨Text.notMem_of_mem_cutAll h.1, h.2⟩

/-- The text names one thing in a directory: it is not a path of several names, and the dots
that stand for a directory are not names. -/
def IsName (name : String) : Prop := name ≠ "" ∧ name ≠ "." ∧ name ≠ ".." ∧ '/' ∉ name.toList

instance (name : String) : Decidable (IsName name) :=
  inferInstanceAs (Decidable (_ ∧ _ ∧ _ ∧ _))

/-- A name has characters, for proofs about the list of them. The lemmas on `names` ask for this
and for the next fact. -/
theorem IsName.toList_ne_nil {name : String} (h : IsName name) : name.toList ≠ [] := by
  simpa using h.1

/-- A name is not a single dot, for proofs about the list of its characters. -/
theorem IsName.toList_ne_dot {name : String} (h : IsName name) : name.toList ≠ ['.'] :=
  fun heq => h.2.1 (String.toList_inj.mp heq)

/-- No character of a name is a slash, so that a slash behind it is the first one. -/
theorem IsName.ne_slash {name : String} (h : IsName name) {c : Char} (hc : c ∈ name.toList) :
    c ≠ '/' := by
  rintro rfl
  exact h.2.2.2 hc

/-- A name is a path of one name, itself. So a name can be joined wherever a path can. -/
theorem IsName.segments_eq {name : String} (h : IsName name) : segments name = [name] := by
  rw [Path.segments_eq, names_of_notMem h.2.2.2 h.toList_ne_nil h.toList_ne_dot]
  simp

/-- A name is a relative path: only a slash at the start makes one absolute. -/
theorem IsName.not_isAbsolute {name : String} (h : IsName name) : isAbsolute name = false := by
  have hslash := h.2.2.2
  unfold isAbsolute
  cases hname : name.toList with
  | nil => rfl
  | cons c rest =>
      rw [hname, List.mem_cons, not_or] at hslash
      simpa using Ne.symm hslash.1

/-! ### Joining -/

/-- A path that is joined adds its names, unless it stands for itself. Whether the base ends in a
slash does not matter. -/
theorem segments_join (base sub : String) (h : isAbsolute sub = false) :
    segments (join base sub) = segments base ++ segments sub := by
  simp only [join, h, Bool.false_eq_true, if_false, segments_eq]
  split
  case isTrue hbase =>
    rcases hbase with rfl | hlast
    · simp
    · -- The slash at the end of the base is the one between the two.
      obtain ⟨front, hfront⟩ := List.getLast?_eq_some_iff.mp hlast
      simp [hfront]
  case isFalse => simp

/-- An absolute path that is joined replaces what it is joined to, and a relative one starts as
that does. The empty base is left out, since joining to it adds no slash. -/
theorem isAbsolute_join (base sub : String) (h : base ≠ "") :
    isAbsolute (join base sub) = (isAbsolute sub || isAbsolute base) := by
  obtain ⟨c, rest, hbase⟩ := List.exists_cons_of_ne_nil (by simpa using h : base.toList ≠ [])
  unfold join
  split
  · simp_all
  · split <;> simp_all [isAbsolute]

/-- The names of a path are paths of one name each. None of them is absolute, so joining them one
by one never starts over. -/
theorem mem_segments {path part : String} (h : part ∈ segments path) :
    segments part = [part] ∧ isAbsolute part = false := by
  rw [segments_eq, List.mem_map] at h
  obtain ⟨part, hpart, rfl⟩ := h
  obtain ⟨hslash, hne, hdot⟩ := mem_names hpart
  constructor
  · simp [segments_eq, names_of_notMem hslash hne hdot]
  · obtain ⟨c, rest, rfl⟩ := List.exists_cons_of_ne_nil hne
    simpa [isAbsolute] using Ne.symm (not_or.mp (mt List.mem_cons.mpr hslash)).1

/-- Names that are joined one after the other are added in their order. The start may be any path,
the empty one as well. -/
theorem segments_foldl_join {parts : List String}
    (h : ∀ part ∈ parts, segments part = [part] ∧ isAbsolute part = false) (start : String) :
    segments (parts.foldl join start) = segments start ++ parts := by
  -- The induction is on what is joined, so the start has to vary with it.
  induction parts generalizing start with
  | nil => simp
  | cons part parts ih =>
      obtain ⟨hpart, habsolute⟩ := h part List.mem_cons_self
      rw [List.foldl_cons, ih (fun p hp => h p (List.mem_cons_of_mem part hp)),
        segments_join start part habsolute, hpart, List.append_assoc, List.singleton_append]

/-- What is joined to an absolute path stays absolute, whatever it is. A part that is absolute
itself starts over, and is absolute too. -/
theorem isAbsolute_foldl_join {parts : List String} {start : String}
    (h : isAbsolute start = true) : isAbsolute (parts.foldl join start) = true := by
  induction parts generalizing start with
  | nil => exact h
  | cons part parts ih =>
      have hne : start ≠ "" := by
        rintro rfl
        cases h
      refine ih ?_
      rw [isAbsolute_join start part hne, h, Bool.or_true]

/-! ### Places -/

/-- The place to which a name leads from another one: two dots lead back up. At the root they lead
nowhere, as in a file system. -/
def descend (place : List String) (name : String) : List String :=
  if name = ".." then place.dropLast else place ++ [name]

/-- The place to which a path leads from the place `cwd`, as long as no directory is a link. Two
paths with one place are the same file then. -/
def place (cwd : List String) (path : String) : List String :=
  (segments path).foldl descend (if isAbsolute path then [] else cwd)

/-- One place is neither the other nor below it, whichever is taken for the upper one. Removing
one leaves the other as it was. -/
def Apart (p q : List String) : Prop := ¬ p <+: q ∧ ¬ q <+: p

instance (p q : List String) : Decidable (Apart p q) :=
  inferInstanceAs (Decidable (¬ _ ∧ ¬ _))

/-- A plain name leads right below the directory, wherever that is. The directory may be relative,
and may have two dots in it. -/
theorem place_join (cwd : List String) (base : String) {name : String} (h : IsName name) :
    place cwd (join base name) = place cwd base ++ [name] := by
  have habsolute : isAbsolute (join base name) = isAbsolute base := by
    by_cases hbase : base = ""
    · subst hbase
      have hname : join "" name = name := by simp [join]
      rw [hname, h.not_isAbsolute]
      rfl
    · rw [isAbsolute_join base name hbase, h.not_isAbsolute, Bool.false_or]
  unfold place
  rw [habsolute, segments_join base name h.not_isAbsolute, h.segments_eq, List.foldl_append]
  simp [descend, h.2.2.1]

/-- Different names lead to different places, and neither holds the other. This is what keeps the
directories of two clusters apart. -/
theorem apart_concat {p : List String} {m n : String} (h : m ≠ n) : Apart (p ++ [m]) (p ++ [n]) := by
  simp [Apart, h, Ne.symm h]

/-! ### The directory of a file -/

/-- The path ends in a name, as the path of a file does. A slash or dots at the end lead to a
directory. -/
def EndsInName (path : String) : Prop :=
  IsName (String.ofList (Text.afterLast '/' path.toList))

instance (path : String) : Decidable (EndsInName path) :=
  inferInstanceAs (Decidable (IsName _))

/-- A path with directories is cut at its last slash. In front of it there may be nothing, and
then the directory is the root. -/
theorem EndsInName.exists_cut {path : String} (h : EndsInName path) (hslash : '/' ∈ path.toList) :
    ∃ front name, IsName name ∧ path.toList = front ++ '/' :: name.toList := by
  -- The last slash is the first of the path read backwards.
  obtain ⟨back, front, hback, hnotMem⟩ :=
    List.eq_append_cons_of_mem (List.mem_reverse.mpr hslash)
  have hlast : Text.afterLast '/' path.toList = back.reverse := by
    simp [Text.afterLast, Text.cutLast, hback, Text.cutFirst_append hnotMem]
  rw [EndsInName, hlast] at h
  refine ⟨front.reverse, _, h, ?_⟩
  rw [← List.reverse_reverse path.toList, hback]
  simp

/-- A path without slashes is itself the name. This is the case in which the path has no
directory. -/
theorem EndsInName.isName {path : String} (h : EndsInName path) (hslash : '/' ∉ path.toList) :
    IsName path := by
  have hlast : Text.afterLast '/' path.toList = path.toList := by
    simp [Text.afterLast, Text.cutLast, Text.cutFirst_eq_none (mt List.mem_reverse.mp hslash)]
  rw [EndsInName, hlast] at h
  simpa using h

/-- Trimming takes no names away. It removes slashes and single dots at the end of the path, which
is where the reversed list begins. -/
theorem names_trimmedBack (back : List Char) :
    names (trimmedBack back).reverse = names back.reverse := by
  fun_induction trimmedBack back with
  | case1 c rest ih =>
      simp only [List.reverse_cons] at ih ⊢
      rw [ih, names_append_slash, names_nil, List.append_nil]
  | case2 rest ih =>
      rw [ih, List.reverse_cons, names_append_slash, List.reverse_cons, List.reverse_cons,
        List.append_assoc, List.singleton_append, names_append_slash, names_nil, names_dot]
  | case3 => rfl

/-- Trimming leaves the start of the path alone. The start is the end of the reversed list. -/
theorem getLast?_trimmedBack (back : List Char) :
    (trimmedBack back).getLast? = back.getLast? := by
  fun_induction trimmedBack back with
  | case1 c rest ih => simpa using ih
  | case2 rest ih => simpa using ih
  | case3 => rfl

/-- A trimmed path that ends in a slash is the root. One slash that stands alone is not trimmed. -/
theorem trimmedBack_of_head? {back : List Char} (h : (trimmedBack back).head? = some '/') :
    trimmedBack back = ['/'] := by
  fun_induction trimmedBack back with
  | case1 c rest ih => exact ih h
  | case2 rest ih => exact ih h
  | case3 path hslash _ =>
      cases path with
      | nil => simp at h
      | cons c rest =>
          obtain rfl : c = '/' := by simpa using h
          cases rest with
          | nil => rfl
          | cons d rest => exact absurd rfl (hslash d rest)

/-- A trimmed path without names that starts at the root is the root. So the directory of a file
right below the root keeps its slash. -/
theorem trimmedBack_of_names_eq_nil {back : List Char} (hnames : names back.reverse = [])
    (hroot : back.getLast? = some '/') : trimmedBack back = ['/'] := by
  refine trimmedBack_of_head? ?_
  rw [← names_trimmedBack] at hnames
  rw [← getLast?_trimmedBack] at hroot
  -- The last part would be a name, were it not empty.
  fun_induction trimmedBack back with
  | case1 c rest ih => exact ih hnames hroot
  | case2 rest ih => exact ih hnames hroot
  | case3 path _ hdot =>
      have hpath : path ≠ [] := by
        rintro rfl
        simp at hroot
      obtain ⟨c, rest, rfl⟩ := List.exists_cons_of_ne_nil hpath
      -- What stands behind the last slash is a part without slashes, and neither empty nor a dot.
      by_contra hc
      replace hc : c ≠ '/' := by simpa using hc
      have hmem : '/' ∈ c :: rest := List.mem_of_getLast? hroot
      obtain ⟨part, tail, hpart, hnotMem⟩ := List.eq_append_cons_of_mem hmem
      rw [hpart] at hnames
      have hne : part ≠ [] := by
        rintro rfl
        exact hc (List.cons.inj hpart).1
      have hnotDot : part.reverse ≠ ['.'] := by
        intro hrev
        obtain rfl : part = ['.'] := by simpa using congrArg List.reverse hrev
        obtain ⟨rfl, rfl⟩ := List.cons.inj hpart
        exact hdot tail rfl
      simp [names_of_notMem (mt List.mem_reverse.mp hnotMem) (by simpa using hne) hnotDot] at hnames

/-- Whether a path starts with two slashes and no more, which is kept as a root of its own. -/
def startsDoubled (path : List Char) : Bool :=
  (Text.dropLead? ['/', '/'] path).any (·.head? ≠ some '/')

/-- What follows a name does not change how the path starts. Without a name in front it may, as a
third slash can come. -/
theorem startsDoubled_append {front : List Char} (h : names front ≠ []) (rest : List Char) :
    startsDoubled (front ++ rest) = startsDoubled front := by
  -- The start is decided by three characters, and a name in them rules out two slashes alone.
  match front with
  | [] => simp at h
  | [a] =>
      have ha : '/' ≠ a := by
        rintro rfl
        simp at h
      simp [startsDoubled, Text.dropLead?, ha]
  | [a, b] =>
      by_cases ha : '/' = a
      · have hb : '/' ≠ b := by
          rintro rfl
          simp [← ha] at h
        simp [startsDoubled, Text.dropLead?, hb]
      · simp [startsDoubled, Text.dropLead?, ha]
  | a :: b :: c :: tail =>
      simp only [startsDoubled, Text.dropLead?, List.cons_append]
      split
      · split <;> rfl
      · rfl

/-- Trimming takes away from the end only, so a path with names starts as it did before. The name
ends the trimming before the start is reached. -/
theorem startsDoubled_trimmedBack {back : List Char} (h : names back.reverse ≠ []) :
    startsDoubled (trimmedBack back).reverse = startsDoubled back.reverse := by
  fun_induction trimmedBack back with
  | case1 c rest ih =>
      simp only [List.reverse_cons] at ih h ⊢
      rw [names_append_slash, names_nil, List.append_nil] at h
      rw [ih h, startsDoubled_append h]
  | case2 rest ih =>
      rw [List.reverse_cons] at h ⊢
      have hnames : names ('/' :: rest).reverse ≠ [] := by
        simpa [names_append_slash _ []] using h
      rw [ih hnames, startsDoubled_append hnames]
  | case3 => rfl

/-- Behind a name there is nothing to trim. So a trimmed path ends in a name, unless it has none. -/
theorem trimmedBack_of_isName {name : String} (h : IsName name) (rest : List Char) :
    trimmedBack (name.toList.reverse ++ rest) = name.toList.reverse ++ rest := by
  have hslash : '/' ∉ name.toList.reverse := mt List.mem_reverse.mp h.2.2.2
  have hdot : name.toList.reverse ≠ ['.'] := by
    intro hrev
    exact h.toList_ne_dot (by simpa using congrArg List.reverse hrev)
  obtain ⟨c, back, hback⟩ := List.exists_cons_of_ne_nil (List.reverse_ne_nil_iff.mpr h.toList_ne_nil)
  rw [hback, List.mem_cons, not_or] at hslash
  rw [hback] at hdot ⊢
  unfold trimmedBack
  -- Only a slash or a dot behind one would be trimmed, and the name ends in neither.
  split
  case h_1 heq => exact absurd (List.cons.inj heq).1.symm hslash.1
  case h_2 heq =>
    obtain ⟨rfl, htail⟩ := List.cons.inj heq
    cases back with
    | nil => exact absurd rfl hdot
    | cons d back =>
        obtain ⟨rfl, -⟩ := List.cons.inj htail
        exact absurd List.mem_cons_self hslash.2
  case h_3 => rfl

/-- The directory of a path with directories is what stands before the last slash. Slashes and
dots that end it are trimmed, but not a slash that is all of it. -/
theorem toList_parent {path name : String} {front : List Char} (h : IsName name)
    (hpath : path.toList = front ++ '/' :: name.toList) :
    (parent path).toList = (trimmedBack ('/' :: front.reverse)).reverse := by
  have hback : path.toList.reverse = name.toList.reverse ++ '/' :: front.reverse := by
    simp [hpath]
  have hne : name.toList.reverse ++ '/' :: front.reverse ≠ ['/'] := by
    intro heq
    have hlength := congrArg List.length heq
    have hname := List.length_pos_iff.mpr h.toList_ne_nil
    simp at hlength
    omega
  have hdrop : (name.toList.reverse ++ '/' :: front.reverse).dropWhile (· ≠ '/')
      = '/' :: front.reverse := by
    rw [List.dropWhile_append_of_pos (fun c hc => by simpa using h.ne_slash (List.mem_reverse.mp hc))]
    simp
  unfold parent
  simp only [hback, trimmedBack_of_isName h, if_neg hne, hdrop]
  simp

/-- A bare name has no directory in it. The empty path is given instead, and it has no absolute
form. -/
theorem IsName.parent_eq {name : String} (h : IsName name) : parent name = "" := by
  have hback : trimmedBack name.toList.reverse = name.toList.reverse := by
    simpa using trimmedBack_of_isName h []
  have hne : name.toList.reverse ≠ ['/'] := by
    intro heq
    exact h.2.2.2 (List.mem_reverse.mp (heq ▸ List.mem_singleton_self '/'))
  have hdrop : name.toList.reverse.dropWhile (· ≠ '/') = [] :=
    List.dropWhile_eq_nil_iff.mpr fun c hc => by
      simpa using h.ne_slash (List.mem_reverse.mp hc)
  unfold parent
  simp only [hback, if_neg hne, hdrop]
  simp [trimmedBack]

section Parent

variable {path name : String} {front : List Char} (h : IsName name)
  (hpath : path.toList = front ++ '/' :: name.toList)

include h hpath

/-- The directory of a path with directories has all names but the last. It is assumed that the
path ends in a name. -/
theorem segments_parent : segments (parent path) = (segments path).dropLast := by
  rw [segments_eq, segments_eq, toList_parent h hpath, names_trimmedBack, hpath,
    names_append_slash, names_of_notMem h.2.2.2 h.toList_ne_nil h.toList_ne_dot]
  simp

/-- The directory of a path with directories starts where the path starts. Without directories the
path is relative and its directory is empty, which is the excluded case. -/
theorem isAbsolute_parent : isAbsolute (parent path) = isAbsolute path := by
  unfold isAbsolute
  rw [toList_parent h hpath, List.head?_reverse, getLast?_trimmedBack, ← List.head?_reverse, hpath]
  cases front <;> simp

/-- A path with directories has a directory that is not empty, so that it has an absolute form. A
bare name does not, and that is the difference between the two. -/
theorem parent_ne_empty : parent path ≠ "" := by
  intro hempty
  have hback := getLast?_trimmedBack ('/' :: front.reverse)
  have htrimmed := toList_parent h hpath
  rw [hempty, String.toList_empty, eq_comm, List.reverse_eq_nil_iff] at htrimmed
  rw [htrimmed, List.getLast?_nil, eq_comm, List.getLast?_eq_none_iff] at hback
  cases hback

/-- Only the root ends in a slash. So making the directory absolute adds no slash at its end. -/
theorem getLast?_parent (hroot : parent path ≠ "/") :
    (parent path).toList.getLast? ≠ some '/' := by
  intro hlast
  rw [toList_parent h hpath, List.getLast?_reverse] at hlast
  refine hroot (String.toList_inj.mp ?_)
  rw [toList_parent h hpath, trimmedBack_of_head? hlast]
  rfl

/-- Below the root, the directory of an absolute path has names, and it starts as the path
does. -/
theorem startsDoubled_parent (habsolute : isAbsolute path = true) (hroot : parent path ≠ "/") :
    startsDoubled (parent path).toList = startsDoubled path.toList ∧ segments (parent path) ≠ [] := by
  have hparent := toList_parent h hpath
  have hstart : ('/' :: front.reverse).getLast? = some '/' := by
    rw [← getLast?_trimmedBack, ← List.head?_reverse, ← hparent]
    simpa [isAbsolute] using (isAbsolute_parent h hpath).trans habsolute
  have hnames : names ('/' :: front.reverse).reverse ≠ [] := by
    intro hnil
    refine hroot (String.toList_inj.mp ?_)
    rw [hparent, trimmedBack_of_names_eq_nil hnil hstart]
    rfl
  have hsplit : front ++ '/' :: name.toList = ('/' :: front.reverse).reverse ++ name.toList := by
    simp
  constructor
  · rw [hparent, startsDoubled_trimmedBack hnames, hpath, hsplit, startsDoubled_append hnames]
  · rw [segments_eq, hparent, names_trimmedBack]
    simpa using hnames

end Parent

/-- The directory that holds what a path names, seen from the directory `cwd`: all names of
the path but the last. A second slash at the start stays when a directory follows it. -/
def directory (cwd path : String) : String :=
  let above := (segments path).dropLast
  above.foldl join <|
    if isAbsolute path then if startsDoubled path.toList ∧ above ≠ [] then "//" else "/" else cwd

/-- The absolute form of the directory in a file's path. There is one whenever the path has a
slash. -/
theorem absolute?_parent {cwd path : String} (h : EndsInName path) (hslash : '/' ∈ path.toList) :
    absolute? cwd (parent path) = some (directory cwd path) := by
  obtain ⟨front, name, hname, hpath⟩ := h.exists_cut hslash
  have habsolute := isAbsolute_parent hname hpath
  unfold absolute? directory
  rw [if_neg (parent_ne_empty hname hpath)]
  simp only [← segments_parent hname hpath, habsolute]
  -- The root keeps its slash, and any other directory is read without one at its end.
  by_cases hroot : parent path = "/"
  · have hpathRoot : isAbsolute path = true := by
      rw [← habsolute, hroot]
      rfl
    have hsegments : segments "/" = [] := by decide
    simp only [hroot, hpathRoot, hsegments, List.foldl_nil, ne_eq, not_true_eq_false, and_false,
      if_true, if_false]
    rfl
  · rw [if_neg (getLast?_parent hname hpath hroot)]
    cases hpathRoot : isAbsolute path with
    | false => rfl
    | true =>
        obtain ⟨hstart, hsegments⟩ := startsDoubled_parent hname hpath hpathRoot hroot
        simp only [← hstart, hsegments, ne_eq, not_false_eq_true, and_true, if_true]
        rfl

/-- The directory of a path is an absolute path, when the working directory is one. An absolute
path needs no working directory. -/
theorem isAbsolute_directory {cwd : String} (hcwd : isAbsolute cwd = true) (path : String) :
    isAbsolute (directory cwd path) = true := by
  refine isAbsolute_foldl_join ?_
  split
  · split <;> rfl
  · exact hcwd

/-- The directory of a path has the names of the path but the last, below the root or the
working directory. -/
theorem segments_directory (cwd path : String) :
    segments (directory cwd path)
      = (if isAbsolute path then [] else segments cwd) ++ (segments path).dropLast := by
  have hstart : segments (if isAbsolute path then
      if startsDoubled path.toList ∧ (segments path).dropLast ≠ [] then "//" else "/" else cwd)
      = if isAbsolute path then [] else segments cwd := by
    split
    · split <;> decide
    · rfl
  rw [directory, segments_foldl_join (fun part h => mem_segments (List.dropLast_subset _ h)), hstart]

end Moorage.Path
