import Moorage.Image.Name

/-!
# `Moorage.Proofs.Image.Name`: canonical names of images

A name says which version of an image it means in its last part, the one behind the last slash: a
tag behind a colon, or a digest behind an at sign. A colon before that belongs to the address of a
registry. A name that says neither is given the tag `latest`.

`IsLastPart` splits a name at its last slash, without the function that does it, and `IsTagged`
says what is looked for in that part. The laws are for all texts. Nothing is assumed of what a name
looks like, so an empty name and one that ends in a slash have their canonical form, too.

* `isPinned_iff`: what the last part of a name has to say.
* `canonical_eq_self_iff`, `isTagged_canonical`, `canonical_canonical`: a name that has a version
  keeps it, every other one gets one, and none gets a second.
* `canonical_join`: what stands before a slash does not matter.
-/

set_option autoImplicit false

namespace Moorage.Image

/-- The part is what stands behind the last slash of the name, or all of it. A registry with a
port has a colon too, but in front of that slash. -/
def IsLastPart (name part : List Char) : Prop :=
  '/' ∉ part ∧ (name = part ∨ ∃ lead, name = lead ++ '/' :: part)

/-- The last part of the name has a tag or a digest in it. This is told without the function that
the program looks with. -/
def IsTagged (name : String) : Prop :=
  ∃ part, IsLastPart name.toList part ∧ (':' ∈ part ∨ '@' ∈ part)

/-! ### The last part -/

variable {name part : List Char}

/-- The part that a name is split into is the one that the function finds. So there is only one. -/
theorem IsLastPart.afterLast_eq (h : IsLastPart name part) : Text.afterLast '/' name = part := by
  obtain ⟨hslash, rfl | ⟨lead, rfl⟩⟩ := h
  · rw [Text.afterLast, Text.cutLast_eq_none hslash]
  · rw [Text.afterLast, Text.cutLast_append hslash]

/-- Every name has a last part. It may be empty, after a slash at the end. -/
theorem isLastPart_afterLast (name : List Char) : IsLastPart name (Text.afterLast '/' name) := by
  by_cases hslash : '/' ∈ name
  · -- The last slash is the first one from the end.
    obtain ⟨back, front, hreverse, hback⟩ :=
      List.eq_append_cons_of_mem (List.mem_reverse.mpr hslash)
    have hname : name = front.reverse ++ '/' :: back.reverse := by
      rw [← List.reverse_reverse name, hreverse]
      simp
    have hlast : IsLastPart name back.reverse :=
      ⟨mt List.mem_reverse.mp hback, Or.inr ⟨front.reverse, hname⟩⟩
    rwa [hlast.afterLast_eq]
  · have hlast : IsLastPart name name := ⟨hslash, Or.inl rfl⟩
    rwa [hlast.afterLast_eq]

/-- A text behind a slash has the last part of the whole. What stands in front may hold colons and
slashes as it likes. -/
theorem IsLastPart.join (h : IsLastPart name part) (registry : List Char) :
    IsLastPart (registry ++ '/' :: name) part := by
  obtain ⟨hslash, rfl | ⟨lead, rfl⟩⟩ := h
  · exact ⟨hslash, Or.inr ⟨registry, rfl⟩⟩
  · exact ⟨hslash, Or.inr ⟨registry ++ '/' :: lead, by simp⟩⟩

/-- What is appended to a name is appended to its last part. It must not bring a slash with it,
and a tag does not. -/
theorem IsLastPart.append (h : IsLastPart name part) {tag : List Char} (htag : '/' ∉ tag) :
    IsLastPart (name ++ tag) (part ++ tag) := by
  obtain ⟨hslash, hname⟩ := h
  refine ⟨fun hmem => (List.mem_append.mp hmem).elim hslash htag, ?_⟩
  rcases hname with rfl | ⟨lead, rfl⟩
  · exact Or.inl rfl
  · exact Or.inr ⟨lead, by simp⟩

/-! ### Canonical names -/

/-- A version is a matter of two characters in the last part, wherever they stand in it. A name
that ends in a colon counts as having one. -/
theorem isTagged_iff {name : String} :
    IsTagged name ↔ ':' ∈ Text.afterLast '/' name.toList ∨ '@' ∈ Text.afterLast '/' name.toList := by
  constructor
  · rintro ⟨part, hlast, htag⟩
    rwa [hlast.afterLast_eq]
  · exact fun htag => ⟨_, isLastPart_afterLast name.toList, htag⟩

/-- The function looks for what `IsTagged` says. From here on only the specification is used. -/
theorem isPinned_iff {name : String} : isPinned name = true ↔ IsTagged name := by
  rw [isTagged_iff, isPinned, List.any_eq_true]
  constructor
  · rintro ⟨c, hc, hsep⟩
    simp only [Bool.or_eq_true, decide_eq_true_eq] at hsep
    rcases hsep with rfl | rfl
    · exact Or.inl hc
    · exact Or.inr hc
  · rintro (hc | hc)
    · exact ⟨':', hc, rfl⟩
    · exact ⟨'@', hc, rfl⟩

/-- A name with a version stays as it is. -/
theorem canonical_of_isTagged {name : String} (h : IsTagged name) : canonical name = name :=
  if_pos (isPinned_iff.mpr h)

/-- A name without a version is given one behind it. -/
theorem canonical_of_not_isTagged {name : String} (h : ¬IsTagged name) :
    canonical name = name ++ ":latest" :=
  if_neg (mt isPinned_iff.mp h)

/-- A canonical name begins with the name. So two names that differ in more than the tag stay
apart. -/
theorem prefix_canonical (name : String) : name.toList <+: (canonical name).toList := by
  by_cases h : IsTagged name
  · simp only [canonical_of_isTagged h, List.prefix_rfl]
  · rw [canonical_of_not_isTagged h, String.toList_append]
    exact List.prefix_append _ _

/-- A name is its own canonical form exactly if it has a tag. Otherwise the canonical form is
longer. -/
theorem canonical_eq_self_iff {name : String} : canonical name = name ↔ IsTagged name := by
  refine ⟨fun heq => ?_, canonical_of_isTagged⟩
  by_cases h : IsTagged name
  · exact h
  · rw [canonical_of_not_isTagged h] at heq
    have hlength := congrArg String.length heq
    simp at hlength

/-- Every canonical name has a tag. The one that was added has no slash, so it is in the last
part. -/
theorem isTagged_canonical (name : String) : IsTagged (canonical name) := by
  by_cases h : IsTagged name
  · rwa [canonical_of_isTagged h]
  · rw [canonical_of_not_isTagged h]
    refine ⟨Text.afterLast '/' name.toList ++ ":latest".toList, ?_,
      Or.inl (List.mem_append_right _ (by decide))⟩
    rw [String.toList_append]
    exact (isLastPart_afterLast name.toList).append (by decide)

/-- The canonical form has a version, so it is its own canonical form. -/
theorem canonical_canonical (name : String) : canonical (canonical name) = canonical name :=
  canonical_of_isTagged (isTagged_canonical name)

/-- The tag of a name is that of what stands behind one of its slashes, so the port of a registry
is none. -/
theorem canonical_join (registry path : String) :
    canonical (registry ++ "/" ++ path) = registry ++ "/" ++ canonical path := by
  have hlast : Text.afterLast '/' (registry ++ "/" ++ path).toList
      = Text.afterLast '/' path.toList := by
    have htext : (registry ++ "/" ++ path).toList = registry.toList ++ '/' :: path.toList := by
      simp [String.toList_append]
    rw [htext]
    exact ((isLastPart_afterLast path.toList).join registry.toList).afterLast_eq
  have hiff : IsTagged (registry ++ "/" ++ path) ↔ IsTagged path := by
    rw [isTagged_iff, isTagged_iff, hlast]
  by_cases h : IsTagged path
  · rw [canonical_of_isTagged h, canonical_of_isTagged (hiff.mpr h)]
  · rw [canonical_of_not_isTagged h, canonical_of_not_isTagged (mt hiff.mp h), String.append_assoc]

example : canonical "localhost:5000/app" = "localhost:5000/app:latest" := by decide

end Moorage.Image
