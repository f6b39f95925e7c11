/-!
# `Moorage.Text.Cut`: cutting text at a separator

References, port ranges, addresses and image names are all read by cutting a
text at one character. The cuts work on lists of characters, so that a law
about them is an induction on the list; the `String` forms only wrap them.

* `cutFirst`, `cutLast`: the two parts around the first or the last separator.
* `cutAll`: every part between separators, never an empty list of parts.
* `dropLead?`: what follows a given beginning.
-/

set_option autoImplicit false

namespace Moorage.Text

/-- The parts before and after the first `sep`. -/
def cutFirst (sep : Char) : List Char → Option (List Char × List Char)
  | [] => none
  | c :: rest =>
      if c = sep then some ([], rest)
      else (cutFirst sep rest).map fun parts => (c :: parts.1, parts.2)

/-- The first separator of a text is the one that none stands before. -/
theorem cutFirst_append {sep : Char} {before : List Char} (h : sep ∉ before) (after : List Char) :
    cutFirst sep (before ++ sep :: after) = some (before, after) := by
  induction before with
  | nil => simp [cutFirst]
  | cons c before ih =>
      obtain ⟨hc, hrest⟩ := not_or.mp (mt List.mem_cons.mpr h)
      simp [cutFirst, Ne.symm hc, ih hrest]

/-- A text without separators is not cut. -/
theorem cutFirst_eq_none {sep : Char} {text : List Char} (h : sep ∉ text) :
    cutFirst sep text = none := by
  induction text with
  | nil => rfl
  | cons c rest ih =>
      obtain ⟨hc, hrest⟩ := not_or.mp (mt List.mem_cons.mpr h)
      simp [cutFirst, Ne.symm hc, ih hrest]

/-- The parts make the text again, and the first of them has no separator in it. -/
theorem of_cutFirst_eq_some {sep : Char} {text before after : List Char}
    (h : cutFirst sep text = some (before, after)) :
    text = before ++ sep :: after ∧ sep ∉ before := by
  induction text generalizing before with
  | nil => cases h
  | cons c rest ih =>
      unfold cutFirst at h
      split at h
      case isTrue hc =>
        cases h
        exact ⟨by rw [hc, List.nil_append], List.not_mem_nil⟩
      case isFalse hc =>
        obtain ⟨⟨front, tail⟩, hrest, heq⟩ := Option.map_eq_some_iff.mp h
        cases heq
        obtain ⟨rfl, hfront⟩ := ih hrest
        exact ⟨rfl, List.not_mem_cons_of_ne_of_not_mem (Ne.symm hc) hfront⟩

/-- The parts before and after the last `sep`. -/
def cutLast (sep : Char) (text : List Char) : Option (List Char × List Char) :=
  (cutFirst sep text.reverse).map fun parts => (parts.2.reverse, parts.1.reverse)

/-- The last separator of a text is the one that none stands behind. -/
theorem cutLast_append {sep : Char} {after : List Char} (h : sep ∉ after) (before : List Char) :
    cutLast sep (before ++ sep :: after) = some (before, after) := by
  have hreverse : (before ++ sep :: after).reverse = after.reverse ++ sep :: before.reverse := by
    simp
  rw [cutLast, hreverse, cutFirst_append (mt List.mem_reverse.mp h)]
  simp

/-- The parts make the text again, and the last of them has no separator in it. -/
theorem of_cutLast_eq_some {sep : Char} {text before after : List Char}
    (h : cutLast sep text = some (before, after)) :
    text = before ++ sep :: after ∧ sep ∉ after := by
  obtain ⟨⟨back, front⟩, hcut, heq⟩ := Option.map_eq_some_iff.mp h
  cases heq
  obtain ⟨htext, hback⟩ := of_cutFirst_eq_some hcut
  refine ⟨?_, mt List.mem_reverse.mp hback⟩
  rw [← List.reverse_reverse text, htext]
  simp

/-- A text without separators has no last one. -/
theorem cutLast_eq_none {sep : Char} {text : List Char} (h : sep ∉ text) :
    cutLast sep text = none := by
  rw [cutLast, cutFirst_eq_none (mt List.mem_reverse.mp h)]
  rfl

/-- Every part between two separators, the ends of the text included. A text
without separators is its own only part. -/
def cutAll (sep : Char) : List Char → List (List Char)
  | [] => [[]]
  | c :: rest =>
      if c = sep then [] :: cutAll sep rest
      else
        match cutAll sep rest with
        | [] => [[c]]
        | part :: parts => (c :: part) :: parts

theorem cutAll_ne_nil (sep : Char) (text : List Char) : cutAll sep text ≠ [] := by
  cases text with
  | nil => simp [cutAll]
  | cons c rest =>
      unfold cutAll
      split
      · simp
      · split <;> simp

/-- The parts around a separator are cut on their own. -/
theorem cutAll_append (sep : Char) (before after : List Char) :
    cutAll sep (before ++ sep :: after) = cutAll sep before ++ cutAll sep after := by
  induction before with
  | nil => simp [cutAll]
  | cons c before ih =>
      by_cases hc : c = sep
      · simp [cutAll, hc, ih]
      · -- The character goes to the first part of the rest, and the rest has one.
        obtain ⟨part, parts, hparts⟩ := List.exists_cons_of_ne_nil (cutAll_ne_nil sep before)
        simp [cutAll, hc, ih, hparts]

/-- No part has the separator in it. -/
theorem notMem_of_mem_cutAll {sep : Char} {text part : List Char} (h : part ∈ cutAll sep text) :
    sep ∉ part := by
  induction text generalizing part with
  | nil => simp_all [cutAll]
  | cons c rest ih =>
      obtain ⟨first, parts, hparts⟩ := List.exists_cons_of_ne_nil (cutAll_ne_nil sep rest)
      rw [hparts] at ih
      by_cases hc : c = sep
      · simp only [cutAll, hc, if_true, hparts, List.mem_cons] at h
        rcases h with rfl | h
        · simp
        · exact ih (List.mem_cons.mpr h)
      · simp only [cutAll, hc, if_false, hparts, List.mem_cons] at h
        rcases h with rfl | h
        · simpa [Ne.symm hc] using ih List.mem_cons_self
        · exact ih (List.mem_cons_of_mem first h)

/-- A text without separators is its own only part. -/
theorem cutAll_of_notMem {sep : Char} {text : List Char} (h : sep ∉ text) :
    cutAll sep text = [text] := by
  induction text with
  | nil => rfl
  | cons c rest ih =>
      obtain ⟨hc, hrest⟩ := not_or.mp (mt List.mem_cons.mpr h)
      simp [cutAll, Ne.symm hc, ih hrest]

/-- The parts with the separator between them make the text again. -/
theorem intercalate_cutAll (sep : Char) (text : List Char) :
    [sep].intercalate (cutAll sep text) = text := by
  induction text with
  | nil => rfl
  | cons c rest ih =>
      obtain ⟨part, parts, hparts⟩ := List.exists_cons_of_ne_nil (cutAll_ne_nil sep rest)
      rw [hparts] at ih
      by_cases hc : c = sep
      · simp [cutAll, hc, hparts, ih]
      · -- The character goes to the first part, the only one or not.
        cases parts with
        | nil => simp_all [cutAll]
        | cons next parts => simp_all [cutAll]

/-- What follows `lead`, when the text begins with it. -/
def dropLead? : (lead text : List Char) → Option (List Char)
  | [], text => some text
  | _ :: _, [] => none
  | l :: lead, c :: text => if l = c then dropLead? lead text else none

/-- A text begins with what can be dropped from its beginning. -/
theorem dropLead?_eq_some {lead text rest : List Char} :
    dropLead? lead text = some rest ↔ text = lead ++ rest := by
  fun_induction dropLead? lead text with
  | case1 text => simp
  | case2 => simp
  | case3 l lead text ih => simpa using ih
  | case4 l lead c text hne => simpa using fun h : c = l => absurd h.symm hne

/-- The parts before and after the first occurrence of `mark`. -/
def cutAt (mark : List Char) : List Char → Option (List Char × List Char)
  | [] => if mark.isEmpty then some ([], []) else none
  | c :: rest =>
      match dropLead? mark (c :: rest) with
      | some after => some ([], after)
      | none => (cutAt mark rest).map fun parts => (c :: parts.1, parts.2)

/-- The text is cut at the first mark, if no part of the mark is the beginning of another one:
its first character does not come again in it. -/
theorem cutAt_append {c : Char} {mark before : List Char} (hmark : c ∉ mark)
    (hbefore : ¬ c :: mark <:+: before) (after : List Char) :
    cutAt (c :: mark) (before ++ (c :: mark ++ after)) = some (before, after) := by
  induction before with
  | nil =>
      have hlead : dropLead? (c :: mark) (c :: mark ++ after) = some after :=
        dropLead?_eq_some.mpr rfl
      simp only [List.nil_append, List.cons_append] at hlead ⊢
      simp [cutAt, hlead]
  | cons d before ih =>
      have hrest : ¬ c :: mark <:+: before := fun h => hbefore (h.trans (List.suffix_cons d _).isInfix)
      have hlead : dropLead? (c :: mark) (d :: (before ++ (c :: mark ++ after))) = none := by
        rw [Option.eq_none_iff_forall_ne_some]
        intro rest h
        have heq : (d :: before) ++ (c :: mark ++ after) = c :: mark ++ rest :=
          dropLead?_eq_some.mp h
        -- A mark at the beginning lies within what comes before, or it reaches into the mark
        -- behind that.
        rcases List.append_eq_append_iff.mp heq with ⟨part, hpart, hover⟩ | ⟨part, hpart, -⟩
        · cases part with
          | nil =>
              rw [List.append_nil] at hpart
              exact hbefore (hpart ▸ List.infix_rfl)
          | cons e part =>
              obtain ⟨rfl, -⟩ := List.cons.inj (hover : c :: (mark ++ after) = e :: (part ++ rest))
              obtain ⟨-, hmid⟩ := List.cons.inj (hpart : c :: mark = d :: (before ++ c :: part))
              exact hmark (hmid ▸ List.mem_append_right _ List.mem_cons_self)
        · exact hbefore (hpart ▸ (List.prefix_append _ _).isInfix)
      show (match dropLead? (c :: mark) (d :: (before ++ (c :: mark ++ after))) with
        | some after => some ([], after)
        | none => (cutAt (c :: mark) (before ++ (c :: mark ++ after))).map
            fun parts => (d :: parts.1, parts.2)) = some (d :: before, after)
      rw [hlead, ih hrest]
      rfl

/-- The parts make the text again, and the first of them has no mark in it. -/
theorem of_cutAt_eq_some {c : Char} {mark text before after : List Char}
    (h : cutAt (c :: mark) text = some (before, after)) :
    text = before ++ (c :: mark ++ after) ∧ ¬ c :: mark <:+: before := by
  induction text generalizing before with
  | nil => cases h
  | cons d rest ih =>
      unfold cutAt at h
      split at h
      case h_1 tail hlead =>
        cases h
        have htext : d :: rest = c :: mark ++ after := dropLead?_eq_some.mp hlead
        exact ⟨htext, by simp⟩
      case h_2 hlead =>
        obtain ⟨⟨front, tail⟩, hrest, heq⟩ := Option.map_eq_some_iff.mp h
        cases heq
        obtain ⟨rfl, hfront⟩ := ih hrest
        refine ⟨rfl, fun hinfix => ?_⟩
        -- A mark at the beginning would have been found there.
        rcases List.infix_cons_iff.mp hinfix with ⟨behind, hprefix⟩ | hinfix
        · have hdrop : dropLead? (c :: mark) (d :: (front ++ (c :: mark ++ tail)))
              = some (behind ++ (c :: mark ++ tail)) := by
            rw [dropLead?_eq_some, ← List.cons_append, ← hprefix, List.append_assoc]
          rw [hdrop] at hlead
          cases hlead
        · exact hfront hinfix

/-- The text up to the first `sep`, or all of it. -/
def upTo (sep : Char) (text : List Char) : List Char :=
  text.takeWhile (· ≠ sep)

/-- A beginning without separators is part of it. -/
theorem upTo_append_of_notMem {sep : Char} {lead : List Char} (h : sep ∉ lead)
    (text : List Char) : upTo sep (lead ++ text) = lead ++ upTo sep text := by
  refine List.takeWhile_append_of_pos fun c hc => ?_
  exact decide_eq_true fun heq => h (heq ▸ hc)

/-- The first separator ends it. -/
theorem upTo_append {sep : Char} {before : List Char} (h : sep ∉ before) (after : List Char) :
    upTo sep (before ++ sep :: after) = before := by
  rw [upTo_append_of_notMem h]
  simp [upTo]

/-- A text without separators goes on to its end. -/
theorem upTo_of_notMem {sep : Char} {text : List Char} (h : sep ∉ text) : upTo sep text = text := by
  simpa [upTo] using upTo_append_of_notMem h []

/-- It has no separator in it. -/
theorem notMem_upTo (sep : Char) (text : List Char) : sep ∉ upTo sep text := by
  intro hmem
  simpa using List.all_eq_true.mp List.all_takeWhile sep hmem

/-- Nothing follows it, or the separator does. -/
theorem drop_upTo (sep : Char) (text : List Char) :
    text.drop (upTo sep text).length = [] ∨
      ∃ after, text.drop (upTo sep text).length = sep :: after := by
  induction text with
  | nil => exact Or.inl rfl
  | cons c rest ih =>
      by_cases hc : c = sep
      · simp [upTo, hc]
      · have hcons : upTo sep (c :: rest) = c :: upTo sep rest := by simp [upTo, hc]
        rw [hcons]
        exact ih

/-- The text after the last `sep`, or all of it. -/
def afterLast (sep : Char) (text : List Char) : List Char :=
  match cutLast sep text with
  | some (_, after) => after
  | none => text

/-- Whether `needle` occurs in `text`. -/
def occursIn (needle text : String) : Bool :=
  (cutAt needle.toList text.toList).isSome

/-- The lines of a text: a line ends at a line feed, which may follow a
carriage return, and an empty last line does not count. -/
def lines (text : String) : List String :=
  let parts := cutAll '\n' text.toList
  let parts := if parts.getLast? = some [] then parts.dropLast else parts
  parts.map fun line =>
    String.ofList (if line.getLast? = some '\r' then line.dropLast else line)

end Moorage.Text
