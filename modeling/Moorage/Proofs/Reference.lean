import Mathlib.Data.List.Basic
import Moorage.Error

/-!
# `Moorage.Proofs.Reference`: what the text of a reference tells

The text of a reference does not mark where the name ends and the module begins: the
network `a.b` outside of modules and the network `a` of the module `b` are both
`network.a.b`. The theorems say that nothing else is confused:

* `text_eq_iff`: two texts are the same when the types are and the names with their
  modules read the same.
* `text_injective`: references whose names have no dot are told apart by their texts,
  whatever their modules are called.

A reference without empty parts and without dots in them is plain, and can be read back:
`read_text`. Nothing else can be read: `parse_inverts_text`. Without its module the text reads as
the same type and name, if it is more than the word for a type: `read_of_text_append`.
-/

set_option autoImplicit false

namespace Moorage

namespace ResourceType

/-- No word for a type has a dot in it, so that the first dot of a text ends the type. -/
theorem dot_notMem_keyword (type : ResourceType) : '.' ∉ type.keyword.toList := by
  cases type <;> decide

/-- The marker of a module is no word for a type. A string that begins with it is never a
reference. -/
theorem keyword_ne_module (type : ResourceType) : type.keyword ≠ "module" := by
  cases type <;> decide

/-- Types are told apart by their words. A word is looked up in a table, and no two rows share
one. -/
theorem keyword_injective {a b : ResourceType} (h : a.keyword = b.keyword) : a = b := by
  cases a <;> cases b <;> first | rfl | exact absurd h (by decide)

/-- A type is found under its word, so that a text which begins with the word can be read back. -/
theorem ofKeyword?_keyword (type : ResourceType) : ofKeyword? type.keyword = some type := by
  cases type <;> rfl

end ResourceType

namespace Reference

/-- What follows the type in the text of a reference. Where the name ends in it is not marked if
there are dots in the name. -/
def path (r : Reference) : List Char :=
  match r.moduleName with
  | none => r.name.toList
  | some m => r.name.toList ++ '.' :: m.toList

/-- The text of a reference is the word for its type, a dot and the rest. -/
theorem toList_text (r : Reference) :
    r.text.toList = r.type.keyword.toList ++ '.' :: r.path := by
  unfold text path
  cases r.moduleName <;> simp

/-- The text of a reference has a dot in it. A mere word for a type is the text of none. -/
theorem dot_mem_text (r : Reference) : '.' ∈ r.text.toList := by
  rw [toList_text]
  exact List.mem_append_right _ List.mem_cons_self

/-- References have the same text exactly when their types are the same and what follows
is. -/
theorem text_eq_iff {r s : Reference} : r.text = s.text ↔ r.type = s.type ∧ r.path = s.path := by
  rw [← String.toList_inj, toList_text, toList_text]
  constructor
  · intro h
    -- The first dot of both texts is the one behind the type.
    have hcut := congrArg (Text.cutFirst '.') h
    rw [Text.cutFirst_append r.type.dot_notMem_keyword,
      Text.cutFirst_append s.type.dot_notMem_keyword] at hcut
    obtain ⟨htype, hpath⟩ := Prod.mk.inj (Option.some.inj hcut)
    exact ⟨ResourceType.keyword_injective (String.toList_inj.mp htype), hpath⟩
  · rintro ⟨htype, hpath⟩
    rw [htype, hpath]

/-- A name without dots ends at the first dot of what follows the type. Without a dot there is no
module. -/
theorem cutFirst_path {r : Reference} (h : '.' ∉ r.name.toList) :
    Text.cutFirst '.' r.path = r.moduleName.map fun m => (r.name.toList, m.toList) := by
  unfold path
  cases r.moduleName with
  | none => exact Text.cutFirst_eq_none h
  | some m => exact Text.cutFirst_append h m.toList

/-- References whose names have no dot and whose texts are the same are the same. Modules may have
any names, since a module is whatever follows the first dot behind the name. -/
theorem text_injective {r s : Reference} (hr : '.' ∉ r.name.toList) (hs : '.' ∉ s.name.toList)
    (h : r.text = s.text) : r = s := by
  obtain ⟨htype, hpath⟩ := text_eq_iff.mp h
  -- The first dot of what follows the type is the one between name and module, if any.
  have hcut := congrArg (Text.cutFirst '.') hpath
  rw [cutFirst_path hr, cutFirst_path hs] at hcut
  obtain ⟨type, name, moduleName⟩ := r
  obtain ⟨type', name', moduleName'⟩ := s
  cases moduleName with
  | none =>
      cases moduleName' with
      | none => simp_all [path, String.toList_inj]
      | some m => cases hcut
  | some m =>
      cases moduleName' with
      | none => cases hcut
      | some m' => simp_all [String.toList_inj]

/-! ### Reading -/

/-- The text can be a part of a reference: it is not empty and has no dot. It may have anything
else in it, blanks and slashes as well. -/
def IsPart (text : String) : Prop := text ≠ "" ∧ '.' ∉ text.toList

/-- The name and the module of the reference can be parts. These are the references that can be
written and read back. -/
def IsPlain (r : Reference) : Prop := IsPart r.name ∧ ∀ m, r.moduleName = some m → IsPart m

instance (text : String) : Decidable (IsPart text) := inferInstanceAs (Decidable (_ ∧ _))

instance (r : Reference) : Decidable r.IsPlain :=
  inferInstanceAs (Decidable (IsPart r.name ∧ ∀ m ∈ r.moduleName, IsPart m))

/-- The parts of a reference: two of them without a module and three with one. -/
def parts (r : Reference) : List (List Char) :=
  r.type.keyword.toList :: r.name.toList :: (r.moduleName.map String.toList).toList

/-- The text of a plain reference is cut into its parts, since every dot in it is one between
parts. -/
theorem cutAll_text {r : Reference} (h : r.IsPlain) : Text.cutAll '.' r.text.toList = r.parts := by
  obtain ⟨⟨-, hname⟩, hmodule⟩ := h
  rw [toList_text, Text.cutAll_append, Text.cutAll_of_notMem r.type.dot_notMem_keyword]
  unfold path parts
  cases hm : r.moduleName with
  | none => simp [Text.cutAll_of_notMem hname]
  | some m =>
      simp [Text.cutAll_append, Text.cutAll_of_notMem hname, Text.cutAll_of_notMem (hmodule m hm).2]

/-- A text that is cut into the parts of a plain reference is read as that. How many parts there
are says whether there is a module. -/
theorem read_of_cutAll {r : Reference} (h : r.IsPlain) {text : String}
    (htext : Text.cutAll '.' text.toList = r.parts) : read text = .ok r := by
  obtain ⟨⟨hname, -⟩, hmodule⟩ := h
  -- The parts make the reference: neither the name nor the module is empty, and the type is known.
  have hparts : ofParts r.type.keyword.toList r.name.toList (r.moduleName.map String.toList)
      = .ok r := by
    have hempty : r.name.toList.isEmpty = false := by simpa using hname
    have hmodule' : (r.moduleName.map String.toList).any List.isEmpty = false := by
      cases hm : r.moduleName with
      | none => rfl
      | some m => simpa using (hmodule m hm).1
    have hback : (r.moduleName.map String.toList).map String.ofList = r.moduleName := by
      cases r.moduleName <;> simp
    simp [ofParts, hempty, hmodule', ResourceType.ofKeyword?_keyword, hback]
  unfold read
  rw [htext, parts]
  cases hm : r.moduleName with
  | none =>
      rw [hm] at hparts
      exact hparts
  | some m =>
      rw [hm] at hparts
      exact hparts

/-- A plain reference can be read back from its text, with its type, name and module. -/
theorem read_text {r : Reference} (h : r.IsPlain) : read r.text = .ok r :=
  read_of_cutAll h (cutAll_text h)

/-- Parts that make a reference are its parts, and those of its name and module are not empty. The
type is one that there is. -/
theorem eq_of_ofParts {type name : List Char} {moduleName : Option (List Char)} {r : Reference}
    (h : ofParts type name moduleName = .ok r) :
    type :: name :: moduleName.toList = r.parts ∧
      r.name ≠ "" ∧ ∀ m, r.moduleName = some m → m ≠ "" := by
  unfold ofParts at h
  split at h
  case isTrue => cases h
  case isFalse hempty =>
    obtain ⟨hname, hmodule⟩ := not_or.mp (mt (Bool.or_eq_true _ _).mpr hempty)
    split at h
    case h_1 => cases h
    case h_2 t ht =>
      cases h
      -- The type was found by its word, so that the word is what stood in the text.
      have hkeyword : t.keyword = String.ofList type := by simpa using List.find?_some ht
      have hback : (moduleName.map String.ofList).map String.toList = moduleName := by
        cases moduleName <;> simp
      refine ⟨by simp [parts, hkeyword, hback], by simpa using hname, fun m hm => ?_⟩
      obtain ⟨chars, hchars, rfl⟩ := Option.map_eq_some_iff.mp hm
      rw [hchars] at hmodule
      simpa using hmodule

/-- A text that can be read is cut into the parts of a plain reference. Reading cuts at all dots,
so that no part has one. -/
theorem cutAll_of_read {text : String} {r : Reference} (h : read text = .ok r) :
    Text.cutAll '.' text.toList = r.parts ∧ r.IsPlain := by
  have hparts : Text.cutAll '.' text.toList = r.parts ∧
      r.name ≠ "" ∧ ∀ m, r.moduleName = some m → m ≠ "" := by
    unfold read at h
    split at h
    case h_1 type name hcut => rw [hcut]; exact eq_of_ofParts h
    case h_2 type name moduleName hcut => rw [hcut]; exact eq_of_ofParts h
    case h_3 => cases h
  obtain ⟨hcut, hname, hmodule⟩ := hparts
  -- What a text is cut into has no dots.
  have hdots : ∀ part ∈ r.parts, '.' ∉ part := fun part hpart =>
    Text.notMem_of_mem_cutAll (hcut ▸ hpart)
  refine ⟨hcut, ⟨hname, hdots _ (by simp [parts])⟩, fun m hm => ⟨hmodule m hm, hdots _ ?_⟩⟩
  simp [parts, hm]

/-- A text that can be read is the text of what it is read as: reading drops nothing. -/
theorem text_of_read {text : String} {r : Reference} (h : read text = .ok r) : r.text = text := by
  rw [← String.toList_inj, toList_text, ← Text.intercalate_cutAll '.' text.toList,
    (cutAll_of_read h).1]
  unfold parts path
  cases r.moduleName <;> simp

/-- A text is read as a reference exactly if it is the text of that reference, and the reference
is plain. Every other text is refused as no reference, with the text in the failure. -/
theorem parse_inverts_text (text : String) :
    (∀ r, parse text = .ok r ↔ r.text = text ∧ r.IsPlain) ∧
    ((∀ r : Reference, r.text = text → ¬ r.IsPlain) ↔
      ∃ fault, parse text = .error (.invalidReference text fault)) := by
  -- Reading and writing are inverse on plain references. What remains is to tell both outcomes by
  -- this.
  have hread : ∀ r, read text = .ok r ↔ r.text = text ∧ r.IsPlain := by
    intro r
    constructor
    · intro h
      exact ⟨text_of_read h, (cutAll_of_read h).2⟩
    · rintro ⟨rfl, hplain⟩
      exact read_text hplain
  unfold parse
  cases hresult : read text with
  | ok s =>
      rw [hresult] at hread
      obtain ⟨htext, hplain⟩ := (hread s).mp rfl
      refine ⟨fun r => ?_, ?_⟩
      · simpa [Except.mapError] using hread r
      · simpa [Except.mapError] using ⟨s, htext, hplain⟩
  | error fault =>
      rw [hresult] at hread
      refine ⟨fun r => ?_, ?_⟩
      · simpa [Except.mapError] using hread r
      · simpa [Except.mapError] using hread

/-- A text that can be read begins with the word for the type and a dot. -/
theorem cutFirst_of_read {text : String} {r : Reference} (h : read text = .ok r) :
    Text.cutFirst '.' text.toList = some (r.type.keyword.toList, r.path) := by
  rw [← text_of_read h, toList_text, Text.cutFirst_append r.type.dot_notMem_keyword]

/-- What stands before the last dot of a plain reference's text reads as the same type and name,
unless it is the word for a type. -/
theorem read_of_text_append {r : Reference} (h : r.IsPlain) {text m : String} (hm : IsPart m)
    (htext : r.text = text ++ "." ++ m) (hword : text ≠ r.type.keyword) :
    read text = .ok { r with moduleName := none } := by
  have hcut : Text.cutAll '.' text.toList ++ [m.toList] = r.parts := by
    have hlist : r.text.toList = text.toList ++ '.' :: m.toList := by simp [htext]
    rw [← cutAll_text h, hlist, Text.cutAll_append, Text.cutAll_of_notMem hm.2]
  have hplain : IsPlain { r with moduleName := none } := by
    refine ⟨h.1, fun m hnone => ?_⟩
    cases hnone
  refine read_of_cutAll hplain ?_
  unfold parts at hcut ⊢
  cases hmodule : r.moduleName with
  | none =>
      -- All that is left is the word.
      have hcut' : Text.cutAll '.' text.toList ++ [m.toList]
          = [r.type.keyword.toList] ++ [r.name.toList] := by
        rw [hcut, hmodule]
        rfl
      have hkeyword := Text.intercalate_cutAll '.' text.toList
      rw [(List.append_inj' hcut' rfl).1] at hkeyword
      exact absurd (String.toList_inj.mp (by simpa using hkeyword)) (Ne.symm hword)
  | some m' =>
      have hcut' : Text.cutAll '.' text.toList ++ [m.toList]
          = [r.type.keyword.toList, r.name.toList] ++ [m'.toList] := by
        rw [hcut, hmodule]
        rfl
      exact (List.append_inj' hcut' rfl).1

end Reference

end Moorage
