import Moorage.Text.Blank
import Moorage.Text.Digits

/-!
# `Moorage.Proofs.Text.Number`: the texts that write a number

A number is written as a run of decimal digits, which one plus sign may precede, and blanks may
stand around it. `Writes` says so of a text without reading it from one end to the other.

A number has any number of leading zeros. A minus sign is never read, and neither is a sign without
digits, or digits of other scripts. Blanks are those of Unicode's White_Space, which the reader goes
through from both ends. The bound on the number is the reader's parameter, so that what is written
and what fits are kept apart.

* `digits?_eq_some_iff`, `unsigned?_eq_some_iff`: what is read from a run of digits.
* `trim_append`, `exists_trim`: what `trim` takes away.
* `unsigned?_trim_eq_some_iff`: the numbers that are read are those that are written.
-/

set_option autoImplicit false

namespace Moorage.Text

/-- The text is a run of decimal digits with the value. It may begin with zeros, and it is not
empty. -/
def IsDecimal (text : List Char) (n : Nat) : Prop :=
  text ≠ [] ∧ (∀ c ∈ text, c.isDigit = true) ∧ Nat.ofDigitChars 10 text 0 = n

/-- The text writes the number: a run of digits, or a plus sign and a run of digits, with nothing
but blanks around it. -/
def Writes (text : List Char) (n : Nat) : Prop :=
  ∃ lead digits tail, (∀ c ∈ lead, isBlank c = true) ∧ (∀ c ∈ tail, isBlank c = true) ∧
    IsDecimal digits n ∧ (text = lead ++ digits ++ tail ∨ text = lead ++ '+' :: digits ++ tail)

/-! ### Runs of digits -/

variable {text : List Char} {n : Nat}

/-- A digit is worth its distance from zero. Nothing but the ten of them is a digit. -/
theorem digit?_eq (c : Char) :
    digit? c = if c.isDigit then some (c.toNat - '0'.toNat) else none := by
  have hdigit : ('0' ≤ c ∧ c ≤ '9') ↔ c.isDigit = true := by
    rw [Char.isDigit, Bool.and_eq_true, decide_eq_true_iff, decide_eq_true_iff]
    rfl
  simp only [digit?, hdigit]

/-- Digits are read as digits of the number that those before them make up. By induction on the
text, with the value so far as the number read. -/
theorem digitsFrom_eq_some_iff {value : Nat} :
    digitsFrom value text = some n ↔
      (∀ c ∈ text, c.isDigit = true) ∧ Nat.ofDigitChars 10 text value = n := by
  induction text generalizing value with
  | nil => simp [digitsFrom]
  | cons c rest ih =>
      rw [digitsFrom, digit?_eq, List.forall_mem_cons, Nat.ofDigitChars_cons]
      cases c.isDigit <;> simp [ih]

/-- A run of digits is read as the number that it writes, and any other text is not read. -/
theorem digits?_eq_some_iff : digits? text = some n ↔ IsDecimal text n := by
  unfold IsDecimal
  cases text with
  | nil => simp [digits?]
  | cons c rest =>
      show digitsFrom 0 (c :: rest) = some n ↔ _
      rw [digitsFrom_eq_some_iff]
      simp

/-- A sign is no digit, so it is no part of a run of them. -/
theorem not_isDecimal_plus (digits : List Char) : ¬IsDecimal ('+' :: digits) n := by
  rintro ⟨-, hdigits, -⟩
  exact absurd (hdigits '+' List.mem_cons_self) (by decide)

/-- What is read is a run of digits, with or without a plus sign, whose value is not too large. A
sign has to have digits behind it, and a second sign is no digit. -/
theorem unsigned?_eq_some_iff {bound : Nat} :
    unsigned? bound text = some n ↔
      (IsDecimal text n ∨ ∃ digits, text = '+' :: digits ∧ IsDecimal digits n) ∧ n ≤ bound := by
  unfold unsigned?
  rw [Option.filter_eq_some_iff, decide_eq_true_iff]
  refine and_congr_left fun _ => ?_
  split
  case h_1 rest => simp [digits?_eq_some_iff, not_isDecimal_plus]
  case h_2 hplus =>
    rw [digits?_eq_some_iff, or_iff_left]
    rintro ⟨digits, htext, -⟩
    exact hplus digits htext

/-! ### Blanks around a text -/

/-- No digit is blank, so that a run of digits is not touched by taking blanks away. -/
theorem isBlank_of_isDigit {c : Char} (h : c.isDigit = true) : isBlank c = false := by
  obtain ⟨hlow, hhigh⟩ : 48 ≤ c.toNat ∧ c.toNat ≤ 57 := by
    rwa [Char.isDigit, Bool.and_eq_true, decide_eq_true_iff, decide_eq_true_iff] at h
  simp [isBlank, blankRanges]
  omega

/-- Blanks are dropped up to the first character that is none. What follows may be empty, and then
all is dropped. -/
theorem dropWhile_append {lead rest : List Char} (hlead : ∀ c ∈ lead, isBlank c = true)
    (hrest : ∀ c ∈ rest.head?, isBlank c = false) :
    (lead ++ rest).dropWhile isBlank = rest := by
  rw [List.dropWhile_append_of_pos hlead]
  cases rest with
  | nil => rfl
  | cons c rest => exact List.dropWhile_cons_of_neg (by simp [hrest c rfl])

/-- Blanks are taken away at both ends of a text that has none. The text in the middle is not
empty, as blanks would be counted to one end otherwise. -/
theorem trim_append {lead core tail : List Char} (hlead : ∀ c ∈ lead, isBlank c = true)
    (hcore : ∀ c ∈ core, isBlank c = false) (hne : core ≠ [])
    (htail : ∀ c ∈ tail, isBlank c = true) : trim (lead ++ core ++ tail) = core := by
  have hhead : ∀ c ∈ (core ++ tail).head?, isBlank c = false := by
    obtain ⟨first, rest, rfl⟩ := List.exists_cons_of_ne_nil hne
    intro c hc
    exact hcore c (List.mem_of_mem_head? hc)
  have hlast : ∀ c ∈ core.reverse.head?, isBlank c = false := fun c hc =>
    hcore c (List.mem_reverse.mp (List.mem_of_mem_head? hc))
  have hback : ∀ c ∈ tail.reverse, isBlank c = true := fun c hc => htail c (List.mem_reverse.mp hc)
  rw [trim, List.append_assoc, dropWhile_append hlead hhead, List.reverse_append,
    dropWhile_append hback hlast, List.reverse_reverse]

/-- Nothing but blanks is taken away, from the two ends. This is the other half of `trim_append`. -/
theorem exists_trim (text : List Char) :
    ∃ lead tail, text = lead ++ trim text ++ tail ∧ (∀ c ∈ lead, isBlank c = true) ∧
      ∀ c ∈ tail, isBlank c = true := by
  let rest := text.dropWhile isBlank
  refine ⟨text.takeWhile isBlank, (rest.reverse.takeWhile isBlank).reverse, ?_, ?_, ?_⟩
  · have hrest : trim text ++ (rest.reverse.takeWhile isBlank).reverse = rest := by
      rw [trim, ← List.reverse_append, List.takeWhile_append_dropWhile, List.reverse_reverse]
    rw [List.append_assoc, hrest, List.takeWhile_append_dropWhile]
  · exact List.all_eq_true.mp List.all_takeWhile
  · intro c hc
    exact List.all_eq_true.mp List.all_takeWhile c (List.mem_reverse.mp hc)

/-! ### Numbers between blanks -/

/-- The text writes the number exactly if it does so without the blanks at its ends. A number has
no blanks inside, so it does not matter where the text is cut. -/
theorem writes_iff :
    Writes text n ↔
      IsDecimal (trim text) n ∨ ∃ digits, trim text = '+' :: digits ∧ IsDecimal digits n := by
  constructor
  · rintro ⟨lead, digits, tail, hlead, htail, hdecimal, rfl | rfl⟩
    · left
      rwa [trim_append hlead (fun c hc => isBlank_of_isDigit (hdecimal.2.1 c hc)) hdecimal.1 htail]
    · refine Or.inr ⟨digits, trim_append hlead ?_ (List.cons_ne_nil _ _) htail, hdecimal⟩
      refine List.forall_mem_cons.mpr ⟨by decide, fun c hc => ?_⟩
      exact isBlank_of_isDigit (hdecimal.2.1 c hc)
  · obtain ⟨lead, tail, htext, hlead, htail⟩ := exists_trim text
    rintro (hdecimal | ⟨digits, htrim, hdecimal⟩)
    · exact ⟨lead, _, tail, hlead, htail, hdecimal, Or.inl htext⟩
    · rw [htrim] at htext
      exact ⟨lead, digits, tail, hlead, htail, hdecimal, Or.inr htext⟩

/-- The numbers that are read are those that are written, up to the bound. What is too large is
not read at all, and is not cut down to the bound. -/
theorem unsigned?_trim_eq_some_iff {bound : Nat} :
    unsigned? bound (trim text) = some n ↔ Writes text n ∧ n ≤ bound := by
  rw [unsigned?_eq_some_iff, writes_iff]

end Moorage.Text
