import Mathlib.Data.List.Forall2

/-!
# `Moorage.Proofs.Fold`: folds of steps that may fail

Registries, edges and searches are built up by `List.foldlM`, step by step, until a step
fails. What is said of such a fold is of one of three kinds: what each step keeps is kept by the
fold, what the fold collects stands in the order of the list, and where it fails there is a first
element at which it does. Lists of parts that are read one by one, by `List.mapM`, are of the same
kind.

The library has the equations for these functions and for `Except`, and the laws here are what the
proofs about the program use instead of unfolding them.

* `Except.bind_eq_ok_iff`, `Except.bind_eq_error_iff`: how two parts succeed, and how they fail.
* `Except.of_foldlM`: what each step keeps is kept.
* `Except.mem_foldlM`, `Except.forall₂_of_foldlM`: what a fold collects, and in which order.
* `Except.foldlM_ok_iff`: when a fold succeeds.
* `Except.foldlM_eq_error`: where it fails.
* `Except.mapM_eq_ok_iff`, `Except.mapM_eq_error`: what a list of parts comes to.
-/

set_option autoImplicit false

namespace Moorage.Except

variable {α β γ ε : Type} {xs : List α}

/-- Two parts succeed when the first does, and the second behind it. Proofs about success take a
`do` block apart with this, one line of it at a time. -/
theorem bind_eq_ok_iff {x : Except ε α} {f : α → Except ε β} {b : β} :
    x >>= f = .ok b ↔ ∃ a, x = .ok a ∧ f a = .ok b := by
  cases x <;> simp [bind, Except.bind]

/-- Two parts fail when the first does, or the second behind it. In the second case there is the
value that the first part came to. -/
theorem bind_eq_error_iff {x : Except ε α} {f : α → Except ε β} {e : ε} :
    x >>= f = .error e ↔ x = .error e ∨ ∃ a, x = .ok a ∧ f a = .error e := by
  cases x <;> simp [bind, Except.bind]

/-- A result is changed when there is one. Failures go through unchanged, so there is nothing to
be said of them. -/
theorem map_eq_ok_iff {x : Except ε α} {f : α → β} {b : β} :
    x.map f = .ok b ↔ ∃ a, x = .ok a ∧ f a = b := by
  cases x <;> simp [Except.map]

/-- What replaces a failure leaves a result as it is. For parts whose failures are put in other
words. -/
theorem mapError_eq_ok_iff {δ : Type} {x : Except ε α} {f : ε → δ} {a : α} :
    x.mapError f = .ok a ↔ x = .ok a := by
  cases x <;> simp [Except.mapError]

/-- A failure that was replaced comes from one. This is how the failure of an operation is traced
back to the fault behind it. -/
theorem mapError_eq_error_iff {δ : Type} {x : Except ε α} {f : ε → δ} {e : δ} :
    x.mapError f = .error e ↔ ∃ e', x = .error e' ∧ f e' = e := by
  cases x <;> simp [Except.mapError]

/-- A result that is there is what the whole comes to. -/
theorem eq_ok_of_toOption {x : Except ε α} {a : α} (h : x.toOption = some a) : x = .ok a := by
  cases x with
  | ok b => exact congrArg Except.ok (Option.some.inj h)
  | error e => cases h

/-- Each part of a list succeeds, and the results stand in the order of the parts. So a list that
was read can be compared with what it was read from, element by element. -/
theorem mapM_eq_ok_iff {f : α → Except ε β} {ys : List β} :
    xs.mapM f = .ok ys ↔ List.Forall₂ (fun x y => f x = .ok y) xs ys := by
  induction xs generalizing ys with
  | nil => simp [pure, Except.pure, eq_comm]
  | cons x xs ih =>
      rw [List.mapM_cons, bind_eq_ok_iff]
      constructor
      · rintro ⟨y, hx, hrest⟩
        obtain ⟨rest, hxs, heq⟩ := bind_eq_ok_iff.mp hrest
        cases heq
        exact .cons hx (ih.mp hxs)
      · intro h
        cases h with
        | cons hx hrest => exact ⟨_, hx, bind_eq_ok_iff.mpr ⟨_, ih.mpr hrest, rfl⟩⟩

/-- A list of parts succeeds when each of them can. The results are not mentioned, as it is only
asked whether there are any. -/
theorem mapM_ok_iff {f : α → Except ε β} :
    (∃ ys, xs.mapM f = .ok ys) ↔ ∀ x ∈ xs, ∃ y, f x = .ok y := by
  induction xs with
  | nil => simp [pure, Except.pure]
  | cons x xs ih =>
      rw [List.forall_mem_cons, ← ih]
      constructor
      · rintro ⟨ys, h⟩
        cases mapM_eq_ok_iff.mp h with
        | cons hx hrest => exact ⟨⟨_, hx⟩, _, mapM_eq_ok_iff.mpr hrest⟩
      · rintro ⟨⟨y, hx⟩, ys, hrest⟩
        exact ⟨y :: ys, mapM_eq_ok_iff.mpr (.cons hx (mapM_eq_ok_iff.mp hrest))⟩

/-- The failure of a list of parts is that of one of them. Which one it is takes the order, and is
not said here. -/
theorem mapM_eq_error {f : α → Except ε β} {e : ε} (h : xs.mapM f = .error e) :
    ∃ x ∈ xs, f x = .error e := by
  induction xs with
  | nil => cases h
  | cons x xs ih =>
      rw [List.mapM_cons] at h
      rcases bind_eq_error_iff.mp h with hx | ⟨y, -, hrest⟩
      · exact ⟨x, List.mem_cons_self, hx⟩
      rcases bind_eq_error_iff.mp hrest with hxs | ⟨ys, -, hnone⟩
      · obtain ⟨other, hmem, hother⟩ := ih hxs
        exact ⟨other, List.mem_cons_of_mem x hmem, hother⟩
      · cases hnone

/-- A fold succeeds when its first step does, and the fold of the others behind it. This is the
induction step of the laws below. -/
theorem foldlM_cons_eq_ok {f : β → α → Except ε β} {x : α} {b c : β} :
    (x :: xs).foldlM f b = .ok c ↔ ∃ m, f b x = .ok m ∧ xs.foldlM f m = .ok c := by
  rw [List.foldlM_cons]
  exact bind_eq_ok_iff

/-- A property that each successful step keeps is kept by a fold of such steps. The step may use
that it is about an element of the list. -/
theorem of_foldlM {P : β → Prop} {f : β → α → Except ε β}
    (hstep : ∀ x ∈ xs, ∀ b c, P b → f b x = .ok c → P c) {b c : β} (hb : P b)
    (h : xs.foldlM f b = .ok c) : P c := by
  induction xs generalizing b with
  | nil => cases h; exact hb
  | cons x xs ih =>
      obtain ⟨m, hx, hrest⟩ := foldlM_cons_eq_ok.mp h
      exact ih (fun y hy => hstep y (List.mem_cons_of_mem x hy))
        (hstep x List.mem_cons_self b m hb hx) hrest

/-- A fold of steps that may fail succeeds exactly when each step can, when that does not
depend on what came before it. -/
theorem foldlM_ok_iff {f : β → α → Except ε β} {S : α → Prop}
    (hstep : ∀ x ∈ xs, ∀ b, (∃ c, f b x = .ok c) ↔ S x) (b : β) :
    (∃ c, xs.foldlM f b = .ok c) ↔ ∀ x ∈ xs, S x := by
  induction xs generalizing b with
  | nil => exact ⟨fun _ x hx => absurd hx List.not_mem_nil, fun _ => ⟨b, rfl⟩⟩
  | cons x xs ih =>
      have hrest := ih fun y hy => hstep y (List.mem_cons_of_mem x hy)
      rw [List.forall_mem_cons, ← hstep x List.mem_cons_self b]
      constructor
      · rintro ⟨c, hc⟩
        obtain ⟨m, hx, hxs⟩ := foldlM_cons_eq_ok.mp hc
        exact ⟨⟨m, hx⟩, (hrest m).mp ⟨c, hxs⟩⟩
      · rintro ⟨⟨m, hx⟩, hxs⟩
        obtain ⟨c, hc⟩ := (hrest m).mpr hxs
        exact ⟨c, foldlM_cons_eq_ok.mpr ⟨m, hx, hc⟩⟩

/-- What a fold of steps that may fail collects is what was there and what each step
adds. -/
theorem mem_foldlM {f : List γ → α → Except ε (List γ)} {Q : α → γ → Prop}
    (hstep : ∀ x ∈ xs, ∀ b c, f b x = .ok c → ∀ e, e ∈ c ↔ e ∈ b ∨ Q x e) {b c : List γ}
    (h : xs.foldlM f b = .ok c) (e : γ) : e ∈ c ↔ e ∈ b ∨ ∃ x ∈ xs, Q x e := by
  induction xs generalizing b with
  | nil => cases h; simp
  | cons x xs ih =>
      obtain ⟨m, hx, hrest⟩ := foldlM_cons_eq_ok.mp h
      rw [ih (fun y hy => hstep y (List.mem_cons_of_mem x hy)) hrest,
        hstep x List.mem_cons_self b m hx]
      simp [or_assoc]

/-- A fold whose steps each append one part appends a part for each step, in order. The relation
is that of an element and its part, so that the fold itself is not mentioned in what follows from
this. -/
theorem forall₂_of_foldlM {f : β → α → Except ε β} (parts : β → List γ) (R : α → γ → Prop)
    (hstep : ∀ x ∈ xs, ∀ b c, f b x = .ok c → ∃ y, R x y ∧ parts c = parts b ++ [y])
    {b c : β} (h : xs.foldlM f b = .ok c) :
    ∃ ys, parts c = parts b ++ ys ∧ List.Forall₂ R xs ys := by
  induction xs generalizing b with
  | nil => cases h; exact ⟨[], by simp, .nil⟩
  | cons x xs ih =>
      obtain ⟨m, hx, hrest⟩ := foldlM_cons_eq_ok.mp h
      obtain ⟨y, hy, hm⟩ := hstep x List.mem_cons_self b m hx
      obtain ⟨ys, hc, hys⟩ := ih (fun z hz => hstep z (List.mem_cons_of_mem x hz)) hrest
      exact ⟨y :: ys, by simp [hc, hm], .cons hy hys⟩

/-- A fold fails at the first step that does, with the failure of that step. The steps before it
succeeded, and what they came to is what the failing step was given. -/
theorem foldlM_eq_error {f : β → α → Except ε β} {b : β} {e : ε}
    (h : xs.foldlM f b = .error e) :
    ∃ before x after c, xs = before ++ x :: after ∧ before.foldlM f b = .ok c ∧
      f c x = .error e := by
  induction xs generalizing b with
  | nil => cases h
  | cons x xs ih =>
      rw [List.foldlM_cons] at h
      rcases bind_eq_error_iff.mp h with hx | ⟨m, hx, hrest⟩
      · exact ⟨[], x, xs, b, rfl, rfl, hx⟩
      · obtain ⟨before, y, after, c, rfl, hbefore, hy⟩ := ih hrest
        exact ⟨x :: before, y, after, c, rfl, foldlM_cons_eq_ok.mpr ⟨m, hx, hbefore⟩, hy⟩

/-- The failure of a fold is that of one of its steps. A property of all failures of the steps is
one of the failure of the fold. -/
theorem error_of_foldlM {P : ε → Prop} {f : β → α → Except ε β}
    (hstep : ∀ x ∈ xs, ∀ b e, f b x = .error e → P e) {b : β} {e : ε}
    (h : xs.foldlM f b = .error e) : P e := by
  obtain ⟨before, x, after, c, rfl, -, hx⟩ := foldlM_eq_error h
  exact hstep x (List.mem_append_right before List.mem_cons_self) c e hx

end Moorage.Except
