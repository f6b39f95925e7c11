import Moorage.Proofs.Program.Exchange

/-!
# `Moorage.Proofs.Program.Fallible`: the exchanges of programs that may fail

A program that may fail is a program with an outcome in `Except`. There is a law of
`Program.Yields` for each way of putting such programs together, so that no proof about one has
to look at how failures are passed on: after a failure nothing more is asked, and the exchanges are
those of the part that failed.

The laws are for any interface. The actions of the providers are programs of this kind, and so are
the requests to an engine, which have another interface and the same laws.

* `yields_fallible_bind_iff`: the second part follows when the first succeeds.
* `yields_fallible_tryCatch_iff`: the handler follows when the first part fails.
-/

set_option autoImplicit false

namespace Moorage.Program

variable {I : Interface} {ε α β : Type} {task : ExceptT ε (Program I) α} {log : List (Exchange I)}

/-- The second part follows when the first succeeds; a failure of the first is that of both. The
exchanges of the two parts stand one after the other, with nothing in between. -/
theorem yields_fallible_bind_iff {next : α → ExceptT ε (Program I) β} {result : Except ε β} :
    Yields (task >>= next).run log result ↔
      (∃ error, Yields task.run log (.error error) ∧ result = .error error) ∨
      ∃ first value second, Yields task.run first (.ok value) ∧
        Yields (next value).run second result ∧ log = first ++ second := by
  refine Iff.trans yields_bind_iff ?_
  constructor
  · rintro ⟨first, outcome, second, hfirst, hsecond, rfl⟩
    cases outcome with
    | ok value => exact Or.inr ⟨first, value, second, hfirst, hsecond, rfl⟩
    | error error =>
        -- A failure is handed on without another exchange.
        obtain ⟨rfl, rfl⟩ := yields_done_iff.mp hsecond
        rw [List.append_nil]
        exact Or.inl ⟨error, hfirst, rfl⟩
  · rintro (⟨error, hfirst, rfl⟩ | ⟨first, value, second, hfirst, hsecond, rfl⟩)
    · exact ⟨log, .error error, [], hfirst, .done _, (List.append_nil log).symm⟩
    · exact ⟨first, .ok value, second, hfirst, hsecond, rfl⟩

/-- When both parts together succeed, each of them does. This is half of the law above, for proofs
in which a failure has been ruled out. -/
theorem Yields.of_fallible_bind_ok {next : α → ExceptT ε (Program I) β} {value : β}
    (h : Yields (task >>= next).run log (.ok value)) :
    ∃ first between second, Yields task.run first (.ok between) ∧
      Yields (next between).run second (.ok value) ∧ log = first ++ second := by
  rcases yields_fallible_bind_iff.mp h with ⟨_, -, heq⟩ | hboth
  · cases heq
  · exact hboth

/-- The handler follows when the task fails, with the failure that it is given. What the task has
asked until then stays asked. -/
theorem yields_fallible_tryCatch_iff {handler : ε → ExceptT ε (Program I) α}
    {result : Except ε α} :
    Yields (tryCatch task handler).run log result ↔
      (∃ value, Yields task.run log (.ok value) ∧ result = .ok value) ∨
      ∃ first error second, Yields task.run first (.error error) ∧
        Yields (handler error).run second result ∧ log = first ++ second := by
  refine Iff.trans yields_bind_iff ?_
  constructor
  · rintro ⟨first, outcome, second, hfirst, hsecond, rfl⟩
    cases outcome with
    | ok value =>
        obtain ⟨rfl, rfl⟩ := yields_done_iff.mp hsecond
        rw [List.append_nil]
        exact Or.inl ⟨value, hfirst, rfl⟩
    | error error => exact Or.inr ⟨first, error, second, hfirst, hsecond, rfl⟩
  · rintro (⟨value, hfirst, rfl⟩ | ⟨first, error, second, hfirst, hsecond, rfl⟩)
    · exact ⟨log, .ok value, [], hfirst, .done _, (List.append_nil log).symm⟩
    · exact ⟨first, .error error, second, hfirst, hsecond, rfl⟩

/-- A program that cannot fail makes its own exchanges, and its value is the outcome of a
success. -/
theorem yields_fallible_lift_iff {program : Program I α} {result : Except ε α} :
    Yields (ExceptT.lift program : ExceptT ε (Program I) α).run log result ↔
      ∃ value, Yields program log value ∧ result = .ok value := by
  refine Iff.trans yields_bind_iff ?_
  constructor
  · rintro ⟨first, value, second, hfirst, hsecond, rfl⟩
    obtain ⟨rfl, rfl⟩ := yields_done_iff.mp hsecond
    rw [List.append_nil]
    exact ⟨value, hfirst, rfl⟩
  · rintro ⟨value, hfirst, rfl⟩
    exact ⟨log, value, [], hfirst, .done _, (List.append_nil log).symm⟩

end Moorage.Program
