import Moorage.Proofs.Container.Engine
import Moorage.Container.Lifecycle

/-!
# `Moorage.Proofs.Container.LookUpFirst`: what a removal does when something fails

Containers are removed by their names. All names are looked up before anything is removed, and
the first container that cannot be removed is the last one that is tried. A container that is
gone already is no failure.

A name may stand for any number of containers, and the engine says which. So the exchanges of a
removal come in two parts, `searches` and `removals`, and where the first part fails there is no
second. `Removes` has a constructor for each of the three ways this can end. A removal takes no
other course, which is shown by going along the names and then along the containers. What
is said of each course is in `LookedUpFirst`, and is read off the two lists.

* `Removes`: the three courses that a removal takes.
* `LookedUpFirst`: what is to be said of each of them.
* `lookedUpFirst_of_yields`: a removal takes no other course, whatever it is answered.
-/

set_option autoImplicit false

namespace Moorage.Container

open Exchanges (removedIds)

/-- After this answer to its removal, a container is not there any more. That it was not there
before is as good. -/
def Gone (answer : Except Error Unit) : Prop :=
  ∀ error, answer = .error error → error.isNotFound = true

/-- Names that were looked up, each with the containers that it was answered. It is the first part
of a removal. -/
def searches (found : List (String × List String)) : Exchanges :=
  found.map fun search => ⟨.findContainers search.1, .ok search.2⟩

/-- Containers that were to be removed, each with what it was answered. It is the second part of a
removal. -/
def removals (answered : List (String × Except Error Unit)) : Exchanges :=
  answered.map fun removal => ⟨.removeContainer removal.1, removal.2⟩

/-- While names are looked up nothing is removed. So whoever fails there has removed nothing. -/
theorem removedIds_searches (found : List (String × List String)) :
    removedIds (searches found) = [] := by
  simp [removedIds, searches, List.filterMap_map, Function.comp_def, Exchange.removedId?]

/-- The names that were looked up so far were found, so that no failure is among them. -/
theorem findContainers_notMem_searches (found : List (String × List String)) (fqdn : String)
    (cause : Error) : ⟨.findContainers fqdn, .error cause⟩ ∉ searches found := by
  simp only [searches, List.mem_map, not_exists, not_and]
  rintro ⟨name, ids⟩ - h
  cases h

/-- While names are looked up no container is to be removed, with whatever answer. -/
theorem removeContainer_notMem_searches (found : List (String × List String)) (id : String)
    (answer : Except Error Unit) : ⟨.removeContainer id, answer⟩ ∉ searches found := by
  simp only [searches, List.mem_map, not_exists, not_and]
  rintro ⟨name, ids⟩ - h
  cases h

/-- Once containers are removed no name is looked up any more. -/
theorem findContainers_notMem_removals (answered : List (String × Except Error Unit))
    (fqdn : String) (answer : Except Error (List String)) :
    ⟨.findContainers fqdn, answer⟩ ∉ removals answered := by
  simp only [removals, List.mem_map, not_exists, not_and]
  rintro ⟨id, given⟩ - h
  cases h

/-- A removal stands among the exchanges with what it was answered. So the log tells which
containers are gone. -/
theorem removeContainer_mem_removals {answered : List (String × Except Error Unit)} {id : String}
    {answer : Except Error Unit} :
    ⟨.removeContainer id, answer⟩ ∈ removals answered ↔ (id, answer) ∈ answered := by
  simp only [removals, List.mem_map]
  constructor
  · rintro ⟨⟨name, given⟩, hmem, h⟩
    cases h
    exact hmem
  · exact fun hmem => ⟨_, hmem, rfl⟩

/-- The courses that a removal takes. Each of them gives all exchanges, so that what is to be said
can be read off. -/
inductive Removes (owner : String) (fqdns : List String) : Exchanges → Except Error Unit → Prop
  /-- A name cannot be looked up. -/
  | lost (found : List (String × List String)) {fqdn : String} {rest : List String} {cause : Error}
      (names : fqdns = found.map Prod.fst ++ fqdn :: rest) :
      Removes owner fqdns (searches found ++ [⟨.findContainers fqdn, .error cause⟩])
        (.error (.provider owner "lookup" cause))
  /-- A container is there, and cannot be removed. -/
  | stuck (found : List (String × List String)) (gone : List (String × Except Error Unit))
      {id : String} {rest : List String} {cause : Error} (names : fqdns = found.map Prod.fst)
      (ids : found.flatMap Prod.snd = gone.map Prod.fst ++ id :: rest)
      (all : ∀ removal ∈ gone, Gone removal.2) (refused : cause.isNotFound = false) :
      Removes owner fqdns
        (searches found ++ (removals gone ++ [⟨.removeContainer id, .error cause⟩]))
        (.error (.provider owner "container remove" cause))
  /-- No container is left. -/
  | done (found : List (String × List String)) (gone : List (String × Except Error Unit))
      (names : fqdns = found.map Prod.fst) (ids : found.flatMap Prod.snd = gone.map Prod.fst)
      (all : ∀ removal ∈ gone, Gone removal.2) :
      Removes owner fqdns (searches found ++ removals gone) (.ok ())

/-! ### Looking up -/

variable {owner : String}

/-- A name is looked up with one call, and a failure is put down to the lookup. The owner is the
resource that the removal is for. -/
theorem yields_idsOf {fqdn : String} {log : Exchanges} {result : Except Error (List String)}
    (h : (idsOf owner fqdn).Yields log result) :
    ∃ answer, log = [⟨.findContainers fqdn, answer⟩] ∧
      result = answer.mapError (.provider owner "lookup") := by
  obtain ⟨answer, hfind, rfl⟩ := Action.yields_within_iff.mp h
  exact ⟨answer, Action.yields_findContainers_iff.mp hfind, rfl⟩

/-- The first name that cannot be looked up is the last one that is. Otherwise the containers of
all names are put together in order. -/
theorem yields_idsOfAll {fqdns : List String} {log : Exchanges}
    {result : Except Error (List String)} (h : (idsOfAll owner fqdns).Yields log result) :
    (∃ found fqdn rest cause, fqdns = found.map Prod.fst ++ fqdn :: rest ∧
      log = searches found ++ [⟨.findContainers fqdn, .error cause⟩] ∧
      result = .error (.provider owner "lookup" cause)) ∨
    ∃ found : List (String × List String), fqdns = found.map Prod.fst ∧ log = searches found ∧
      result = .ok (found.flatMap Prod.snd) := by
  induction fqdns generalizing log result with
  | nil =>
      obtain ⟨rfl, rfl⟩ := Action.yields_pure_iff.mp h
      exact Or.inr ⟨[], rfl, rfl, rfl⟩
  | cons fqdn fqdns ih =>
      rcases Action.yields_bind_iff.mp h with ⟨error, hfirst, rfl⟩ |
        ⟨first, ids, second, hfirst, hrest, rfl⟩
      · obtain ⟨answer, rfl, heq⟩ := yields_idsOf hfirst
        cases answer with
        | ok ids => cases heq
        | error cause =>
            cases heq
            exact Or.inl ⟨[], fqdn, fqdns, cause, rfl, rfl, rfl⟩
      obtain ⟨answer, rfl, heq⟩ := yields_idsOf hfirst
      cases answer with
      | error cause => cases heq
      | ok found =>
          cases heq
          -- The others are looked up, and the result of both is put together.
          rcases Action.yields_bind_iff.mp hrest with ⟨error, hothers, rfl⟩ |
            ⟨others, more, last, hothers, hdone, rfl⟩
          · rcases ih hothers with ⟨found, lost, rest, cause, rfl, rfl, heq⟩ | ⟨_, -, -, heq⟩
            · cases heq
              exact Or.inl ⟨(fqdn, ids) :: found, lost, rest, cause, rfl, rfl, rfl⟩
            · cases heq
          · obtain ⟨rfl, rfl⟩ := Action.yields_pure_iff.mp hdone
            rcases ih hothers with ⟨_, _, _, _, -, -, heq⟩ | ⟨found, rfl, rfl, heq⟩
            · cases heq
            · cases heq
              exact Or.inr ⟨(fqdn, ids) :: found, rfl, by simp [searches], rfl⟩

/-! ### Removing -/

/-- A removal is one call. It succeeds when the container is not there any more, by this call or
before it, and any other failure is passed on. -/
theorem yields_remove {id : String} {log : Exchanges} {result : Except Error Unit}
    (h : (remove id).Yields log result) :
    ∃ answer, log = [⟨.removeContainer id, answer⟩] ∧
      (Gone answer ∧ result = .ok () ∨
        ∃ cause, answer = .error cause ∧ cause.isNotFound = false ∧ result = .error cause) := by
  rcases Action.yields_tryCatch_iff.mp h with ⟨value, hremoved, rfl⟩ |
    ⟨first, cause, second, hrefused, hrest, rfl⟩
  · exact ⟨_, Action.yields_removeContainer_iff.mp hremoved, Or.inl ⟨nofun, rfl⟩⟩
  · obtain rfl := Action.yields_removeContainer_iff.mp hrefused
    -- A container that was not found is gone as well. This is the one failure that is passed over.
    cases hmissing : cause.isNotFound with
    | true =>
        rw [if_pos hmissing] at hrest
        obtain ⟨rfl, rfl⟩ := Action.yields_pure_iff.mp hrest
        refine ⟨_, rfl, Or.inl ⟨fun error heq => ?_, rfl⟩⟩
        cases heq
        exact hmissing
    | false =>
        rw [if_neg (by simp [hmissing])] at hrest
        obtain ⟨rfl, rfl⟩ := Action.yields_throw_iff.mp hrest
        exact ⟨_, rfl, Or.inr ⟨cause, rfl, hmissing, rfl⟩⟩

/-- The first container that cannot be removed is the last one that is tried. One that is not
there counts as removed. -/
theorem yields_removeEach {ids : List String} {log : Exchanges} {result : Except Error Unit}
    (h : (removeEach owner ids).Yields log result) :
    (∃ gone id rest cause, ids = gone.map Prod.fst ++ id :: rest ∧
      (∀ removal ∈ gone, Gone removal.2) ∧ cause.isNotFound = false ∧
      log = removals gone ++ [⟨.removeContainer id, .error cause⟩] ∧
      result = .error (.provider owner "container remove" cause)) ∨
    ∃ gone, ids = gone.map Prod.fst ∧ (∀ removal ∈ gone, Gone removal.2) ∧ log = removals gone ∧
      result = .ok () := by
  induction ids generalizing log result with
  | nil =>
      obtain ⟨rfl, rfl⟩ := Action.yields_pure_iff.mp h
      exact Or.inr ⟨[], rfl, by simp, rfl, rfl⟩
  | cons id ids ih =>
      rcases Action.yields_then_iff.mp h with
        ⟨error, hfirst, rfl⟩ | ⟨first, second, hfirst, hrest, rfl⟩
      -- The first container cannot be removed, and no other one is tried.
      · obtain ⟨outcome, hremove, heq⟩ := Action.yields_within_iff.mp hfirst
        obtain ⟨answer, rfl, ⟨-, rfl⟩ | ⟨cause, rfl, hrefused, rfl⟩⟩ := yields_remove hremove
        · cases heq
        · cases heq
          exact Or.inl ⟨[], id, ids, cause, rfl, by simp, hrefused, rfl, rfl⟩
      -- The first container is gone, by this removal or before it, and the others follow.
      obtain ⟨outcome, hremove, heq⟩ := Action.yields_within_iff.mp hfirst
      obtain ⟨answer, rfl, ⟨hgone, rfl⟩ | ⟨cause, rfl, -, rfl⟩⟩ := yields_remove hremove
      · rcases ih hrest with ⟨gone, other, rest, cause, rfl, hall, hrefused, rfl, rfl⟩ |
          ⟨gone, rfl, hall, rfl, rfl⟩
        · exact Or.inl ⟨(id, answer) :: gone, other, rest, cause, rfl,
            List.forall_mem_cons.mpr ⟨hgone, hall⟩, hrefused, rfl, rfl⟩
        · exact Or.inr ⟨(id, answer) :: gone, rfl, List.forall_mem_cons.mpr ⟨hgone, hall⟩, rfl, rfl⟩
      · cases heq

/-- Every run takes one of the three courses: a name cannot be looked up, a container cannot be
removed, or all of them are gone. -/
theorem removes_of_yields {fqdns : List String} {log : Exchanges} {result : Except Error Unit}
    (h : (removeAll owner fqdns).Yields log result) : Removes owner fqdns log result := by
  rcases Action.yields_bind_iff.mp h with ⟨error, hlookup, rfl⟩ |
    ⟨first, ids, second, hlookup, hremoval, rfl⟩
  · rcases yields_idsOfAll hlookup with ⟨found, fqdn, rest, cause, hnames, rfl, heq⟩ |
      ⟨_, -, -, heq⟩
    · cases heq
      exact .lost found hnames
    · cases heq
  · rcases yields_idsOfAll hlookup with ⟨_, _, _, _, -, -, heq⟩ | ⟨found, hnames, rfl, heq⟩
    · cases heq
    cases heq
    rcases yields_removeEach hremoval with ⟨gone, id, rest, cause, hids, hall, hrefused, rfl, rfl⟩ |
      ⟨gone, hids, hall, rfl, rfl⟩
    · exact .stuck found gone hnames hids hall hrefused
    · exact .done found gone hnames hids hall

/-! ### What a removal did -/

/-- All names are looked up before a container is removed, and a removal ends with the first
container that cannot be removed. -/
structure LookedUpFirst (owner : String) (fqdns : List String) (log : Exchanges)
    (result : Except Error Unit) : Prop where
  /-- Nothing is removed when a name cannot be looked up. -/
  untouched : ∀ fqdn cause, ⟨.findContainers fqdn, .error cause⟩ ∈ log → removedIds log = []
  /-- Otherwise every name is looked up, and what was found is removed in order. All but the last
  of those that are tried are gone, and if that one is gone, too, all that was found was tried. -/
  in_order : (∀ fqdn cause, ⟨.findContainers fqdn, .error cause⟩ ∉ log) →
    ∃ found answered rest, log = searches found ++ removals answered ∧
      fqdns = found.map Prod.fst ∧ found.flatMap Prod.snd = answered.map Prod.fst ++ rest ∧
      (∀ removal ∈ answered.dropLast, Gone removal.2) ∧
      ((∀ removal ∈ answered, Gone removal.2) → rest = [])
  /-- Success means that every name was looked up and that every container is gone. -/
  ok_iff : result = .ok () ↔
    (∀ fqdn cause, ⟨.findContainers fqdn, .error cause⟩ ∉ log) ∧
    ∀ id answer, ⟨.removeContainer id, answer⟩ ∈ log → Gone answer
  /-- A failure is that of the search or of the removal. -/
  error_eq : ∀ error, result = .error error →
    (∃ fqdn cause, ⟨.findContainers fqdn, .error cause⟩ ∈ log ∧
      error = .provider owner "lookup" cause) ∨
    ∃ id cause, ⟨.removeContainer id, .error cause⟩ ∈ log ∧ cause.isNotFound = false ∧
      error = .provider owner "container remove" cause

namespace Removes

variable {fqdns : List String} {log : Exchanges} {result : Except Error Unit}

/-- What is to be said holds of each course, as its exchanges are given by it. The cases are those
of the courses. -/
theorem lookedUpFirst (h : Removes owner fqdns log result) :
    LookedUpFirst owner fqdns log result := by
  cases h with
  | @lost found fqdn rest cause names =>
      -- The one failure of a search is enough: nothing has been removed before it, and it is
      -- reported.
      have hlost : (⟨.findContainers fqdn, .error cause⟩ : Exchange Service.interface) ∈
          searches found ++ [⟨.findContainers fqdn, .error cause⟩] := by simp
      refine
        { untouched := fun _ _ _ => ?_
          in_order := fun hall => absurd hlost (hall fqdn cause)
          ok_iff := ⟨nofun, fun hall => absurd hlost (hall.1 fqdn cause)⟩
          error_eq := fun error herror => ?_ }
      · rw [Exchanges.removedIds_append, removedIds_searches]
        rfl
      · cases herror
        exact Or.inl ⟨fqdn, cause, hlost, rfl⟩
  | @stuck found gone id rest cause names ids all refused =>
      -- The container that cannot be removed is the last of the list, so the others on it are
      -- gone.
      have hstuck : (⟨.removeContainer id, .error cause⟩ : Exchange Service.interface) ∈
          searches found ++ (removals gone ++ [⟨.removeContainer id, .error cause⟩]) := by simp
      have hthere : ¬ Gone (.error cause) := fun hgone => by simp [hgone cause rfl] at refused
      refine
        { untouched := fun fqdn other hmem => ?_
          in_order := fun _ => ⟨found, gone ++ [(id, .error cause)], rest, ?_, names, ?_, ?_, ?_⟩
          ok_iff := ⟨nofun, fun hall => absurd (hall.2 id _ hstuck) hthere⟩
          error_eq := fun error herror => ?_ }
      -- No search has failed, neither among the first exchanges nor behind them.
      · simp only [List.mem_append, findContainers_notMem_searches, findContainers_notMem_removals,
          List.mem_singleton, false_or] at hmem
        cases hmem
      · simp [removals]
      · simpa using ids
      · simpa using all
      · exact fun hall => absurd (hall (id, .error cause) (by simp)) hthere
      · cases herror
        exact Or.inr ⟨id, cause, hstuck, refused, rfl⟩
  | done found gone names ids all =>
      -- Every search was answered, and every removal found its container gone.
      have hfound : ∀ fqdn cause, (⟨.findContainers fqdn, .error cause⟩ :
          Exchange Service.interface) ∉ searches found ++ removals gone := by
        simp [findContainers_notMem_searches, findContainers_notMem_removals]
      refine
        { untouched := fun fqdn cause hmem => absurd hmem (hfound fqdn cause)
          in_order := fun _ => ⟨found, gone, [], rfl, names, ?_, ?_, fun _ => rfl⟩
          ok_iff := ⟨fun _ => ⟨hfound, fun id answer hmem => ?_⟩, fun _ => rfl⟩
          error_eq := nofun }
      · simpa using ids
      · exact fun removal hmem => all removal (List.dropLast_subset _ hmem)
      · have hgone : (id, answer) ∈ gone := by
          simpa [removeContainer_notMem_searches, removeContainer_mem_removals] using hmem
        exact all _ hgone

end Removes

end Moorage.Container
