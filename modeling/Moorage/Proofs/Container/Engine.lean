import Mathlib.Logic.Function.Basic
import Moorage.Proofs.Service

/-!
# `Moorage.Proofs.Container.Engine`: containers come and go

What exchanges mean for the containers of an engine. `Containers.Effect` is what an engine
promises of a single exchange: a container that is created gets an identity that no other
has, one that is removed is gone, and nothing else makes or unmakes containers. Of a
removal that failed it promises nothing: the container may be gone, or another one with it.

The lists `createdIds` and `removedIds` are read off exchanges alone, whatever the engine
does. A statement about these needs no promise, and one about the containers that are left
afterwards goes from the lists to the containers by the promise. What is removed is told by the
call and not by the answer, so that a removal that was tried counts.

Exchanges that are `Quiet` have no part in containers. They leave the containers as they were and
add nothing to the lists, so a proof can skip over them.
-/

set_option autoImplicit false

namespace Moorage

/-- The containers that exist: the blueprint of each, by its identity. What else an engine knows
of them does not matter here. -/
abbrev Containers := String → Option Blueprint

/-- What an engine promises of an exchange: the containers afterwards. A creation that succeeds
has a new identity, and what becomes of a container whose removal failed is left open. -/
def Containers.Effect (before : Containers) (x : Exchange Service.interface)
    (after : Containers) : Prop :=
  match x with
  | ⟨.createContainer _ blueprint, .ok id⟩ =>
      before id = none ∧ after = Function.update before id (some blueprint)
  | ⟨.removeContainer id, .ok _⟩ => after = Function.update before id none
  | ⟨.removeContainer _, .error _⟩ => True
  | _ => after = before

namespace Exchange

/-- Whether the call asks for a container to be created. It counts whether it was granted or not. -/
def isCreation (x : Exchange Service.interface) : Bool :=
  match x.call with
  | .createContainer _ _ => true
  | _ => false

/-- The identity of the container that was created. A creation that was refused has made none. -/
def createdId? : Exchange Service.interface → Option String
  | ⟨.createContainer _ _, .ok id⟩ => some id
  | _ => none

/-- The identity of the container that was to be removed. It counts whether the removal succeeded
or not. -/
def removedId? (x : Exchange Service.interface) : Option String :=
  match x.call with
  | .removeContainer id => some id
  | _ => none

/-- The call neither creates a container nor removes one. It may be about a container in other
ways. -/
def Quiet (x : Exchange Service.interface) : Prop :=
  match x.call with
  | .createContainer _ _ => False
  | .removeContainer _ => False
  | _ => True

variable {x : Exchange Service.interface}

/-- A quiet exchange asks for no container. -/
theorem Quiet.isCreation_eq (h : x.Quiet) : x.isCreation = false := by
  obtain ⟨call, answer⟩ := x
  cases call <;> first | rfl | exact h.elim

/-- A quiet exchange makes no container. -/
theorem Quiet.createdId?_eq (h : x.Quiet) : x.createdId? = none := by
  obtain ⟨call, answer⟩ := x
  cases call <;> first | rfl | exact h.elim

/-- A quiet exchange is no removal. -/
theorem Quiet.removedId?_eq (h : x.Quiet) : x.removedId? = none := by
  obtain ⟨call, answer⟩ := x
  cases call <;> first | rfl | exact h.elim

/-- By the promise of the engine, a quiet exchange leaves the containers as they were. Nobody else
is at work on them in the meantime. -/
theorem Quiet.eq_of_effect (h : x.Quiet) {before after : Containers}
    (heffect : before.Effect x after) : after = before := by
  obtain ⟨call, answer⟩ := x
  cases call <;> first | exact heffect | exact h.elim

end Exchange

namespace Exchanges

open Exchange (Quiet Replays)

variable {log : Exchanges}

/-- The containers that were created. They stand in the order of their creation. -/
def createdIds (log : Exchanges) : List String := log.filterMap Exchange.createdId?

/-- The containers that were to be removed. One that was tried twice is there twice. -/
def removedIds (log : Exchanges) : List String := log.filterMap Exchange.removedId?

/-- How often a container was asked for. There may be fewer containers than that. -/
def creations (log : Exchanges) : Nat := log.countP Exchange.isCreation

/-- The containers made in two parts are those of the first and those of the second. Runs are put
together of parts, and this goes along. -/
theorem createdIds_append (log log' : Exchanges) :
    createdIds (log ++ log') = createdIds log ++ createdIds log' :=
  List.filterMap_append

/-- The removals of two parts are those of the first and those of the second. -/
theorem removedIds_append (log log' : Exchanges) :
    removedIds (log ++ log') = removedIds log ++ removedIds log' :=
  List.filterMap_append

/-- The number of containers that are asked for is added up, whether they are granted or not. -/
theorem creations_append (log log' : Exchanges) :
    creations (log ++ log') = creations log + creations log' :=
  List.countP_append

/-- Every container that was created was asked for. So a bound on the requests is one on the
containers. -/
theorem length_createdIds_le (log : Exchanges) : (createdIds log).length ≤ creations log := by
  induction log with
  | nil => exact Nat.le_refl 0
  | cons x log ih =>
      unfold createdIds creations at ih ⊢
      rw [List.countP_cons]
      cases hx : x.createdId? with
      | none =>
          rw [List.filterMap_cons_none hx]
          exact Nat.le_add_right_of_le ih
      | some id =>
          -- Only a call that asks for a container is answered with an identity.
          have hcreation : x.isCreation = true := by
            obtain ⟨call, answer⟩ := x
            cases call <;> first | rfl | cases hx
          rw [List.filterMap_cons_some hx, List.length_cons, if_pos hcreation]
          exact Nat.succ_le_succ ih

/-- Quiet exchanges make no container. -/
theorem createdIds_of_quiet (h : ∀ x ∈ log, Quiet x) : createdIds log = [] :=
  List.filterMap_eq_nil_iff.mpr fun x hx => (h x hx).createdId?_eq

/-- Quiet exchanges remove none. -/
theorem removedIds_of_quiet (h : ∀ x ∈ log, Quiet x) : removedIds log = [] :=
  List.filterMap_eq_nil_iff.mpr fun x hx => (h x hx).removedId?_eq

/-- Quiet exchanges ask for none. -/
theorem creations_of_quiet (h : ∀ x ∈ log, Quiet x) : creations log = 0 :=
  List.countP_eq_zero.mpr fun x hx => by simp [(h x hx).isCreation_eq]

/-- Exchanges that neither create nor remove leave the containers alone. It is
`Quiet.eq_of_effect` for a whole run. -/
theorem eq_of_replays (h : ∀ x ∈ log, Quiet x) {before after : Containers}
    (hreplays : Replays Containers.Effect before log after) : after = before :=
  hreplays.eq_of_forall h fun heffect hquiet => hquiet.eq_of_effect heffect

end Exchanges

end Moorage
