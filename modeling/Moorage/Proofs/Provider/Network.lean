import Moorage.Proofs.Container.Removal
import Moorage.Provider.Network

/-!
# `Moorage.Proofs.Provider.Network`: networks are found again by their names

A network is looked for by its own name. `Networks.Tracked` is what an engine promises of its
networks when it finds them, as `Containers.Tracked` is for containers: a search is answered
with those that exist and have the name, and otherwise only the calls that make and remove
networks change which exist, even when they fail.

A network has no other mark than its name: the labels that it is given are not looked at when it is
searched for. So a network of that name which somebody else has made is found too, and there may be
several. A destruction removes them all.

* `Networks.leftover`: after calls that ask for networks of the given names only, every network
  has one of them or was there before.
* `lookup_runs`, `destroy_runs`: a search reports the networks of the name, and a destruction
  leaves all others, whatever is refused.
-/

set_option autoImplicit false

namespace Moorage

open Exchange (Replays)
open Moorage.Action (Runs)
open Service (Call)

/-- The networks that exist: the name of each, by its identity. Two of them may have one name. -/
abbrev Networks := String → Option String

/-- The call neither makes a network nor removes one. Attaching a container to one is such a
call. -/
def Service.Call.LeavesNetworks : Call → Prop
  | .createNetwork _ _ _ => False
  | .removeNetwork _ => False
  | _ => True

namespace Networks

/-- What an engine that finds its networks promises of an exchange: the networks afterwards. -/
def Tracked (before : Networks) (x : Exchange Service.interface) (after : Networks) : Prop :=
  match x with
  | ⟨.createNetwork name _ _, .ok id⟩ => after = Function.update before id (some name)
  | ⟨.createNetwork name _ _, .error _⟩ =>
      after = before ∨ ∃ id, after = Function.update before id (some name)
  | ⟨.removeNetwork id, .ok _⟩ => after = Function.update before id none
  | ⟨.removeNetwork id, .error _⟩ => after = before ∨ after = Function.update before id none
  | ⟨.findNetworks name, .ok ids⟩ => after = before ∧ ∀ id, id ∈ ids ↔ before id = some name
  | _ => after = before

variable {fqdns networks : List String} {before after : Networks} {log : Exchanges}

/-- Calls that neither make nor remove networks leave them as they were. A refused call may have
had its effect, so that refusals do not count here. -/
theorem Tracked.eq_of_leaves {x : Exchange Service.interface} (h : before.Tracked x after)
    (hx : x.call.LeavesNetworks) : after = before := by
  obtain ⟨call, answer⟩ := x
  cases call with
  | createNetwork => exact hx.elim
  | removeNetwork => exact hx.elim
  | findNetworks name =>
      cases answer with
      | ok ids => exact h.1
      | error error => exact h
  | _ => exact h

/-- A network that exists after a call has one of the names, or it was there before. This is the
step for what a failed creation leaves behind. -/
theorem Tracked.leftover {x : Exchange Service.interface} (h : before.Tracked x after)
    (hx : x.call.MakesOnly fqdns networks) {id name : String} (hid : after id = some name) :
    name ∈ networks ∨ before id = some name := by
  obtain ⟨call, answer⟩ := x
  cases call with
  | createNetwork wanted subnet labels =>
      -- What is made has its name, also when the engine reports a failure.
      have hmade : ∀ made, after = Function.update before made (some wanted) →
          name ∈ networks ∨ before id = some name := by
        rintro made rfl
        rcases eq_or_of_update hid with heq | ⟨hbefore, -⟩
        · cases heq
          exact Or.inl hx
        · exact Or.inr hbefore
      cases answer with
      | ok made => exact hmade made h
      | error error =>
          rcases h with rfl | ⟨made, h⟩
          · exact Or.inr hid
          · exact hmade made h
  | removeNetwork gone =>
      have hkept : after = before ∨ after = Function.update before gone none := by
        cases answer with
        | ok value => exact Or.inr h
        | error error => exact h
      rcases hkept with rfl | rfl
      · exact Or.inr hid
      · rcases eq_or_of_update hid with heq | ⟨hbefore, -⟩
        · cases heq
        · exact Or.inr hbefore
  | _ =>
      rw [h.eq_of_leaves trivial] at hid
      exact Or.inr hid

/-- After calls that ask for networks of the names only, a network has one of the names or was
there before. -/
theorem leftover (h : Replays Tracked before log after)
    (hlog : ∀ x ∈ log, x.call.MakesOnly fqdns networks) {id name : String}
    (hid : after id = some name) : name ∈ networks ∨ before id = some name := by
  induction h with
  | nil => exact Or.inr hid
  | cons first _ ih =>
      rcases ih (fun x hx => hlog x (List.mem_cons_of_mem _ hx)) hid with hname | hbetween
      · exact Or.inl hname
      · exact first.leftover (hlog _ List.mem_cons_self) hbetween

end Networks

namespace Provider.Network

variable {owner : String} {r : Resource}

/-- Destroying a network looks for networks and removes them, and does nothing else. The
containers on them are not looked at. -/
theorem asks_destroy (r : Resource) :
    Action.Asks (fun call => call = .findNetworks r.name ∨ ∃ id, call = .removeNetwork id)
      (destroy r) := by
  refine Action.asks_bind (Action.asks_within (Program.asks_perform (Or.inl rfl))) fun ids => ?_
  induction ids with
  | nil => exact Action.asks_pure ()
  | cons id ids ih =>
      refine Action.asks_bind ?_ fun _ => ih
      refine Action.asks_tryCatch (Program.asks_perform (Or.inr ⟨id, rfl⟩)) fun error => ?_
      split
      · exact Action.asks_pure ()
      · exact Action.asks_throw _

variable {before after : Networks}

/-- A search leaves the networks alone, and reports those of the name. The engine is asked for a
part of the name, and what does not have the whole of it is dropped. -/
theorem lookup_runs {result : Except Error (List String)}
    (h : Runs Networks.Tracked (lookup r) before result after) :
    after = before ∧ ∀ ids, result = .ok ids → ∀ id, id ∈ ids ↔ before id = some r.name := by
  obtain ⟨outcome, hfind, rfl⟩ := h.of_within
  have hfound := hfind.of_single (x := ⟨.findNetworks r.name, outcome⟩)
    fun log => Program.yields_perform_iff.mp
  cases outcome with
  | error error => exact ⟨hfound, nofun⟩
  | ok ids =>
      refine ⟨hfound.1, fun found heq => ?_⟩
      cases heq
      exact hfound.2

/-- A removal concerns the one network, also when it fails. What has become of that network then
is not known. -/
theorem remove_runs {id : String} {result : Except Error Unit}
    (h : Runs Networks.Tracked (remove owner id) before result after) :
    ∀ other, other ≠ id → after other = before other := by
  intro other hother
  rcases h.of_tryCatch with ⟨value, hremoved, rfl⟩ | ⟨error, between, hrefused, hrest⟩
  · have hgone := hremoved.of_single (x := ⟨.removeNetwork id, .ok value⟩)
      fun log => Program.yields_perform_iff.mp
    obtain rfl : after = Function.update before id none := hgone
    exact Function.update_of_ne hother _ _
  · have hone := hrefused.of_single (x := ⟨.removeNetwork id, .error error⟩)
      fun log => Program.yields_perform_iff.mp
    -- Whether the failure goes on or not, nothing else is done.
    have hkept : after = between := by
      split at hrest
      · exact hrest.of_pure.2
      · exact hrest.of_throw.2
    subst hkept
    rcases hone with rfl | rfl
    · rfl
    · exact Function.update_of_ne hother _ _

/-- Networks that are not on the list stay, whatever is refused and wherever the removal ends. By
induction on the list. -/
theorem removeEach_runs {ids : List String} {result : Except Error Unit}
    (h : Runs Networks.Tracked (removeEach owner ids) before result after) :
    ∀ id, id ∉ ids → after id = before id := by
  induction ids generalizing before with
  | nil =>
      obtain ⟨-, rfl⟩ := h.of_pure
      exact fun _ _ => rfl
  | cons gone ids ih =>
      intro id hid
      rcases h.of_bind with ⟨error, hfirst, rfl⟩ | ⟨_, between, hfirst, hrest⟩
      · exact remove_runs hfirst id (List.ne_of_not_mem_cons hid)
      · rw [ih hrest id (List.not_mem_of_not_mem_cons hid)]
        exact remove_runs hfirst id (List.ne_of_not_mem_cons hid)

/-- Whatever is refused, the networks of other names stay. Networks of the same name are removed,
whoever made them. -/
theorem destroy_runs {result : Except Error Unit}
    (h : Runs Networks.Tracked (destroy r) before result after) {id name : String}
    (hid : before id = some name) (hname : name ≠ r.name) : after id = some name := by
  rcases h.of_bind with ⟨error, hsearch, -⟩ | ⟨ids, between, hsearch, hremoval⟩
  · rw [(lookup_runs hsearch).1, hid]
  obtain ⟨rfl, hids⟩ := lookup_runs hsearch
  rw [removeEach_runs hremoval id ?_, hid]
  intro hmem
  exact hname (Option.some.inj (hid.symm.trans ((hids ids rfl id).mp hmem)))

end Provider.Network

end Moorage
