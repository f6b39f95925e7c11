import Moorage.Proofs.Container.Blueprint
import Moorage.Proofs.Container.Engine

/-!
# `Moorage.Proofs.Container.Labels`: containers are found again by their labels

A container is looked for by the name that it carries in a label. `Containers.Tracked` is what
an engine promises when it finds its containers: it answers a search with those that exist and
carry the name, and otherwise only the calls that make and remove containers change which
exist. A call that failed may have been carried out all the same. The containers of this view
are those made by such calls; a container that the engine makes for its own use carries no
label and does not count.

* `Call.MakesOnly`: what is asked for is a container under one of the given names, or a network
  under one of others.
* `leftover`: after calls that ask for containers of the given names only, every container
  carries one of them or was there before.
-/

set_option autoImplicit false

namespace Moorage

open Service (Call)
open Exchange (Replays)

/-- The name in the label of a container. Containers are found by it, whatever they are called
otherwise. -/
def Blueprint.fqdn? (b : Blueprint) : Option String := b.labels.lookup Naming.labelFqdn

/-- The container carries one of the names. A provider's removal is about the containers of which
this is so. -/
def Blueprint.CarriesOneOf (fqdns : List String) (b : Blueprint) : Prop :=
  ∃ fqdn ∈ fqdns, b.fqdn? = some fqdn

/-- A key is looked up from the front: the first entry with it counts. A map of labels has each
key once. -/
theorem TextMap.lookup_cons (key value other : String) (map : TextMap) :
    List.lookup other ((key, value) :: map) = if other = key then some value else map.lookup other := by
  by_cases h : other = key
  · simp [h]
  · simp [List.lookup_cons, beq_false_of_ne h, h]

/-- What was inserted is found under its key, and the rest of the map as before. So the label that
is set last is the one that counts. -/
theorem TextMap.lookup_insert (key value other : String) (map : TextMap) :
    (map.insert key value).lookup other = if other = key then some value else map.lookup other := by
  induction map with
  | nil => exact lookup_cons key value other []
  | cons pair rest ih =>
      obtain ⟨k, v⟩ := pair
      -- The entry goes in front of the first one with a larger key, or replaces the one with its
      -- key.
      unfold insert
      split
      · exact lookup_cons key value other ((k, v) :: rest)
      split
      case isTrue heq =>
        rw [lookup_cons, lookup_cons, heq]
        split <;> rfl
      case isFalse hne =>
        rw [lookup_cons, lookup_cons, ih]
        by_cases h : other = k
        · simp [h, Ne.symm hne]
        · simp [h]

/-- The label of a container repeats its name. So a container is found under the name that it was
created with. -/
theorem Blueprint.fqdn?_eq {c : Container} {b : Blueprint} (h : ofContainer c = .ok b) :
    b.fqdn? = some c.fqdn := by
  have hlabels : b.labels = labelsOf c := by
    obtain ⟨publications, mounts, -, -, rfl⟩ := ofContainer_eq_ok_iff.mp h
    rfl
  -- The other two labels have keys of their own.
  have hname : Naming.labelFqdn ≠ Naming.labelName := by decide
  have htype : Naming.labelFqdn ≠ Naming.labelType := by decide
  simp [fqdn?, hlabels, labelsOf, TextMap.ofList, TextMap.lookup_insert, hname, htype]

/-- A container is asked for under one of the names `fqdns`, a network under one of the names
`networks`, or neither. -/
def Service.Call.MakesOnly (fqdns networks : List String) : Call → Prop
  | .createContainer _ blueprint => blueprint.CarriesOneOf fqdns
  | .createNetwork name _ _ => name ∈ networks
  | _ => True

/-- An object that exists after one was set is that one, or it was there before. It is used for
containers and for networks. -/
theorem eq_or_of_update {β : Type} {before : String → Option β} {made id : String}
    {value : Option β} {object : β} (h : Function.update before made value id = some object) :
    value = some object ∨ before id = some object ∧ made ≠ id := by
  by_cases hid : id = made
  · subst hid
    rw [Function.update_self] at h
    exact Or.inl h
  · rw [Function.update_of_ne hid] at h
    exact Or.inr ⟨h, Ne.symm hid⟩

namespace Containers

/-- What an engine that finds its containers promises of an exchange: the containers
afterwards. -/
def Tracked (before : Containers) (x : Exchange Service.interface) (after : Containers) : Prop :=
  match x with
  | ⟨.createContainer _ blueprint, .ok id⟩ => after = Function.update before id (some blueprint)
  | ⟨.createContainer _ blueprint, .error _⟩ =>
      after = before ∨ ∃ id, after = Function.update before id (some blueprint)
  | ⟨.removeContainer id, .ok _⟩ => after = Function.update before id none
  | ⟨.removeContainer id, .error _⟩ => after = before ∨ after = Function.update before id none
  | ⟨.findContainers fqdn, .ok ids⟩ =>
      after = before ∧ ∀ id, id ∈ ids ↔ ∃ b, before id = some b ∧ b.fqdn? = some fqdn
  | _ => after = before

variable {fqdns networks : List String} {before after : Containers}

/-- A call that neither creates nor removes leaves the containers alone. Searches are of this
kind. -/
theorem Tracked.eq_of_quiet {x : Exchange Service.interface} (h : before.Tracked x after)
    (hquiet : x.Quiet) : after = before := by
  obtain ⟨call, answer⟩ := x
  cases call with
  | createContainer => exact hquiet.elim
  | removeContainer => exact hquiet.elim
  | findContainers fqdn =>
      cases answer with
      | ok ids => exact h.1
      | error error => exact h
  | _ => exact h

/-- A container that exists after a call carries one of the names, or the call left it alone. This
is the step for what a failed creation leaves behind. -/
theorem Tracked.leftover {x : Exchange Service.interface} (h : before.Tracked x after)
    (hx : x.call.MakesOnly fqdns networks) {id : String} {b : Blueprint} (hid : after id = some b) :
    b.CarriesOneOf fqdns ∨ before id = some b ∧ x.createdId? ≠ some id := by
  by_cases hquiet : x.Quiet
  · have hnone : x.createdId? ≠ some id := by simp [hquiet.createdId?_eq]
    rw [h.eq_of_quiet hquiet] at hid
    exact Or.inr ⟨hid, hnone⟩
  obtain ⟨call, answer⟩ := x
  cases call with
  | createContainer name blueprint =>
      -- What is made carries one of the names, also when the engine reports a failure.
      have hmade : ∀ made, after = Function.update before made (some blueprint) →
          b.CarriesOneOf fqdns ∨ before id = some b ∧ made ≠ id := by
        rintro made rfl
        refine (eq_or_of_update hid).imp_left fun heq => ?_
        cases heq
        exact hx
      cases answer with
      | ok made => simpa [Exchange.createdId?] using hmade made h
      | error error =>
          rcases h with rfl | ⟨made, h⟩
          · exact Or.inr ⟨hid, nofun⟩
          · exact (hmade made h).imp_right fun hbefore => ⟨hbefore.1, nofun⟩
  | removeContainer gone =>
      have hkept : after = before ∨ after = Function.update before gone none := by
        cases answer with
        | ok value => exact Or.inr h
        | error error => exact h
      rcases hkept with rfl | rfl
      · exact Or.inr ⟨hid, nofun⟩
      · rcases eq_or_of_update hid with heq | ⟨hbefore, -⟩
        · cases heq
        · exact Or.inr ⟨hbefore, nofun⟩
  | _ => exact (hquiet trivial).elim

/-- After calls that ask for containers of the names only, a container carries one of the names,
or it was there before and is not one of those that were made. -/
theorem leftover {log : Exchanges} (h : Replays Tracked before log after)
    (hlog : ∀ x ∈ log, x.call.MakesOnly fqdns networks) {id : String} {b : Blueprint}
    (hid : after id = some b) :
    b.CarriesOneOf fqdns ∨ before id = some b ∧ id ∉ Exchanges.createdIds log := by
  -- The containers in between are those after the first call and before the others.
  induction h with
  | nil m => exact Or.inr ⟨hid, by simp [Exchanges.createdIds]⟩
  | cons first _ ih =>
      rcases ih (fun x hx => hlog x (List.mem_cons_of_mem _ hx)) hid with hmarked | ⟨hbetween, hnew⟩
      · exact Or.inl hmarked
      · rcases first.leftover (hlog _ List.mem_cons_self) hbetween with hmarked | ⟨hbefore, hown⟩
        · exact Or.inl hmarked
        · refine Or.inr ⟨hbefore, ?_⟩
          simp only [Exchanges.createdIds, List.mem_filterMap, List.mem_cons] at hnew ⊢
          rintro ⟨x, rfl | hx, hcreated⟩
          · exact hown hcreated
          · exact hnew ⟨x, hx, hcreated⟩

end Containers

end Moorage
