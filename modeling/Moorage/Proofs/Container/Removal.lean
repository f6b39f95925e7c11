import Moorage.Container.Lifecycle
import Moorage.Proofs.Container.Labels
import Moorage.Proofs.Program.Calls

/-!
# `Moorage.Proofs.Container.Removal`: removing containers by their names

Containers are removed after all of their names were looked up. On an engine that finds its
containers none is gone that carries none of the names, whatever is refused; and when nothing is
refused, none is left that carries one of them.

An engine finds its containers when it answers a search with those that carry the name on their
label, `Containers.Tracked`. Without this a search could return any container, and that one would be
removed. A removal that was granted has removed what it was asked to, and of one that failed nothing
is known but that no other container went with it.

Whether anything is refused is told by the exchanges, `Granted`. The lemmas have two parts, of which
one holds whatever is refused.

* `asks_removeAll`: the calls that this takes.
* `removeAll_tracked`, `removeAll_granted`: what is left.
-/

set_option autoImplicit false

namespace Moorage

open Exchange (Replays)
open Service (Call)

namespace Container

/-- The call looks for a container of one of the names, or removes a container. A removal that is
asked for by its identity does not say which name it belongs to. -/
def RemovalOf (fqdns : List String) (call : Call) : Prop :=
  (∃ fqdn ∈ fqdns, call = .findContainers fqdn) ∨ ∃ id, call = .removeContainer id

/-- A removal is one call, and a failure of it is passed over or passed on. Nothing is asked after
it. -/
theorem asks_remove {fqdns : List String} (id : String) :
    Action.Asks (RemovalOf fqdns) (remove id) := by
  refine Action.asks_tryCatch (Program.asks_perform (Or.inr ⟨id, rfl⟩)) fun error => ?_
  split
  · exact Action.asks_pure ()
  · exact Action.asks_throw error

/-- Removing containers asks for removals only. Their number does not matter. -/
theorem asks_removeEach {fqdns : List String} (owner : String) (ids : List String) :
    Action.Asks (RemovalOf fqdns) (removeEach owner ids) := by
  induction ids with
  | nil => exact Action.asks_pure ()
  | cons id ids ih => exact Action.asks_bind (Action.asks_within (asks_remove id)) fun _ => ih

/-- Names are looked up among those that were given, by searches only. The names that are searched
may be fewer, which the induction needs. -/
theorem asks_idsOfAll {fqdns searched : List String} (owner : String) (h : searched ⊆ fqdns) :
    Action.Asks (RemovalOf fqdns) (idsOfAll owner searched) := by
  induction searched with
  | nil => exact Action.asks_pure []
  | cons fqdn searched ih =>
      have hfqdn : RemovalOf fqdns (.findContainers fqdn) :=
        Or.inl ⟨fqdn, h List.mem_cons_self, rfl⟩
      refine Action.asks_bind (Action.asks_within (Program.asks_perform hfqdn)) fun ids => ?_
      refine Action.asks_bind (ih fun other hother => h (List.mem_cons_of_mem fqdn hother)) ?_
      exact fun more => Action.asks_pure (ids ++ more)

/-- Removing containers looks for the names and removes containers, and does nothing else. So no
network and no file can be touched by it. -/
theorem asks_removeAll (owner : String) (fqdns : List String) :
    Action.Asks (RemovalOf fqdns) (removeAll owner fqdns) :=
  Action.asks_bind (asks_idsOfAll owner (List.Subset.refl fqdns)) (asks_removeEach owner)

end Container

/-- The engine and the file system do what a destruction asks them for. A tree that is not there
need not be removed. -/
def Exchange.Granted (x : Exchange Service.interface) : Prop :=
  match x with
  | ⟨.findContainers _, .error _⟩ => False
  | ⟨.removeContainer _, .error _⟩ => False
  | ⟨.removeTree _, .error fault⟩ => fault = .missing
  | _ => True

/-- What an engine promises that finds its containers and refuses nothing. The first part is a
promise, and the second is how things went. -/
def Containers.TrackedGranted (before : Containers) (x : Exchange Service.interface)
    (after : Containers) : Prop :=
  before.Tracked x after ∧ x.Granted

namespace Container

/-! ### What is looked for and what is removed

Each lemma speaks of an engine that finds its containers: whatever is refused, the containers
that were not looked for stay. Its last part adds what holds when nothing is refused. -/

variable {owner : String} {before after : Containers}
  {effect : Containers → Exchange Service.interface → Containers → Prop}
  (htracked : ∀ {before x after}, effect before x after → Containers.Tracked before x after)

include htracked

/-- A search leaves the containers alone, and finds those that carry the name. Unless it is
refused, it has a result. -/
theorem idsOf_runs {fqdn : String} {result : Except Error (List String)}
    (h : Action.Runs effect (idsOf owner fqdn) before result after) :
    after = before ∧
    (∀ ids, result = .ok ids → ∀ id, id ∈ ids ↔ ∃ b, before id = some b ∧ b.fqdn? = some fqdn) ∧
    ((∀ {before x after}, effect before x after → x.Granted) → ∃ ids, result = .ok ids) := by
  obtain ⟨outcome, hfind, rfl⟩ := h.of_within
  have hone := hfind.of_single fun log => Action.yields_findContainers_iff.mp
  have hfound := htracked hone
  cases outcome with
  | error error => exact ⟨hfound, nofun, fun hgranted => (hgranted hone).elim⟩
  | ok ids =>
      refine ⟨hfound.1, fun found heq => ?_, fun _ => ⟨ids, rfl⟩⟩
      cases heq
      exact hfound.2

/-- Looking names up changes nothing, and finds the containers that carry one of them. It ends
with a result when nothing is refused. -/
theorem idsOfAll_runs {fqdns : List String} {result : Except Error (List String)}
    (h : Action.Runs effect (idsOfAll owner fqdns) before result after) :
    after = before ∧
    (∀ ids, result = .ok ids → ∀ id, id ∈ ids ↔ ∃ b, before id = some b ∧ b.CarriesOneOf fqdns) ∧
    ((∀ {before x after}, effect before x after → x.Granted) → ∃ ids, result = .ok ids) := by
  -- A search leaves the containers alone, so all of them look at the same ones.
  induction fqdns generalizing result before after with
  | nil =>
      obtain ⟨rfl, rfl⟩ := h.of_pure
      refine ⟨rfl, fun ids heq => ?_, fun _ => ⟨[], rfl⟩⟩
      cases heq
      simp [Blueprint.CarriesOneOf]
  | cons fqdn fqdns ih =>
      rcases h.of_bind with ⟨error, hfirst, rfl⟩ | ⟨ids, between, hfirst, hrest⟩
      · obtain ⟨hkept, -, hok⟩ := idsOf_runs htracked hfirst
        exact ⟨hkept, nofun, fun hgranted => (hok hgranted).imp nofun⟩
      obtain ⟨rfl, hids, -⟩ := idsOf_runs htracked hfirst
      rcases hrest.of_bind with ⟨error, hmore, rfl⟩ | ⟨more, last, hmore, hdone⟩
      · obtain ⟨hkept, -, hok⟩ := ih hmore
        exact ⟨hkept, nofun, fun hgranted => (hok hgranted).imp nofun⟩
      obtain ⟨rfl, hothers, -⟩ := ih hmore
      obtain ⟨rfl, rfl⟩ := hdone.of_pure
      refine ⟨rfl, fun found heq id => ?_, fun _ => ⟨_, rfl⟩⟩
      cases heq
      simp only [List.mem_append, hids ids rfl, hothers more rfl, Blueprint.CarriesOneOf,
        List.mem_cons, exists_eq_or_imp, and_or_left, exists_or]

/-- A removal concerns the one container, which is gone when nothing is refused. What a refused
removal has done to it is not known. -/
theorem remove_runs {id : String} {result : Except Error Unit}
    (h : Action.Runs effect (remove id) before result after) :
    (∀ other, other ≠ id → after other = before other) ∧
    ((∀ {before x after}, effect before x after → x.Granted) →
      result = .ok () ∧ after id = none) := by
  rcases h.of_tryCatch with ⟨value, hremoved, rfl⟩ | ⟨error, between, hrefused, hrest⟩
  · have hgone := htracked (hremoved.of_single fun log => Action.yields_removeContainer_iff.mp)
    obtain rfl : after = Function.update before id none := hgone
    exact ⟨fun other hother => Function.update_of_ne hother _ _,
      fun _ => ⟨rfl, Function.update_self _ _ _⟩⟩
  · -- A failed removal may have been carried out. A container that is gone already is answered
    -- with a failure, too, which is not granted.
    have hone := hrefused.of_single fun log => Action.yields_removeContainer_iff.mp
    have hkept : after = between := by
      split at hrest
      · exact hrest.of_pure.2
      · exact hrest.of_throw.2
    subst hkept
    refine ⟨fun other hother => ?_, fun hgranted => (hgranted hone).elim⟩
    rcases htracked hone with rfl | rfl
    · rfl
    · exact Function.update_of_ne hother _ _

/-- Containers that are not on the list stay, and when nothing is refused those on it are gone.
The list may name a container twice. -/
theorem removeEach_runs {ids : List String} {result : Except Error Unit}
    (h : Action.Runs effect (removeEach owner ids) before result after) :
    (∀ id, id ∉ ids → after id = before id) ∧
    ((∀ {before x after}, effect before x after → x.Granted) →
      result = .ok () ∧ ∀ id ∈ ids, after id = none) := by
  induction ids generalizing before with
  | nil =>
      obtain ⟨rfl, rfl⟩ := h.of_pure
      exact ⟨fun _ _ => rfl, fun _ => ⟨rfl, by simp⟩⟩
  | cons gone ids ih =>
      rcases h.of_bind with ⟨error, hfirst, rfl⟩ | ⟨_, between, hfirst, hrest⟩
      · obtain ⟨outcome, hremove, heq⟩ := hfirst.of_within
        obtain ⟨hothers, hgone⟩ := remove_runs htracked hremove
        refine ⟨fun id hid => hothers id (List.ne_of_not_mem_cons hid), fun hgranted => ?_⟩
        rw [(hgone hgranted).1] at heq
        cases heq
      obtain ⟨outcome, hremove, -⟩ := hfirst.of_within
      obtain ⟨hothers, hgone⟩ := remove_runs htracked hremove
      obtain ⟨hkept, hnone⟩ := ih hrest
      refine ⟨fun id hid => ?_, fun hgranted => ⟨(hnone hgranted).1, fun id hid => ?_⟩⟩
      · rw [hkept id (List.not_mem_of_not_mem_cons hid), hothers id (List.ne_of_not_mem_cons hid)]
      · -- A container that is named once more is removed then.
        by_cases hmem : id ∈ ids
        · exact (hnone hgranted).2 id hmem
        · obtain rfl := (List.mem_cons.mp hid).resolve_right hmem
          rw [hkept id hmem]
          exact (hgone hgranted).2

/-- Whatever is refused, the containers that carry none of the names stay. When nothing is, the
others are gone. -/
theorem removeAll_runs {fqdns : List String} {result : Except Error Unit}
    (h : Action.Runs effect (removeAll owner fqdns) before result after) :
    (∀ id b, before id = some b → ¬ b.CarriesOneOf fqdns → after id = some b) ∧
    ((∀ {before x after}, effect before x after → x.Granted) → result = .ok () ∧
      ∀ id b, after id = some b ↔ before id = some b ∧ ¬ b.CarriesOneOf fqdns) := by
  rcases h.of_bind with ⟨error, hlookup, rfl⟩ | ⟨ids, between, hlookup, hremoval⟩
  · obtain ⟨rfl, -, hok⟩ := idsOfAll_runs htracked hlookup
    exact ⟨fun _ _ hb _ => hb, fun hgranted => absurd (hok hgranted) (by simp)⟩
  obtain ⟨rfl, hids, -⟩ := idsOfAll_runs htracked hlookup
  obtain ⟨hkept, hgone⟩ := removeEach_runs htracked hremoval
  have hstays : ∀ id b, between id = some b → ¬ b.CarriesOneOf fqdns → after id = some b := by
    intro id b hb hnot
    rw [hkept id ?_, hb]
    intro hid
    obtain ⟨found, hfound, hcarries⟩ := (hids ids rfl id).mp hid
    obtain rfl : b = found := Option.some.inj (hb.symm.trans hfound)
    exact hnot hcarries
  refine ⟨hstays, fun hgranted => ⟨(hgone hgranted).1, fun id b => ⟨fun hb => ?_, ?_⟩⟩⟩
  · -- What is there afterwards was not found, so it is as before and carries no name.
    have hid : id ∉ ids := by
      intro hmem
      rw [(hgone hgranted).2 id hmem] at hb
      cases hb
    have hbefore : between id = some b := hkept id hid ▸ hb
    exact ⟨hbefore, fun hcarries => hid ((hids ids rfl id).mpr ⟨b, hbefore, hcarries⟩)⟩
  · rintro ⟨hb, hnot⟩
    exact hstays id b hb hnot

omit htracked

/-- Whatever is refused, the containers that carry none of the names stay. So a removal never
reaches the containers of others. -/
theorem removeAll_tracked {fqdns : List String} {result : Except Error Unit}
    (h : Action.Runs Containers.Tracked (removeAll owner fqdns) before result after) {id : String}
    {b : Blueprint} (hb : before id = some b) (hnot : ¬ b.CarriesOneOf fqdns) : after id = some b :=
  (removeAll_runs (fun hone => hone) h).1 id b hb hnot

/-- When nothing is refused, the containers that carry one of the names are gone afterwards, and
no others are. -/
theorem removeAll_granted {fqdns : List String} {result : Except Error Unit}
    (h : Action.Runs Containers.TrackedGranted (removeAll owner fqdns) before result after) :
    result = .ok () ∧ ∀ id b, after id = some b ↔ before id = some b ∧ ¬ b.CarriesOneOf fqdns :=
  (removeAll_runs And.left h).2 And.right

end Container

end Moorage
