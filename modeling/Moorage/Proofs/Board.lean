import Moorage.Board

/-!
# `Moorage.Proofs.Board`: reading a board that was written

The board has a standing for each resource of a graph, by its position: a status, and the children
that were noted while the resource was created. A write changes the standing of one resource, and a
board keeps its length. `status_setStatus` says what is read after a status was written; children
have no part in statuses (`status_addChild`, `status_retireChildren`).

A position beyond the board is pending, and a write to it is lost. No
walk writes there, but the laws would be no simpler if that were assumed.
-/

set_option autoImplicit false

namespace Moorage.Board

/-- A board has as many standings as there are resources. -/
@[simp]
theorem length_ofResources (resources : List Resource) :
    (ofResources resources).standings.length = resources.length :=
  List.length_map _

/-- A change keeps all standings there, and no more. -/
@[simp]
theorem length_change (b : Board) (p : Nat) (f : Standing → Standing) :
    (b.change p f).standings.length = b.standings.length := by
  simp [change]

/-- A resource that a board knows nothing of is pending, which is the status of one that has not
been looked at. -/
theorem status_of_length_le {b : Board} {p : Nat} (hp : b.standings.length ≤ p) :
    b.status p = .pending := by
  unfold status standing
  rw [List.getD_eq_getElem?_getD, List.getElem?_eq_none hp]
  rfl

/-- A change of one resource shows in its own standing only. Beyond the board there is nothing to
be changed, which is what the second condition says. -/
theorem standing_change (b : Board) (p q : Nat) (f : Standing → Standing) :
    (b.change p f).standing q
      = if q = p ∧ q < b.standings.length then f (b.standing q) else b.standing q := by
  simp only [standing, change, List.getD_eq_getElem?_getD, List.getElem?_modify]
  by_cases hqp : p = q
  · subst hqp
    by_cases hlt : p < b.standings.length
    · simp [hlt]
    · simp [hlt]
  · rw [if_neg fun h => hqp h.1.symm]
    simp [hqp]

/-- The status that was written is read again, and every other one is as before. The position has
to be one of the board. -/
theorem status_setStatus {b : Board} {p : Nat} (hp : p < b.standings.length) (q : Nat)
    (s : Status) : (b.setStatus p s).status q = if q = p then s else b.status q := by
  simp only [status, setStatus, standing_change]
  by_cases hqp : q = p
  · subst hqp
    simp [hp]
  · simp [hqp]

/-- A change that keeps the status of one resource keeps all of them. For changes that are about
children. -/
theorem status_change_of_keeps (b : Board) (p q : Nat) {f : Standing → Standing}
    (hf : ∀ s, (f s).status = s.status) : (b.change p f).status q = b.status q := by
  simp only [status, standing_change]
  split
  · exact hf _
  · rfl

/-- A child that is noted is no change of a status, of its parent or of another resource. -/
@[simp]
theorem status_addChild (b : Board) (p q : Nat) (child : Resource) :
    (b.addChild p child).status q = b.status q :=
  status_change_of_keeps b p q fun _ => rfl

/-- Children that are taken off the board leave the statuses as they were. -/
@[simp]
theorem status_retireChildren (b : Board) (p q : Nat) :
    (b.retireChildren p).status q = b.status q :=
  status_change_of_keeps b p q fun _ => rfl

/-- A status that is written keeps the board's length. -/
@[simp]
theorem length_setStatus (b : Board) (p : Nat) (s : Status) :
    (b.setStatus p s).standings.length = b.standings.length :=
  length_change b p _

/-- A child that is noted keeps the board's length. -/
@[simp]
theorem length_addChild (b : Board) (p : Nat) (child : Resource) :
    (b.addChild p child).standings.length = b.standings.length :=
  length_change b p _

/-- Children that are taken off keep the board's length. -/
@[simp]
theorem length_retireChildren (b : Board) (p : Nat) :
    (b.retireChildren p).standings.length = b.standings.length :=
  length_change b p _

end Moorage.Board
