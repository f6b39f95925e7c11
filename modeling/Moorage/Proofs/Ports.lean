import Mathlib.Data.List.Nodup
import Mathlib.Logic.Relation
import Moorage.Ports

/-!
# `Moorage.Proofs.Ports`: when a port is handed out again

All calls for ports draw their candidates from one counter of sixteen bits. `Step` lets the
calls of a process draw in any order, with any answers about who listens, so that a run of
steps is an interleaving at the granularity of the counter. A call that nobody disturbs is
one of them: `reachable_allocate`. A call for more ports than there is room for crashes before it
draws anything, and is left out of a run, which could have one at any time.

The counter leaves the range of the clusters after its last port, and from then on each call
that wants a port fails at its first candidate and moves the counter on by one. While the
calls that failed are no more than the values below the range, the counter has not come back
to its beginning, and no port is handed out twice. One failure more, and the first port is.

The invariant, `Process.Sound`, counts candidates and not ports. It says where the counter is after
so many draws, that those which were taken are different values behind the beginning, and that each
draw behind the range has cost a call: these are what the failures are compared with. A call that
has taken ports and fails gives them up, so what it held is out of the lists, and the values stay
behind the counter.

* `nodup_handedOut`: no port twice, for every interleaving.
* `handedOut_again`: the bound is sharp.
-/

set_option autoImplicit false

namespace Moorage.Ports

open Relation (ReflTransGen)

/-- A call for ports: its request, under way until it wants nothing more, or its failure. A
process has a list of these, in the order in which they began. -/
abbrev Call := Except Error Request

/-- The calls of a process, in the order in which they began, and the counter that they
share. -/
structure Process where
  next : UInt16 := first
  calls : List Call := []

/-- What happens in a process: a call begins, or one that wants more draws the next candidate,
on which somebody listens or nobody. -/
inductive Step : Process → Process → Prop
  | begins (s : Process) (count : Nat) :
      Step s { s with calls := s.calls ++ [.ok { wanted := count }] }
  | draws (next : UInt16) (before after : List Call) (r : Request) (isFree : Bool)
      (hwanted : r.wanted ≠ 0) :
      Step ⟨next, before ++ .ok r :: after⟩ ⟨next + 1, before ++ r.offer next isFree :: after⟩

/-- The states that a process comes to. Calls draw in any order, one candidate at a time. -/
def Reachable (s : Process) : Prop := ReflTransGen Step {} s

/-- What a call returns, once it is not under way any more. The ports come in the order in which
they were taken. -/
def result? : Call → Option (Except Error (List UInt16))
  | .ok r => if r.wanted = 0 then some (.ok r.taken.reverse) else none
  | .error e => some (.error e)

/-- The ports that a call has returned. One that is under way or has failed has returned none. -/
def returned (call : Call) : List UInt16 :=
  match result? call with
  | some (.ok ports) => ports
  | _ => []

/-- The ports that a call has taken, unless it failed. It is the invariant's view of a call, since
what is taken now may be returned later. -/
def held : Call → List UInt16
  | .ok r => r.taken
  | .error _ => []

/-- All ports that the calls have returned. They stand in the order of the calls, which is not
that of the draws. -/
def handedOut (calls : List Call) : List UInt16 := calls.flatMap returned

/-- All ports that the calls have returned or may still return. The invariant says of these that
none is there twice. -/
def allHeld (calls : List Call) : List UInt16 := calls.flatMap held

/-- The number of calls that have failed. Outside the range every draw is a failure, so their
number bounds how far the counter gets there. -/
def failures (calls : List Call) : Nat := calls.countP fun call => !call.isOk

/-! ### Candidates -/

/-- The range of the clusters, in numbers. The last port of all is not in it. -/
theorem inRange_iff {p : UInt16} :
    inRange p = true ↔ Naming.highPortStart ≤ p.toNat ∧ p.toNat < 65535 := by
  have hp := p.toNat_lt
  have hlast : p ≠ 65535 ↔ p.toNat ≠ 65535 := by
    rw [Ne, ← UInt16.toNat_inj]
    rfl
  have hfirst : first ≤ p ↔ Naming.highPortStart ≤ p.toNat := UInt16.le_iff_toNat_le
  rw [inRange, Bool.and_eq_true, decide_eq_true_iff, decide_eq_true_iff, hfirst, hlast]
  omega

/-- The counter moves up by one, and from its last value to zero. It is a number of sixteen bits. -/
theorem toNat_next (p : UInt16) : (p + 1).toNat = (p.toNat + 1) % 65536 := by
  rw [UInt16.toNat_add]
  rfl

/-- What becomes of a call with a candidate: it fails outside the range, and within it leaves
the candidate or takes it. -/
theorem offer_cases (r : Request) (candidate : UInt16) (isFree : Bool) :
    r.offer candidate isFree = .error exhausted ∨
    inRange candidate = true ∧
      (r.offer candidate isFree = .ok r ∨ r.offer candidate isFree =
        .ok { wanted := r.wanted - 1, taken := candidate :: r.taken }) := by
  unfold Request.offer
  cases inRange candidate <;> cases isFree <;> simp

/-! ### What is handed out -/

/-- A call returns what it has taken, in the order in which it was taken, or nothing yet. A failed
call is of the second kind for good. -/
theorem returned_eq (call : Call) : returned call = (held call).reverse ∨ returned call = [] := by
  cases call with
  | error e => exact Or.inr rfl
  | ok r =>
      by_cases hwanted : r.wanted = 0
      · exact Or.inl (by simp [returned, result?, held, hwanted])
      · exact Or.inr (by simp [returned, result?, hwanted])

/-- A call returns only what it has taken. So it is enough to bound what is held. -/
theorem returned_subset_held (call : Call) : returned call ⊆ held call := by
  rcases returned_eq call with h | h <;> simp [h]

/-- A call that holds no port twice returns none twice. -/
theorem nodup_returned {call : Call} (h : (held call).Nodup) : (returned call).Nodup := by
  rcases returned_eq call with heq | heq <;> simp [heq, h]

/-- What is handed out is not repeated when what is held is not. The first is a part of the
second, call by call. -/
theorem nodup_handedOut_of_allHeld {calls : List Call} (h : (allHeld calls).Nodup) :
    (handedOut calls).Nodup := by
  obtain ⟨heach, hapart⟩ := List.nodup_flatMap.mp h
  refine List.nodup_flatMap.mpr ⟨fun call hcall => nodup_returned (heach call hcall), ?_⟩
  refine hapart.imp fun {a b} hab => ?_
  exact List.disjoint_of_subset_left (returned_subset_held a)
    (List.disjoint_of_subset_right (returned_subset_held b) hab)

/-- What is held by one of the calls stands between what is held by the others. A step changes one
call, and this shows where. -/
theorem allHeld_append_cons (before after : List Call) (call : Call) :
    allHeld (before ++ call :: after) = allHeld before ++ (held call ++ allHeld after) := by
  simp [allHeld]

/-- One of the calls adds a failure or not, wherever it stands. It is the count for the same view
of a step. -/
theorem failures_append_cons (before after : List Call) (call : Call) :
    failures (before ++ call :: after) =
      failures before + failures after + if call.isOk then 0 else 1 := by
  unfold failures
  rw [List.countP_append, List.countP_cons]
  cases call.isOk <;> simp [Nat.add_assoc]

/-- Calls that all failed are as many failures. -/
theorem failures_replicate (n : Nat) (e : Error) :
    failures (List.replicate n (.error e)) = n := by
  rw [failures, List.countP_replicate]
  exact if_pos rfl

/-- Beginning a call is no failure, and the call holds nothing yet. So this step keeps the
invariant as it is. -/
theorem failures_begin (calls : List Call) (r : Request) :
    failures (calls ++ [.ok r]) = failures calls := by
  rw [failures_append_cons]
  simp [failures, Except.isOk, Except.toBool]

/-- A call that begins holds nothing. -/
theorem allHeld_begin (calls : List Call) (count : Nat) :
    allHeld (calls ++ [.ok { wanted := count }]) = allHeld calls := by
  rw [allHeld_append_cons]
  simp [allHeld, held]

/-- No step takes a failure back. So a bound on the failures at the end is one all along the run. -/
theorem failures_le_of_step {s t : Process} (h : Step s t) :
    failures s.calls ≤ failures t.calls := by
  cases h with
  | begins s count => exact Nat.le_of_eq (failures_begin s.calls _).symm
  | draws next before after r isFree hwanted =>
      rw [failures_append_cons, failures_append_cons]
      exact Nat.add_le_add_left (Nat.zero_le _) _

/-! ### Runs -/

/-- What holds after `drawn` candidates while the counter has not come back to its beginning:
they were the values from there on, those that are held are different ones of them, and each
that lay behind the range made a call fail. -/
structure Process.Sound (s : Process) (drawn : Nat) : Prop where
  next_eq : s.next.toNat = (Naming.highPortStart + drawn) % 65536
  drawn_le : Naming.highPortStart + drawn ≤ 65535 + failures s.calls
  nodup : (allHeld s.calls).Nodup
  held_lt : ∀ p ∈ allHeld s.calls, p.toNat < Naming.highPortStart + drawn

namespace Process.Sound

variable {s t : Process} {drawn : Nat} {next : UInt16} {before after : List Call} {r : Request}

/-- One more draw moves the counter on by one, past its last value to zero. It keeps the part of
the invariant that is about the counter. -/
theorem toNat_next_eq (h : s.Sound drawn) :
    (s.next + 1).toNat = (Naming.highPortStart + (drawn + 1)) % 65536 := by
  rw [toNat_next, h.next_eq, Nat.mod_add_mod, Nat.add_assoc]

/-- A candidate in the range is the next one of it. With more failures than assumed here the
counter could have come round to the range again. -/
theorem next_eq_of_inRange (h : s.Sound drawn) (hfailures : failures s.calls ≤ Naming.highPortStart)
    (hrange : inRange s.next = true) :
    s.next.toNat = Naming.highPortStart + drawn ∧ Naming.highPortStart + drawn < 65535 := by
  obtain ⟨hlow, hhigh⟩ := inRange_iff.mp hrange
  have hnext := h.next_eq
  have hdrawn := h.drawn_le
  have hstart : Naming.highPortStart = 64000 := rfl
  omega

/-- A call that fails gives up what it has taken. The ports are free again, but the counter has
passed them. -/
theorem fail (h : Sound ⟨next, before ++ .ok r :: after⟩ drawn) (e : Error) :
    Sound ⟨next + 1, before ++ .error e :: after⟩ (drawn + 1) := by
  have hdrawn := h.drawn_le
  have hnodup := h.nodup
  have hlt := h.held_lt
  rw [failures_append_cons] at hdrawn
  rw [allHeld_append_cons] at hnodup hlt
  have hsub := (List.sublist_append_right (held (.ok r)) (allHeld after)).append_left
    (allHeld before)
  refine ⟨h.toNat_next_eq, ?_, ?_, ?_⟩
  · rw [failures_append_cons]
    simp [Except.isOk, Except.toBool] at hdrawn ⊢
    omega
  · rw [allHeld_append_cons]
    exact hnodup.sublist hsub
  · rw [allHeld_append_cons]
    exact fun p hp => Nat.lt_succ_of_lt (hlt p (hsub.subset hp))

/-- A call that leaves a candidate in the range stays as it is. The candidate is in use by someone
else, and is passed. -/
theorem leave (h : s.Sound drawn) (hport : Naming.highPortStart + drawn < 65535) :
    Sound ⟨s.next + 1, s.calls⟩ (drawn + 1) := by
  refine ⟨h.toNat_next_eq, ?_, h.nodup, fun p hp => Nat.lt_succ_of_lt (h.held_lt p hp)⟩
  exact Nat.le_add_right_of_le hport

/-- A call that takes the next port holds one that nobody holds. All that is held lies below the
counter. -/
theorem take (h : Sound ⟨next, before ++ .ok r :: after⟩ drawn)
    (hnext : next.toNat = Naming.highPortStart + drawn)
    (hport : Naming.highPortStart + drawn < 65535) (wanted : Nat) :
    Sound ⟨next + 1, before ++ .ok ⟨wanted, next :: r.taken⟩ :: after⟩ (drawn + 1) := by
  have hnodup := h.nodup
  have hlt := h.held_lt
  rw [allHeld_append_cons] at hnodup hlt
  have hperm : (allHeld (before ++ .ok ⟨wanted, next :: r.taken⟩ :: after)).Perm
      (next :: (allHeld before ++ (r.taken ++ allHeld after))) := by
    rw [allHeld_append_cons]
    exact List.perm_middle
  refine ⟨h.toNat_next_eq, Nat.le_add_right_of_le hport, ?_, fun p hp => ?_⟩
  · refine hperm.nodup_iff.mpr (List.nodup_cons.mpr ⟨fun hheld => ?_, hnodup⟩)
    exact absurd (hlt next hheld) (by rw [hnext]; exact Nat.lt_irrefl _)
  · rcases List.mem_cons.mp (hperm.mem_iff.mp hp) with rfl | hp
    · rw [hnext]
      exact Nat.lt_succ_self _
    · exact Nat.lt_succ_of_lt (hlt p hp)

/-- Each step keeps a process sound. There are a case for a call that begins, and one for each
outcome of a draw. -/
theorem step (h : s.Sound drawn) (hstep : Step s t)
    (hfailures : failures s.calls ≤ Naming.highPortStart) : ∃ drawn, t.Sound drawn := by
  cases hstep with
  | begins s count =>
      refine ⟨drawn, h.next_eq, ?_, ?_, ?_⟩
      · rw [failures_begin]
        exact h.drawn_le
      · rw [allHeld_begin]
        exact h.nodup
      · rw [allHeld_begin]
        exact h.held_lt
  | draws next before after r isFree hwanted =>
      refine ⟨drawn + 1, ?_⟩
      -- A draw outside the range is a failure. Within the range the candidate is the next port of
      -- it.
      rcases offer_cases r next isFree with hoffer | ⟨hrange, hoffer⟩
      · rw [hoffer]
        exact h.fail exhausted
      · obtain ⟨hnext, hport⟩ := h.next_eq_of_inRange hfailures hrange
        rcases hoffer with hoffer | hoffer <;> rw [hoffer]
        · exact h.leave hport
        · exact h.take hnext hport (r.wanted - 1)

end Process.Sound

/-- A process is sound while the calls that failed are no more than the values below the
range. -/
theorem Reachable.sound {s : Process} (h : Reachable s)
    (hfailures : failures s.calls ≤ Naming.highPortStart) : ∃ drawn, s.Sound drawn := by
  induction h with
  | refl => exact ⟨0, rfl, Nat.le_add_right_of_le (by decide), List.nodup_nil, by simp [allHeld]⟩
  | tail _ hstep ih =>
      have hbefore := Nat.le_trans (failures_le_of_step hstep) hfailures
      obtain ⟨drawn, hsound⟩ := ih hbefore
      exact hsound.step hstep hbefore

/-- No port is handed out twice, whatever the calls ask for, whoever listens and however the
calls are interleaved, as long as the calls that failed are no more than the values below the
range. -/
theorem nodup_handedOut {s : Process} (h : Reachable s)
    (hfailures : failures s.calls ≤ Naming.highPortStart) : (handedOut s.calls).Nodup := by
  obtain ⟨drawn, hsound⟩ := h.sound hfailures
  exact nodup_handedOut_of_allHeld hsound.nodup

/-- Two calls that draw in turn get different ports. The second gets one between the two of the
first. -/
theorem nodup_handedOut_two :
    Reachable ⟨first + 1 + 1 + 1, [.ok { wanted := 0, taken := [first + 1 + 1, first] },
      .ok { wanted := 0, taken := [first + 1] }]⟩ ∧
    (handedOut [.ok { wanted := 0, taken := [first + 1 + 1, first] },
      .ok { wanted := 0, taken := [first + 1] }]).Nodup := by
  have hbegin : Reachable ⟨first, [.ok { wanted := 2 }, .ok { wanted := 1 }]⟩ :=
    .tail (.single (.begins {} 2)) (.begins ⟨first, [.ok { wanted := 2 }]⟩ 1)
  have hfirst := hbegin.tail (.draws first [] [.ok ⟨1, []⟩] ⟨2, []⟩ true (by decide))
  have hsecond := hfirst.tail
    (.draws (first + 1) [.ok ⟨1, [first]⟩] [] ⟨1, []⟩ true (by decide))
  have hthird := hsecond.tail
    (.draws (first + 1 + 1) [] [.ok ⟨0, [first + 1]⟩] ⟨1, [first]⟩ true (by decide))
  exact ⟨hthird, nodup_handedOut hthird (by decide)⟩

/-! ### Calls that nobody disturbs -/

/-- A request that goes on alone is a run of steps. This ties the loop of the program to the steps
of the process. -/
theorem run_steps (isFree : UInt16 → Bool) (r : Request) (next : UInt16)
    (before after : List Call) : ∃ call, ReflTransGen Step ⟨next, before ++ .ok r :: after⟩
        ⟨(r.run isFree next).2, before ++ call :: after⟩ ∧
      result? call = some (r.run isFree next).1 := by
  fun_induction Request.run isFree r next with
  | case1 r next hwanted => exact ⟨.ok r, .refl, if_pos hwanted⟩
  | case2 r next hwanted hrange r' hoffer ih =>
      obtain ⟨call, hsteps, hresult⟩ := ih
      have hstep := Step.draws next before after r (isFree next) hwanted
      rw [hoffer] at hstep
      exact ⟨call, .head hstep hsteps, hresult⟩
  | case3 r next hwanted hrange e hoffer =>
      have hstep := Step.draws next before after r (isFree next) hwanted
      rw [hoffer] at hstep
      exact ⟨.error e, .single hstep, rfl⟩
  | case4 r next hwanted hrange =>
      have hstep := Step.draws next before after r (isFree next) hwanted
      rw [Request.offer, if_pos (by simpa using hrange)] at hstep
      exact ⟨.error exhausted, .single hstep, rfl⟩

/-- A whole call that goes on alone is a run of steps, and its result is that of `allocate`. The
other calls stay as they are. -/
theorem Reachable.allocate {s : Process} (h : Reachable s) (isFree : UInt16 → Bool) (count : Nat) :
    ∃ call, Reachable ⟨(allocate isFree count s.next).2, s.calls ++ [call]⟩ ∧
      result? call = some (allocate isFree count s.next).1 := by
  obtain ⟨call, hsteps, hresult⟩ := run_steps isFree { wanted := count } s.next s.calls []
  exact ⟨call, (h.tail (.begins s count)).trans hsteps, hresult⟩

/-- Moving the counter on by one and then on. For inductions that count the draws. -/
theorem next_add (p : UInt16) (n : Nat) : p + 1 + UInt16.ofNat n = p + UInt16.ofNat (n + 1) := by
  rw [UInt16.ofNat_add, UInt16.add_assoc, UInt16.add_comm 1]
  rfl

/-- When nobody listens anywhere, a request gets the next ports of the range. The range must have
as many left. -/
theorem run_free (wanted : Nat) (taken : List UInt16) (next : UInt16)
    (hlow : Naming.highPortStart ≤ next.toNat) (hhigh : next.toNat + wanted ≤ 65535) :
    Request.run (fun _ => true) ⟨wanted, taken⟩ next =
      (.ok (taken.reverse ++ (List.range wanted).map fun i => next + UInt16.ofNat i),
        next + UInt16.ofNat wanted) := by
  induction wanted generalizing taken next with
  | zero =>
      rw [Request.run, if_pos rfl]
      simp
  | succ wanted ih =>
      have hrange : inRange next = true := inRange_iff.mpr ⟨hlow, by omega⟩
      have hoffer : Request.offer ⟨wanted + 1, taken⟩ next true = .ok ⟨wanted, next :: taken⟩ := by
        simp [Request.offer, hrange]
      have hnext : (next + 1).toNat = next.toNat + 1 := by
        rw [toNat_next, Nat.mod_eq_of_lt (by omega)]
      rw [Request.run, if_neg (Nat.succ_ne_zero wanted), dif_pos hrange, hoffer]
      dsimp only
      rw [ih (next :: taken) (next + 1) (by omega) (by omega), next_add]
      simp [List.range_succ_eq_map, Function.comp_def, next_add]

/-- Calls outside the range fail one after another, and each moves the counter on by one. This is
how the counter gets back to the range in the end. -/
theorem refused_steps (n : Nat) (next : UInt16) (calls : List Call)
    (hrange : ∀ i < n, inRange (next + UInt16.ofNat i) = false) :
    ReflTransGen Step ⟨next, calls⟩
      ⟨next + UInt16.ofNat n, calls ++ List.replicate n (.error exhausted)⟩ := by
  induction n generalizing next calls with
  | zero => simpa using ReflTransGen.refl
  | succ n ih =>
      have hout : inRange next = false := by simpa using hrange 0 (Nat.succ_pos n)
      have hdraw := Step.draws next calls [] { wanted := 1 } true (by decide)
      rw [Request.offer, if_pos (by simp [hout])] at hdraw
      have hrest := ih (next + 1) (calls ++ [.error exhausted]) fun i hi => by
        rw [next_add]
        exact hrange (i + 1) (Nat.succ_lt_succ hi)
      rw [next_add, List.append_assoc, List.singleton_append, ← List.replicate_succ] at hrest
      exact .head (.begins ⟨next, calls⟩ 1) (.head hdraw hrest)

/-- No value between the end of the range and its beginning is in it. These are the last port of
all and, after it, the ports below the range. -/
theorem inRange_eq_false_of_behind {n : Nat} (hn : n ≤ Naming.highPortStart) :
    inRange (65535 + UInt16.ofNat n) = false := by
  have hstart : Naming.highPortStart = 64000 := rfl
  have hvalue : ((65535 : UInt16) + UInt16.ofNat n).toNat = (65535 + n) % 65536 := by
    rw [UInt16.toNat_add, UInt16.toNat_ofNat', Nat.add_mod_mod]
    rfl
  rw [← Bool.not_eq_true, inRange_iff, hvalue]
  omega

/-- A call that returned ports has not failed. For adding up the failures of a run. -/
theorem of_result?_eq_ok {call : Call} {ports : List UInt16}
    (h : result? call = some (.ok ports)) : call.isOk = true ∧ returned call = ports := by
  refine ⟨?_, by rw [returned, h]⟩
  cases call with
  | ok r => rfl
  | error e => cases h

/-- A call for all ports of the range is followed by as many that fail as there are values
outside it. The next call is then given the first port again. -/
theorem handedOut_again :
    ∃ s, Reachable s ∧ failures s.calls = Naming.highPortStart + 1 ∧
      ¬ (handedOut s.calls).Nodup := by
  obtain ⟨all, hall, hports⟩ := Reachable.allocate .refl (fun _ => true) 1535
  rw [allocate, run_free 1535 [] first (by decide) (by decide)] at hall hports
  have hrefused := refused_steps (Naming.highPortStart + 1) 65535 [all]
    fun n hn => inRange_eq_false_of_behind (Nat.le_of_lt_succ hn)
  obtain ⟨again, hagain, hport⟩ := Reachable.allocate (hall.trans hrefused) (fun _ => true) 1
  -- The counter is at its beginning again.
  rw [allocate, show (65535 : UInt16) + UInt16.ofNat (Naming.highPortStart + 1) = first from rfl,
    run_free 1 [] first (by decide) (by decide)] at hagain hport
  obtain ⟨hallOk, hallPorts⟩ := of_result?_eq_ok hports
  obtain ⟨hagainOk, hagainPort⟩ := of_result?_eq_ok hport
  refine ⟨_, hagain, ?_, fun hnodup => ?_⟩
  · change failures (([] ++ all :: List.replicate _ (.error exhausted)) ++ again :: []) = _
    rw [failures_append_cons, failures_append_cons, failures_replicate, if_pos hallOk,
      if_pos hagainOk]
    rfl
  · have hold : first ∈ returned all := by
      rw [hallPorts, List.reverse_nil, List.nil_append]
      exact List.mem_map.mpr ⟨0, List.mem_range.mpr (Nat.succ_pos _), rfl⟩
    have hnew : first ∈ returned again := by
      rw [hagainPort]
      exact List.mem_cons_self
    simp only [handedOut, List.flatMap_append, List.flatMap_singleton, List.nodup_append,
      List.mem_append] at hnodup
    exact hnodup.2.2 first (Or.inl hold) first hnew rfl

end Moorage.Ports
