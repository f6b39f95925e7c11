import Moorage.Error
import Moorage.Naming

/-!
# `Moorage.Ports`: host ports for clusters

A counter of sixteen bits hands out candidates; it only moves up, and past its
last value it starts at zero again. A port below the range of the clusters, or
the last port of all, is never handed out.

* `Request.offer`: what a request does with one candidate.
* `allocate`: the draws of a whole request, on a counter that nobody else uses.
* `serve`: the same, with the room for its ports.
-/

set_option autoImplicit false

namespace Moorage.Ports

/-- The first port that clusters are given. -/
def first : UInt16 := UInt16.ofNat Naming.highPortStart

/-- Whether a candidate lies in the range of the clusters. -/
def inRange (candidate : UInt16) : Bool := first ≤ candidate && candidate ≠ 65535

/-- Why a request fails. -/
def exhausted : Error := .config (.portsExhausted Naming.highPortStart)

/-- A request under way: how many ports are still wanted, and the ports that were
taken, the newest first. -/
structure Request where
  wanted : Nat
  taken : List UInt16 := []
  deriving DecidableEq, Repr

/-- The request after the counter's next candidate, which is taken if nobody
listens on it. -/
def Request.offer (r : Request) (candidate : UInt16) (isFree : Bool) : Except Error Request :=
  if !inRange candidate then .error exhausted
  else if isFree then .ok { wanted := r.wanted - 1, taken := candidate :: r.taken }
  else .ok r

/-- The ports of a request that starts with the counter at `next`, and the
counter afterwards. -/
def Request.run (isFree : UInt16 → Bool) (r : Request) (next : UInt16) :
    Except Error (List UInt16) × UInt16 :=
  if r.wanted = 0 then (.ok r.taken.reverse, next)
  else if _h : inRange next then
    match r.offer next (isFree next) with
    | .ok r => r.run isFree (next + 1)
    | .error e => (.error e, next + 1)
  else (.error exhausted, next + 1)
termination_by 65535 - next.toNat
decreasing_by
  simp only [inRange, Bool.and_eq_true, decide_eq_true_eq, ne_eq] at _h
  have hlt : next.toNat < 65535 := by
    have h1 : next.toNat ≠ 65535 := fun h => _h.2 (UInt16.toNat_inj.mp (by simpa using h))
    have h2 := next.toNat_lt
    omega
  have : (next + 1).toNat = next.toNat + 1 := by
    rw [UInt16.toNat_add]
    simp
    omega
  omega

/-- The first `count` free ports from the counter on, and the counter
afterwards. The room for the ports is taken to be there. -/
def allocate (isFree : UInt16 → Bool) (count : Nat) (next : UInt16) :
    Except Error (List UInt16) × UInt16 :=
  Request.run isFree { wanted := count } next

/-- Whether a list can hold so many ports. A port takes two bytes, and no list is
longer than a signed number of 64 bits can say. The memory of the machine is taken
to last for all lists up to that. -/
def hasRoom (count : Nat) : Bool := 2 * count < Nat.pow 2 63

/-- What a call for `count` ports comes to, and the counter afterwards. The room for
all ports is made before the first candidate is drawn, so a call for more ports than
a list can hold crashes, in the words given, with the counter where it was. -/
def serve (isFree : UInt16 → Bool) (count : Nat) (next : UInt16) :
    Except String (Except Error (List UInt16)) × UInt16 :=
  if hasRoom count then
    let (outcome, next) := allocate isFree count next
    (.ok outcome, next)
  else (.error "capacity overflow", next)

end Moorage.Ports
