import Moorage.Program

/-!
# `Moorage.Proofs.Program`: running programs

The result of a program in surroundings that answer from a state. A run is told by a function from
a call and a state to an answer and the next state, so that every engine, file system and clock is
one of them, and a statement for all such functions holds whatever the surroundings do. `run_bind`
takes a program apart where one part hands its result to the next.
-/

set_option autoImplicit false

namespace Moorage.Program

variable {I : Interface} {σ α β : Type} (answer : (call : I.Call) → σ → I.Answer call × σ)

/-- The second part runs with the result of the first, and in the state that it left. The state is
that of the surroundings, which go on answering from where they are. -/
@[simp]
theorem run_bind (program : Program I α) (next : α → Program I β) (s : σ) :
    (program >>= next).run answer s
      = (next (program.run answer s).1).run answer (program.run answer s).2 := by
  induction program generalizing s with
  | done value => rfl
  | ask call rest ih => exact ih _ _

end Moorage.Program
