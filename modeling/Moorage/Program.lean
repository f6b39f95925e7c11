/-!
# `Moorage.Program`: programs that ask their surroundings

A program is a value: it is done with a result, or it asks one question and goes
on with the answer. Nothing happens until something answers.

* `Interface`: the questions that a program may ask, and the types of the answers.
* `Program.interpret`: a program whose questions are answered by programs over
  another interface.
* `Program.run`: a program whose questions a state answers at once.
-/

set_option autoImplicit false

namespace Moorage

/-- The calls that a program may make, and the answer to each. -/
structure Interface where
  Call : Type
  Answer : Call → Type

/-- A program over an interface with a result of type `α`. -/
inductive Program (I : Interface) (α : Type) where
  | done (value : α)
  | ask (call : I.Call) (next : I.Answer call → Program I α)

namespace Program

variable {I J : Interface} {α β : Type}

/-- The first program, and then the one that its result leads to. -/
def bind (program : Program I α) (next : α → Program I β) : Program I β :=
  match program with
  | done value => next value
  | ask call rest => ask call fun answer => (rest answer).bind next

instance : Monad (Program I) where
  pure := done
  bind := bind

/-- The program that makes one call and returns the answer. -/
def perform (call : I.Call) : Program I (I.Answer call) := ask call done

/-- The program with every call carried out by a program over another interface. -/
def interpret (handler : (call : I.Call) → Program J (I.Answer call)) :
    Program I α → Program J α
  | done value => done value
  | ask call next => (handler call).bind fun answer => (next answer).interpret handler

/-- The result of a program in surroundings that answer every call from their
state, and the state afterwards. -/
def run {σ : Type} (answer : (call : I.Call) → σ → I.Answer call × σ) :
    Program I α → σ → α × σ
  | done value, state => (value, state)
  | ask call next, state =>
      let (reply, state) := answer call state
      (next reply).run answer state

end Program

end Moorage
