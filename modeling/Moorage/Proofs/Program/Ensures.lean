import Moorage.Proofs.Program.Exchange

/-!
# `Moorage.Proofs.Program.Ensures`: what programs come to

`Program.Ensures ok post` says that a program only comes to results with `post`, as long as the
answers that it gets are such that `ok` holds of the exchanges. It is a recursion over the program:
a call that may be answered in ways that `ok` excludes need not be followed there. What is to be
shown of a program follows its text, since there is a law for each way of putting programs
together, and one for programs whose calls are carried out by others, `Ensures.interpret`.

Nothing here depends on surroundings. `Ensures.run` is where they come in: it takes a property of
all answers to that of one run, for every state to answer from.
-/

set_option autoImplicit false

namespace Moorage.Program

variable {I J : Interface} {α β : Type} {ok : Exchange I → Prop} {post : α → Prop}

/-- Every result of the program satisfies `post`, when every exchange satisfies `ok`. A program
whose calls cannot be answered so satisfies everything, so `ok` has to hold of the answers there
are. -/
def Ensures (ok : Exchange I → Prop) (post : α → Prop) : Program I α → Prop
  | done value => post value
  | ask call next => ∀ answer, ok ⟨call, answer⟩ → (next answer).Ensures ok post

/-- A program comes to some result. For parts of which nothing has to be known. -/
theorem ensures_true (program : Program I α) : program.Ensures ok fun _ => True := by
  induction program with
  | done value => trivial
  | ask call next ih => exact fun answer _ => ih answer

/-- A program that comes to results with `post` comes to results with whatever follows from it.
The exchanges that are assumed to satisfy `ok` stay the same. -/
theorem Ensures.mono {after : α → Prop} {program : Program I α} (h : program.Ensures ok post)
    (hpost : ∀ value, post value → after value) : program.Ensures ok after := by
  induction program with
  | done value => exact hpost value h
  | ask call next ih => exact fun answer hanswer => ih answer (h answer hanswer)

/-- What the first part ensures, the second one may rely on. Both are under the same `ok`, since
it is a property of single exchanges and not of where they stand. -/
theorem ensures_bind {after : β → Prop} {program : Program I α} {next : α → Program I β}
    (h : program.Ensures ok post) (hnext : ∀ value, post value → (next value).Ensures ok after) :
    (program >>= next).Ensures ok after := by
  induction program with
  | done value => exact hnext value h
  | ask call rest ih => exact fun answer hanswer => ih answer (h answer hanswer)

/-- Surroundings whose answers are as they should be give a result as it should be. The property
of the answers is asked in every state, also in those that the run does not get to. -/
theorem Ensures.run {program : Program I α} (h : program.Ensures ok post) {σ : Type}
    {answer : (call : I.Call) → σ → I.Answer call × σ}
    (hanswer : ∀ call s, ok ⟨call, (answer call s).1⟩) (s : σ) :
    post (program.run answer s).1 := by
  induction program generalizing s with
  | done value => exact h
  | ask call next ih => exact ih _ (h _ (hanswer call s)) _

/-- A program ensures the same when those that carry out its calls ensure that the answers are as
it needs them. -/
theorem Ensures.interpret {served : Exchange J → Prop} {program : Program I α}
    (h : program.Ensures ok post) {handler : (call : I.Call) → Program J (I.Answer call)}
    (hhandler : ∀ call, (handler call).Ensures served fun answer => ok ⟨call, answer⟩) :
    (program.interpret handler).Ensures served post := by
  induction program with
  | done value => exact h
  | ask call next ih =>
      exact ensures_bind (hhandler call) fun answer hanswer => ih answer (h answer hanswer)

end Moorage.Program
