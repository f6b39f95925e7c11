import Moorage.Program

/-!
# `Moorage.Proofs.Program.Exchange`: what a program asks and what it is answered

A program decides which calls it makes from the answers to the earlier ones, so what it
does is told by the exchanges of a run, each a call with its answer. `Program.Yields` says
that a program makes the calls of a list of exchanges, when it is answered as the list
says, and comes to a result. It does not mention what the answers come from.

* `yields_trace`: a run in surroundings that answer from a state has such a list, whatever
  the surroundings are, so nothing is assumed where a theorem speaks of `Yields`.
* `yields_bind_iff`, `trace_bind`: the exchanges of two parts are those of the first and then
  those of the second.
* `replays_trace`: a view of the state follows the exchanges, when each answer does to the
  view what its call says.
* `exists_served_of_yields`: a program whose calls are carried out by others makes the
  exchanges of those.
-/

set_option autoImplicit false

namespace Moorage

/-- A call and the answer that it got. The type of the answer depends on the call, so a list of
exchanges is a full account of what was asked. -/
structure Exchange (I : Interface) where
  call : I.Call
  answer : I.Answer call

/-- The view on the state changes from exchange to exchange as the effect of each says. An effect
is a relation: surroundings may keep a promise in more than one way. -/
inductive Exchange.Replays {I : Interface} {μ : Type} (effect : μ → Exchange I → μ → Prop) :
    μ → List (Exchange I) → μ → Prop
  | nil (m : μ) : Replays effect m [] m
  | cons {before between after : μ} {x : Exchange I} {log : List (Exchange I)}
      (first : effect before x between) (rest : Replays effect between log after) :
      Replays effect before (x :: log) after

namespace Exchange

variable {I : Interface} {μ : Type} {effect : μ → Exchange I → μ → Prop}

/-- Nothing happens to the view of the surroundings where nothing is asked. -/
theorem replays_nil_iff {before after : μ} :
    Replays effect before [] after ↔ before = after := by
  constructor
  · intro h
    cases h
    rfl
  · rintro rfl
    exact .nil _

/-- The first exchange takes the view to a state in between, and the others go on from there. -/
theorem replays_cons_iff {before after : μ} {x : Exchange I} {log : List (Exchange I)} :
    Replays effect before (x :: log) after ↔
      ∃ between, effect before x between ∧ Replays effect between log after := by
  constructor
  · intro h
    cases h with
    | cons first rest => exact ⟨_, first, rest⟩
  · rintro ⟨_, first, rest⟩
    exact .cons first rest

/-- Exchanges in two parts go through a state in between, so that an invariant can be carried from
one part of a program to the next. -/
theorem replays_append_iff {before after : μ} {log log' : List (Exchange I)} :
    Replays effect before (log ++ log') after ↔
      ∃ between, Replays effect before log between ∧ Replays effect between log' after := by
  induction log generalizing before with
  | nil => simp [replays_nil_iff]
  | cons x log ih =>
      simp only [List.cons_append, replays_cons_iff, ih]
      constructor
      · rintro ⟨m, first, between, rest, last⟩
        exact ⟨between, ⟨m, first, rest⟩, last⟩
      · rintro ⟨between, ⟨m, first, rest⟩, last⟩
        exact ⟨m, first, between, rest, last⟩

/-- What holds of every exchange can be taken into its effect. Assumptions on the answers of a run
are added to a view in this way. -/
theorem Replays.and_forall {before after : μ} {log : List (Exchange I)} {P : Exchange I → Prop}
    (h : Replays effect before log after) (hP : ∀ x ∈ log, P x) :
    Replays (fun m x m' => effect m x m' ∧ P x) before log after := by
  induction h with
  | nil m => exact .nil m
  | cons first _ ih =>
      obtain ⟨hx, hrest⟩ := List.forall_mem_cons.mp hP
      exact .cons ⟨first, hx⟩ (ih hrest)

/-- A view of the view follows, when each exchange has on it the effect that is given. So what is
shown of a small view holds of every larger one that has it as a part. -/
theorem Replays.map {ν : Type} {effect' : ν → Exchange I → ν → Prop} (view : μ → ν)
    {before after : μ} {log : List (Exchange I)} (h : Replays effect before log after)
    (hview : ∀ m x m', effect m x m' → effect' (view m) x (view m')) :
    Replays effect' (view before) log (view after) := by
  induction h with
  | nil m => exact .nil _
  | cons first _ ih => exact .cons (hview _ _ _ first) ih

/-- Exchanges none of which has an effect leave the view as it is. For the parts of a run that
have nothing to do with what is looked at. -/
theorem Replays.eq_of_forall {before after : μ} {log : List (Exchange I)} {P : Exchange I → Prop}
    (h : Replays effect before log after) (hP : ∀ x ∈ log, P x)
    (hidle : ∀ {m x m'}, effect m x m' → P x → m' = m) : after = before := by
  induction h with
  | nil m => rfl
  | cons first _ ih =>
      obtain ⟨hx, hrest⟩ := List.forall_mem_cons.mp hP
      rw [ih hrest, hidle first hx]

end Exchange

namespace Program

variable {I : Interface} {α β : Type}

/-- The program makes the calls of the list, when they are answered as the list says, and
comes to the result. -/
inductive Yields : Program I α → List (Exchange I) → α → Prop
  | done (value : α) : Yields (.done value) [] value
  | ask {call : I.Call} {next : I.Answer call → Program I α} (answer : I.Answer call)
      {log : List (Exchange I)} {value : α} (rest : Yields (next answer) log value) :
      Yields (.ask call next) (⟨call, answer⟩ :: log) value

/-- A program that is done asks nothing and has its own value as the only result. -/
theorem yields_done_iff {value result : α} {log : List (Exchange I)} :
    Yields (.done value) log result ↔ log = [] ∧ result = value := by
  constructor
  · intro h
    cases h
    exact ⟨rfl, rfl⟩
  · rintro ⟨rfl, rfl⟩
    exact .done _

/-- A program that asks makes that call first, whatever it is answered. Only what comes after it
depends on the answer. -/
theorem yields_ask_iff {call : I.Call} {next : I.Answer call → Program I α}
    {log : List (Exchange I)} {result : α} :
    Yields (.ask call next) log result ↔
      ∃ answer log', Yields (next answer) log' result ∧ log = ⟨call, answer⟩ :: log' := by
  constructor
  · intro h
    cases h with
    | ask answer rest => exact ⟨answer, _, rest, rfl⟩
  · rintro ⟨answer, log', rest, rfl⟩
    exact .ask answer rest

/-- A single call makes a single exchange, and its answer is the result. Any answer will do, as
nothing is said of surroundings. -/
theorem yields_perform_iff {call : I.Call} {log : List (Exchange I)} {result : I.Answer call} :
    Yields (perform call) log result ↔ log = [⟨call, result⟩] := by
  unfold perform
  rw [yields_ask_iff]
  constructor
  · rintro ⟨answer, log', rest, rfl⟩
    obtain ⟨rfl, rfl⟩ := yields_done_iff.mp rest
    rfl
  · rintro rfl
    exact ⟨result, [], .done result, rfl⟩

/-- Two parts make the exchanges of the first, and then those of the second with the result
of the first. -/
theorem yields_bind_iff {program : Program I α} {next : α → Program I β}
    {log : List (Exchange I)} {result : β} :
    Yields (program >>= next) log result ↔ ∃ first value second,
      Yields program first value ∧ Yields (next value) second result ∧
      log = first ++ second := by
  induction program generalizing log with
  | done value =>
      constructor
      · intro h
        exact ⟨[], value, log, .done value, h, rfl⟩
      · rintro ⟨first, value', second, hfirst, hsecond, rfl⟩
        obtain ⟨rfl, rfl⟩ := yields_done_iff.mp hfirst
        exact hsecond
  | ask call rest ih =>
      -- What follows is bound behind the answer to the first call.
      show Yields (.ask call fun answer => rest answer >>= next) log result ↔ _
      rw [yields_ask_iff]
      constructor
      · rintro ⟨answer, log', hrest, rfl⟩
        obtain ⟨first, value, second, hfirst, hsecond, rfl⟩ := (ih answer).mp hrest
        exact ⟨⟨call, answer⟩ :: first, value, second, .ask answer hfirst, hsecond, rfl⟩
      · rintro ⟨first, value, second, hfirst, hsecond, rfl⟩
        obtain ⟨answer, first, hrest, rfl⟩ := yields_ask_iff.mp hfirst
        exact ⟨answer, first ++ second, (ih answer).mpr ⟨first, value, second, hrest, hsecond, rfl⟩,
          rfl⟩

/-- The answers determine the result: a program has no choice of its own. -/
theorem Yields.unique {program : Program I α} {log : List (Exchange I)} {a b : α}
    (ha : Yields program log a) (hb : Yields program log b) : a = b := by
  induction ha with
  | done value => exact (yields_done_iff.mp hb).2.symm
  | ask answer _ ih =>
      obtain ⟨answer', log', hrest, heq⟩ := yields_ask_iff.mp hb
      cases heq
      exact ih hrest

/-! ### Runs -/

section Run

variable {σ : Type} (answer : (call : I.Call) → σ → I.Answer call × σ)

/-- The exchanges of a run in surroundings that answer every call from their state. What a program
is asked to be about is read off this list, together with its result. -/
def trace : Program I α → σ → List (Exchange I)
  | done _, _ => []
  | ask call next, state =>
      ⟨call, (answer call state).1⟩ ::
        (next (answer call state).1).trace (answer call state).2

/-- The second part makes its exchanges in the state that the first one left, after those of the
first. -/
theorem trace_bind (program : Program I α) (next : α → Program I β) (s : σ) :
    (program >>= next).trace answer s
      = program.trace answer s ++
        (next (program.run answer s).1).trace answer (program.run answer s).2 := by
  induction program generalizing s with
  | done value => rfl
  | ask call rest ih => exact congrArg (List.cons _) (ih _ _)

/-- Every run makes exchanges that yield its result. So nothing is assumed of a run where a
theorem speaks of the exchanges of a program. -/
theorem yields_trace (program : Program I α) (s : σ) :
    Yields program (program.trace answer s) (program.run answer s).1 := by
  induction program generalizing s with
  | done value => exact .done value
  | ask call next ih => exact .ask _ (ih _ _)

/-- A view of the state follows the exchanges of a run, when every answer has on it the
effect that its call says. -/
theorem replays_trace {μ : Type} {effect : μ → Exchange I → μ → Prop} {view : σ → μ}
    (heffect : ∀ call s, effect (view s) ⟨call, (answer call s).1⟩ (view (answer call s).2))
    (program : Program I α) (s : σ) :
    Exchange.Replays effect (view s) (program.trace answer s) (view (program.run answer s).2) := by
  induction program generalizing s with
  | done value => exact .nil _
  | ask call next ih => exact .cons (heffect call s) (ih _ _)

end Run

/-! ### Programs carried out by others -/

section Interpret

variable {J : Interface} {handler : (call : I.Call) → Program J (I.Answer call)}

/-- The exchanges of the second list are those that carry out the calls of the first. Each call is
served by a program of its own, whose exchanges stand together. -/
inductive Served (handler : (call : I.Call) → Program J (I.Answer call)) :
    List (Exchange I) → List (Exchange J) → Prop
  | nil : Served handler [] []
  | cons {x : Exchange I} {asked : List (Exchange I)} {own log : List (Exchange J)}
      (first : Yields (handler x.call) own x.answer) (rest : Served handler asked log) :
      Served handler (x :: asked) (own ++ log)

/-- A program whose calls are carried out by others comes to what it comes to when it gets the
results of those as answers. -/
theorem exists_served_of_yields {program : Program I α} {log : List (Exchange J)} {result : α}
    (h : Yields (program.interpret handler) log result) :
    ∃ asked, Yields program asked result ∧ Served handler asked log := by
  induction program generalizing log with
  | done value =>
      obtain ⟨rfl, rfl⟩ := yields_done_iff.mp h
      exact ⟨[], .done result, .nil⟩
  | ask call next ih =>
      obtain ⟨own, answer, rest, hown, hrest, rfl⟩ := yields_bind_iff.mp h
      obtain ⟨asked, hasked, hserved⟩ := ih answer hrest
      exact ⟨⟨call, answer⟩ :: asked, .ask answer hasked, .cons hown hserved⟩

end Interpret

end Program

end Moorage
