import Moorage.Walk

/-!
# `Moorage.Proofs.Walk.Run`: everything that a walk may do

A walk takes resources off its queue until it is empty, and then waits for one of the
running tasks, whichever ends first. `Move` is one step of this: which task ends,
what it comes to, and whether the walk was cancelled by then are left open, so that
`Run` covers every order of completion, every result and every instant of
cancellation. A task may record children while it runs.

The moves are those of the functions that carry a walk out: each has the result of `Walk.next` or
`Walk.finish` as its outcome, and no move is made up. What is left out is what a task does to the
machine. A walk sees of it only when it ends and with what, and two tasks do not meet but through
the board.

A run keeps the list of its happenings, one for each move. The lists `taken`,
`started`, `released`, `ended` and `failed` read off it what became of the resources. They are read
off from the left, while a run grows at the right, which is why each has a lemma for one more
happening.

`Effect` spells out what each move comes to, and `Move.effect` is the only place that
opens `Walk.next` and `Walk.finish`.
-/

set_option autoImplicit false

namespace Moorage

/-- What one move of a walk does to one resource. There is one constructor for each of the ways in
which a resource can leave the queue, and for what a task does while it runs and when it ends. -/
inductive Happening where
  /-- It came off the queue, but it was blocked. -/
  | passed (position : Nat)
  /-- It came off the queue, and there was nothing to do. -/
  | skipped (position : Nat)
  /-- It came off the queue after a cancellation. -/
  | refused (position : Nat)
  /-- It came off the queue, and its task was started. -/
  | started (position : Nat)
  /-- Its task ended. -/
  | ended (position : Nat) (outcome : Except Error Unit)
  /-- Its task recorded a child. -/
  | recorded (position : Nat) (child : Resource)

namespace Happening

/-- The resource that came off the queue. -/
def taken? : Happening → Option Nat
  | passed p | skipped p | refused p | started p => some p
  | ended _ _ | recorded _ _ => none

/-- The resource whose task was started. -/
def started? : Happening → Option Nat
  | started p => some p
  | _ => none

/-- The resource that others need not wait for any more: there was nothing to do for it, or its
task has succeeded. -/
def released? : Happening → Option Nat
  | skipped p | ended p (.ok ()) => some p
  | _ => none

/-- The resource whose task ended. -/
def ended? : Happening → Option Nat
  | ended p _ => some p
  | _ => none

/-- The resource whose task failed. -/
def failed? : Happening → Option Nat
  | ended p (.error _) => some p
  | _ => none

end Happening

namespace Walk

/-! ### What became of the resources -/

/-- The resources that came off the queue, in the order in which they did. -/
def taken (hs : List Happening) : List Nat := hs.filterMap Happening.taken?

/-- The resources whose tasks were started, in the order of the starts. -/
def started (hs : List Happening) : List Nat := hs.filterMap Happening.started?

/-- The resources that finished successfully or were skipped. What waits for them and for nothing
else can go on. -/
def released (hs : List Happening) : List Nat := hs.filterMap Happening.released?

/-- The resources whose tasks ended, in the order of completion. -/
def ended (hs : List Happening) : List Nat := hs.filterMap Happening.ended?

/-- The resources whose tasks failed. Those that fail with another one are not among them, since
they have no task. -/
def failed (hs : List Happening) : List Nat := hs.filterMap Happening.failed?

variable {hs : List Happening} {h : Happening} {p : Nat}

/-- What ended in two stretches of a run ended in the first or in the second. For statements about
how a run goes on. -/
theorem ended_append (hs more : List Happening) : ended (hs ++ more) = ended hs ++ ended more :=
  List.filterMap_append

/-- One more happening takes at most one more resource off the queue. -/
@[simp]
theorem taken_concat : taken (hs ++ [h]) = taken hs ++ h.taken?.toList := by
  unfold taken
  rw [List.filterMap_append]
  cases h <;> rfl

/-- One more happening starts at most one more task. -/
@[simp]
theorem started_concat : started (hs ++ [h]) = started hs ++ h.started?.toList := by
  unfold started
  rw [List.filterMap_append]
  cases h <;> rfl

/-- One more happening releases at most one more resource. -/
@[simp]
theorem released_concat : released (hs ++ [h]) = released hs ++ h.released?.toList := by
  unfold released
  rw [List.filterMap_append]
  cases h with
  | ended _ outcome => cases outcome <;> rfl
  | _ => rfl

/-- One more happening ends at most one more task. -/
@[simp]
theorem ended_concat : ended (hs ++ [h]) = ended hs ++ h.ended?.toList := by
  unfold ended
  rw [List.filterMap_append]
  cases h <;> rfl

/-- One more happening is at most one more failure. -/
@[simp]
theorem failed_concat : failed (hs ++ [h]) = failed hs ++ h.failed?.toList := by
  unfold failed
  rw [List.filterMap_append]
  cases h with
  | ended _ outcome => cases outcome <;> rfl
  | _ => rfl

/-- What was started came off the queue, in the same order. So nothing is started twice that
leaves the queue once. -/
theorem started_sublist_taken (hs : List Happening) : (started hs).Sublist (taken hs) := by
  unfold started taken
  induction hs with
  | nil => exact .slnil
  | cons h hs ih =>
      cases h with
      | started p => exact ih.cons_cons p
      | ended p outcome => exact ih
      | recorded p child => exact ih
      | _ p => exact ih.cons p

/-- A happening that starts nothing leaves the list of what was started. -/
theorem started_concat_of_none (he : h.started? = none) : started (hs ++ [h]) = started hs := by
  rw [started_concat, he, Option.toList_none, List.append_nil]

/-- A happening that is no failure leaves the list of what failed. -/
theorem failed_concat_of_none (he : h.failed? = none) : failed (hs ++ [h]) = failed hs := by
  rw [failed_concat, he, Option.toList_none, List.append_nil]

/-- What happened and is not the last happening has happened before it. This takes the last
happening off in a step lemma. -/
theorem mem_of_mem_concat {h' : Happening} (hne : h' ≠ h) (hmem : h' ∈ hs ++ [h]) : h' ∈ hs :=
  (List.mem_append.mp hmem).resolve_right fun heq => hne (List.mem_singleton.mp heq)

/-- The tasks that were started are told by one happening each. -/
theorem mem_started : p ∈ started hs ↔ Happening.started p ∈ hs := by
  unfold started
  rw [List.mem_filterMap]
  constructor
  · rintro ⟨h, hmem, hp⟩
    cases h <;> cases hp
    exact hmem
  · exact fun hmem => ⟨_, hmem, rfl⟩

/-- A resource is released when it is skipped, and when its task has succeeded. -/
theorem mem_released :
    p ∈ released hs ↔ Happening.skipped p ∈ hs ∨ Happening.ended p (.ok ()) ∈ hs := by
  unfold released
  rw [List.mem_filterMap]
  constructor
  · rintro ⟨h, hmem, hp⟩
    cases h with
    | skipped _ => cases hp; exact Or.inl hmem
    | ended _ outcome =>
        cases outcome with
        | ok _ => cases hp; exact Or.inr hmem
        | error _ => cases hp
    | _ => cases hp
  · rintro (hmem | hmem) <;> exact ⟨_, hmem, rfl⟩

/-- A task has ended when there is an outcome of it, whatever it is. -/
theorem mem_ended : p ∈ ended hs ↔ ∃ outcome, Happening.ended p outcome ∈ hs := by
  unfold ended
  rw [List.mem_filterMap]
  constructor
  · rintro ⟨h, hmem, hp⟩
    cases h <;> cases hp
    exact ⟨_, hmem⟩
  · exact fun ⟨_, hmem⟩ => ⟨_, hmem, rfl⟩

/-- A task has failed when its outcome is a failure. A resource that was refused has not. -/
theorem mem_failed : p ∈ failed hs ↔ ∃ error, Happening.ended p (.error error) ∈ hs := by
  unfold failed
  rw [List.mem_filterMap]
  constructor
  · rintro ⟨h, hmem, hp⟩
    cases h with
    | ended _ outcome =>
        cases outcome with
        | ok _ => cases hp
        | error e => cases hp; exact ⟨e, hmem⟩
    | _ => cases hp
  · exact fun ⟨_, hmem⟩ => ⟨_, hmem, rfl⟩

/-- What came off the queue did so in one of four ways. Which one it was is decided when it comes
off. -/
theorem mem_taken : p ∈ taken hs ↔ Happening.passed p ∈ hs ∨ Happening.skipped p ∈ hs ∨
    Happening.refused p ∈ hs ∨ Happening.started p ∈ hs := by
  unfold taken
  rw [List.mem_filterMap]
  constructor
  · rintro ⟨h, hmem, hp⟩
    cases h <;> cases hp
    · exact Or.inl hmem
    · exact Or.inr (Or.inl hmem)
    · exact Or.inr (Or.inr (Or.inl hmem))
    · exact Or.inr (Or.inr (Or.inr hmem))
  · rintro (hmem | hmem | hmem | hmem) <;> exact ⟨_, hmem, rfl⟩

/-! ### Moves and runs -/

variable (g : Graph)

/-- What taking the resource at a position off the queue comes to. The questions are asked in
this order: whether it is blocked, whether there is anything to do, and whether the walk was
cancelled. -/
def verdict (cancelled : Bool) (w : Walk) (position : Nat) : Happening :=
  if labelAt g position ∈ w.blocked then .passed position
  else if w.kind.skips (w.board.status position) then .skipped position
  else if cancelled then .refused position
  else .started position

/-- Whatever taking a resource off the queue comes to, it came off. -/
theorem taken?_verdict (cancelled : Bool) (w : Walk) (position : Nat) :
    (verdict g cancelled w position).taken? = some position := by
  unfold verdict
  repeat' split
  all_goals rfl

/-- Taking a resource off the queue ends no task. Tasks end when the walk waits. -/
theorem ended?_verdict (cancelled : Bool) (w : Walk) (position : Nat) :
    (verdict g cancelled w position).ended? = none := by
  unfold verdict
  repeat' split
  all_goals rfl

/-- One move of a walk: it takes the next resource off the queue; or, when nothing is
ready, it takes in how some running task ended; or a running task records a child. -/
inductive Move : Walk → Happening → Walk → Prop where
  | next {w : Walk} {position : Nat} {rest : List Nat} (cancelled : Bool)
      (hready : w.ready = position :: rest) :
      Move w (verdict g cancelled w position) (Walk.next g cancelled w).1
  | finish {w : Walk} {position : Nat} (outcome : Except Error Unit) (hready : w.ready = [])
      (hrunning : position ∈ w.running) :
      Move w (.ended position outcome) (Walk.finish g w position outcome)
  | record {w : Walk} {position : Nat} (child : Resource) (hrunning : position ∈ w.running) :
      Move w (.recorded position child)
        { w with board := w.board.addChild position child }

/-- A run of a walk over the graph from a board that has a standing for each resource:
what happened, and the walk by then. -/
inductive Run (kind : WalkKind) (b : Board) : List Happening → Walk → Prop where
  | begin (hlength : b.standings.length = g.size) : Run kind b [] (Walk.begin g kind b)
  | move {hs : List Happening} {w : Walk} {h : Happening} {w' : Walk} (run : Run kind b hs w)
      (hmove : Move g w h w') : Run kind b (hs ++ [h]) w'

/-- The happenings of a run after it took the next resource off the queue. There is one more, and
which one it is follows from the walk. -/
theorem Run.next {g : Graph} {kind : WalkKind} {b : Board} {w : Walk} {rest : List Nat}
    (run : Run g kind b hs w) (cancelled : Bool) (hready : w.ready = p :: rest) :
    Run g kind b (hs ++ [verdict g cancelled w p]) (Walk.next g cancelled w).1 :=
  run.move (.next cancelled hready)

/-- The happenings of a run after it took in how a task ended. A walk waits only when nothing is
ready, which is why this is assumed. -/
theorem Run.finish {g : Graph} {kind : WalkKind} {b : Board} {w : Walk}
    (run : Run g kind b hs w) (outcome : Except Error Unit) (hready : w.ready = [])
    (hrunning : p ∈ w.running) :
    Run g kind b (hs ++ [.ended p outcome]) (Walk.finish g w p outcome) :=
  run.move (.finish outcome hready hrunning)

/-- Nothing is ready and nothing runs. There is no move any more, but for children of tasks, and
no task is left to have any. -/
def Over (w : Walk) : Prop := w.ready = [] ∧ w.running = []

variable {g}

/-- The walk names the resource that a move starts, and names none if the move starts none. The
caller runs the task of it. -/
theorem next_started {w : Walk} {position : Nat} {rest : List Nat}
    (hready : w.ready = position :: rest) (cancelled : Bool) :
    (Walk.next g cancelled w).2 = (verdict g cancelled w position).started? := by
  unfold Walk.next verdict
  rw [hready]
  by_cases hblocked : labelAt g position ∈ w.blocked
  · simp [hblocked, Happening.started?]
  · by_cases hskips : w.kind.skips (w.board.status position)
    · simp [hblocked, hskips, Happening.started?]
    · cases cancelled <;> simp [hblocked, hskips, Happening.started?]

/-- What the walk names is the first resource of the queue, and there is something to
do for it. -/
theorem next_eq_some {w : Walk} {cancelled : Bool} (hnext : (Walk.next g cancelled w).2 = some p) :
    ∃ rest, w.ready = p :: rest ∧ w.kind.skips (w.board.status p) = false := by
  cases hready : w.ready with
  | nil =>
      rw [Walk.next, hready] at hnext
      cases hnext
  | cons position rest =>
      rw [next_started hready] at hnext
      -- The only verdict that names a resource is the one by which it is started.
      have hverdict : verdict g cancelled w position = .started p := by
        cases hv : verdict g cancelled w position with
        | started q => rw [hv] at hnext; cases hnext; rfl
        | _ => rw [hv] at hnext; cases hnext
      unfold verdict at hverdict
      split at hverdict
      · cases hverdict
      · split at hverdict
        · cases hverdict
        · next hskips =>
            split at hverdict
            · cases hverdict
            · cases hverdict
              exact ⟨rest, rfl, Bool.not_eq_true _ ▸ hskips⟩

/-- The board on which the resource at a position was just started. Only a walk that applies
writes anything then. -/
def starting (kind : WalkKind) (b : Board) (position : Nat) : Board :=
  match kind with
  | .apply => b.setStatus position .creating
  | .destroy => b

/-- The walk after a failure was taken in, before anything is blocked for it. The failure itself
has its entry, and the status is written. -/
def failing (g : Graph) (w : Walk) (position : Nat) (error : Error) : Walk :=
  { w with
    running := w.running.erase position
    board := w.board.setStatus position .failed
    failures := w.failures ++ [(labelAt g position, error)] }

/-- What a move comes to: the walk that it leads to, by what happened. Each constructor says what
it changes, so that a proof about a move need not open the functions of the walk. -/
inductive Effect (g : Graph) (w : Walk) : Happening → Walk → Prop where
  | passed {p : Nat} {rest : List Nat} (hready : w.ready = p :: rest)
      (hblocked : labelAt g p ∈ w.blocked) :
      Effect g w (.passed p) { w with ready := rest }
  | skipped {p : Nat} {rest : List Nat} (hready : w.ready = p :: rest)
      (hskips : w.kind.skips (w.board.status p) = true) :
      Effect g w (.skipped p) (release g { w with ready := rest } p)
  | refused {p : Nat} {rest : List Nat} (hready : w.ready = p :: rest)
      (hskips : w.kind.skips (w.board.status p) = false) :
      Effect g w (.refused p)
        { w with
          ready := rest
          failures := w.failures ++
            [(labelAt g p, .cancelled (labelAt g p) w.kind.verb)] }
  | started {p : Nat} {rest : List Nat} (hready : w.ready = p :: rest)
      (hskips : w.kind.skips (w.board.status p) = false) :
      Effect g w (.started p)
        { w with
          ready := rest
          board := starting w.kind w.board p
          running := w.running ++ [p] }
  | succeeded {p : Nat} (hready : w.ready = []) (hrunning : p ∈ w.running) :
      Effect g w (.ended p (.ok ()))
        (release g
          { w with running := w.running.erase p, board := settled w.kind w.board p } p)
  | failed {p : Nat} {error : Error} (hready : w.ready = []) (hrunning : p ∈ w.running) :
      Effect g w (.ended p (.error error)) (block g (failing g w p error) (labelAt g p))
  | recorded {p : Nat} {child : Resource} (hrunning : p ∈ w.running) :
      Effect g w (.recorded p child) { w with board := w.board.addChild p child }

/-- Every move has one of these effects. Here, and only here, the functions are compared with
them. -/
theorem Move.effect {w w' : Walk} {h : Happening} (hmove : Move g w h w') :
    Effect g w h w' := by
  cases hmove with
  | @next position rest cancelled hready =>
      unfold verdict Walk.next
      rw [hready]
      by_cases hblocked : labelAt g position ∈ w.blocked
      · simp only [hblocked, if_true]
        exact .passed hready hblocked
      · by_cases hskips : w.kind.skips (w.board.status position) = true
        · simp only [hblocked, hskips, if_true, if_false]
          exact .skipped hready hskips
        · rw [Bool.not_eq_true] at hskips
          cases cancelled with
          | true =>
              simp only [hblocked, hskips, if_true, if_false, Bool.false_eq_true]
              exact .refused hready hskips
          | false =>
              simp only [hblocked, hskips, if_false, Bool.false_eq_true]
              exact .started hready hskips
  | @finish position outcome hready hrunning =>
      cases outcome with
      | ok _ => exact .succeeded hready hrunning
      | error error => exact .failed hready hrunning
  | @record position child hrunning => exact .recorded hrunning

end Walk

end Moorage
