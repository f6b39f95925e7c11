import Moorage.Board
import Moorage.Graph

/-!
# `Moorage.Walk`: walks over a graph

A walk starts a resource as soon as everything that it waits for has finished:
what it depends on when resources are applied, what depends on it when they are
destroyed. A failure blocks what can no longer be reached and leaves everything
else to go on.

A walk is a machine with two moves. `Walk.next` takes one resource off the queue
of the ready ones, which may start it, and `Walk.drain` does so until none is
ready. `Walk.finish` takes in how a started one ended. Who runs the started ones,
and in which order they end, is up to others.

* `Walk.begin`: the walk before its first move.
* `Walk.result`: what the walk comes to when nothing is ready and nothing runs.
-/

set_option autoImplicit false

namespace Moorage

/-- What a walk does to the resources. -/
inductive WalkKind where
  | apply
  | destroy
  deriving DecidableEq, Repr, Inhabited

namespace WalkKind

/-- The word for a kind of walk. -/
def verb : WalkKind → String
  | apply => "apply"
  | destroy => "destroy"

/-- The vertices that a resource waits for. -/
def waitsOn (g : Graph) : WalkKind → String → List Digraph.Vertex
  | apply => g.dependencyVertices
  | destroy => g.dependentVertices

/-- The vertices that may go on when a resource has finished. -/
def releases (g : Graph) : WalkKind → String → List Digraph.Vertex
  | apply => g.dependentVertices
  | destroy => g.dependencyVertices

/-- The vertices that cannot be reached when a resource has failed. -/
def blockedBy (g : Graph) (kind : WalkKind) (label : String) : List Digraph.Vertex :=
  match kind with
  | apply => ((g.descendantVertices label).toOption).getD []
  | destroy => ((g.ancestorVertices label).toOption).getD []

/-- Whether a status leaves nothing to do. -/
def skips : WalkKind → Status → Bool
  | apply, .disabled | apply, .applied => true
  | destroy, .disabled | destroy, .destroyed => true
  | _, _ => false

/-- The status of a resource that the walk has dealt with. -/
def done : WalkKind → Status
  | apply => .applied
  | destroy => .destroyed

end WalkKind

/-- A walk under way. Resources are known by their positions in the graph and,
where they wait or are blocked, by their references. -/
structure Walk where
  kind : WalkKind
  board : Board
  /-- For every reference, how many of the ones it waits for have not finished. -/
  waiting : List (String × Nat)
  ready : List Nat
  running : List Nat := []
  blocked : List String := []
  failures : List (String × Error) := []
  deriving Repr

namespace Walk

variable (g : Graph)

/-- The reference of the resource at a position. -/
def labelAt (position : Nat) : String := ((g.resources[position]?).map Resource.label).getD ""

/-- The positions in the order in which a walk looks at them. -/
def order (kind : WalkKind) : List Nat :=
  match kind with
  | .apply => g.positions
  | .destroy => g.positions.reverse

/-- The walk before its first move: ready is what waits for nothing. -/
def begin (kind : WalkKind) (board : Board) : Walk :=
  let order := order g kind
  let waiting := order.map fun p => (labelAt g p, (kind.waitsOn g (labelAt g p)).length)
  { kind := kind, board := board, waiting := waiting,
    ready := order.filter fun p => (kind.waitsOn g (labelAt g p)).isEmpty }

/-- The count of a reference, one lower. -/
def lowered (label : String) (waiting : List (String × Nat)) : List (String × Nat) :=
  waiting.map fun entry => if entry.1 = label then (entry.1, entry.2 - 1) else entry

/-- The count of a reference. -/
def countOf (label : String) (waiting : List (String × Nat)) : Option Nat :=
  (waiting.find? (·.1 = label)).map (·.2)

/-- The walk after one neighbour was told that a resource has finished. It is
ready when it waits for nothing more. -/
def releaseOne (w : Walk) (position : Nat) : Walk :=
  let label := labelAt g position
  let waiting := lowered label w.waiting
  if countOf label waiting = some 0 then
    { w with waiting := waiting, ready := w.ready ++ [position] }
  else { w with waiting := waiting }

/-- The walk after every neighbour was told that a resource has finished. -/
def release (w : Walk) (position : Nat) : Walk :=
  (Graph.positionsOf (w.kind.releases g (labelAt g position))).foldl (releaseOne g) w

/-- Takes the first resource off the queue, and says which one it is if it is to
be started. Blocked ones are passed over, ones with nothing to do count as
finished, and after a cancellation none is started. -/
def next (cancelled : Bool) (w : Walk) : Walk × Option Nat :=
  match w.ready with
  | [] => (w, none)
  | position :: rest =>
      let label := labelAt g position
      let w := { w with ready := rest }
      if label ∈ w.blocked then (w, none)
      else if w.kind.skips (w.board.status position) then (release g w position, none)
      else if cancelled then
        ({ w with failures := w.failures ++ [(label, .cancelled label w.kind.verb)] }, none)
      else
        let board :=
          match w.kind with
          | .apply => w.board.setStatus position .creating
          | .destroy => w.board
        ({ w with board := board, running := w.running ++ [position] }, some position)

/-- A number of moves that no walk exceeds. A resource comes into the queue once for
each way that leads to it from one that waits for nothing, which is more than once
only if resources share a reference. -/
def moveLimit : Nat := g.size * Nat.pow 2 g.size

/-- Empties the queue, and says which resources are to be started. -/
def drain (cancelled : Bool) : (moves : Nat) → Walk → Walk × List Nat
  | 0, w => (w, [])
  | moves + 1, w =>
      if w.ready.isEmpty then (w, [])
      else
        let (w, started) := next g cancelled w
        let (w, others) := drain cancelled moves w
        (w, started.toList ++ others)

/-- Blocks one resource for the failure of another. When resources are applied it
has failed too, unless it is disabled; when they are destroyed it stays. -/
def blockOne (cause : String) (w : Walk) (position : Nat) : Walk :=
  let label := labelAt g position
  if label ∈ w.blocked then w
  else
    let w := { w with blocked := w.blocked ++ [label] }
    match w.kind with
    | .destroy => w
    | .apply =>
        if w.board.status position = .disabled then w
        else
          { w with
            board := w.board.setStatus position .failed
            failures := w.failures ++ [(label, .dependencyFailed label cause)] }

/-- Blocks everything that the failure of a resource puts out of reach. -/
def block (w : Walk) (cause : String) : Walk :=
  (Graph.positionsOf (w.kind.blockedBy g cause)).foldl (blockOne g cause) w

/-- The board after a resource was dealt with. Its children go with it. -/
def settled (kind : WalkKind) (board : Board) (position : Nat) : Board :=
  let board := board.setStatus position kind.done
  match kind with
  | .apply => board
  | .destroy => board.retireChildren position

/-- Takes in how a started resource ended. -/
def finish (w : Walk) (position : Nat) (outcome : Except Error Unit) : Walk :=
  let label := labelAt g position
  let w := { w with running := w.running.erase position }
  match outcome with
  | .ok () => release g { w with board := settled w.kind w.board position } position
  | .error error =>
      block g
        { w with
          board := w.board.setStatus position .failed
          failures := w.failures ++ [(label, error)] }
        label

/-- What a walk comes to. -/
def result (w : Walk) : Except Error Unit :=
  if w.failures.isEmpty then .ok () else .error (.execution w.failures)

end Walk

end Moorage
