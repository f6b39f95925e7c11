import Moorage.Resource

/-!
# `Moorage.Board`: how far each resource has come

The statuses of resources, and the child resources that their providers
recorded, by the position of the resource in its graph.

* `Board.status`, `Board.setStatus`: reading and writing a status.
* `Board.children`, `Board.addChild`, `Board.retireChildren`: the same for
  children.
-/

set_option autoImplicit false

namespace Moorage

/-- A child of a resource. -/
structure Child where
  resource : Resource
  status : Status := .pending
  deriving DecidableEq, Repr

/-- How far one resource has come. -/
structure Standing where
  status : Status := .pending
  children : List Child := []
  deriving DecidableEq, Repr, Inhabited

/-- How far the resources of a graph have come, in their order. -/
structure Board where
  standings : List Standing := []
  deriving DecidableEq, Repr, Inhabited

namespace Board

/-- The board on which every resource has its initial status. -/
def ofResources (resources : List Resource) : Board :=
  ⟨resources.map fun r => { status := r.initialStatus }⟩

/-- What is known of the resource at a position. -/
def standing (b : Board) (position : Nat) : Standing := b.standings.getD position {}

/-- The board with a change of one resource. -/
def change (b : Board) (position : Nat) (f : Standing → Standing) : Board :=
  ⟨b.standings.modify position f⟩

/-- The status of the resource at a position. -/
def status (b : Board) (position : Nat) : Status := (b.standing position).status

/-- The children of the resource at a position. -/
def children (b : Board) (position : Nat) : List Child := (b.standing position).children

/-- The board with another status of one resource. -/
def setStatus (b : Board) (position : Nat) (status : Status) : Board :=
  b.change position fun s => { s with status := status }

/-- The board with one more child of one resource. -/
def addChild (b : Board) (position : Nat) (child : Resource) : Board :=
  b.change position fun s => { s with children := s.children ++ [{ resource := child }] }

/-- The board on which every child of one resource is destroyed. -/
def retireChildren (b : Board) (position : Nat) : Board :=
  b.change position fun s =>
    { s with children := s.children.map fun child => { child with status := .destroyed } }

end Board

end Moorage
