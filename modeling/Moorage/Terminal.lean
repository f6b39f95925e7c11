import Moorage.Board
import Moorage.Graph

/-!
# `Moorage.Terminal`: what the commands print

Coloured marks for statuses, lines for failures and for what was done, and the plan
of a graph.
-/

set_option autoImplicit false

namespace Moorage.Terminal

/-- Bold text from here on. -/
def bold : String := "\x1b[1m"

/-- Dim text from here on. -/
def dim : String := "\x1b[2m"

/-- Green text from here on. -/
def green : String := "\x1b[32m"

/-- Red text from here on. -/
def red : String := "\x1b[31m"

/-- Yellow text from here on. -/
def yellow : String := "\x1b[33m"

/-- Plain text from here on. -/
def reset : String := "\x1b[0m"

/-- The colour of a status. -/
def statusColor : Status → String
  | .applied => green
  | .failed => red
  | .disabled | .destroyed => dim
  | .pending | .creating => yellow

/-- The mark and the word of a status. -/
def statusMarker (status : Status) : String :=
  s!"{statusColor status}●{reset} {status.word}"

/-- A line for every failure of a walk, or one for any other failure. -/
def failureLines : Error → List String
  | .execution failures =>
      failures.map fun failure =>
        s!"{red}✗{reset} {bold}{failure.1}{reset}: {failure.2.message}"
  | error => [s!"{red}✗{reset} {error.message}"]

/-- The line of a resource in a plan: its reference, what it depends on and its
status. -/
def planLine (g : Graph) (r : Resource) : String :=
  let dependencies := (g.dependencies r.label).map Resource.label
  let arrow :=
    if dependencies.isEmpty then ""
    else s!" {dim}<- " ++ String.intercalate ", " dependencies ++ reset
  s!"  + {bold}{r.label}{reset}{arrow} {dim}[{r.initialStatus.word}]{reset}\n"

/-- The resources in their order of creation, and the counts of resources and
dependencies. -/
def plan (g : Graph) : String :=
  String.join (g.inOrder.map (planLine g))
    ++ s!"\n  {g.inOrder.length} resource(s), {g.dependencyCount} dependency edge(s).\n"

/-- Lines, indented. -/
def indented (lines : List String) : List String := lines.map ("  " ++ ·)

/-- A line for every resource of a graph with its status, in order of creation. -/
def standings (g : Graph) (board : Board) : List String :=
  g.positions.filterMap fun position =>
    (g.resources[position]?).map fun r =>
      s!"  {statusMarker (board.status position)} {bold}{r.label}{reset}"

/-- The line after a successful creation, which took some seconds. -/
def applied (count : Nat) (seconds : String) : String :=
  s!"  {green}{bold}Applied {count} resource(s){reset} in {seconds}s"

/-- The line after a creation that failed. -/
def applyFailed : String :=
  s!"  {red}{bold}Apply failed{reset} {dim}(run `berth down` to clean up){reset}"

/-- The line after a successful destruction. -/
def destroyed (count : Nat) : String :=
  s!"  {green}{bold}Destroyed {count} resource(s){reset}"

/-- The line of a resource with the runtime objects that were found. -/
def objectsLine (label : String) : Except Error (List String) → String
  | .ok [] => s!"  {dim}○ {label}{reset}"
  | .ok ids =>
      s!"  {green}●{reset} {bold}{label}{reset} {dim}[" ++ String.intercalate ", " ids
        ++ s!"]{reset}"
  | .error error => s!"  {red}✗{reset} {label}: {error.message}"

end Moorage.Terminal
