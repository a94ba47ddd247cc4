/-
Executing commands.

Every command but one is over at once; a run that waits is ended separately.
-/
import Cadence.Command.Evaluate
import Cadence.Command.Example
import Cadence.Command.Schedules

set_option autoImplicit false

namespace Cadence.Command

def done : Desk × Except Fault Nat → Desk × Except Fault Status
  | (d, r) => (d, r.map .exit)

/-- Executes a command up to its end or its waiting. -/
def proceed (l : Line) (d : Desk) : Desk × Except Fault Status :=
  match l with
  | .check l => done (check l d)
  | .matchAt l => done (matchAt l d)
  | .list l => done (list l d)
  | .run l => beginRun l d
  | .init l => done (init l d)

/-- Executes a command; if it waits, no job comes to run, and the waiting may be
interrupted. -/
def execute (interrupted : Bool) (l : Line) (d : Desk) : Desk × Except Fault Nat :=
  match proceed l d with
  | (d, .error e) => (d, .error e)
  | (d, .ok (.exit code)) => (d, .ok code)
  | (d, .ok (.waiting _)) => (endRun interrupted d, .ok 0)

end Cadence.Command
