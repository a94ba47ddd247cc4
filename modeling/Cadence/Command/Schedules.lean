/-
Listing and running the schedules of a configuration.

A run sets up logging, makes an engine and starts every schedule that is switched
on; then it waits. How the time of waiting passes is up to the caller, who may
let the engine's jobs run meanwhile. In the end, however it comes about, the
engine is shut down.
-/
import Cadence.Command.Desk
import Cadence.Command.Line

set_option autoImplicit false

namespace Cadence.Command

open Cadence.Config (Settings ScheduleConfig)
open Cadence.Number (Binary64 natText)

/-! ## Listing -/

def scheduleRow (c : ScheduleConfig) : Except Fault (List String) := do
  let cron ← (← c.toSchedule).cron
  pure [c.name, cron, if c.enabled then "yes" else "no", c.message.getD ""]

def list (l : ListLine) (d : Desk) : Desk × Except Fault Nat :=
  match d.load (Path.ofText l.config) with
  | (d, .error e) => (d, .error e)
  | (d, .ok none) => (d, .ok 1)
  | (d, .ok (some c)) =>
    if c.schedules.isEmpty then (d.display (.markup "[yellow]No schedules configured.[/]"), .ok 0)
    else match c.schedules.mapM scheduleRow with
      | .error e => (d, .error e)
      | .ok rows =>
        (d.display (.table
          { title := "Schedules", columns := ["Name", "Pattern", "Enabled", "Message"], rows }),
          .ok 0)

/-! ## Running -/

def announcer (c : ScheduleConfig) : String := "schedule." ++ c.name

/-- The callback of a schedule announces it. -/
def callbackOf (c : ScheduleConfig) : Callback :=
  .script (fun _ => [.say (announcer c) c.announcement])

/-- Starts schedules in order; each has its logger handed out first. -/
def startAll (s : Session) : List ScheduleConfig → Outcome Unit
  | [] => (s, .ok ())
  | c :: rest => match c.toSchedule with
    | .error e => (s, .error e)
    | .ok schedule =>
      let s := { s with logs := (s.logs.logger (announcer c)).2 }
      match s.start schedule (callbackOf c) with
      | (s, .error e) => (s, .error e)
      | (s, .ok _) => startAll s rest

/-- Where a command stands: at its end, or waiting, for so many seconds if they are
limited. -/
inductive Status
  | exit (code : Nat)
  | waiting (duration : Option Binary64)
deriving Repr

def launch (c : Settings) (l : RunLine) (d : Desk) : Desk × Except Fault Status :=
  match startAll (d.session.openEngine c.engine) c.enabled with
  | (s, .error e) => ({ d with session := s.shutdown }, .error e)
  | (s, .ok ()) =>
    (({ d with session := s } : Desk).say .info
      ("Running " ++ natText c.enabled.length ++ " schedule(s)"), .ok (.waiting l.duration))

/-- A run up to the time of waiting. -/
def beginRun (l : RunLine) (d : Desk) : Desk × Except Fault Status :=
  match d.load (Path.ofText l.config) with
  | (d, .error e) => (d, .error e)
  | (d, .ok none) => (d, .ok (.exit 1))
  | (d, .ok (some c)) =>
    let logging := if l.debug then { c.logging with level := .debug } else c.logging
    match d.session.logs.setup logging with
    | (logs, some e) => ({ d with session := { d.session with logs } }, .error e)
    | (logs, none) =>
      let d := { d with session := { d.session with logs } }
      if c.enabled.isEmpty then
        (d.display (.markup "[yellow]No enabled schedules.[/]"), .ok (.exit 0))
      else launch c l d

/-- A run from the end of its waiting, which may be an interruption. -/
def endRun (interrupted : Bool) (d : Desk) : Desk :=
  let d := if interrupted then d.say .info "Interrupted, shutting down" else d
  { d with session := d.session.shutdown }

end Cadence.Command
