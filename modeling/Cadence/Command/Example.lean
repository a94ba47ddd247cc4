/-
The example configuration.

`init` writes it where asked, with the folders on the way, and over an existing
file only by force.
-/
import Cadence.Command.Desk
import Cadence.Command.Line

set_option autoImplicit false

namespace Cadence.Command

/-- The lines of the example; the last one is empty, so the text ends a line. -/
def exampleLines : List String := [
  "# cron-when schedules",
  "logging:",
  "  level: INFO",
  "  log_file: null",
  "",
  "engine:",
  "  tick_interval: 1.0",
  "  max_workers: 10",
  "",
  "schedules:",
  "  - name: every-ten-seconds",
  "    second: \x7bevery: 10\x7d",
  "    message: \"Ten more seconds went by\"",
  "",
  "  - name: weekday-standup",
  "    second: 0",
  "    minute: 30",
  "    hour: 9",
  "    weekday: \x7bfrom: 1, to: 5\x7d",
  "    timezone: Europe/Berlin",
  "    message: \"Stand-up time\"",
  "",
  "  - name: quarter-hours",
  "    cron: \"0 0,15,30,45 * * * * [UTC]\"",
  ""]

def exampleText : String := Text.joinWith "\n" exampleLines

def writeFile (path : Path) (text : String) (d : Desk) : Desk × Except Fault Unit :=
  match d.disk.ensureFolder path.parent with
  | .error e => (d, .error (.system e))
  | .ok t => match t.write path text with
    | .error e => (d.withDisk t, .error (.system e))
    | .ok t => (d.withDisk t, .ok ())

def init (l : InitLine) (d : Desk) : Desk × Except Fault Nat :=
  let path := Path.ofText l.output
  if d.disk.contains path && !l.force then
    (d.print ("File already exists: " ++ path.text ++ " (use --force to overwrite)"), .ok 1)
  else match writeFile path exampleText d with
    | (d, .error e) => (d, .error e)
    | (d, .ok ()) => (d.print ("Configuration written to " ++ path.text), .ok 0)

end Cadence.Command
