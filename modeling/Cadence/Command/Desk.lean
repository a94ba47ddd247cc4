/-
What commands work on.

A desk holds the session, with the files and the loggers in it, the environment,
and the screen. A command changes the desk and ends with an exit code, or with a
fault that it does not deal with; what it showed and wrote before stays.
-/
import Cadence.Command.Screen
import Cadence.Config.Load
import Cadence.Session.Drive

set_option autoImplicit false

namespace Cadence.Command

open Cadence.Config (Settings Environment Level)

structure Desk where
  session : Session
  environment : Environment := []
  screen : Screen := []
deriving Inhabited

namespace Desk

/-! ## Showing and logging -/

def print (s : String) (d : Desk) : Desk := { d with screen := d.screen.printLine s }

def display (p : Piece) (d : Desk) : Desk := { d with screen := d.screen ++ [p] }

/-- Shows a fault that the command deals with. -/
def printFault (e : Fault) (d : Desk) : Desk := d.print ("Error: " ++ e.message)

def disk (d : Desk) : Tree := d.session.logs.disk

def withDisk (t : Tree) (d : Desk) : Desk :=
  { d with session := { d.session with logs := { d.session.logs with disk := t } } }

def say (level : Level) (text : String) (d : Desk) : Desk :=
  { d with session := { d.session with logs := d.session.logs.say "cli" level text none } }

/-! ## Configurations -/

/-- Loads a configuration. A missing file and a fault of content or kind are shown, and
there is none. -/
def load (path : Path) (d : Desk) : Desk × Except Fault (Option Settings) :=
  if !d.disk.contains path then (d.print ("Config file not found: " ++ path.text), .ok none)
  else match Config.load d.disk d.environment path with
    | .ok c => (d, .ok (some c))
    | .error e =>
      if e.isContent || e.isKind then
        ((d.say .error ("Error loading config " ++ path.text ++ ": " ++ e.message)).printFault e,
          .ok none)
      else (d, .error e)

end Desk

end Cadence.Command
