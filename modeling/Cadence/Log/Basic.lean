/-
Loggers.

Loggers are handed out by name and kept: whoever asks for a name again gets the
same one. A record passes when it is at least as important as its logger's
level, and goes on to every handler that takes it. Setting up replaces the
handlers and gives all loggers, those handed out before and those to come, one
level. The loggers of the job scheduler stay quiet below warnings.

Setting up is a sequence of steps and may fail in the middle, when the log file
cannot be opened; what was done before stays done.
-/
import Cadence.Log.File

set_option autoImplicit false

namespace Cadence.Log

open Cadence.Config (Level LoggingConfig)

/-- Where records go. -/
inductive Handler
  | console (level : Level)
  | file (level : Level) (file : LogFile)
deriving Repr

def Handler.level : Handler → Level
  | .console l => l
  | .file l _ => l

/-- The state of logging: the root's level and handlers, the level of the
program's own loggers as a whole and of the job scheduler's, each when it is set;
the level for loggers to come; the loggers handed out; the files; and the records
that passed. -/
structure Logs where
  root : Level := .warning
  handlers : List Handler := []
  own : Option Level := none
  jobs : Option Level := none
  current : Level := .info
  loggers : List (String × Level) := []
  disk : Tree := {}
  records : List Record := []
deriving Repr, Inhabited

namespace Logs

/-- What the names of the program's own loggers begin with. -/
def family : String := "cronwhen"

def fullName (name : String) : String := family ++ "." ++ name

def higher (a b : Level) : Level := if a.number < b.number then b else a

/-! ## Loggers -/

/-- Hands out a logger: its level, and the state with the logger in it. -/
def logger (s : Logs) (name : String) : Level × Logs :=
  match s.loggers.lookup name with
  | some l => (l, s)
  | none => (s.current, { s with loggers := s.loggers ++ [(name, s.current)] })

def handle (s : Logs) (r : Record) (h : Handler) : Logs :=
  if r.level.number < h.level.number then s
  else match h with
    | .console _ => s
    | .file _ f => { s with disk := f.write r s.disk }

def emit (s : Logs) (r : Record) : Logs :=
  s.handlers.foldl (fun s h => s.handle r h) { s with records := s.records ++ [r] }

/-- Logs a text through a logger. -/
def say (s : Logs) (name : String) (level : Level) (text : String) (cause : Option Fault) : Logs :=
  let (own, s) := s.logger name
  if level.number < own.number then s else s.emit ⟨level, fullName name, text, cause⟩

/-- Logs a fault, after what was going on. -/
def sayFault (s : Logs) (name : String) (e : Fault) (during : String) : Logs :=
  let text := if during.isEmpty then "Exception occurred: " ++ e.message
    else during ++ ": " ++ e.message
  s.say name .error text (some e)

/-! ## Setting up -/

/-- Opens the log file of a configuration: makes its folder, then looks at the
format. -/
def openFile (s : Logs) (c : LoggingConfig) : Logs × Except Fault (Option Handler) :=
  match LogFile.of c with
  | none => (s, .ok none)
  | some f => match s.disk.ensureFolder f.path.parent with
    | .error e => (s, .error (.system e))
    | .ok disk =>
      let s := { s with disk }
      if hasConversion f.format.toList then (s, .ok (some (.file c.level f)))
      else (s, .error (.content (.formatText f.format)))

/-- The last steps: the file joins the handlers, and every logger takes the level. -/
def finish (s : Logs) (c : LoggingConfig) (file : Option Handler) : Logs :=
  { s with
    handlers := s.handlers ++ file.toList
    own := some c.level
    jobs := some (higher c.level .warning)
    current := c.level
    loggers := s.loggers.map (fun l => (l.1, c.level)) }

/-- The file of a configuration as the report on setting up shows it. -/
def fileShown (c : LoggingConfig) : String :=
  match c.logFile with
  | some f => if f.isEmpty then "-" else f
  | none => "-"

/-- Sets up logging; what was done before a fault stays done. -/
def setup (s : Logs) (c : LoggingConfig) : Logs × Option Fault :=
  -- the old handlers are gone before the new file can fail
  match openFile { s with handlers := [.console c.level], root := c.level } c with
  | (s, .error e) => (s, some e)
  | (s, .ok file) =>
    ((s.finish c file).say "setup" .debug
      ("Logging configured: level=" ++ c.level.name ++ ", file=" ++ fileShown c) none, none)

end Logs

end Cadence.Log
