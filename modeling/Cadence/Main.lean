/-
The command line program.

It reads the files that a command can touch, executes the command on them, shows
what came of it, and writes back the files that changed. A run that waits lets
the engine's jobs run by the machine's clock until its time is over.
-/
import Cadence.Command.Execute
import Std.Time.DateTime.Timestamp

set_option autoImplicit false

namespace Cadence.Program

open Cadence.Command
open Cadence.Config (Environment)

/-! ## The machine -/

def now : IO Moment := do
  let t ← Std.Time.Timestamp.now
  pure ⟨t.toNanosecondsSinceUnixEpoch.val / 1000, .fixed 0, false⟩

def environment : IO Environment := do
  try
    let text ← IO.FS.readFile "/proc/self/environ"
    pure ((Text.splitAt '\x00' text.toList).filterMap (fun entry =>
      match Text.cutAt '=' entry with
      | (name, some value) => some (String.ofList name, String.ofList value)
      | _ => none))
  catch _ => pure []

/-- Adds what stands at a path to a tree: a file with its text, or a folder. -/
def look (t : Tree) (path : Path) : IO Tree := do
  try
    let text ← IO.FS.readFile path.text
    pure (((t.ensureFolder path.parent).toOption.bind
      (fun t => (t.write path text).toOption)).getD t)
  catch
    | .noFileOrDirectory .. => pure t
    | _ => pure ((t.ensureFolder path).toOption.getD t)

/-- Writes the files that are new or changed. -/
def store (before after : Tree) : IO Unit := do
  for (path, text) in after.files do
    if !before.files.contains (path, text) then
      IO.FS.createDirAll (Path.ofText path).parent.text
      IO.FS.writeFile path text

/-! ## The files of a command -/

/-- The path that a command names. -/
def pathOf : Line → Option Path
  | .list l => some (Path.ofText l.config)
  | .run l => some (Path.ofText l.config)
  | .init l => some (Path.ofText l.output)
  | _ => none

/-- The log file of a configuration and the files put aside for it. -/
def logPaths (c : Config.LoggingConfig) : List Path :=
  match Log.LogFile.of c with
  | some f => f.path :: (List.range c.backupCount.toNat).map (fun n => f.aside (n + 1))
  | none => []

/-- The tree with the files of a command in it. -/
def files (line : Line) (env : Environment) : IO Tree := do
  let mut t ← look {} Config.envFileName
  if let some path := pathOf line then
    t ← look t path
  if let .run l := line then
    if let .ok c := Config.load t env (Path.ofText l.config) then
      for path in logPaths c.logging do
        t ← look t path
  pure t

/-! ## Running -/

/-- Shows the records behind the first `shown`. -/
def showRecords (shown : Nat) (s : Session) : IO Unit := do
  for r in s.logs.records.drop shown do
    IO.eprintln (r.level.name ++ " " ++ r.logger ++ ": " ++ r.text)

def atMoment (m : Moment) (s : Session) : Session := { s with clock := ⟨m⟩, present := m }

/-- Whether so many seconds are over since a moment. -/
def isOver (start m : Moment) (duration : Option Number.Binary64) : Bool :=
  match duration with
  | none => false
  | some x => match lengthOfSeconds (.float x) with
    | .ok micros => decide (start.wall + micros ≤ m.wall)
    | .error _ => false

/-- Lets jobs run until the time is over. -/
partial def wait (start : Moment) (duration : Option Number.Binary64) (d : Desk) : IO Desk := do
  let m ← now
  if isOver start m duration then pure d
  else
    let s := (atMoment m d.session).runDue
    showRecords d.session.logs.records.length s
    store d.disk s.logs.disk
    IO.sleep 50
    wait start duration { d with session := s }

/-- Shows what a command came to and gives its exit code. -/
def conclude (before : Desk) (shown : Nat) (d : Desk) (result : Except Fault Nat) : IO UInt32 := do
  for p in d.screen do
    IO.print p.draw
  showRecords shown d.session
  store before.disk d.disk
  match result with
  | .ok code => pure code.toUInt32
  | .error e => do
    IO.eprintln (Log.Record.causeLine e)
    pure 1

def execute (line : Line) : IO UInt32 := do
  let env ← environment
  let disk ← files line env
  let m ← now
  let desk : Desk :=
    { session := { clock := ⟨m⟩, present := m, logs := { disk } }, environment := env }
  match proceed line desk with
  | (d, .error e) => conclude desk 0 d (.error e)
  | (d, .ok (.exit code)) => conclude desk 0 d (.ok code)
  | (d, .ok (.waiting duration)) => do
    showRecords 0 d.session
    store desk.disk d.disk
    let waited ← wait m duration d
    conclude waited waited.session.logs.records.length (endRun false waited) (.ok 0)

def helpText : String := String.join ([
  "cron-when [-h] [-v] \x7bcheck,match,show,run,init\x7d ...",
  "",
  "  check PATTERN VALUE...             match values against a field pattern",
  "  match CRON [--at INSTANT]          evaluate a schedule at an instant",
  "  show [-c FILE]                     list the schedules of a configuration",
  "  run [-c FILE] [--duration SECONDS] [-d]  run the schedules of a configuration",
  "  init [-o FILE] [-f]                write an example configuration"].map (· ++ "\n"))

def stop (s : Stop) : IO UInt32 := do
  match s with
  | .help => IO.print helpText
  | .version => IO.println "cron-when v0.1.0"
  | .usage => IO.eprint helpText
  pure s.code.toUInt32

end Cadence.Program

def main (args : List String) : IO UInt32 :=
  match Cadence.Command.Line.read args with
  | .ok line => Cadence.Program.execute line
  | .error s => Cadence.Program.stop s
