/-
The parts of a configuration.

A configuration has a logging section, an engine section and a list of
schedules. Each part is a record here and a check that reads it from a mapping:
absent keys take their defaults, unknown keys are ignored. Some conditions span
a whole part and are looked at only when every key of it is fine: a schedule
must build, and the names of the schedules must differ.

A schedule's field is given by a number, a list of numbers, a mapping to
numbers or a name. A value that already is one of these stays what it is, so a
text is never read as a number; other values are converted to the one of the
four that fits.
-/
import Cadence.Config.Checked
import Cadence.Schedule.Cron

set_option autoImplicit false

namespace Cadence.Config

open Cadence.Number (Binary64)

/-! ## Logging -/

/-- How important a record must be to be kept. -/
inductive Level
  | debug
  | info
  | warning
  | error
  | critical
deriving DecidableEq, Repr, Inhabited

namespace Level

def all : List Level := [debug, info, warning, error, critical]

def name : Level → String
  | debug => "DEBUG"
  | info => "INFO"
  | warning => "WARNING"
  | error => "ERROR"
  | critical => "CRITICAL"

def number : Level → Nat
  | debug => 10
  | info => 20
  | warning => 30
  | error => 40
  | critical => 50

def ofName? (s : String) : Option Level := all.find? (·.name == s)

end Level

structure LoggingConfig where
  level : Level := .info
  format : String := "%(asctime)s - %(name)s - %(levelname)s - %(message)s"
  logFile : Option String := none
  maxBytes : Int := 10485760
  backupCount : Int := 5
deriving Repr, Inhabited

/-- A level's name in any case. -/
def checkLevel (v : Value) : Checked Level :=
  (checkText v).andThen (fun s =>
    Checked.ofExcept (match Level.ofName? (Text.upper s) with
      | some l => .ok l
      | none => .error (.content (.logLevel s))))

def LoggingConfig.check (v : Value) : Checked LoggingConfig :=
  let d : LoggingConfig := {}
  (checkEntries "LoggingConfig" v).andThen (fun es =>
    ((checkKey es "level" (.ok d.level) checkLevel).both
      ((checkKey es "format" (.ok d.format) checkText).both
        ((checkKey es "log_file" (.ok d.logFile) (checkOptional checkText)).both
          ((checkKey es "max_bytes" (.ok d.maxBytes) checkInt).both
            (checkKey es "backup_count" (.ok d.backupCount) checkInt))))).map
      (fun (level, format, logFile, maxBytes, backupCount) =>
        { level, format, logFile, maxBytes, backupCount }))

/-! ## The engine -/

structure EngineConfig where
  tickInterval : Binary64 := Binary64.one
  maxWorkers : Int := 10
  misfireGraceTime : Int := 1
  timezone : String := "UTC"
deriving Repr, Inhabited

/-- The name of a known zone. -/
def checkZone (v : Value) : Checked String :=
  (checkText v).andThen (fun s => Checked.ofExcept ((Zone.find (.str s)).map (fun _ => s)))

def EngineConfig.check (v : Value) : Checked EngineConfig :=
  let d : EngineConfig := {}
  (checkEntries "EngineConfig" v).andThen (fun es =>
    ((checkKey es "tick_interval" (.ok d.tickInterval) checkPositive).both
      ((checkKey es "max_workers" (.ok d.maxWorkers) (checkIntFrom 1)).both
        ((checkKey es "misfire_grace_time" (.ok d.misfireGraceTime) (checkIntFrom 1)).both
          (checkKey es "timezone" (.ok d.timezone) checkZone)))).map
      (fun (tickInterval, maxWorkers, misfireGraceTime, timezone) =>
        { tickInterval, maxWorkers, misfireGraceTime, timezone }))

/-! ## Field inputs -/

/-- What a field of a schedule may be given by. -/
inductive FieldInput
  | number (n : Int)
  | numbers (ns : List Int)
  | mapping (entries : List (String × Int))
  | name (s : String)
deriving DecidableEq, Repr

def FieldInput.value : FieldInput → Value
  | .number n => .int n
  | .numbers ns => .list (ns.map Value.int)
  | .mapping es => .mapping (es.map (fun (k, n) => (.str k, .int n)))
  | .name s => .str s

def checkNumbers (v : Value) : Checked (List Int) :=
  match v with
  | .list xs => Checked.each checkInt 0 xs
  | .tuple xs => Checked.each checkInt 0 xs
  | _ => .issue .listType

/-- The step that a key is in a path. -/
def keyStep (k : Value) : LocPart :=
  match k with
  | .atom (.int n) => if 0 ≤ n then .index n.toNat else .key k.text
  | k => .key ((k.text?).getD k.text)

/-- Entries with text keys and integer values. -/
def checkIntEntries : Entries → Checked (List (String × Int))
  | [] => .ok []
  | (k, v) :: es =>
    let key := ((checkText k).under (.key "[key]")).under (keyStep k)
    let number := (checkInt v).under (keyStep k)
    ((key.both number).both (checkIntEntries es)).map (fun (e, rest) => e :: rest)

def checkMapping (v : Value) : Checked (List (String × Int)) :=
  match v with
  | .mapping es => checkIntEntries es
  | _ => .issue .mappingType

/-- Tries the four ways in order. The values that are texts, lists or mappings
of the right kind fit exactly one of them; when none fits, the issues of all
four are reported, each under the name of its way. -/
def checkFieldInput (v : Value) : Checked FieldInput :=
  match v.text? with
  | some s => .ok (.name s)
  | none =>
    let number := (checkInt v).under (.key "int")
    let numbers := (checkNumbers v).under (.key "list[int]")
    let mapping := (checkMapping v).under (.key "dict[str,int]")
    match number, numbers, mapping with
    | .ok n, _, _ => .ok (.number n)
    | _, .ok ns, _ => .ok (.numbers ns)
    | _, _, .ok es => .ok (.mapping es)
    -- nothing fits: the value is no text either
    | .issues a, .issues b, .issues c =>
      .issues (a ++ b ++ c ++ [⟨[.key "str"], .stringType⟩])
    | .abort e, _, _ => .abort e
    | _, .abort e, _ => .abort e
    | _, _, .abort e => .abort e

/-! ## Schedules -/

/-- A schedule by name, given field by field or as a cron text. -/
structure ScheduleConfig where
  name : String
  inputs : Sextet (Option FieldInput) := Sextet.same none
  cron : Option String := none
  timezone : String := "UTC"
  enabled : Bool := true
  message : Option String := none
deriving Repr, Inhabited

namespace ScheduleConfig

/-- Compiles the given inputs onto a schedule, field by field. -/
def applyInputs (inputs : Sextet (Option FieldInput)) (s : Schedule) :
    List Field → Except Fault Schedule
  | [] => .ok s
  | f :: fs => match inputs.get f with
    | none => applyInputs inputs s fs
    | some input => do applyInputs inputs (← s.withField f input.value) fs

/-- The schedule that a configuration stands for. -/
def toSchedule (c : ScheduleConfig) : Except Fault Schedule :=
  match c.cron with
  | some text => Schedule.ofCron text c.timezone
  | none => do
    let z ← Zone.find (.str c.timezone)
    applyInputs c.inputs ⟨Sextet.same .wildcard, z⟩ Field.all

def hasInputs (c : ScheduleConfig) : Bool := c.inputs.toList.any Option.isSome

/-- What is announced when the schedule fires: its message, or, if it has none, its
name. -/
def announcement (c : ScheduleConfig) : String :=
  let plain := "Schedule '" ++ c.name ++ "' fired"
  match c.message with
  | some m => if m.isEmpty then plain else m
  | none => plain

/-- A schedule is given in one way only, and it builds. -/
def verify (c : ScheduleConfig) : Except Fault ScheduleConfig :=
  -- the two ways exclude each other, even when both would build
  if c.cron.isSome && c.hasInputs then .error (.content .cronOrFields)
  else c.toSchedule.map (fun _ => c)

/-- Reads a schedule from entries, without the condition on the whole. -/
def read (es : Entries) : Checked ScheduleConfig :=
  let input (f : Field) : Checked (Option FieldInput) :=
    checkKey es f.name (.ok none) (checkOptional checkFieldInput)
  ((checkKey es "name" (.issue .missing) checkText).both
    ((input .second).both ((input .minute).both ((input .hour).both ((input .day).both
      ((input .month).both ((input .weekday).both
        ((checkKey es "cron" (.ok none) (checkOptional checkText)).both
          ((checkKey es "timezone" (.ok "UTC") checkText).both
            ((checkKey es "enabled" (.ok true) checkBool).both
              (checkKey es "message" (.ok none) (checkOptional checkText)))))))))))).map
    (fun (name, second, minute, hour, day, month, weekday, cron, timezone, enabled, message) =>
      { name, inputs := ⟨second, minute, hour, day, month, weekday⟩, cron, timezone, enabled,
        message })

def check (v : Value) : Checked ScheduleConfig :=
  ((checkEntries "ScheduleConfig" v).andThen read).andThen (fun c => Checked.ofExcept c.verify)

end ScheduleConfig

/-! ## The whole -/

structure Settings where
  logging : LoggingConfig := {}
  engine : EngineConfig := {}
  schedules : List ScheduleConfig := []
deriving Repr, Inhabited

namespace Settings

/-- The names that occur more than once, each once, in code point order. -/
def duplicates (names : List String) : List String :=
  ((names.filter (fun n => 1 < names.count n)).eraseDups).mergeSort
    (fun a b => Text.notAfter a.toList b.toList)

/-- Names of schedules are unique. -/
def verifyNames (schedules : List ScheduleConfig) : Except Fault (List ScheduleConfig) :=
  match duplicates (schedules.map (·.name)) with
  | [] => .ok schedules
  | names => .error (.content (.duplicateNames names))

def checkSchedules (v : Value) : Checked (List ScheduleConfig) :=
  (match v with
    | .list xs => Checked.each ScheduleConfig.check 0 xs
    | .tuple xs => Checked.each ScheduleConfig.check 0 xs
    | _ => .issue .listType).andThen (fun ss => Checked.ofExcept (verifyNames ss))

/-- The keys of a configuration, one for each of its parts. -/
def partNames : List String := ["logging", "engine", "schedules"]

/-- Unknown keys are not allowed in the whole. -/
def checkExtra : Entries → Checked Unit
  | [] => .ok ()
  | (k, _) :: es =>
    let here : Checked Unit :=
      if partNames.contains (k.text?.getD "") then .ok ()
      else (Checked.issue .extraForbidden).under (keyStep k)
    (here.both (checkExtra es)).map (fun _ => ())

def check (es : Entries) : Checked Settings :=
  ((checkKey es "logging" (.ok {}) LoggingConfig.check).both
    ((checkKey es "engine" (.ok {}) EngineConfig.check).both
      ((checkKey es "schedules" (.ok []) checkSchedules).both (checkExtra es)))).map
    (fun (logging, engine, schedules, _) => { logging, engine, schedules })

def schedule? (c : Settings) (name : String) : Option ScheduleConfig :=
  c.schedules.find? (·.name == name)

/-- The schedules that are switched on, in order. -/
def enabled (c : Settings) : List ScheduleConfig := c.schedules.filter (·.enabled)

end Settings

end Cadence.Config
