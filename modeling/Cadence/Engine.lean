/-
Engines.

An engine keeps a registry of registrations and a timer with a job for each of
them, and knows registrations by their numbers. The registry is in the order of
registration. The timer starts with the first job and stops at shutdown; an
engine that was shut down is closed for good.

Registry and closing are the engine's own, and so is the order in which it asks
the timer for things. The timer is a library's, APScheduler, and what it does is
assumed here as that library describes it. Jobs are a map from numbers. A job
runs first an interval from now, reckoned on the wall of the engine's zone. A
timer that stands lets its jobs wait; when it is started it sets their next runs,
and if one of them cannot be set it goes on standing. A timer that runs sets the
next run of a job at once. Stopping it clears it.

Every operation here is one atomic step; what starting, cancelling and shutting
down do is a sequence of such steps.
-/
import Cadence.Config.Model
import Cadence.Instant.Clock

set_option autoImplicit false

namespace Cadence

open Cadence.Config (EngineConfig)
open Cadence.Number (Binary64)

/-! ## Jobs -/

/-- A job of the timer: a registration to be evaluated at an interval of so many
microseconds, first at a reading of the wall of a zone. The next run, in microseconds of
universal time, is set once the timer runs. Runs never overlap, missed ones count as one,
and one that comes later than the grace, in seconds, is left out. -/
structure Job where
  key : Nat
  name : String
  interval : Int
  zone : Zone
  first : Int
  next : Option Int := none
  grace : Int
  maxInstances : Nat := 1
  coalesce : Bool := true
deriving Repr, Inhabited

namespace Job

/-- A number of microseconds as its time stamp tells it, which is a double of seconds. -/
def stamped (micros : Int) : Int :=
  match (Binary64.ofSigned micros 1000000).ratio? with
  | some (n, d) => microsOfRatio n d
  | none => micros

/-- The universal time of a first run, by way of its time stamp. Read back, it has to lie
in the years, in universal time and then on the wall. -/
def firstRun (zone : Zone) (first : Int) : Except Fault Int :=
  let start : Moment := ⟨first, .zoned zone, false⟩
  let utc := stamped (start.utcMicros?.getD first)
  if inYears utc then ((⟨utc, .fixed 0, false⟩ : Moment).wallIn zone).map (fun _ => utc)
  else .error (.content (.yearRange (yearOfSecond (utc / secondMicros))))

/-- Sets the next run of a job to its first one. -/
def schedule (j : Job) : Except Fault Job :=
  (firstRun j.zone j.first).map (fun utc => { j with next := some utc })

/-- When a job should have run last by now, and the job with its next run behind that;
nothing when its time has not come. -/
def turn (j : Job) (now : Int) : Option (Int × Job) :=
  match j.next with
  | none => none
  | some next =>
    if now < next then none
    else
      let last := next + (now - next) / j.interval * j.interval
      some (last, { j with next := some (last + j.interval) })

/-- Whether a run that is late by so many microseconds is left out. -/
def missed (j : Job) (late : Int) : Except Fault Bool := do
  let grace ← lengthOfSeconds (.int j.grace)
  pure (decide (grace < late))

end Job

/-! ## Engines -/

structure Engine where
  config : EngineConfig
  closed : Bool := false
  registry : List Nat := []
  jobs : List Job := []
  running : Bool := false
deriving Repr, Inhabited

namespace Engine

/-- Puts a registration on the registry, behind the others. -/
def enroll (key : Nat) (e : Engine) : Engine := { e with registry := e.registry ++ [key] }

/-- Strikes a registration off the registry. -/
def withdraw (key : Nat) (e : Engine) : Engine :=
  { e with registry := e.registry.filter (· != key) }

def close (e : Engine) : Engine := { e with closed := true }

/-- A closed engine takes no registrations. -/
def requireOpen (e : Engine) : Except Fault Unit :=
  if e.closed then .error (.state .shutDown) else .ok ()

/-! ## The timer -/

def job? (key : Nat) (e : Engine) : Option Job := e.jobs.find? (·.key == key)

/-- The interval of an engine's jobs; one that is too short to be counted is a second
long. -/
def interval (c : EngineConfig) : Except Fault Int := do
  let micros ← lengthOfSeconds (.float c.tickInterval)
  pure (if micros = 0 then secondMicros else micros)

/-- When jobs run that are asked for now: their interval, and the first run on the wall of
the engine's zone, an interval from now. -/
def trigger (c : EngineConfig) (now : Moment) : Except Fault (Int × Zone × Int) := do
  let micros ← interval c
  let zone ← Zone.find (.str c.timezone)
  let here ← now.wallIn zone
  let first ← (⟨here, .zoned zone, false⟩ : Moment).plus micros
  pure (micros, zone, first.wall)

/-- The job for a schedule. Its times are looked at first; the cron text names the job. -/
def jobFor (c : EngineConfig) (now : Moment) (key : Nat) (schedule : Schedule) :
    Except Fault Job := do
  let (interval, zone, first) ← trigger c now
  let cron ← schedule.cron
  pure { key, name := cron, interval, zone, first, grace := c.misfireGraceTime }

/-- Gives the timer a job, which waits as long as the timer stands. -/
def addJob (j : Job) (e : Engine) : Except Fault Engine := do
  let j ← if e.running then j.schedule else pure j
  pure { e with jobs := e.jobs ++ [j] }

def dropJob (key : Nat) (e : Engine) : Engine :=
  { e with jobs := e.jobs.filter (·.key != key) }

/-- Puts a job in the place of the one with its number. -/
def replaceJob (j : Job) (e : Engine) : Engine :=
  { e with jobs := e.jobs.map (fun k => if k.key = j.key then j else k) }

/-- Starts the timer, if it stands, and with it the jobs that wait. -/
def launch (e : Engine) : Except Fault Engine :=
  if e.running then .ok e
  else (e.jobs.mapM Job.schedule).map (fun jobs => { e with running := true, jobs })

/-- Stops the timer; the jobs go with it. -/
def halt (e : Engine) : Engine := { e with running := false, jobs := [] }

end Engine

end Cadence
