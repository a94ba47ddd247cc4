/-
Driving registrations with an engine.

Starting a registration is a sequence of steps, each of which may fail: the
engine must be open, the callback must be one that can be called, the job must
come about, and the timer must start if it stands; in between the registration
is put on the registry and armed. Cancelling strikes it off again and takes its
job from the timer. Shutting down closes the engine, cancels what is on the
registry, in order, and stops the timer.

A run of a job is an evaluation whose fault is logged and goes no further.
-/
import Cadence.Session.Tick

set_option autoImplicit false

namespace Cadence

open Cadence.Config (EngineConfig)

namespace Session

/-! ## Engines -/

def openEngine (c : EngineConfig) (s : Session) : Session :=
  { s with engine := some { config := c } }.say .debug
    ("Engine initialized with tick interval " ++ c.tickInterval.text ++ "s")

/-- The engine that everybody shares: it is made when there is none or the last one
is closed. -/
def shareEngine (s : Session) : Session :=
  match s.engine with
  | none => s.openEngine {}
  | some e => if e.closed then s.openEngine {} else s

/-! ## Starting -/

/-- Without an open engine nothing starts. -/
def requireOpen (s : Session) : Except Fault EngineConfig :=
  match s.engine with
  | none => .error (.state .shutDown)
  | some e => e.requireOpen.map (fun _ => e.config)

def enroll (key : Nat) (s : Session) : Session := s.mapEngine (Engine.enroll key)

/-- Gives the engine's timer the job of a registration. -/
def addJob (c : EngineConfig) (key : Nat) (schedule : Schedule) (s : Session) : Outcome Job :=
  match Engine.jobFor c s.present key schedule with
  | .error e => (s, .error e)
  | .ok job => match s.tryEngine (Engine.addJob job) with
    | (s, .error e) => (s, .error e)
    | (s, .ok ()) => (s, .ok job)

/-- Starts the engine's timer, unless it runs. -/
def launch (s : Session) : Outcome Unit :=
  if (s.engine.map (·.running)).getD true then (s, .ok ())
  else match s.tryEngine Engine.launch with
    | (s, .error e) => (s, .error e)
    | (s, .ok ()) => (s.say .info "Engine started", .ok ())

/-- Starts a registration: its number. -/
def start (schedule : Schedule) (callback : Callback) (s : Session) : Outcome Nat :=
  match s.requireOpen with
  | .error e => (s, .error e)
  | .ok config => match s.create none schedule callback .engine with
    | (s, .error e) => (s, .error e)
    -- from here on a fault leaves the registration on the registry, armed
    | (s, .ok key) => match (s.enroll key).arm key with
      | (s, .error e) => (s, .error e)
      | (s, .ok ()) => match s.addJob config key schedule with
        | (s, .error e) => (s, .error e)
        | (s, .ok job) => match s.launch with
          | (s, .error e) => (s, .error e)
          | (s, .ok ()) =>
            (s.say .info ("Registered " ++ s.idOf key ++ ": " ++ job.name), .ok key)

/-! ## Shutting down -/

/-- The numbers on the engine's registry. -/
def registry (s : Session) : List Nat := (s.engine.map (·.registry)).getD []

/-- Stops the engine's timer, if it runs. -/
def halt (s : Session) : Session :=
  if (s.engine.map (·.running)).getD false then
    (s.mapEngine Engine.halt).say .info "Engine stopped"
  else s

def shutdown (s : Session) : Session :=
  -- closed first, so that no cancellation can start anything
  let s := s.mapEngine Engine.close
  (s.registry.foldl (fun s key => s.cancel key) s).halt

/-! ## Jobs -/

def job? (key : Nat) (s : Session) : Option Job := s.engine.bind (Engine.job? key)

/-- Runs a job that comes late by so many microseconds: what the evaluation came to,
if it came to anything. -/
def runJob (job : Job) (late : Int) (s : Session) : Outcome (Option Bool) :=
  let id := s.idOf job.key
  match job.missed late with
  | .error e => (s, .error e)
  | .ok true => (s.say .debug ("Tick for registration " ++ id ++ " skipped (missed)"), .ok none)
  | .ok false => match s.tick job.key with
    | (s, .ok b) => (s, .ok (some b))
    | (s, .error e) =>
      ({ s with
        logs := s.logs.sayFault loggerName e ("Callback for registration " ++ id ++ " failed") },
        .ok none)

/-- Runs a job if its time has come. -/
def runIfDue (s : Session) (job : Job) : Session :=
  let now := s.present.utcMicros?.getD s.present.wall
  match job.turn now with
  | none => s
  | some (last, next) => ((s.mapEngine (Engine.replaceJob next)).runJob job (now - last)).1

/-- Runs the jobs whose time has come, in order, and once at most. -/
def runDue (s : Session) : Session :=
  ((s.engine.map (·.jobs)).getD []).foldl runIfDue s

/-- A run is left out because the one before it is not over. -/
def skipRun (key : Nat) (s : Session) : Session :=
  s.say .debug ("Tick for registration " ++ s.idOf key ++ " skipped (still running)")

end Session

end Cadence
