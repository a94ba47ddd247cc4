/-
Sessions.

A session holds everything that a run of the program can change: the clock, the
registrations made so far, the engine, the loggers, and a trace of what was
called and heard of. Registrations are numbered as they are made and never go
away; names point to numbers, and a name given anew points to the newest.

An operation that may fail gives the session back in any case, because what was
done before the fault stays done.
-/
import Cadence.Engine
import Cadence.Log.Basic
import Cadence.Registration.Basic

set_option autoImplicit false

namespace Cadence

open Cadence.Config (EngineConfig Level)
open Cadence.Log (Logs)

/-- Something that happened to a registration. -/
inductive Occurrence
  /-- its callback was called at a moment -/
  | called (key : Nat) (now : Moment)
  /-- its schedule matched at a moment, but it fired last for that very second -/
  | passed (key : Nat) (now : Moment)
  /-- its caller heard that it was cancelled -/
  | cancelled (key : Nat)
  /-- its callback noted what came of an action; an evaluation comes to a verdict -/
  | noted (key : Nat) (outcome : Except Fault (Option Bool))
deriving Repr

/-- The moment at which the timer starts counting when nothing else is said. -/
def Moment.epoch2026 : Moment := ⟨1767225600 * secondMicros, .fixed 0, false⟩

structure Session where
  clock : ManualClock
  registrations : List Registration := []
  names : List (String × Nat) := []
  engine : Option Engine := none
  /-- the moment as the timer sees it -/
  present : Moment := Moment.epoch2026
  logs : Logs := {}
  trace : List Occurrence := []
deriving Inhabited

/-- What an operation gives: the session behind it, and a result or a fault. -/
abbrev Outcome (α : Type) := Session × Except Fault α

namespace Session

/-! ## Parts -/

def loggerName : String := "scheduler.engine"

def say (level : Level) (text : String) (s : Session) : Session :=
  { s with logs := s.logs.say loggerName level text none }

def witness (o : Occurrence) (s : Session) : Session := { s with trace := s.trace ++ [o] }

def registration? (key : Nat) (s : Session) : Option Registration := s.registrations[key]?

def modify (key : Nat) (f : Registration → Registration) (s : Session) : Session :=
  { s with registrations := s.registrations.modify key f }

def idOf (key : Nat) (s : Session) : String := ((s.registration? key).map (·.id)).getD ""

/-- The number that a name points to. -/
def keyOf (name : String) (s : Session) : Except Fault Nat :=
  match s.names.lookup name with
  | some key => .ok key
  | none => .error (.missingKey name)

/-- Points a name to a number. -/
def setName (name : String) (key : Nat) (s : Session) : Session :=
  { s with names := (name, key) :: s.names.filter (·.1 != name) }

/-- Changes the engine, if there is one. -/
def mapEngine (f : Engine → Engine) (s : Session) : Session :=
  { s with engine := s.engine.map f }

/-- Changes the engine in a way that may fail; then nothing is changed. -/
def tryEngine (f : Engine → Except Fault Engine) (s : Session) : Outcome Unit :=
  match s.engine with
  | none => (s, .ok ())
  | some e => match f e with
    | .error e => (s, .error e)
    | .ok e => ({ s with engine := some e }, .ok ())

/-! ## New registrations -/

/-- The id made for the registration with a number: 32 hexadecimal digits. -/
def madeId (key : Nat) : String := String.ofList (Text.hexDigits 32 key)

/-- Makes a registration, which has an id made for it unless one is given. -/
def create (given : Option String) (schedule : Schedule) (callback : Callback)
    (listener : Listener) (s : Session) : Outcome Nat :=
  match callback.require with
  | .error e => (s, .error e)
  | .ok script =>
    let key := s.registrations.length
    -- an empty id counts as none
    let id := (given.filter (fun id => !id.isEmpty)).getD (madeId key)
    ({ s with registrations := s.registrations ++ [{ id, schedule, script, listener }] }, .ok key)

/-! ## Stages -/

def arm (key : Nat) (s : Session) : Outcome Unit :=
  match s.registration? key with
  | none => (s, .ok ())
  | some r => match r.arm with
    | .error e => (s, .error e)
    | .ok r => (s.modify key (fun _ => r), .ok ())

/-- Strikes a registration off the engine's registry. -/
def withdraw (key : Nat) (s : Session) : Session := s.mapEngine (Engine.withdraw key)

/-- Takes the job of a registration from the engine's timer. -/
def unschedule (key : Nat) (s : Session) : Session :=
  let s := if (s.engine.bind (Engine.job? key)).isSome then s.mapEngine (Engine.dropJob key)
    else s.say .debug ("Tick job " ++ s.idOf key ++ " was already removed")
  s.say .info ("Cancelled " ++ s.idOf key)

/-- Tells of a cancellation. -/
def tell (key : Nat) (s : Session) : Listener → Session
  | .nobody => s
  | .caller => s.witness (.cancelled key)
  | .engine => (s.withdraw key).unschedule key

/-- Stops a registration and tells of it, unless it is stopped already. -/
def cancel (key : Nat) (s : Session) : Session :=
  match s.registration? key with
  | none => s
  | some r =>
    if r.stage = .stopped then s
    -- it is stopped before anybody hears of it
    else ((s.modify key Registration.stop).tell key r.listener).say .debug
      ("Registration " ++ r.id ++ " cancelled")

/-! ## The clock -/

def advance (seconds : Value) (s : Session) : Outcome Unit :=
  match s.clock.advance seconds with
  | .error e => (s, .error e)
  | .ok c => ({ s with clock := c }, .ok ())

def setClock (now : Moment) (s : Session) : Outcome Unit :=
  match s.clock.set now with
  | .error e => (s, .error e)
  | .ok c => ({ s with clock := c }, .ok ())

end Session

end Cadence
