/-
Registrations.

A registration joins a schedule to a callback. It begins idle, is armed, and in
the end stopped; from there it never comes back. Only an armed registration
looks at the clock. It fires when its schedule matches and the second is not the
one it fired for last: it notes the second, the moment and the count first, and
calls after that, so what the callback does cannot undo the note.

A callback is given by what it does, call by call: a list of actions for the
first call, one for the second, and so on. Actions reach other registrations by
name, the callback's own among them, so calls can nest.
-/
import Cadence.Instant.Clock
import Cadence.Schedule.Cron

set_option autoImplicit false

namespace Cadence

/-! ## Callbacks -/

/-- What a callback can do. -/
inductive Action
  | tick (name : String)
  | arm (name : String)
  | cancel (name : String)
  /-- move the clock on by a number of seconds -/
  | advance (seconds : Value)
  | setClock (now : Moment)
  | say (logger text : String)
  /-- end the call with a fault -/
  | fail (e : Fault)
  /-- do something and note what comes of it, a fault included, in place of ending
  the call -/
  | note (action : Action)
deriving Repr

/-- What a callback does when it is called for the first time, the second time and so
on, counted from one. -/
abbrev Script := Nat → List Action

/-- What is handed over as a callback. -/
inductive Callback
  | script (body : Script)
  /-- a value that cannot be called -/
  | value (v : Value)

/-- The script of a callback, if it can be called. -/
def Callback.require : Callback → Except Fault Script
  | .script body => .ok body
  | .value _ => .error (.kind .notCallable)

/-! ## Registrations -/

inductive Stage
  | idle
  | armed
  | stopped
deriving DecidableEq, Repr, Inhabited

def Stage.name : Stage → String
  | idle => "idle"
  | armed => "armed"
  | stopped => "stopped"

/-- Who hears of a cancellation. -/
inductive Listener
  | nobody
  | caller
  /-- the engine that drives the registration -/
  | engine
deriving DecidableEq, Repr, Inhabited

/-- A schedule with its callback, and how far it has come. -/
structure Registration where
  id : String
  schedule : Schedule
  script : Script
  listener : Listener := .nobody
  stage : Stage := .idle
  lastFired : Option Int := none
  lastFiredAt : Option Moment := none
  fireCount : Nat := 0
deriving Inhabited

namespace Registration

/-- Whether the registration can still come to fire. -/
def active (r : Registration) : Bool := r.stage != .stopped

/-! ## Evaluation -/

/-- What a look at the clock comes to. -/
inductive Verdict
  /-- the registration is not armed and does not look -/
  | unarmed
  /-- the schedule cannot be evaluated -/
  | failed (e : Fault)
  | unmatched
  /-- the second is the one fired for last -/
  | repeated (second : Int)
  | due (second : Int)
deriving Repr

/-- Judges a moment. -/
def judge (r : Registration) (now : Moment) : Verdict :=
  if r.stage = .armed then
    match r.schedule.accepts now with
    | .error e => .failed e
    | .ok false => .unmatched
    | .ok true =>
      if r.lastFired = some now.epochSecond then .repeated now.epochSecond
      else .due now.epochSecond
  else .unarmed

/-- The registration after it noted that it fires. -/
def fired (r : Registration) (second : Int) (now : Moment) : Registration :=
  { r with lastFired := some second, lastFiredAt := some now, fireCount := r.fireCount + 1 }

/-! ## Stages -/

/-- Arms a registration, unless it is stopped. -/
def arm (r : Registration) : Except Fault Registration :=
  if r.stage = .stopped then .error (.state (.cancelled r.id)) else .ok { r with stage := .armed }

def stop (r : Registration) : Registration := { r with stage := .stopped }

/-! ## Text -/

def shown (r : Registration) : Except Fault String := do
  let cron ← r.schedule.cron
  pure ("Registration(id=" ++ Text.quoted r.id ++ ", pattern=" ++ Text.quoted cron ++ ", state="
    ++ Text.quoted r.stage.name ++ ", fire_count=" ++ Number.natText r.fireCount ++ ")")

end Registration

end Cadence
