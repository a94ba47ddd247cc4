/-
Evaluating registrations.

One evaluation reads the clock, judges the moment and, when the registration is
due, notes it and calls the callback. The call performs the actions of the
callback's script one after the other; the first fault ends it. Among the
actions are evaluations, so calls nest, up to a depth; a call that would go
deeper fails.

An evaluation is written over the way calls are made, `Caller`, and the calls of
one depth over those of the depth below, so the recursion is on the depth alone.
-/
import Cadence.Session.Basic

set_option autoImplicit false

namespace Cadence

/-- How the callback of a registration is called. -/
abbrev Caller := Nat → Session → Outcome Unit

namespace Session

/-! ## One evaluation -/

/-- Notes that a registration fires, and calls. -/
def fire (call : Caller) (key : Nat) (second : Int) (s : Session) : Outcome Bool :=
  let now := s.clock.now
  -- the note is made before the call, whose fault does not undo it
  let s := (s.modify key (·.fired second now)).witness (.called key now)
  match call key s with
  | (s, .ok ()) => (s, .ok true)
  | (s, .error e) => (s, .error e)

/-- Evaluates a registration: whether its callback was called. -/
def tickWith (call : Caller) (key : Nat) (s : Session) : Outcome Bool :=
  match s.registration? key with
  | none => (s, .ok false)
  | some r => match r.judge s.clock.now with
    | .unarmed => (s, .ok false)
    | .failed e => (s, .error e)
    | .unmatched => (s, .ok false)
    | .repeated second =>
      ((s.say .debug ("Registration " ++ r.id ++ " already fired for second "
        ++ Number.intText second)).witness (.passed key s.clock.now), .ok false)
    | .due second => s.fire call key second

/-! ## Actions -/

/-- An outcome without a verdict. -/
def silent : Outcome Unit → Outcome (Option Bool)
  | (s, .ok ()) => (s, .ok none)
  | (s, .error e) => (s, .error e)

/-- Does something with the registration under a name. -/
def withName {α : Type} (name : String) (s : Session) (f : Nat → Outcome α) : Outcome α :=
  match s.keyOf name with
  | .error e => (s, .error e)
  | .ok key => f key

def act (call : Caller) (owner : Nat) (s : Session) : Action → Outcome (Option Bool)
  | .tick name => s.withName name (fun key => match s.tickWith call key with
    | (s, .ok b) => (s, .ok (some b))
    | (s, .error e) => (s, .error e))
  | .arm name => s.withName name (fun key => silent (s.arm key))
  | .cancel name => s.withName name (fun key => (s.cancel key, .ok none))
  | .advance seconds => silent (s.advance seconds)
  | .setClock now => silent (s.setClock now)
  | .say logger text => ({ s with logs := s.logs.say logger .info text none }, .ok none)
  | .fail e => (s, .error e)
  | .note action => match s.act call owner action with
    | (s, outcome) => (s.witness (.noted owner outcome), .ok none)

/-- Performs actions until one fails. -/
def actAll (call : Caller) (owner : Nat) (s : Session) : List Action → Outcome Unit
  | [] => (s, .ok ())
  | a :: rest => match s.act call owner a with
    | (s, .ok _) => actAll call owner s rest
    | (s, .error e) => (s, .error e)

/-! ## Calls -/

/-- Calls with at most so many calls inside one another. The number of the call is
the number of times that the registration has fired. -/
def callWithin : Nat → Caller
  | 0 => fun _ s => (s, .error (.state .tooDeep))
  | depth + 1 => fun key s => match s.registration? key with
    | none => (s, .ok ())
    | some r => s.actAll (callWithin depth) key (r.script r.fireCount)

/-- How deep calls nest. -/
def maxDepth : Nat := 300

def tick (key : Nat) (s : Session) : Outcome Bool := s.tickWith (callWithin maxDepth) key

/-- Evaluates a registration again and again, the clock moving on after each time: the
rounds in which it fired. A fault ends the run. -/
def run (key : Nat) (seconds : Value) : Nat → Nat → Session → Outcome (List Nat)
  | 0, _, s => (s, .ok [])
  | count + 1, round, s => match s.tick key with
    | (s, .error e) => (s, .error e)
    | (s, .ok b) => match s.advance seconds with
      | (s, .error e) => (s, .error e)
      | (s, .ok ()) => match run key seconds count (round + 1) s with
        | (s, .ok rounds) => (s, .ok (if b then round :: rounds else rounds))
        | (s, .error e) => (s, .error e)

end Session

end Cadence
