/-
A clock that is moved by hand, and lengths of time.

The clock holds one moment, which must have an offset. Moving it on by a number
of seconds adds to its wall reading and keeps its place, so in a zone it is the
wall that moves on by that much; the result is always the first reading of a
repeated time.

A length of time is a whole number of microseconds. One given in seconds as a
double is split into whole seconds and a fraction; the fraction is multiplied
as a double and what is left below a microsecond is rounded, halves to the even
neighbour.
-/
import Cadence.Instant.Basic

set_option autoImplicit false

namespace Cadence

open Cadence.Number (Binary64 Numeral)

/-! ## Lengths of time -/

def maxDays : Int := 999999999

/-- The largest number of days that can even be compared with that limit. -/
def maxWord : Int := 2147483647

/-- A number of microseconds as a length of time. -/
def lengthOf (micros : Int) : Except Fault Int :=
  let days := micros / dayMicros
  if days < -maxWord - 1 ∨ maxWord < days then .error (.overflow .daysBeyondWord)
  else if days < -maxDays ∨ maxDays < days then .error (.overflow (.days days))
  else .ok micros

/-- The microseconds of a finite number of seconds `n / d`, and of its nearest
neighbours below a second as a double sees them. -/
def microsOfRatio (n : Int) (d : Nat) : Int :=
  let whole := n.tdiv d
  -- the fraction times a million is rounded to a double first
  let rest := n - whole * d
  match ((Binary64.ofSigned rest d).scale 1000000).ratio? with
  | some (a, b) =>
    let units := a.tdiv b
    let left := a - units * b
    let base := whole * secondMicros + units
    -- what is left below a microsecond is rounded, a half to the even sum
    let twice := 2 * left.natAbs
    let step : Int := if left < 0 then -1 else 1
    if twice < b then base
    else if b < twice then base + step
    else if base % 2 = 0 then base else base + step
  | none => whole * secondMicros

/-- A value taken as a number of seconds. -/
def lengthOfSeconds (v : Value) : Except Fault Int :=
  match v.numeral? with
  | none => .error (.kind (.durationKind v.typeName))
  | some (.int n) => lengthOf (n * secondMicros)
  | some (.float x) => match x with
    | .nan => .error (.content .nanToInteger)
    | .infinite _ => .error (.overflow .infinityToInteger)
    | x => match x.ratio? with
      | some (n, d) => lengthOf (microsOfRatio n d)
      | none => .error (.content .nanToInteger)

/-! ## Moving on -/

/-- The moment `micros` later on the same wall. -/
def Moment.plus (m : Moment) (micros : Int) : Except Fault Moment :=
  let wall := m.wall + micros
  if inYears wall then .ok { m with wall := wall, later := false } else .error (.overflow .date)

/-- A clock that shows one moment until it is told to move. -/
structure ManualClock where
  now : Moment
deriving Repr, Inhabited

namespace ManualClock

/-- A clock set to a moment, which must have an offset. -/
def start (m : Moment) : Except Fault ManualClock := do
  let _ ← m.requireOffset
  pure ⟨m⟩

def set (_ : ManualClock) (m : Moment) : Except Fault ManualClock := start m

def advance (c : ManualClock) (seconds : Value) : Except Fault ManualClock := do
  let micros ← lengthOfSeconds seconds
  let m ← c.now.plus micros
  pure ⟨m⟩

end ManualClock

end Cadence
