/-
Instants.

A moment is a reading of a wall clock together with the place of that clock: a
fixed offset, a zone, or nowhere (a naive reading, which names no instant). The
wall is one integer, the microseconds since 1970-01-01 00:00 on that wall, so
that arithmetic on it is arithmetic on integers and the calendar enters only
when the reading is taken apart. Where a zone's wall time is repeated or
skipped, `later` picks the second reading.

Two questions are answered here. What a moment's six fields are in a zone
(`partsIn`): the moment is carried to universal time and from there onto the
zone's wall; a moment that stands in that very zone is already on its wall and
is taken as it is. And which second of universal time it is (`epochSecond`),
where the time stamp is a double, so that its floor is that of the nearest
double.
-/
import Cadence.Zone.Table

set_option autoImplicit false

namespace Cadence

open Calendar (Date dayNumber civil minDay maxDay)
open Cadence.Number (Binary64 natText padded intText)

/-! ## Moments -/

def secondMicros : Int := 1000000

def dayMicros : Int := 86400000000

/-- Where a wall clock stands. -/
inductive Place
  | naive
  /-- an offset in microseconds, eastwards -/
  | fixed (offset : Int)
  | zoned (zone : Zone)
deriving DecidableEq, Repr, Inhabited

/-- A reading of a wall clock at a place. -/
structure Moment where
  wall : Int
  place : Place
  later : Bool
deriving DecidableEq, Repr, Inhabited

/-- Whether a wall reading lies in the years 1 to 9999. -/
def inYears (wall : Int) : Bool :=
  minDay * dayMicros ≤ wall && wall < (maxDay + 1) * dayMicros

namespace Moment

/-- The offset of a moment in microseconds; a naive one has none. -/
def offset? (m : Moment) : Option Int :=
  match m.place with
  | .naive => none
  | .fixed o => some o
  | .zoned z => some (z.offsetOnWall (m.wall / secondMicros) m.later * secondMicros)

/-- The microseconds of universal time since 1970. -/
def utcMicros? (m : Moment) : Option Int := m.offset?.map (m.wall - ·)

/-- Whether the moment stands in the zone of that name. -/
def standsIn (m : Moment) (z : Zone) : Bool :=
  match m.place with
  | .zoned y => y.name == z.name
  | _ => false

/-- A naive reading cannot be used as an instant. -/
def requireOffset (m : Moment) : Except Fault Int :=
  match m.offset? with
  | some o => .ok o
  | none => .error (.content .naiveInstant)

/-! ## Projection -/

def wallIn (m : Moment) (z : Zone) : Except Fault Int := do
  let o ← m.requireOffset
  -- no detour for a moment on that wall, whatever reading it is
  if m.standsIn z then pure m.wall
  else
    -- universal time has to lie within the years as well
    let utc := m.wall - o
    if inYears utc then
      let wall := utc + z.offsetAt (utc / secondMicros) * secondMicros
      if inYears wall then pure wall else .error (.overflow .date)
    else .error (.overflow .date)

def partsOf (wall : Int) : Sextet Int :=
  let s := wall / secondMicros
  let day := s / daySeconds
  let date := civil day
  { second := s % 60
    minute := s / 60 % 60
    hour := s / 3600 % 24
    day := date.day
    month := date.month
    weekday := Calendar.weekday day }

def partsIn (m : Moment) (z : Zone) : Except Fault (Sextet Int) := (m.wallIn z).map partsOf

/-! ## Time stamp -/

/-- The floor of the nearest double to a number of microseconds, in seconds. -/
def stampFloor (micros : Int) : Int :=
  match (Binary64.ofSigned micros 1000000).ratio? with
  | some (n, d) => n / d
  | none => 0

/-- The second of universal time in which the moment's time stamp lies. -/
def epochSecond (m : Moment) : Int := stampFloor (m.utcMicros?.getD m.wall)

/-! ## Text -/

/-- The fraction of a second as it is written: none for zero, else six digits. -/
def fractionText (micros : Nat) : String :=
  if micros = 0 then "" else "." ++ padded 6 micros

/-- An offset as `+HH:MM`, with seconds and their fraction only when not zero. -/
def offsetText (o : Int) : String :=
  let n := o.natAbs
  let s := n / 1000000
  let f := n % 1000000
  (if o < 0 then "-" else "+") ++ padded 2 (s / 3600) ++ ":" ++ padded 2 (s / 60 % 60)
    ++ (if s % 60 = 0 && f = 0 then "" else ":" ++ padded 2 (s % 60) ++ fractionText f)

/-- A wall reading as `YYYY-MM-DDTHH:MM:SS`, with its fraction when not zero. -/
def wallText (wall : Int) : String :=
  let s := wall / secondMicros
  let date := civil (s / daySeconds)
  padded 4 date.year.toNat ++ "-" ++ padded 2 date.month.toNat ++ "-" ++ padded 2 date.day.toNat
    ++ "T" ++ padded 2 (s / 3600 % 24).toNat ++ ":" ++ padded 2 (s / 60 % 60).toNat ++ ":"
    ++ padded 2 (s % 60).toNat ++ fractionText (wall % secondMicros).toNat

def iso (m : Moment) : String :=
  wallText m.wall ++ (match m.offset? with
    | some o => offsetText o
    | none => "")

end Moment

/-- The fields of a moment in the zone that a value names; the name is looked up
before the moment is asked for its offset. -/
def timeParts (m : Moment) (zone : Value) : Except Fault (Sextet Int) := do
  let z ← Zone.find zone
  m.partsIn z

/-! ## A wall reading from its parts -/

/-- The numbers a wall reading is made of. -/
structure WallParts where
  year : Int
  month : Int
  day : Int
  hour : Int
  minute : Int
  second : Int
  micro : Int
deriving DecidableEq, Repr, Inhabited

/-- The wall reading with the given parts; the first part out of its range, in
the order year, month, day, hour, minute, second, is the fault. -/
def WallParts.wall (p : WallParts) : Except Fault Int :=
  if p.year < Calendar.minYear ∨ Calendar.maxYear < p.year then
    .error (.content (.yearRange p.year))
  else if p.month < 1 ∨ 12 < p.month then .error (.content .monthRange)
  else if p.day < 1 ∨ Calendar.daysInMonth p.year p.month < p.day then .error (.content .dayRange)
  else if p.hour < 0 ∨ 23 < p.hour then .error (.content .hourRange)
  else if p.minute < 0 ∨ 59 < p.minute then .error (.content .minuteRange)
  else if p.second < 0 ∨ 59 < p.second then .error (.content .secondRange)
  else .ok ((dayNumber ⟨p.year, p.month, p.day⟩ * daySeconds + p.hour * 3600 + p.minute * 60
    + p.second) * secondMicros + p.micro)

end Cadence
