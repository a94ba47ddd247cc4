/-
Time zones.

A zone is a list of past changes of its offset and a rule for the time behind
the last of them. Two questions are asked of it. Which offset holds at an
instant of universal time: the offset of the last change not after it. Which
offset a wall clock shows: the same with each change moved onto the wall, where
a repeated stretch of wall time has a first and a second reading and a skipped
one is read with the offset before or behind the gap. Moving a change by the
larger of its two offsets gives the first reading, by the smaller the second.

All offsets and times are whole seconds, offsets counted eastwards.
-/
import Cadence.Calendar

set_option autoImplicit false

namespace Cadence

open Calendar (Date dayNumber daysInMonth weekday)

def daySeconds : Int := 86400

/-! ## Yearly rules -/

/-- The `week`-th `weekday` of a month, the fifth meaning the last, at a time of
the day in seconds. -/
structure RuleDate where
  month : Int
  week : Int
  weekday : Int
  time : Int
deriving DecidableEq, Repr, Inhabited

/-- The day of the month that a rule names in year `y`. -/
def RuleDate.day (r : RuleDate) (y : Int) : Int :=
  let first := Calendar.weekday (dayNumber ⟨y, r.month, 1⟩)
  -- a fifth week that the month does not have means the last
  let d := (r.weekday - first) % 7 + 1 + 7 * (r.week - 1)
  if daysInMonth y r.month < d then d - 7 else d

/-- The wall-clock second of year `y` that a rule names. -/
def RuleDate.second (r : RuleDate) (y : Int) : Int :=
  dayNumber ⟨y, r.month, r.day y⟩ * daySeconds + r.time

/-- The offset behind the last listed change: one for good, or a standard and a
summer offset between two dates of each year. -/
inductive Rule
  | always (offset : Int)
  | yearly (standard summer : Int) (start stop : RuleDate)
deriving DecidableEq, Repr, Inhabited

/-- Whether `t` lies in the stretch from `a` to `b`, which may reach around the
turn of the year. -/
def inSeason (a b t : Int) : Bool :=
  if a < b then a ≤ t && t < b else t < b || a ≤ t

/-- The offset at second `t` of universal time, in year `y` of universal time. -/
def Rule.offsetAt (r : Rule) (y t : Int) : Int :=
  match r with
  | .always o => o
  | .yearly std dst start stop =>
    if inSeason (start.second y - std) (stop.second y - dst) t then dst else std

/-- The offset at second `t` of the wall clock, in year `y` of the wall clock;
`later` asks for the second reading. -/
def Rule.offsetOnWall (r : Rule) (y t : Int) (later : Bool) : Int :=
  match r with
  | .always o => o
  | .yearly std dst start stop =>
    let shift := dst - std
    let a := start.second y
    let b := stop.second y
    -- both turns come at the earlier of their two wall times, or both at the later
    if later == decide (0 ≤ shift) then
      if inSeason a (b - shift) t then dst else std
    else if inSeason (a + shift) b t then dst else std

/-! ## Zones -/

/-- From second `at` of universal time on, the offset is `offset`. -/
structure Change where
  time : Int
  offset : Int
deriving DecidableEq, Repr, Inhabited

/-- A zone by name: its first offset, its changes in order, its rule. -/
structure Zone where
  name : String
  first : Int
  changes : List Change
  rule : Rule
deriving DecidableEq, Repr, Inhabited

/-- The offset of the last change not after `t`; `before` holds ahead of all. -/
def settled (before : Int) : List Change → Int → Int
  | [], _ => before
  | c :: cs, t => if t < c.time then before else settled c.offset cs t

/-- The changes moved onto the wall clock, for its first or second reading. -/
def onWall (later : Bool) (before : Int) : List Change → List Change
  | [] => []
  | c :: cs =>
    ⟨c.time + (if later then min before c.offset else max before c.offset), c.offset⟩
      :: onWall later c.offset cs

/-- The seconds' year on whichever clock they are counted. -/
def yearOfSecond (t : Int) : Int := (Calendar.civil (t / daySeconds)).year

namespace Zone

/-- The offset that holds at second `t` of universal time. -/
def offsetAt (z : Zone) (t : Int) : Int :=
  match z.changes.getLast? with
  | none => z.rule.offsetAt (yearOfSecond t) t
  | some c =>
    -- behind the last change the rule holds
    if c.time < t then z.rule.offsetAt (yearOfSecond t) t else settled z.first z.changes t

/-- The offset with which second `t` of the zone's wall clock is read. -/
def offsetOnWall (z : Zone) (t : Int) (later : Bool) : Int :=
  let changes := onWall later z.first z.changes
  match changes.getLast? with
  | none => z.rule.offsetOnWall (yearOfSecond t) t later
  | some c =>
    if c.time < t then z.rule.offsetOnWall (yearOfSecond t) t later
    else settled z.first changes t

end Zone

end Cadence
