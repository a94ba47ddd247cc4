/-
The fields of a moment, by the calendar.

A moment with a fixed offset is carried to universal time and from there onto the wall of a
zone, where it is read as six numbers. What these numbers are is said here without the
reader: let `l` be the second of universal time plus the offset that the zone has then. The
time of day is `l` taken apart by sixty, sixty and twenty-four; month and day are those of
the date that is reached by counting day by day from the first of January 1970; the weekday
goes round with seven, day zero being a Thursday (`IsFieldsOf`).

Reading any wall gives such fields (`isFieldsOf_partsOf`), before 1970 as well as behind,
because division is towards the floor throughout. They lie in the ranges that a schedule's
fields have, so no field of a moment is out of reach of every pattern.
-/
import Cadence.Proofs.Instant.Projection

set_option autoImplicit false

namespace Cadence

open Calendar (IsDateOf isDateOf_iff isDateOf_iff_exists)

namespace Moment

/-- The fields of second `l` of a wall clock, counted from the start of 1970. -/
structure IsFieldsOf (l : Int) (parts : Sextet Int) : Prop where
  second : parts.second = l % 60
  minute : parts.minute = l / 60 % 60
  hour : parts.hour = l / 3600 % 24
  date : ∃ d, IsDateOf (l / 86400) d ∧ parts.month = d.month ∧ parts.day = d.day
  weekday : parts.weekday = (l / 86400 + 4) % 7
  inRange : ∀ f : Field, f.low ≤ parts.get f ∧ parts.get f ≤ f.high

/-- A date that is counted to has a month of the year and a day of any month. -/
theorem bounds_of_isDateOf {n : Int} {d : Calendar.Date} (h : IsDateOf n d) :
    (1 ≤ d.month ∧ d.month ≤ 12) ∧ 1 ≤ d.day ∧ d.day ≤ 31 := by
  obtain ⟨⟨hlow, hhigh, hfirst, hlast⟩, -⟩ := isDateOf_iff_exists.mp h
  have hin := Calendar.daysInMonth_bounds d.year ⟨hlow, hhigh⟩
  exact ⟨⟨hlow, hhigh⟩, hfirst, by omega⟩

/-- **Reading a wall gives its fields by the calendar.** -/
theorem isFieldsOf_partsOf (wall : Int) :
    IsFieldsOf (wall / secondMicros) (partsOf wall) := by
  have hdate : IsDateOf (wall / secondMicros / 86400)
      (Calendar.civil (wall / secondMicros / 86400)) := isDateOf_iff.mpr rfl
  obtain ⟨hmonth, hday⟩ := bounds_of_isDateOf hdate
  refine ⟨rfl, rfl, rfl, ⟨_, hdate, rfl, rfl⟩, rfl, fun f => ?_⟩
  cases f with
  | second => simp only [Field.low, Field.high, Sextet.get, partsOf]; omega
  | minute => simp only [Field.low, Field.high, Sextet.get, partsOf]; omega
  | hour => simp only [Field.low, Field.high, Sextet.get, partsOf]; omega
  | day => exact hday
  | month => exact hmonth
  | weekday => simp only [Field.low, Field.high, Sextet.get, partsOf, Calendar.weekday]; omega

variable {m : Moment} {z : Zone} {offset : Int}

/-- A wall is ahead of universal time by whole seconds. -/
theorem wallAt_div (z : Zone) (u : Int) :
    z.wallAt u / secondMicros = u / secondMicros + z.offsetAt (u / secondMicros) := by
  rw [Zone.wallAt]
  unfold secondMicros
  omega

/-- **A moment's fields in a zone are those of the calendar**: for a moment with a fixed
offset and any zone, those of the second of universal time and the zone's offset in it, as
long as both readings lie in the years. Under a name that the zone is known by they are the
same. -/
theorem timeParts_isFieldsOf (hplace : m.place = .fixed offset)
    (hyears : inYears (m.wall - offset) = true)
    (hlocal : inYears (z.wallAt (m.wall - offset)) = true) :
    ∃ parts, m.partsIn z = .ok parts ∧
      (∀ name, Zone.find name = .ok z → timeParts m name = .ok parts) ∧
      IsFieldsOf ((m.wall - offset) / secondMicros
        + z.offsetAt ((m.wall - offset) / secondMicros)) parts := by
  have hoffset : m.utcMicros? = some (m.wall - offset) := by
    rw [utcMicros?, offset?, hplace, Option.map_some]
  -- a fixed offset is no zone, so there is no shortcut to the wall
  have helsewhere : m.standsIn z = false := by rw [standsIn, hplace]
  have hwall := wallIn_of_elsewhere hoffset helsewhere hyears hlocal
  have hparts : m.partsIn z = .ok (partsOf (z.wallAt (m.wall - offset))) := by
    rw [partsIn, hwall]
    rfl
  refine ⟨_, hparts, fun name hz => ?_, ?_⟩
  · rw [timeParts, hz]
    exact hparts
  · rw [← wallAt_div]
    exact isFieldsOf_partsOf _

/-- Half past midnight of 1 March 1896 on a wall three hours ahead. In Monrovia, whose offset
had odd seconds then, it is still the 29th of February. -/
theorem timeParts_isFieldsOf_monrovia :
    let m : Moment := ⟨-2330033399500000, .fixed 10800000000, false⟩
    let z := Zone.Europe.monrovia
    m.place = .fixed 10800000000 ∧ Zone.find (.str "Africa/Monrovia") = .ok z ∧
      inYears (m.wall - 10800000000) = true ∧
      inYears (z.wallAt (m.wall - 10800000000)) = true ∧
      ∃ parts, timeParts m (.str "Africa/Monrovia") = .ok parts ∧ m.partsIn z = .ok parts ∧
        IsFieldsOf ((m.wall - 10800000000) / secondMicros
          + z.offsetAt ((m.wall - 10800000000) / secondMicros)) parts := by
  intro m z
  have hfind : Zone.find? "Africa/Monrovia" = some z := by decide +kernel
  have hz : Zone.find (.str "Africa/Monrovia") = .ok z := by
    rw [Zone.find, hfind]
  have hyears : inYears (m.wall - 10800000000) = true := by decide +kernel
  have hlocal : inYears (z.wallAt (m.wall - 10800000000)) = true := by decide +kernel
  obtain ⟨parts, hparts, hnamed, hfields⟩ := timeParts_isFieldsOf rfl hyears hlocal (m := m)
  exact ⟨rfl, hz, hyears, hlocal, parts, hnamed _ hz, hparts, hfields⟩

end Moment

end Cadence
