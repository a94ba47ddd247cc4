/-
The proleptic Gregorian calendar.

Days are counted from 1970-01-01 by an integer, in both directions. `dayNumber`
counts them from a date, `civil` gives the date back. The count goes through
whole 400-year, 100-year, 4-year and single years, each of which has one length
except that the last of its kind may be a day longer, hence the two minima.
Instants and zone rules stay within the years 1 to 9999.
-/

set_option autoImplicit false

namespace Cadence.Calendar

/-! ## Years and months -/

def isLeap (y : Int) : Bool := y % 4 = 0 && (y % 100 ≠ 0 || y % 400 = 0)

def monthLengths (leap : Bool) : List Int :=
  [31, if leap then 29 else 28, 31, 30, 31, 30, 31, 31, 30, 31, 30, 31]

/-- The number of days of month `m` (1 to 12). -/
def daysInMonth (y m : Int) : Int := (monthLengths (isLeap y)).getD (m - 1).toNat 0

/-- The days of a year before month `m`. -/
def daysBeforeMonth (y m : Int) : Int :=
  ((monthLengths (isLeap y)).take (m - 1).toNat).foldr (fun a b => a + b) 0

/-- The days from 0001-01-01 to the first of January of year `y`. -/
def daysBeforeYear (y : Int) : Int :=
  let p := y - 1
  365 * p + p / 4 - p / 100 + p / 400

/-- The days from 0001-01-01 to 1970-01-01. -/
def epochDay : Int := 719162

structure Date where
  year : Int
  month : Int
  day : Int
deriving DecidableEq, Repr, Inhabited

/-- Whether a date exists, in any year. -/
def Date.Exists (d : Date) : Prop :=
  1 ≤ d.month ∧ d.month ≤ 12 ∧ 1 ≤ d.day ∧ d.day ≤ daysInMonth d.year d.month

instance (d : Date) : Decidable d.Exists := by unfold Date.Exists; infer_instance

/-- The day number of a date, 1970-01-01 being day zero. -/
def dayNumber (d : Date) : Int :=
  daysBeforeYear d.year + daysBeforeMonth d.year d.month + (d.day - 1) - epochDay

/-- Finds the month of a day of the year: takes whole months off from `month` on. -/
def monthOf : List Int → Int → Int → Int × Int
  | [], month, rest => (month, rest + 1)
  | n :: ns, month, rest =>
    if rest < n then (month, rest + 1) else monthOf ns (month + 1) (rest - n)

/-- The year of a day counted from 0001-01-01, and the day within it. -/
def yearOf (z : Int) : Int × Int :=
  let r400 := z % 146097
  -- the fourth century of four is a day longer
  let c := min (r400 / 36524) 3
  let r100 := r400 - 36524 * c
  let r4 := r100 % 1461
  -- so is the fourth year of four
  let u := min (r4 / 365) 3
  (400 * (z / 146097) + 100 * c + 4 * (r100 / 1461) + u + 1, r4 - 365 * u)

def civil (n : Int) : Date :=
  let (y, rest) := yearOf (n + epochDay)
  let (m, d) := monthOf (monthLengths (isLeap y)) 1 rest
  ⟨y, m, d⟩

/-- The day of the week of a day number, Sunday being zero. -/
def weekday (n : Int) : Int := (n + 4) % 7

/-! ## Limits -/

def minYear : Int := 1

def maxYear : Int := 9999

def minDay : Int := dayNumber ⟨minYear, 1, 1⟩

def maxDay : Int := dayNumber ⟨maxYear, 12, 31⟩

/-! ## Weeks -/

/-- The Monday that starts the first week of a year: the week that holds the
year's first Thursday. -/
def firstMonday (y : Int) : Int :=
  let jan1 := dayNumber ⟨y, 1, 1⟩
  let fromMonday := (weekday jan1 + 6) % 7
  if fromMonday ≤ 3 then jan1 - fromMonday else jan1 - fromMonday + 7

def weeksInYear (y : Int) : Int := (firstMonday (y + 1) - firstMonday y) / 7

/-- The day number of a weekday (1 to 7, Monday first) of a numbered week. -/
def dayOfWeek? (y week day : Int) : Option Int :=
  if 1 ≤ week ∧ week ≤ weeksInYear y ∧ 1 ≤ day ∧ day ≤ 7 then
    some (firstMonday y + 7 * (week - 1) + (day - 1))
  else none

end Cadence.Calendar
