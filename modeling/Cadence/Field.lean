/-
The six calendar fields.

A schedule constrains six fields of an instant: second, minute, hour, day of
month, month and day of week, in that order everywhere (cron text, tables,
tests). Each has an inclusive range of integers; the last two also have names
for their values. `Sextet` holds one thing per field, so that reading and
writing one field is total and two different fields cannot be confused.
-/

set_option autoImplicit false

namespace Cadence

/-! ## Names of months and days -/

/-- The months by full name and short name, January first. -/
def monthNames : List (String × String) :=
  [("JANUARY", "jan"), ("FEBRUARY", "feb"), ("MARCH", "mar"), ("APRIL", "apr"), ("MAY", "may"),
    ("JUNE", "jun"), ("JULY", "jul"), ("AUGUST", "aug"), ("SEPTEMBER", "sep"),
    ("OCTOBER", "oct"), ("NOVEMBER", "nov"), ("DECEMBER", "dec")]

/-- The days of the week by full name and short name, Sunday first. -/
def weekdayNames : List (String × String) :=
  [("SUNDAY", "sun"), ("MONDAY", "mon"), ("TUESDAY", "tue"), ("WEDNESDAY", "wed"),
    ("THURSDAY", "thu"), ("FRIDAY", "fri"), ("SATURDAY", "sat")]

/-- Pairs each short name with its number, counting from `start`. -/
def numbered (start : Int) : List (String × String) → List (String × Int)
  | [] => []
  | (_, short) :: rest => (short, start) :: numbered (start + 1) rest

/-! ## Fields -/

inductive Field
  | second
  | minute
  | hour
  | day
  | month
  | weekday
deriving DecidableEq, Repr, Inhabited

namespace Field

/-- The fields in the order of a cron text. -/
def all : List Field := [second, minute, hour, day, month, weekday]

def name : Field → String
  | second => "second"
  | minute => "minute"
  | hour => "hour"
  | day => "day"
  | month => "month"
  | weekday => "weekday"

def low : Field → Int
  | day => 1
  | month => 1
  | _ => 0

def high : Field → Int
  | second => 59
  | minute => 59
  | hour => 23
  | day => 31
  | month => 12
  | weekday => 6

/-- The names a value of the field may be given by. -/
def aliases : Field → List (String × Int)
  | month => numbered 1 monthNames
  | weekday => numbered 0 weekdayNames
  | _ => []

def ofName? (s : String) : Option Field := all.find? (·.name == s)

end Field

/-! ## One thing per field -/

/-- One `α` for each field. -/
structure Sextet (α : Type) where
  second : α
  minute : α
  hour : α
  day : α
  month : α
  weekday : α
deriving DecidableEq, Repr, Inhabited

namespace Sextet

variable {α β : Type}

def get (s : Sextet α) : Field → α
  | .second => s.second
  | .minute => s.minute
  | .hour => s.hour
  | .day => s.day
  | .month => s.month
  | .weekday => s.weekday

def set (s : Sextet α) (f : Field) (a : α) : Sextet α :=
  match f with
  | .second => { s with second := a }
  | .minute => { s with minute := a }
  | .hour => { s with hour := a }
  | .day => { s with day := a }
  | .month => { s with month := a }
  | .weekday => { s with weekday := a }

def same (a : α) : Sextet α := ⟨a, a, a, a, a, a⟩

/-- The entries in the order of the fields. -/
def toList (s : Sextet α) : List α := Field.all.map s.get

def map (g : α → β) (s : Sextet α) : Sextet β :=
  ⟨g s.second, g s.minute, g s.hour, g s.day, g s.month, g s.weekday⟩

@[simp] theorem get_set (s : Sextet α) (f g : Field) (a : α) :
    (s.set f a).get g = if g = f then a else s.get g := by
  cases f <;> cases g <;> rfl

@[simp] theorem get_same (a : α) (f : Field) : (same a).get f = a := by
  cases f <;> rfl

@[simp] theorem get_map (g : α → β) (s : Sextet α) (f : Field) :
    (s.map g).get f = g (s.get f) := by
  cases f <;> rfl

theorem ext_get {s t : Sextet α} (h : ∀ f, s.get f = t.get f) : s = t := by
  cases s; cases t
  simp only [mk.injEq]
  exact ⟨h .second, h .minute, h .hour, h .day, h .month, h .weekday⟩

end Sextet

end Cadence
