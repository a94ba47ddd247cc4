/-
Schedules as text.

A cron text has six fields separated by blanks, then, if wanted, a zone's name
in square brackets with nothing but blanks behind it. Brackets stand nowhere
else, so the first one decides: what is before it are the fields, and a text
that does not go on as described has no reading. The faults come in a fixed
order: the outer shape, the number of fields, each field from the left (its
syntax, then its range), the zone.
-/
import Cadence.Schedule.Basic

set_option autoImplicit false

namespace Cadence

open Cadence.Text (isBlank cutAt trim words)

/-- The parts of a cron text: its fields, and what stands in brackets. -/
structure CronShape where
  fields : List Char
  zone : Option (List Char)
deriving DecidableEq, Repr

namespace CronShape

/-- Takes a cron text apart, if its brackets are in order. -/
def read (s : List Char) : Option CronShape :=
  match cutAt '[' s with
  | (before, none) => if before.contains ']' then none else some ⟨before, none⟩
  | (before, some rest) =>
    if before.contains ']' then none
    else match cutAt ']' rest with
      | (_, none) => none
      | (zone, some behind) =>
        if zone.contains '[' || !behind.all isBlank then none else some ⟨before, some zone⟩

end CronShape

namespace Schedule

/-- Reads one field: its syntax first, then its range. -/
def readField (f : Field) (token : List Char) : Except Fault FieldPattern := do
  FieldPattern.checked f (← FieldPattern.parse (String.ofList token))

/-- Reads the six fields from the left. -/
def readFields (text : String) (tokens : List (List Char)) :
    Except Fault (Sextet FieldPattern) :=
  match tokens with
  | [a, b, c, d, e, f] => do
    let second ← readField .second a
    let minute ← readField .minute b
    let hour ← readField .hour c
    let day ← readField .day d
    let month ← readField .month e
    let weekday ← readField .weekday f
    pure ⟨second, minute, hour, day, month, weekday⟩
  | tokens => .error (.pattern text (.fieldCount tokens.length))

/-- Reads a cron text; a text without brackets takes the zone `fallback`. -/
def ofCron (text fallback : String) : Except Fault Schedule :=
  match CronShape.read text.toList with
  | none => .error (.pattern text .cronShape)
  | some shape => do
    let fields ← readFields text (words shape.fields)
    let zone ← Zone.find (.str (String.ofList (trim (shape.zone.getD fallback.toList))))
    pure ⟨fields, zone⟩

def defaultZone : String := "UTC"

/-- Reads a cron text from a value, which must be a text. -/
def ofCronValue (v : Value) (fallback : String) : Except Fault Schedule :=
  match v.text? with
  | some text => ofCron text fallback
  | none => .error (.pattern v.text .cronShape)

end Schedule

end Cadence
