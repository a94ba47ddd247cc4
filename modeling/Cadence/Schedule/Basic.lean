/-
Schedules.

A schedule is one pattern for each of the six fields and a zone. It matches an
instant when each pattern matches the instant's value of its field in that
zone. Schedules are values: a setter gives a new one with one part replaced,
and what it does to that part depends on its argument alone.
-/
import Cadence.Pattern.Check
import Cadence.Pattern.Match
import Cadence.Instant.Basic

set_option autoImplicit false

namespace Cadence

/-- Six field patterns and a zone. -/
structure Schedule where
  fields : Sextet FieldPattern
  zone : Zone
deriving Repr, Inhabited

namespace Schedule

/-! ## Building -/

/-- Every second, in universal time. -/
def every : Schedule := ⟨Sextet.same .wildcard, Zone.utc⟩

/-- Replaces the pattern of a field by the compiled input. -/
def withField (s : Schedule) (f : Field) (input : Value) : Except Fault Schedule :=
  (FieldPattern.compile f input).map (fun p => { s with fields := s.fields.set f p })

def withZone (s : Schedule) (name : Value) : Except Fault Schedule :=
  (Zone.find name).map (fun z => { s with zone := z })

/-- What a call of the builder sets. -/
inductive Setter
  | field (name : Value)
  | zone
deriving Repr

/-- The setter under its short name; any other name is taken for a field's. -/
def Setter.named (name : String) : Setter :=
  match name with
  | "sec" => .field (.str "second")
  | "min" => .field (.str "minute")
  | "hour" => .field (.str "hour")
  | "date" => .field (.str "day")
  | "month" => .field (.str "month")
  | "week" => .field (.str "weekday")
  | "tz" => .zone
  | name => .field (.str name)

/-- One call of the builder. -/
def call (s : Schedule) (setter : Setter) (input : Value) : Except Fault Schedule :=
  match setter with
  | .zone => s.withZone input
  | .field name => do s.withField (← Field.find name) input

/-- A run of calls in which a call that fails is skipped. -/
def callAll (s : Schedule) : List (Setter × Value) → Schedule
  | [] => s
  | (setter, input) :: rest =>
    match s.call setter input with
    | .ok t => t.callAll rest
    -- the schedule stays as it was before the call
    | .error _ => s.callAll rest

/-- Puts given patterns into a sextet; the names are looked up as they come. -/
def placePatterns (acc : Sextet FieldPattern) :
    List (String × Value) → Except Fault (Sextet FieldPattern)
  | [] => .ok acc
  | (name, v) :: rest => do
    let f ← Field.find (.str name)
    match v with
    | .pattern p => placePatterns (acc.set f p) rest
    | v => .error (.kind (.notAPattern name v))

/-- A schedule from patterns that nobody has checked. -/
def ofPatterns (fields : List (String × Value)) (zone : Value) : Except Fault Schedule := do
  let patterns ← placePatterns (Sextet.same .wildcard) fields
  let z ← Zone.find zone
  pure ⟨patterns, z⟩

/-! ## Matching -/

/-- Whether each of the fields matches its value, asked in order until one does
not. -/
def acceptsParts (s : Schedule) (parts : Sextet Int) : List Field → Except Fault Bool
  | [] => .ok true
  | f :: fs => do
    if ← (s.fields.get f).accepts (.int (parts.get f)) then acceptsParts s parts fs else pure false

def accepts (s : Schedule) (m : Moment) : Except Fault Bool := do
  let parts ← m.partsIn s.zone
  s.acceptsParts parts Field.all

/-! ## Text and equality -/

def fieldTexts (s : Schedule) : Except Fault (List String) :=
  s.fields.toList.mapM FieldPattern.render

/-- The cron text: the six fields and the zone's name in brackets. -/
def cron (s : Schedule) : Except Fault String := do
  let texts ← s.fieldTexts
  pure (Text.joinWith " " texts ++ " [" ++ s.zone.name ++ "]")

/-- A schedule as it is shown: its cron text in quotes. -/
def shown (s : Schedule) : Except Fault String := do
  let text ← s.cron
  pure ("Pattern(" ++ Text.quoted text ++ ")")

/-- Equality: equal patterns field by field, and a zone of the same name. -/
def eqv (s t : Schedule) : Bool :=
  Field.all.all (fun f => (s.fields.get f).eqv (t.fields.get f)) && s.zone.name == t.zone.name

end Schedule

end Cadence
