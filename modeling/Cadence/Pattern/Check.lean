/-
From inputs to checked patterns.

A field of a schedule is given in one of two ways: as a structured input (a
number, a list of numbers, a mapping with `every`, `from` and `to`, or the name
of a month or day), which `compile` turns into a pattern, or as a pattern that
was read from text, which `validate` checks. Both rest on the same three checks
of a value, a step and a pair of bounds, so the two ways accept the same
schedules.
-/
import Cadence.Pattern.Text
import Cadence.Text.Case

set_option autoImplicit false

namespace Cadence

/-! ## The three checks -/

namespace Field

/-- An integer in the field's range; truth values are no integers here. -/
def checkValue (f : Field) (v : Value) : Except Fault Int :=
  match v with
  | .atom (.int n) =>
    if f.low ≤ n ∧ n ≤ f.high then .ok n else .error (.domain (.value f n))
  | v => .error (.kind (.notAnInteger f v))

/-- A step of at least one, and of at most `upper` where there is a bound. -/
def checkStep (f : Field) (v : Value) (upper : Option Int) : Except Fault Int :=
  match v with
  | .atom (.int n) => match upper with
    | some u => if 1 ≤ n ∧ n ≤ u then .ok n else .error (.domain (.step f n u))
    | none => if n < 1 then .error (.domain (.stepBelowOne f)) else .ok n
  | v => .error (.kind (.stepNotAnInteger f v))

/-- Two values of the field, the first not above the second. -/
def checkBounds (f : Field) (a b : Value) : Except Fault (Int × Int) := do
  let low ← f.checkValue a
  let high ← f.checkValue b
  if high < low then .error (.domain (.reversed f low high)) else pure (low, high)

/-- The bound of a step that counts from zero across the whole field. -/
def width (f : Field) : Int := f.high - f.low

def find (name : Value) : Except Fault Field :=
  match name.unhashable? with
  | some t => .error (.kind (.unhashable t))
  | none => match name with
    | .atom (.str s) => match ofName? s with
      | some f => .ok f
      | none => .error (.unknownName s none)
    | name => .error (.unknownName name.text none)

/-- The number of a month's or day's name: a symbol stands for its short name, a
text is taken without outer blanks and in small letters. -/
def resolve (f : Field) (name : Value) : Except Fault Int :=
  let search (key : String) : Except Fault Int := match f.aliases.lookup key with
    | some n => .ok n
    | none => .error (.unknownName key (some f.name))
  match name with
  | .symbol s => search s.text
  | .atom (.str s) => search (Text.lower (Text.trimmed s))
  | v => .error (.noMember v.typeName "strip")

end Field

/-! ## Structured inputs -/

namespace Value

/-- Whether `a` stands before `b` in a sorted list: texts by code points, numbers
by value. -/
def sortsBefore? (a b : Value) : Option Bool :=
  match a.text?, b.text? with
  | some s, some t => some (!Text.notAfter t.toList s.toList)
  | _, _ => match a.numeral?, b.numeral? with
    | some x, some y => some (x.lt y)
    | _, _ => none

/-- The first two neighbours that have no order. -/
def unsortable? : List Value → Option (Value × Value)
  | a :: b :: rest =>
    if (b.sortsBefore? a).isNone then some (b, a) else unsortable? (b :: rest)
  | _ => none

/-- The values in order. -/
def sorted (vs : List Value) : Except Fault (List Value) :=
  match unsortable? vs with
  | some (b, a) => .error (.kind (.notOrdered "<" b.typeName a.typeName))
  | none => .ok (vs.mergeSort (fun a b => (b.sortsBefore? a) != some true))

/-- Whether a list of keys is, in some order, the given texts. -/
def keysAre (keys : List Value) (names : List String) : Bool :=
  keys.length == names.length && names.all (fun n => keys.any (fun k => k.text? == some n))

end Value

namespace FieldPattern

open Cadence.Field (checkValue checkStep checkBounds)

/-- The pattern of a list of values: a list of one value is that value. -/
def ofValues : List Int → FieldPattern
  | [n] => .exact (.int n)
  | ns => .anyOf (ns.map (fun n => .exact (.int n)))

/-- Compiles a mapping with `every`, `from` and `to`. -/
def compileRange (f : Field) (entries : List (Value × Value)) : Except Fault FieldPattern :=
  let keys := entries.map (·.1)
  let entry (key : String) : Value := (Value.lookup? key entries).getD .null
  -- counts from zero across the field, so the step may not exceed its width
  if Value.keysAre keys ["every"] then do
    let n ← f.checkStep (entry "every") (some f.width)
    pure (.step (.int n) .none .none)
  else if Value.keysAre keys ["from", "to"] then do
    let (low, high) ← f.checkBounds (entry "from") (entry "to")
    pure (.span (.int low) (.int high))
  else if Value.keysAre keys ["from", "to", "every"] then do
    let (low, high) ← f.checkBounds (entry "from") (entry "to")
    let n ← f.checkStep (entry "every") none
    pure (.step (.int n) (.int low) (.int high))
  else do
    -- the keys are shown in order, which they may not have
    .error (.kind (.unsupportedKeys f (← Value.sorted keys)))

def compileList (f : Field) (items : List Value) : Except Fault FieldPattern :=
  if items.isEmpty then .error (.domain (.emptyList f))
  else (items.mapM f.checkValue).map ofValues

def compile (f : Field) (v : Value) : Except Fault FieldPattern :=
  match v with
  | .atom (.str s) => (f.resolve (.str s)).map (fun n => .exact (.int n))
  | .symbol s => (f.resolve (.symbol s)).map (fun n => .exact (.int n))
  | .atom (.int n) => (f.checkValue (.int n)).map (fun n => .exact (.int n))
  | .list items => compileList f items
  | .tuple items => compileList f items
  | .mapping entries => compileRange f entries
  | v => .error (.kind (.unsupportedInput f v))

/-! ## Patterns that exist already -/

mutual

def validate (f : Field) : FieldPattern → Except Fault Unit
  | .wildcard => .ok ()
  | .exact v => (f.checkValue (.atom v)).map (fun _ => ())
  | .span a b => (f.checkBounds (.atom a) (.atom b)).map (fun _ => ())
  | .step n .none _ => (f.checkStep (.atom n) (some f.width)).map (fun _ => ())
  | .step n a b => do
    let stop := match b with
      | .none => a
      | b => b
    let _ ← f.checkBounds (.atom a) (.atom stop)
    let _ ← f.checkStep (.atom n) none
    pure ()
  | .anyOf items => validateAll f items
  | .unspecified => .error (.kind (.unsupportedPattern "FieldPattern"))

def validateAll (f : Field) : List FieldPattern → Except Fault Unit
  | [] => .ok ()
  | p :: ps => do
    validate f p
    validateAll f ps

end

/-- A pattern that passed the check. -/
def checked (f : Field) (p : FieldPattern) : Except Fault FieldPattern := do
  validate f p
  pure p

/-- Checks a value that should be a pattern. -/
def checkedValue (f : Field) (v : Value) : Except Fault FieldPattern :=
  match v with
  | .pattern p => checked f p
  | v => .error (.kind (.unsupportedPattern v.typeName))

end FieldPattern

end Cadence
