/-
Field patterns as text.

The grammar, after blanks at both ends are dropped, with `n`, `a` and `b` runs
of the digits 0 to 9 and a step of at least one:

    *   n   a-b   */n   a/n   a-b/n   and lists of these joined by commas

Blanks may stand around the items of a list and nowhere else. The reader splits
at commas first, then at the first slash, then at hyphens, so each text has at
most one reading. The fault of a list names the first item that is wrong,
without its blanks; the fault of a single item names the text as it was given.
-/
import Cadence.Fault

set_option autoImplicit false

namespace Cadence.FieldPattern

open Cadence.Number (digitLimit digits ofDigits)
open Cadence.Text (isDigit splitAt cutAt trim joinAt)

/-! ## Writing -/

mutual

/-- The characters of a pattern's text. A step without a start is written with a
star whatever its end. -/
def written : FieldPattern → List Char
  | .wildcard => ['*']
  | .exact v => v.text.toList
  | .span a b => a.text.toList ++ '-' :: b.text.toList
  | .step n .none _ => '*' :: '/' :: n.text.toList
  | .step n a .none => a.text.toList ++ '/' :: n.text.toList
  | .step n a b => a.text.toList ++ '-' :: b.text.toList ++ '/' :: n.text.toList
  | .anyOf items => joinAt ',' (writtenAll items)
  | .unspecified => []

def writtenAll : List FieldPattern → List (List Char)
  | [] => []
  | p :: ps => p.written :: writtenAll ps

end

/-- Whether a leaf has a text: an integer of more digits than are converted has none. -/
def requireScalarText : Scalar → Except Fault Unit
  | .int n =>
    if digitLimit < (digits n.natAbs).length then .error (.content .unwritable) else .ok ()
  | _ => .ok ()

mutual

/-- Whether a pattern has a text. Its parts are looked at as they are written, from the left;
the fault is that of the first one without a text. -/
def requireText : FieldPattern → Except Fault Unit
  | .wildcard => .ok ()
  | .exact v => requireScalarText v
  | .span a b => do
    requireScalarText a
    requireScalarText b
  | .step n .none _ => requireScalarText n
  | .step n a .none => do
    requireScalarText a
    requireScalarText n
  | .step n a b => do
    requireScalarText a
    requireScalarText b
    requireScalarText n
  | .anyOf items => requireTexts items
  | .unspecified => .error .abstractPattern

def requireTexts : List FieldPattern → Except Fault Unit
  | [] => .ok ()
  | p :: ps => do
    p.requireText
    requireTexts ps

end

/-- The text of a pattern, if it has one. -/
def render (p : FieldPattern) : Except Fault String :=
  p.requireText.map (fun _ => String.ofList p.written)

/-! ## Reading -/

/-- Reads a numeral; `blame` is the text named when it is none. -/
def readNumber (blame : String) (s : List Char) : Except Fault Int :=
  if s.isEmpty || !s.all isDigit then .error (.pattern blame (.expectedNumber (String.ofList s)))
  else if digitLimit < s.length then .error (.content (.tooManyDigits s.length))
  else .ok (ofDigits s)

/-- Reads `a-b`. -/
def readRange (blame : String) (s : List Char) : Except Fault (Int × Int) :=
  match splitAt '-' s with
  | [a, b] => do
    let low ← readNumber blame a
    let high ← readNumber blame b
    pure (low, high)
  | _ => .error (.pattern blame (.malformedRange (String.ofList s)))

/-- Reads a stepped item from what stands before and behind its first slash. The
step is read, and checked, before the base. -/
def readStep (blame : String) (base every : List Char) : Except Fault FieldPattern := do
  let n ← readNumber blame every
  if n < 1 then .error (.pattern blame .stepBelowOne)
  else if base = ['*'] then pure (.step (.int n) .none .none)
  else if base.contains '-' then
    let (low, high) ← readRange blame base
    pure (.step (.int n) (.int low) (.int high))
  else
    let start ← readNumber blame base
    pure (.step (.int n) (.int start) .none)

/-- Reads one item without commas or outer blanks. -/
def readItem (blame : String) (s : List Char) : Except Fault FieldPattern :=
  if s = ['*'] then .ok .wildcard
  else match cutAt '/' s with
    | (base, some every) => readStep blame base every
    | (_, none) =>
      if s.contains '-' then do
        let (low, high) ← readRange blame s
        pure (.span (.int low) (.int high))
      else do
        let n ← readNumber blame s
        pure (.exact (.int n))

/-- Reads one item of a list, which is blamed under its own text. -/
def readPart (part : List Char) : Except Fault FieldPattern :=
  readItem (String.ofList (trim part)) (trim part)

def parse (text : String) : Except Fault FieldPattern :=
  let s := trim text.toList
  -- an item of a list is blamed under its own text
  if s.contains ',' then (splitAt ',' s).mapM readPart |>.map .anyOf
  else readItem text s

/-- Reads a pattern from a value, which must be a text. -/
def parseValue (v : Value) : Except Fault FieldPattern :=
  match v.text? with
  | some text => parse text
  | none => .error (.pattern v.shown .notText)

end Cadence.FieldPattern
