/-
What a plain text stands for.

A plain text is a number, a truth value, a date or nothing at all when it has
the form of one, and itself otherwise. The forms are those of version 1.1 of the
format: integers also in base two, eight (a leading zero), sixteen and sixty
(digits in groups behind colons), with underscores anywhere behind the first
digit; doubles only with a point, and with a sign in the exponent.
-/
import Cadence.Fault
import Cadence.Instant.Reader
import Cadence.Json.Reader

set_option autoImplicit false

namespace Cadence.Yaml

open Cadence.Number (Binary64 ofDigits)
open Cadence.Text (isDigit joinAt splitAt)

/-! ## Forms -/

def unsigned : List Char → List Char
  | '+' :: r => r
  | '-' :: r => r
  | s => s

/-- A digit or an underscore. -/
def isDigitLike (c : Char) : Bool := isDigit c || c == '_'

/-- A digit of a small base, or an underscore. -/
def isDigitOf (base : Nat) (c : Char) : Bool :=
  c == '_' || match Json.hexValue? c with
    | some d => d < base
    | none => false

/-- A group of base sixty: one digit, or two below sixty. -/
def isSixtieth (s : List Char) : Bool :=
  match s with
  | [a] => isDigit a
  | [a, b] => '0' ≤ a && a ≤ '5' && isDigit b
  | _ => false

/-- Digits with underscores behind the first. -/
def isWhole (s : List Char) : Bool :=
  match s with
  | c :: r => isDigit c && r.all isDigitLike
  | [] => false

/-- Digits without a leading zero, alone or with groups of base sixty behind. -/
def isCount (s : List Char) : Bool :=
  match splitAt ':' s with
  | first :: groups => isWhole first && first.head? != some '0' && groups.all isSixtieth
  | [] => false

def isInteger (s : List Char) : Bool :=
  match unsigned s with
  | ['0'] => true
  | '0' :: 'b' :: r => !r.isEmpty && r.all (isDigitOf 2)
  | '0' :: 'x' :: r => !r.isEmpty && r.all (isDigitOf 16)
  | '0' :: r => !r.isEmpty && r.all (isDigitOf 8)
  | r => isCount r

/-- The letter, sign and digits of an exponent, or nothing. -/
def isExponent (s : List Char) : Bool :=
  match s with
  | [] => true
  | e :: sign :: ds =>
    (e == 'e' || e == 'E') && (sign == '+' || sign == '-') && !ds.isEmpty && ds.all isDigit
  | _ => false

def isDouble (s : List Char) : Bool :=
  let words := [".inf", ".Inf", ".INF"].map String.toList
  let u := unsigned s
  if words.contains u then true
  else if [".nan", ".NaN", ".NAN"].map String.toList |>.contains s then true
  else match s with
    | '.' :: d :: r => isDigit d && isExponent (r.dropWhile isDigitLike)
    | _ =>
      match Text.cutAt '.' u with
      | (whole, some behind) =>
        if whole.contains ':' then
          (match splitAt ':' whole with
            | first :: groups => isWhole first && groups.all isSixtieth
            | [] => false) && behind.all isDigitLike
        else isWhole whole && isExponent (behind.dropWhile isDigitLike)
      | (_, none) => false

def truthWords : List (String × Bool) :=
  [("yes", true), ("Yes", true), ("YES", true), ("no", false), ("No", false), ("NO", false),
    ("true", true), ("True", true), ("TRUE", true), ("false", false), ("False", false),
    ("FALSE", false), ("on", true), ("On", true), ("ON", true), ("off", false), ("Off", false),
    ("OFF", false)]

def nullWords : List String := ["", "~", "null", "Null", "NULL"]

/-! ## Dates -/

/-- A date, with a time of day and an offset in microseconds when they are given. -/
structure Stamp where
  year : Nat
  month : Nat
  day : Nat
  time : Option (Nat × Nat × Nat) := none
  micros : Nat := 0
  offset : Option Int := none
deriving Repr

namespace Stamp

/-- Takes one digit, or two. -/
def takeShort (s : List Char) : Option (Nat × List Char) :=
  let ds := (s.take 2).takeWhile isDigit
  if ds.isEmpty then none else some (ofDigits ds, s.drop ds.length)

/-- Takes exactly some digits. -/
def takeFixed (n : Nat) (s : List Char) : Option (Nat × List Char) :=
  let ds := s.take n
  if ds.length == n && ds.all isDigit then some (ofDigits ds, s.drop n) else none

def takeChar (c : Char) (s : List Char) : Option (List Char) :=
  match s with
  | x :: r => if x == c then some r else none
  | [] => none

/-- Reads the offset behind a time. -/
def readOffset (s : List Char) : Option (Option Int) :=
  match s.dropWhile (fun c => c == ' ' || c == '\t') with
  | [] => if s.isEmpty then some none else none
  | ['Z'] => some (some 0)
  | sign :: r =>
    if sign == '+' || sign == '-' then do
      let (hour, r) ← takeShort r
      let minute ← if r.isEmpty then some 0 else do
        let (m, r) ← takeFixed 2 (← takeChar ':' r)
        if r.isEmpty then some m else none
      let micros : Int := (hour * 3600 + minute * 60) * secondMicros
      some (some (if sign == '-' then -micros else micros))
    else none

/-- Reads the digits of a fraction, cut to microseconds. -/
def readFraction (s : List Char) : Nat × List Char :=
  match s with
  | '.' :: r =>
    let ds := r.takeWhile isDigit
    (ofDigits ((ds ++ List.replicate 6 '0').take 6), r.drop ds.length)
  | s => (0, s)

/-- Reads a date, alone or with a time. Alone it has two digits for month and day. -/
def read (s : List Char) : Option Stamp := do
  let (year, r) ← takeFixed 4 s
  let (month, r) ← takeShort (← takeChar '-' r)
  let (day, r) ← takeShort (← takeChar '-' r)
  if r.isEmpty then
    if s.length == 10 then some { year, month, day } else none
  else
    let r ← match r with
      | c :: r' =>
        if c == 'T' || c == 't' then some r'
        else if c == ' ' || c == '\t' then some (r'.dropWhile (fun c => c == ' ' || c == '\t'))
        else none
      | [] => none
    let (hour, r) ← takeShort r
    let (minute, r) ← takeFixed 2 (← takeChar ':' r)
    let (second, r) ← takeFixed 2 (← takeChar ':' r)
    let (micros, r) := readFraction r
    let offset ← readOffset r
    some { year, month, day, time := some (hour, minute, second), micros, offset }

/-- The date as a value, when it is in the calendar. -/
def value (t : Stamp) (written : String) : Except Fault Value := do
  let _ ← IsoText.placeOf t.offset
  let (hour, minute, second) := t.time.getD (0, 0, 0)
  let _ ← WallParts.wall ⟨t.year, t.month, t.day, hour, minute, second, t.micros⟩
  pure (.date written t.time.isSome)

end Stamp

/-! ## Values -/

/-- The number written in a base, underscores left out. -/
def ofBase (base : Nat) (ds : List Char) : Except Fault Int :=
  let ds := ds.filter (· != '_')
  if ds.isEmpty then
    .error (.content (.raised
      ("invalid literal for int() with base " ++ Number.natText base ++ ": ''")))
  else .ok (ds.foldl (fun n c => n * base + (Json.hexValue? c).getD 0) 0 : Nat)

/-- The number written in base ten, which has a limit. -/
def ofTen (ds : List Char) : Except Fault Int :=
  if Number.digitLimit < ds.length then .error (.content (.tooManyDigits ds.length))
  else .ok (ofDigits ds)

/-- The value of a text in the form of an integer. -/
def integerValue (s : List Char) : Except Fault Int := do
  let negative := s.head? == some '-'
  let n ← match unsigned (s.filter (· != '_')) with
    | ['0'] => pure 0
    | '0' :: 'b' :: r => ofBase 2 r
    | '0' :: 'x' :: r => ofBase 16 r
    | '0' :: r => ofBase 8 ('0' :: r)
    | r => do
      let groups ← (splitAt ':' r).mapM ofTen
      pure (groups.foldl (fun n d => n * 60 + d) 0)
  pure (if negative then -n else n)

/-- The value of a text in the form of a double. -/
def doubleValue (s : List Char) : Binary64 :=
  let negative := s.head? == some '-'
  let body := Number.asciiLower (unsigned (s.filter (· != '_')))
  let part (p : List Char) : Binary64 := (Number.readFloat (String.ofList p)).getD .nan
  let x : Binary64 :=
    if body == ".inf".toList then .infinite false
    else if body == ".nan".toList then .nan
    else
      let parts := (splitAt ':' body).reverse.map part
      match parts with
      | [x] => x
      | parts =>
        (parts.foldl (fun (sum, base) x => (sum.add (x.scale base), base * 60))
          (Binary64.zero, 1)).1
  if negative then x.neg else x

/-- The value of a plain text; nothing for the two texts that only a key can be. -/
def plainValue (s : List Char) : Option (Except Fault Value) :=
  let text := String.ofList s
  if nullWords.contains text then some (.ok .null)
  else match truthWords.lookup text with
    | some b => some (.ok (.bool b))
    | none =>
      if isDouble s then some (.ok (.float (doubleValue s)))
      else if isInteger s then some ((integerValue s).map Value.int)
      else match Stamp.read s with
        | some t => some (t.value text)
        | none => if text == "=" || text == "<<" then none else some (.ok (.str text))

end Cadence.Yaml
