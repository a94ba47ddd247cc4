/-
Instants as text.

Dates are read in four forms (`YYYY-MM-DD`, `YYYYMMDD`, `YYYY-Www-D` and
`YYYYWwwD`, the last two with the day left out for Monday), times and offsets
in one grammar: two-digit groups for hours, minutes and seconds, all separated
by colons or all not, then a fraction of any length. Where the date ends is
decided before it is read, from the characters at its fixed places; the one
character behind it is dropped, whatever it is.

A time that is followed by an offset may end in something unread: a single
sign, or anything behind six digits of a fraction. A time or an offset at the
end of the text may not.
-/
import Cadence.Instant.Basic

set_option autoImplicit false

namespace Cadence

open Cadence.Number (ofDigits intText)
open Cadence.Text (isDigit)

namespace IsoText

/-! ## Digits -/

def readDigits (n : Nat) (s : List Char) : Option (Nat × List Char) :=
  let ds := s.take n
  if ds.length = n && ds.all isDigit then some (ofDigits ds, s.drop n) else none

/-! ## Where the date ends -/

def digitRun (s : List Char) : Nat := (s.takeWhile isDigit).length

/-- The place of the separator between date and time. A week date with hyphens
may go on with a day or a time behind its second hyphen: two digits there are a
time. One without hyphens goes on with a day when one digit or an even number of
digits follows the week. -/
def separatorAt (s : List Char) : Option Nat :=
  let len := s.length
  if len < 7 then none
  else if len = 7 then some 7
  else if s[4]? = some '-' then
    if s[5]? = some 'W' then
      if s[8]? = some '-' then
        if len = 9 then none
        else if (s[10]?.map isDigit).getD false then some 8 else some 10
      else some 8
    else some 10
  else if s[4]? = some 'W' then
    -- of three digits or more, an odd number is a separator with hours and minutes behind it
    let i := 7 + digitRun (s.drop 7)
    if i < 9 then some i else if i % 2 = 0 then some 7 else some 8
  else some 8

/-! ## Dates -/

/-- A date as it is written: by month and day, or by the day number that a week
date stands for. -/
def readDate (s : List Char) : Option (Except Fault Calendar.Date) := do
  let (year, s) ← readDigits 4 s
  let hyphens := s.head? = some '-'
  let s := if hyphens then s.drop 1 else s
  match s with
  | 'W' :: s =>
    let (week, s) ← readDigits 2 s
    let day ← match s with
      | [] => some 1
      | s => do
        let s ← if hyphens then (if s.head? = some '-' then some (s.drop 1) else none) else some s
        (readDigits 1 s).map (·.1)
    let n ← Calendar.dayOfWeek? year week day
    -- a week of the year zero has no month
    if year = 0 then some (.error (.content .monthRange))
    else some (.ok (Calendar.civil n))
  | s =>
    let (month, s) ← readDigits 2 s
    let s ← if hyphens then (if s.head? = some '-' then some (s.drop 1) else none) else some s
    let (day, s) ← readDigits 2 s
    if s.isEmpty then some (.ok ⟨year, month, day⟩) else none

/-! ## Times and offsets -/

/-- A time of day or the size of an offset, and whether nothing was left over. -/
structure Clock where
  hour : Nat
  minute : Nat
  second : Nat
  micro : Nat
  whole : Bool
deriving DecidableEq, Repr

/-- Reads a fraction: at most six digits count. -/
def readFraction (s : List Char) : Option (Nat × List Char) := do
  let n := min 6 s.length
  let (f, rest) ← readDigits n s
  pure (f * Nat.pow 10 (6 - n), rest.dropWhile isDigit)

/-- Whether nothing is left; a null character counts as the end. -/
def isEnd (s : List Char) : Bool := s.head?.getD '\x00' == '\x00'

/-- Reads the groups that are left, at most the number given first. `colons` says
whether the groups are separated, once the first separator is seen. -/
def readGroups : Nat → Option Bool → List Nat → List Char → Option (List Nat × Nat × Bool)
  | 0, _, done, s => do
    let (f, rest) ← readFraction s
    pure (done, f, isEnd rest)
  | left + 1, colons, done, s => do
    let (v, s) ← readDigits 2 s
    let done := done ++ [v]
    match s with
    | [] => pure (done, 0, true)
    | c :: r =>
      -- the first separator decides for all of them
      let colons := colons.getD (c = ':')
      -- a single character behind a group stays unread
      if r.isEmpty && c.toNat < 0x80 then pure (done, 0, isEnd [c])
      else if colons && c = ':' then readGroups left (some colons) done r
      else if c = '.' || c = ',' then do
        let (f, rest) ← readFraction r
        pure (done, f, isEnd rest)
      else if colons then none
      else readGroups left (some colons) done (c :: r)

def readClock (s : List Char) : Option Clock := do
  let (groups, micro, whole) ← readGroups 3 none [] s
  pure ⟨groups.getD 0 0, groups.getD 1 0, groups.getD 2 0, micro, whole⟩

def Clock.seconds (c : Clock) : Int := c.hour * 3600 + c.minute * 60 + c.second

def startsOffset (c : Char) : Bool := c = '+' || c = '-' || c = 'Z'

/-- Reads a time with its offset, in microseconds. An offset of less than a
second is none. -/
def readTime (s : List Char) : Option (Clock × Option Int) := do
  let time := s.takeWhile (fun c => !startsOffset c)
  let clock ← readClock time
  match s.drop time.length with
  | [] => if clock.whole then some (clock, none) else none
  | 'Z' :: rest => if isEnd rest then some (clock, some 0) else none
  | sign :: rest =>
    let o ← readClock rest
    if !o.whole then none
    -- the fraction of such an offset does not count
    else if o.seconds = 0 then some (clock, some 0)
    else
      let micros := o.seconds * secondMicros + o.micro
      some (clock, some (if sign = '-' then -micros else micros))

/-! ## The whole -/

/-- A length of time as its days, seconds and microseconds, zero ones left out. -/
def durationText (micros : Int) : String :=
  let parts := [("days", micros / dayMicros), ("seconds", micros % dayMicros / secondMicros),
    ("microseconds", micros % secondMicros)]
  let shown := parts.filterMap (fun (n, v) => if v = 0 then none else some (n ++ "=" ++ intText v))
  "datetime.timedelta(" ++ (if shown.isEmpty then "0" else Text.joinWith ", " shown) ++ ")"

/-- The place a read offset puts a moment at. -/
def placeOf : Option Int → Except Fault Place
  | none => .ok .naive
  | some o =>
    if -dayMicros < o ∧ o < dayMicros then .ok (.fixed o)
    else .error (.content (.offsetRange (durationText o)))

/-- Splits a text into its date and its time with offset, when it is well formed. -/
def readParts (s : List Char) :
    Option (Except Fault Calendar.Date × Option (Clock × Option Int)) := do
  let n ← separatorAt s
  let date ← readDate (s.take n)
  match s.drop n with
  | [] => some (date, none)
  | _ :: time => do
    let t ← readTime time
    some (date, some t)

/-- Reads a moment. A malformed text is refused as a whole; in a well-formed one
the offset is checked first, then the parts in order. -/
def read (text : String) : Except Fault Moment :=
  match readParts text.toList with
  | none => .error (.content (.isoText text))
  | some (date, time) => do
    let place ← placeOf (time.bind (·.2))
    let date ← date
    let clock := (time.map (·.1)).getD ⟨0, 0, 0, 0, true⟩
    let wall ← WallParts.wall
      ⟨date.year, date.month, date.day, clock.hour, clock.minute, clock.second, clock.micro⟩
    pure ⟨wall, place, false⟩

end IsoText

/-! ## Instants given on a command line -/

/-- A final `Z` is written as the offset zero. -/
def spellZulu (text : String) : String :=
  match text.toList.reverse with
  | c :: rest =>
    if c = 'Z' || c = 'z' then String.ofList (rest.reverse ++ "+00:00".toList) else text
  | [] => text

/-- Reads an instant: a text without an offset is read in universal time. -/
def Moment.parse (text : String) : Except Fault Moment := do
  let m ← IsoText.read (spellZulu text)
  match m.place with
  | .naive => pure { m with place := .fixed 0 }
  | _ => pure m

end Cadence
