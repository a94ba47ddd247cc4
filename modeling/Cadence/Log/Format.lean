/-
Formats of log lines.

A format is a text with conversions in it: a percent sign, a field's name in
parentheses, flags, a width, a precision and a letter. Two percent signs stand
for one. A format is fit for use when it has at least one conversion; whether
all of them can be carried out shows when a line is written.

The two look at a conversion in their own ways. Fitness takes names, digits and
the letter over all of Unicode and in either case; writing takes the digits of
width and precision, and the letters, from the basic ones only.
-/
import Cadence.Text.Quoted
import Cadence.Text.Word
import Cadence.Number.Decimal

set_option autoImplicit false

namespace Cadence.Log

open Cadence.Number (takeDigits ofDigits)

/-- What a field holds. -/
inductive FieldValue
  | text (s : String)
  | number (n : Nat)
deriving DecidableEq, Repr

/-! ## Conversions -/

structure Conversion where
  flags : List Char
  width : Nat
  precision : Option Nat
  letter : Char
deriving DecidableEq, Repr

def isFlag (c : Char) : Bool := "#0+ -".toList.contains c

def Conversion.read (s : List Char) : Option (Conversion × List Char) := do
  let flags := s.takeWhile isFlag
  let (width, r) := takeDigits (s.drop flags.length)
  let (precision, r) := match r with
    | '.' :: r => match takeDigits r with
      | (ds, r) => (some (ofDigits ds), r)
    | r => (none, r)
  match r with
  | letter :: r => some (⟨flags, ofDigits width, precision, letter⟩, r)
  | [] => none

/-- Fills a text up to a width, on the left unless the flag says otherwise. -/
def Conversion.pad (c : Conversion) (s : List Char) : List Char :=
  let fill := List.replicate (c.width - s.length) ' '
  if c.flags.contains '-' then s ++ fill else fill ++ s

/-- A number with its sign and zeros. -/
def Conversion.writeNumber (c : Conversion) (n : Nat) : List Char :=
  let ds := Number.digits n
  let ds := List.replicate (c.precision.getD 0 - ds.length) '0' ++ ds
  let sign := if c.flags.contains '+' then ['+'] else if c.flags.contains ' ' then [' '] else []
  if c.flags.contains '0' && !c.flags.contains '-' then
    sign ++ List.replicate (c.width - sign.length - ds.length) '0' ++ ds
  else c.pad (sign ++ ds)

/-- Writes a field, if the letter suits what it holds. -/
def Conversion.write (c : Conversion) (v : FieldValue) : Option (List Char) :=
  let cut (s : List Char) : List Char := match c.precision with
    | some n => s.take n
    | none => s
  match v, c.letter with
  | .text s, 's' => some (c.pad (cut s.toList))
  | .text s, 'r' => some (c.pad (cut (Text.quoted s).toList))
  | .number n, 's' | .number n, 'r' | .number n, 'a' => some (c.pad (cut (Number.digits n)))
  | .number n, 'd' | .number n, 'i' | .number n, 'u' => some (c.writeNumber n)
  | _, _ => none

/-! ## Formats -/

inductive Piece
  | char (c : Char)
  | field (name : List Char) (conversion : Conversion)
deriving DecidableEq, Repr

/-- Takes a format apart; there is no reading when a percent sign does not begin a
conversion with a name. -/
def pieces : Nat → List Char → Option (List Piece)
  | 0, _ => none
  | _, [] => some []
  | fuel + 1, '%' :: '%' :: r => (pieces fuel r).map (.char '%' :: ·)
  | fuel + 1, '%' :: '(' :: r => do
    let name := r.takeWhile (· != ')')
    let (conversion, rest) ← Conversion.read ((r.drop name.length).drop 1)
    if name.length < r.length then (pieces fuel rest).map (.field name conversion :: ·) else none
  | _, '%' :: _ => none
  | fuel + 1, c :: r => (pieces fuel r).map (.char c :: ·)

/-- Writes a line, if every conversion can be carried out. -/
def write (get? : String → Option FieldValue) (format : String) : Option String := do
  let ps ← pieces (format.toList.length + 1) format.toList
  let parts ← ps.mapM (fun p => match p with
    | .char c => some [c]
    | .field name conversion => (get? (String.ofList name)).bind conversion.write)
  some (String.ofList parts.flatten)

/-! ## Fitness -/

/-- Whether a character is a decimal digit of any script. -/
def isAnyDigit (c : Char) : Bool := (Text.digitValue? c).isSome

/-- The number in front of a letter, or a star. -/
def skipCount (s : List Char) : List Char :=
  match s with
  | '*' :: r => r
  | s => s.dropWhile isAnyDigit

/-- The letters of a conversion in either case. The dotted and the dotless i count as an i,
and the long s as an s. -/
def isLetter (c : Char) : Bool :=
  "diouxefgcrsa%".toList.contains c.toLower || "\u0130\u0131\u017F".toList.contains c

/-- Whether a conversion stands at the beginning, with the percent sign cut off. -/
def startsConversion (s : List Char) : Bool :=
  match s with
  | '(' :: r =>
    let name := r.takeWhile Text.isWord
    match r.drop name.length with
    | ')' :: r =>
      let r := skipCount (r.dropWhile isFlag)
      let r := match r with
        | '.' :: '*' :: q => q
        | '.' :: d :: q => if isAnyDigit d then q.dropWhile isAnyDigit else r
        | r => r
      !name.isEmpty && (match r with
        | letter :: _ => isLetter letter
        | [] => false)
    | _ => false
  | _ => false

/-- Whether a conversion stands anywhere in a text. -/
def hasConversion : List Char → Bool
  | [] => false
  | c :: r => (c == '%' && startsConversion r) || hasConversion r

end Cadence.Log
