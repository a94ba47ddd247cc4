/-
Numbers read from text.

Three grammars share this module. Integers for the command line: blanks around,
a sign, digits of any script, single underscores between digits. Decimals for
the same place: the same with a fraction and an exponent, or a word for infinity
or not-a-number. And the bare decimal (sign, digits, fraction, exponent, ASCII
only) that the data formats build their own grammars from.

A decimal is converted by one rounding of the exact fraction it writes. Exponents
far outside the range of doubles are decided before any power is computed.
-/
import Cadence.Number.Binary64
import Cadence.Number.Decimal
import Cadence.Text.Blank

set_option autoImplicit false

namespace Cadence.Number

open Cadence.Text (digitValue? trim isDigit)

/-! ## From digits to a double -/

/-- The double nearest to `±n · 10^e`. -/
def Binary64.ofDecimal (negative : Bool) (n : Nat) (e : Int) : Binary64 :=
  if n = 0 then .finite negative 0 (-1074)
  else
    let size : Int := (digits n).length + e
    if 400 < size then .infinite negative
    else if size < -400 then .finite negative 0 (-1074)
    else ofRatio negative (n * Nat.pow 10 e.toNat) (Nat.pow 10 (-e).toNat)

/-! ## Bare decimals -/

/-- The parts of a decimal as it is written. -/
structure DecimalText where
  negative : Bool
  whole : List Char
  /-- the digits behind the point, when there is a point -/
  fraction : Option (List Char)
  /-- the exponent, when there is one -/
  exponent : Option Int
deriving DecidableEq, Repr

/-- A sign at the front: whether it is a minus, and the rest. -/
def takeSign : List Char → Bool × List Char
  | '-' :: s => (true, s)
  | '+' :: s => (false, s)
  | s => (false, s)

/-- Reads an exponent: the mark, a sign, digits. -/
def readExponent (s : List Char) : Option (Option Int × List Char) :=
  match s with
  | c :: r =>
    if c = 'e' || c = 'E' then
      let (neg, r) := takeSign r
      let (ds, rest) := takeDigits r
      if ds.isEmpty then none
      else
        let n : Int := ofDigits ds
        some (some (if neg then -n else n), rest)
    else some (none, s)
  | [] => some (none, s)

/-- Reads a decimal and gives what is behind it. -/
def DecimalText.read (s : List Char) : Option (DecimalText × List Char) := do
  let (neg, s) := takeSign s
  let (whole, s) := takeDigits s
  let (fraction, s) := match s with
    | '.' :: r => let (ds, r) := takeDigits r; (some ds, r)
    | s => (none, s)
  if whole.isEmpty && (fraction.getD []).isEmpty then none
  else
    let (e, s) ← readExponent s
    some (⟨neg, whole, fraction, e⟩, s)

def DecimalText.toFloat (d : DecimalText) : Binary64 :=
  let f := d.fraction.getD []
  Binary64.ofDecimal d.negative (ofDigits (d.whole ++ f)) (d.exponent.getD 0 - f.length)

/-! ## Underscores -/

/-- Drops the underscores that stand between two digits; any other is an error.
`before` says whether a digit was passed last. -/
def dropUnderscores (before : Bool) : List Char → Option (List Char)
  | [] => some []
  | '_' :: s =>
    if before && (s.head?.map isDigit).getD false then dropUnderscores false s else none
  | c :: s => (dropUnderscores (isDigit c) s).map (c :: ·)

/-- Digits of any script in ASCII; other characters stay. -/
def plainDigit (c : Char) : Char :=
  match digitValue? c with
  | some n => digitChar n
  | none => c

/-! ## Command-line numbers -/

/-- What a text that should be an integer is. -/
inductive IntegerText
  | value (i : Int)
  | tooLong (n : Nat)
  | malformed
deriving DecidableEq, Repr

def readInteger (text : String) : IntegerText :=
  match dropUnderscores false ((trim text.toList).map plainDigit) with
  | none => .malformed
  | some s =>
    let (neg, ds) := takeSign s
    if ds.isEmpty || !ds.all isDigit then .malformed
    else if digitLimit < ds.length then .tooLong ds.length
    else .value (if neg then -(ofDigits ds : Int) else ofDigits ds)

def asciiLower (s : List Char) : List Char :=
  s.map (fun c => if 'A' ≤ c && c ≤ 'Z' then Char.ofNat (c.toNat + 32) else c)

/-- The words for the numbers that are not finite. -/
def readWord (s : List Char) : Option Binary64 :=
  let (neg, w) := takeSign s
  match String.ofList (asciiLower w) with
  | "inf" => some (.infinite neg)
  | "infinity" => some (.infinite neg)
  | "nan" => some .nan
  | _ => none

def readFloat (text : String) : Option Binary64 :=
  match dropUnderscores false ((trim text.toList).map plainDigit) with
  | none => none
  | some s => match readWord s with
    | some x => some x
    | none => match DecimalText.read s with
      | some (d, []) => some d.toFloat
      | _ => none

end Cadence.Number
