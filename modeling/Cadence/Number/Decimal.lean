/-
Integers in decimal.

`digits` writes a natural number most significant digit first and `ofDigits`
reads such a text back; the pair is the numeral of every format in this
library. Lengths are bounded on the reading side: a numeral of more than
`digitLimit` digits, leading zeros counted, is refused by the formats that
convert it, whatever its value.
-/
import Cadence.Text.Printable

set_option autoImplicit false

namespace Cadence.Number

open Cadence.Text (isDigit)

/-- The most digits an integer numeral may have. -/
def digitLimit : Nat := 4300

def digitChar (d : Nat) : Char := Char.ofNat (0x30 + d % 10)

/-- The digits of `n` before the characters `acc`. -/
def digitsOnto (n : Nat) (acc : List Char) : List Char :=
  if n < 10 then digitChar n :: acc
  else digitsOnto (n / 10) (digitChar (n % 10) :: acc)
termination_by n
decreasing_by omega

/-- The decimal digits of `n`, without leading zeros. -/
def digits (n : Nat) : List Char := digitsOnto n []

/-- The number that a list of digit characters writes. -/
def ofDigits (s : List Char) : Nat := s.foldl (fun n c => n * 10 + (c.toNat - 0x30)) 0

def natText (n : Nat) : String := String.ofList (digits n)

def intText (i : Int) : String :=
  if i < 0 then String.ofList ('-' :: digits i.natAbs) else natText i.natAbs

/-- The text of `n` filled up with zeros to at least `width` digits. -/
def padded (width n : Nat) : String :=
  let ds := digits n
  String.ofList (List.replicate (width - ds.length) '0' ++ ds)

def takeDigits (s : List Char) : List Char × List Char :=
  (s.takeWhile isDigit, s.dropWhile isDigit)

end Cadence.Number
