/-
Values read from JSON text.

The standard grammar, with three words more for the doubles that are not finite
(`NaN`, `Infinity`, `-Infinity`). A number with a fraction or an exponent is a
double, any other an integer of any size up to the digit limit. The last of
equal keys wins, in the place of the first. Control characters inside a string
must be escaped; half of a surrogate pair may be, and makes a torn text.

The readers work on the characters left and spend one unit of fuel per element,
so that a text of `n` characters never runs out of `2 n + 2`.
-/
import Cadence.Number.Reader
import Cadence.Value

set_option autoImplicit false

namespace Cadence.Json

open Cadence.Number (DecimalText digitLimit ofDigits Binary64)
open Cadence.Text (CodePoint isDigit dropLead?)

/-- Why a text has no reading. -/
inductive JsonFault
  | malformed
  | tooManyDigits (n : Nat)
deriving DecidableEq, Repr

/-- Drops the four blanks of the grammar. -/
def skipBlanks (s : List Char) : List Char :=
  s.dropWhile (fun c => c = ' ' || c = '\t' || c = '\n' || c = '\r')

/-! ## Strings -/

def hexValue? (c : Char) : Option Nat :=
  let n := c.toNat
  if 0x30 ≤ n && n ≤ 0x39 then some (n - 0x30)
  else if 0x61 ≤ n && n ≤ 0x66 then some (n - 0x57)
  else if 0x41 ≤ n && n ≤ 0x46 then some (n - 0x37)
  else none

def readHex4 : List Char → Option (Nat × List Char)
  | a :: b :: c :: d :: s => do
    let a ← hexValue? a
    let b ← hexValue? b
    let c ← hexValue? c
    let d ← hexValue? d
    some (((a * 16 + b) * 16 + c) * 16 + d, s)
  | _ => none

def isHighSurrogate (n : Nat) : Bool := 0xD800 ≤ n && n < 0xDC00

def isLowSurrogate (n : Nat) : Bool := 0xDC00 ≤ n && n < 0xE000

/-- Reads the code unit of an escape and, when it starts a pair, its partner. -/
def readUnit (s : List Char) : Option (CodePoint × List Char) := do
  let (n, s) ← readHex4 s
  if isHighSurrogate n then
    match s with
    | '\\' :: 'u' :: r => match readHex4 r with
      | some (m, r) =>
        -- two halves make one character
        if isLowSurrogate m then
          some (.ofNat (0x10000 + (n - 0xD800) * 0x400 + (m - 0xDC00)), r)
        else some (.ofNat n, s)
      | none => some (.ofNat n, s)
    | s => some (.ofNat n, s)
  else some (.ofNat n, s)

/-- The character of a one-letter escape. -/
def shortEscape? (c : Char) : Option Char :=
  match c with
  | '"' => some '"'
  | '\\' => some '\\'
  | '/' => some '/'
  | 'b' => some (Char.ofNat 8)
  | 'f' => some (Char.ofNat 12)
  | 'n' => some '\n'
  | 'r' => some '\r'
  | 't' => some '\t'
  | _ => none

/-- Reads the rest of a string whose opening quote is behind; `acc` holds the
code points read, last first. -/
def readString : Nat → List CodePoint → List Char → Except JsonFault (Value × List Char)
  | 0, _, _ => .error .malformed
  | _ + 1, _, [] => .error .malformed
  | fuel + 1, acc, c :: s =>
    if c = '"' then .ok (.ofPoints acc.reverse, s)
    else if c = '\\' then
      match s with
      | [] => .error .malformed
      | 'u' :: r => match readUnit r with
        | some (x, r) => readString fuel (x :: acc) r
        | none => .error .malformed
      | e :: r => match shortEscape? e with
        | some x => readString fuel (.char x :: acc) r
        | none => .error .malformed
    else if c.toNat < 0x20 then .error .malformed
    else readString fuel (.char c :: acc) s

/-! ## Numbers -/

/-- Reads a number. What follows a well-formed number is left over, so a point
without digits behind it ends the number before the point. -/
def readNumber (s : List Char) : Except JsonFault (Value × List Char) :=
  let neg := s.head? = some '-'
  let body := if neg then s.drop 1 else s
  let (ds, rest) := Number.takeDigits body
  let (whole, rest) := match ds with
    -- a leading zero is the whole number
    | '0' :: z :: zs => (['0'], z :: zs ++ rest)
    | ds => (ds, rest)
  if whole.isEmpty then .error .malformed
  else
    let (fraction, rest) := match rest with
      | '.' :: r =>
        let (f, r') := Number.takeDigits r
        if f.isEmpty then (none, rest) else (some f, r')
      | rest => (none, rest)
    let (e, rest) := match Number.readExponent rest with
      | some (e, r) => (e, r)
      | none => (none, rest)
    if fraction.isNone && e.isNone then
      if digitLimit < whole.length then .error (.tooManyDigits whole.length)
      else
        let n : Int := ofDigits whole
        .ok (.int (if neg then -n else n), rest)
    else .ok (.float (DecimalText.toFloat ⟨neg, whole, fraction, e⟩), rest)

/-- The words of the grammar. -/
def wordValues : List (String × Value) :=
  [("null", .null), ("true", .bool true), ("false", .bool false), ("NaN", .float .nan),
    ("Infinity", .float (.infinite false)), ("-Infinity", .float (.infinite true))]

/-- Reads one of the words, if one stands at the front. -/
def readWord? (s : List Char) : Option (Value × List Char) :=
  wordValues.findSome? (fun (w, v) => (dropLead? w.toList s).map (fun r => (v, r)))

/-! ## Values -/

mutual

def readValue : Nat → List Char → Except JsonFault (Value × List Char)
  | 0, _ => .error .malformed
  | fuel + 1, s =>
    match s with
    | '"' :: r => readString (r.length + 1) [] r
    | '[' :: r => match skipBlanks r with
      | ']' :: r => .ok (.list [], r)
      | r => readItems fuel [] r
    | '\x7b' :: r => match skipBlanks r with
      | '\x7d' :: r => .ok (.mapping [], r)
      | r => readEntries fuel [] r
    | s => match readWord? s with
      | some (v, r) => .ok (v, r)
      | none => readNumber s

/-- Reads the items of a list up to its closing bracket. -/
def readItems : Nat → List Value → List Char → Except JsonFault (Value × List Char)
  | 0, _, _ => .error .malformed
  | fuel + 1, acc, s => do
    let (v, s) ← readValue fuel s
    match skipBlanks s with
    | ',' :: r => readItems fuel (v :: acc) (skipBlanks r)
    | ']' :: r => pure (.list (v :: acc).reverse, r)
    | _ => .error .malformed

/-- Reads the entries of a mapping up to its closing brace. -/
def readEntries : Nat → List (Value × Value) → List Char → Except JsonFault (Value × List Char)
  | 0, _, _ => .error .malformed
  | fuel + 1, acc, s => do
    match s with
    | '"' :: r =>
      let (k, s) ← readString (r.length + 1) [] r
      match skipBlanks s with
      | ':' :: r =>
        let (v, s) ← readValue fuel (skipBlanks r)
        match skipBlanks s with
        | ',' :: r => readEntries fuel ((k, v) :: acc) (skipBlanks r)
        | '\x7d' :: r => pure (Value.mappingOf ((k, v) :: acc).reverse, r)
        | _ => .error .malformed
      | _ => .error .malformed
    | _ => .error .malformed

end

/-- Reads a text that holds one value and nothing else. -/
def read (text : String) : Except JsonFault Value := do
  let s := text.toList
  let (v, rest) ← readValue (2 * s.length + 2) (skipBlanks s)
  if (skipBlanks rest).isEmpty then pure v else .error .malformed

end Cadence.Json
