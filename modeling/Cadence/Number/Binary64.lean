/-
Double precision numbers, exactly.

A finite double is `±m · 2^q` with `m < 2^53` and `q ≥ -1074`, in its standard
form (`m ≥ 2^52` unless `q = -1074`). Held that way every operation is exact
arithmetic on integers followed by one rounding, `ofRatio`, which takes the
nearest double and, of two equally near, the one with the even mantissa. So
each law about a double is a law about integers, and a closed term computes in
the kernel.
-/

set_option autoImplicit false

namespace Cadence.Number

/-- A double: not a number, an infinity, or `±mantissa · 2^exponent`. -/
inductive Binary64
  | nan
  | infinite (negative : Bool)
  | finite (negative : Bool) (mantissa : Nat) (exponent : Int)
deriving DecidableEq, Repr, Inhabited

/-! ## Rounding -/

/-- The integer nearest to `num / den`; a half goes to the even neighbour. -/
def roundHalfEven (num den : Nat) : Nat :=
  let q := num / den
  let r := num % den
  if 2 * r < den then q
  else if den < 2 * r then q + 1
  else if q % 2 = 0 then q else q + 1

/-- `n · 2^e` for a natural exponent, `n` for a negative one. -/
def scaleUp (n : Nat) (e : Int) : Nat := n * Nat.pow 2 e.toNat

/-- The integer `e` with `2^e ≤ num / den < 2^(e + 1)`, for positive arguments. -/
def binaryOrder (num den : Nat) : Int :=
  -- the numbers of binary digits give the order up to one
  let e : Int := (num.log2 : Int) - (den.log2 : Int)
  if scaleUp den e ≤ scaleUp num (-e) then e else e - 1

/-- Where the mantissas of doubles in standard form start, `2^52`. -/
def mantissaStart : Nat := 4503599627370496

namespace Binary64

/-- The double nearest to `num / den`, for a positive denominator. -/
def ofRatio (negative : Bool) (num den : Nat) : Binary64 :=
  if num = 0 then .finite negative 0 (-1074)
  else
    -- 53 binary digits, or fewer near zero
    let q : Int := max (binaryOrder num den - 52) (-1074)
    let m := roundHalfEven (scaleUp num (-q)) (scaleUp den q)
    -- rounding may have reached the next power of two
    let (m, q) := if m = 2 * mantissaStart then (mantissaStart, q + 1) else (m, q)
    if 971 < q then .infinite negative else .finite negative m q

def ofInt (i : Int) : Binary64 := ofRatio (i < 0) i.natAbs 1

def zero : Binary64 := .finite false 0 (-1074)

def one : Binary64 := ofInt 1

/-! ## Exact value -/

/-- The value of a finite double as a fraction whose denominator is a power of
two; an infinity and not-a-number have none. -/
def ratio? : Binary64 → Option (Int × Nat)
  | .finite s m q =>
    let n : Nat := scaleUp m q
    some (if s then -(n : Int) else n, scaleUp 1 (-q))
  | _ => none

def ofSigned (num : Int) (den : Nat) : Binary64 := ofRatio (num < 0) num.natAbs den

/-- Whether the double is negative, zero included by its sign. -/
def isNegative : Binary64 → Bool
  | .nan => false
  | .infinite s => s
  | .finite s _ _ => s

def isZero : Binary64 → Bool
  | .finite _ 0 _ => true
  | _ => false

def isFinite : Binary64 → Bool
  | .finite _ _ _ => true
  | _ => false

def toInt? (x : Binary64) : Option Int :=
  match x.ratio? with
  | some (n, d) => if n % d = 0 then some (n / d) else none
  | none => none

/-! ## Arithmetic -/

def neg : Binary64 → Binary64
  | .nan => .nan
  | .infinite s => .infinite !s
  | .finite s m q => .finite (!s) m q

def add (x y : Binary64) : Binary64 :=
  match x, y with
  | .nan, _ => .nan
  | _, .nan => .nan
  | .infinite s, .infinite t => if s = t then .infinite s else .nan
  | .infinite s, _ => .infinite s
  | _, .infinite t => .infinite t
  | _, _ => match x.ratio?, y.ratio? with
    | some (a, b), some (c, d) =>
      -- a sum of nothing is negative only when both terms are
      if a * d + c * b = 0 then .finite (x.isNegative && y.isNegative) 0 (-1074)
      else ofSigned (a * d + c * b) (b * d)
    | _, _ => .nan

def sub (x y : Binary64) : Binary64 := add x y.neg

/-- The nearest double to the product of `x` and an integer. -/
def scale (x : Binary64) (k : Nat) : Binary64 :=
  match x with
  | .finite s _ _ => match x.ratio? with
    | some (n, d) => ofRatio s (n.natAbs * k) d
    | none => .nan
  | y => y

end Binary64

end Cadence.Number
