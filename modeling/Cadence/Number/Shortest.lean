/-
The shortest decimal text of a double.

A double stands for all reals that round to it: an interval around its value
whose ends belong to it iff the mantissa is even. `shortest` looks for the
least number of digits with which some decimal lies in that interval, and takes
the one nearest to the value. Only the two neighbours of the value on each
decimal grid are tried: if any point of a grid lies in the interval, so does
one of them. The layout (where positional notation ends, how an exponent is
written) is one record.
-/
import Cadence.Number.Binary64
import Cadence.Number.Decimal

set_option autoImplicit false

namespace Cadence.Number

/-! ## The fewest digits -/

/-- `n · 10^e` for a natural exponent, `n` for a negative one. -/
def scaleTen (n : Nat) (e : Int) : Nat := n * Nat.pow 10 e.toNat

/-- The integer `k` with `10^k ≤ num / den < 10^(k + 1)`, for positive arguments. -/
def decimalOrder (num den : Nat) : Int :=
  -- the numbers of digits give the order up to one
  let k : Int := ((digits num).length : Int) - ((digits den).length : Int)
  if scaleTen den k ≤ scaleTen num (-k) then k else k - 1

/-- The reals that round to a double, all three numbers over one denominator. -/
structure RoundingInterval where
  low : Nat
  value : Nat
  high : Nat
  den : Nat
  closed : Bool

/-- The interval of `m · 2^q` for a positive mantissa. Below a power of two the
doubles lie twice as dense, so the lower half is half as wide. -/
def RoundingInterval.of (m : Nat) (q : Int) : RoundingInterval :=
  let lowGap := if m = mantissaStart ∧ -1074 < q then 1 else 2
  { low := scaleUp (4 * m - lowGap) q
    value := scaleUp (4 * m) q
    high := scaleUp (4 * m + 2) q
    den := 4 * scaleUp 1 (-q)
    closed := m % 2 = 0 }

/-- Whether `d · 10^p` lies in the interval. -/
def RoundingInterval.holds (r : RoundingInterval) (d : Nat) (p : Int) : Bool :=
  let x := scaleTen (d * r.den) p
  let up (n : Nat) := scaleTen n (-p)
  if r.closed then up r.low ≤ x && x ≤ up r.high else up r.low < x && x < up r.high

/-- Twice the signed distance of `d · 10^p` and the next grid point to the
value: negative when `d` is nearer. -/
def RoundingInterval.nearer (r : RoundingInterval) (d : Nat) (p : Int) : Int :=
  let x : Int := scaleTen ((2 * d + 1) * r.den) p
  (2 * scaleTen r.value (-p) : Nat) - x

/-- Tries grids with more and more digits, coarse to fine; `fuel` is the number
of grids left. -/
def shortestFrom (r : RoundingInterval) (k : Int) : Nat → Nat → Nat × Int
  | 0, n =>
    let p := k - n + 1
    (scaleTen r.value (-p) / scaleTen r.den p, p)
  | fuel + 1, n =>
    let p := k - n + 1
    let d := scaleTen r.value (-p) / scaleTen r.den p
    match r.holds d p, r.holds (d + 1) p with
    | true, true =>
      -- both neighbours read back: the nearer one, and of two equally near the even one
      let c := r.nearer d p
      if c < 0 || (c = 0 && d % 2 = 0) then (d, p) else (d + 1, p)
    | true, false => (d, p)
    | false, true => (d + 1, p)
    -- the grid is too coarse
    | false, false => shortestFrom r k fuel (n + 1)

/-- The shortest decimal `d · 10^p` that reads back as `m · 2^q`. -/
def shortest (m : Nat) (q : Int) : Nat × Int :=
  let r := RoundingInterval.of m q
  shortestFrom r (decimalOrder r.value r.den) 17 1

/-! ## Layout -/

/-- Where positional notation ends and how an exponent is written. -/
structure FloatLayout where
  /-- the least position of the point, counted from the first digit, written positionally -/
  lowPoint : Int
  /-- the greatest such position -/
  highPoint : Int
  exponentMark : String
  exponentDigits : Nat

/-- Doubles are written positionally from 0.0001 up to below 10^16, and an
exponent has a sign and at least two digits. -/
def floatLayout : FloatLayout := ⟨-3, 16, "e", 2⟩

def dropZeros (ds : List Char) : List Char := (ds.reverse.dropWhile (· == '0')).reverse

/-- Lays out the digits of `0.ds · 10^point`. -/
def FloatLayout.write (l : FloatLayout) (ds : List Char) (point : Int) : String :=
  if l.lowPoint ≤ point && point ≤ l.highPoint then
    if point ≤ 0 then
      String.ofList ("0.".toList ++ List.replicate (-point).toNat '0' ++ ds)
    else
      let n := point.toNat
      -- the point stands behind all digits, or among them
      if ds.length ≤ n then
        String.ofList (ds ++ List.replicate (n - ds.length) '0' ++ ".0".toList)
      else String.ofList (ds.take n ++ '.' :: ds.drop n)
  else
    -- one digit in front of the point, and an exponent
    let e := point - 1
    String.ofList (ds.take 1 ++ (if ds.length ≤ 1 then [] else '.' :: ds.drop 1))
      ++ l.exponentMark ++ (if e < 0 then "-" else "+") ++ padded l.exponentDigits e.natAbs

/-- A double as text: the shortest digits that read back. -/
def Binary64.text : Binary64 → String
  | .nan => "nan"
  | .infinite s => if s then "-inf" else "inf"
  | .finite s 0 _ => if s then "-0.0" else "0.0"
  | .finite s m q =>
    let (d, p) := shortest m q
    let ds := digits d
    (if s then "-" else "") ++ floatLayout.write (dropZeros ds) (p + ds.length)

end Cadence.Number
