/-
Numbers of both kinds, compared and divided exactly.

An integer of any size and a double are compared by value, without converting
either: `2^53 + 1` and the double `2^53` differ. Not-a-number compares with
nothing. Division matters here only through its remainder, and of the remainder
only whether it is zero; a mixed pair is first made a pair of doubles, which an
integer too large for a double does not survive.
-/
import Cadence.Number.Binary64

set_option autoImplicit false

namespace Cadence.Number

inductive Numeral
  | int (i : Int)
  | float (x : Binary64)
deriving DecidableEq, Repr, Inhabited

/-- How two numbers stand to each other, when they do. -/
def compareRatios (a : Int × Nat) (b : Int × Nat) : Ordering :=
  compare (a.1 * b.2) (b.1 * a.2)

namespace Numeral

/-- The place of a number among the reals with two infinities. -/
def ratio? : Numeral → Option (Int × Nat)
  | .int i => some (i, 1)
  | .float x => x.ratio?

/-- The order of two numbers; `none` when one of them is not a number. -/
def order? (a b : Numeral) : Option Ordering :=
  match a, b with
  | .float .nan, _ => none
  | _, .float .nan => none
  | .float (.infinite s), .float (.infinite t) =>
    some (if s = t then .eq else if s then .lt else .gt)
  | .float (.infinite s), _ => some (if s then .lt else .gt)
  | _, .float (.infinite t) => some (if t then .gt else .lt)
  | a, b => match a.ratio?, b.ratio? with
    | some x, some y => some (compareRatios x y)
    | _, _ => none

def eqv (a b : Numeral) : Bool := a.order? b == some .eq

def le (a b : Numeral) : Bool :=
  match a.order? b with
  | some .lt => true
  | some .eq => true
  | _ => false

def lt (a b : Numeral) : Bool := a.order? b == some .lt

/-- The double nearest to a number; `none` when an integer is too large. -/
def toFloat? : Numeral → Option Binary64
  | .float x => some x
  | .int i => match Binary64.ofInt i with
    | .infinite _ => none
    | x => some x

end Numeral

/-! ## Difference and remainder -/

/-- Why a remainder or a difference has no value. -/
inductive ArithmeticFault
  | zeroDivisor (float : Bool)
  | tooLarge
deriving DecidableEq, Repr

/-- Whether the remainder of two doubles is zero, for a divisor that is not. -/
def Binary64.divides (d x : Binary64) : Bool :=
  match x.ratio? with
  | none => false
  | some (a, b) => match d with
    | .nan => false
    | .infinite _ => a = 0
    | _ => match d.ratio? with
      | none => false
      | some (c, e) => (a * e) % (c * b) = 0

namespace Numeral

/-- Whether `a` leaves no remainder on division by `b`. -/
def remainderIsZero (a b : Numeral) : Except ArithmeticFault Bool :=
  match a, b with
  | .int i, .int j => if j = 0 then .error (.zeroDivisor false) else .ok (i % j = 0)
  | a, b => match a.toFloat?, b.toFloat? with
    | some x, some y => if y.isZero then .error (.zeroDivisor true) else .ok (y.divides x)
    | _, _ => .error .tooLarge

def sub (a b : Numeral) : Except ArithmeticFault Numeral :=
  match a, b with
  | .int i, .int j => .ok (.int (i - j))
  | a, b => match a.toFloat?, b.toFloat? with
    | some x, some y => .ok (.float (x.sub y))
    | _, _ => .error .tooLarge

end Numeral

end Cadence.Number
