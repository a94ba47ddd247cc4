/-
Matching a value against a field pattern.

On integers matching is plain: equality, two comparisons, a remainder. Since a
pattern's leaves and the value may be of any kind, each of the three can also
fail, and a comparison or a remainder between kinds that have none is the fault
of the first operation that needs it. The operations are tried in a fixed
order (start, end, remainder; items from the left) and stop at the first
answer.
-/
import Cadence.Pattern.Text

set_option autoImplicit false

namespace Cadence

open Cadence.Number (Numeral)

/-! ## Operations on values -/

namespace Value

/-- `a ≤ b`: numbers by value, texts by code points; other kinds have no order. -/
def lessEq (a b : Value) : Except Fault Bool :=
  match a.numeral?, b.numeral? with
  | some x, some y => .ok (x.le y)
  | _, _ => match a.text?, b.text? with
    | some s, some t => .ok (Text.notAfter s.toList t.toList)
    | _, _ => .error (.kind (.notOrdered "<=" a.typeName b.typeName))

/-- Whether `a` leaves no remainder on division by `b`. A text on the left takes
the operator for a request to fill in arguments, of which it has no use. -/
def remainderIsZero (a b : Value) : Except Fault Bool :=
  match a.text? with
  | some _ => .error (.kind .unusedArguments)
  | none => match a.numeral?, b.numeral? with
    | some x, some y => (x.remainderIsZero y).mapError Fault.ofArithmetic
    | _, _ => .error (.kind (.noOperator "%" a.typeName b.typeName))

def ofNumeral : Numeral → Value
  | .int i => .int i
  | .float x => .float x

def sub (a b : Value) : Except Fault Value :=
  match a.numeral?, b.numeral? with
  | some x, some y => ((x.sub y).mapError Fault.ofArithmetic).map ofNumeral
  | _, _ => .error (.kind (.noOperator "-" a.typeName b.typeName))

/-- `a ≤ v` and then `v ≤ b`. -/
def between (a v b : Value) : Except Fault Bool := do
  if ← a.lessEq v then v.lessEq b else pure false

end Value

/-! ## Patterns -/

namespace FieldPattern

def stepAccepts (every start stop : Scalar) (v : Value) : Except Fault Bool :=
  match start with
  | .none => v.remainderIsZero (.atom every)
  | start => do
    let stop := match stop with
      | .none => start
      | stop => stop
    -- the remainder is asked for only inside the bounds
    if ← Value.between (.atom start) v (.atom stop) then
      (← v.sub (.atom start)).remainderIsZero (.atom every)
    else pure false

mutual

def accepts : FieldPattern → Value → Except Fault Bool
  | .wildcard, _ => .ok true
  | .exact a, v => .ok (v.eqv (.atom a))
  | .span a b, v => Value.between (.atom a) v (.atom b)
  | .step n a b, v => stepAccepts n a b v
  | .anyOf items, v => anyAccepts items v
  | .unspecified, _ => .error .abstractPattern

/-- Whether one of the items matches `v`, the first that answers deciding. -/
def anyAccepts : List FieldPattern → Value → Except Fault Bool
  | [], _ => .ok false
  | p :: ps, v => do
    if ← p.accepts v then pure true else anyAccepts ps v

end

/-- Whether `v` matches a pattern given as text or compiled. The text is looked
up in a table of patterns read before, so a value that cannot be a key is
refused as such. -/
def isMatch (v pattern : Value) : Except Fault Bool :=
  match pattern with
  | .pattern p => p.accepts v
  | pattern => match pattern.unhashable? with
    | some t => .error (.kind (.unhashable t))
    | none => do (← parseValue pattern).accepts v

end FieldPattern

end Cadence
