/-
Field patterns as data.

A field pattern says which values of one field match. The six shapes are closed
under one operation, the alternation of a list. The leaves of a pattern made
from a text or from a checked input are integers; a pattern may also be built
by hand with leaves nobody has checked, so a leaf is a `Scalar` and what an
unchecked leaf does is answered when the pattern is used. `unspecified` is the
shape of a pattern that says nothing yet: it can neither be matched nor
written.
-/
import Cadence.Number.Compare
import Cadence.Number.Shortest
import Cadence.Text.Order
import Cadence.Text.Quoted

set_option autoImplicit false

namespace Cadence

open Cadence.Number (Binary64 Numeral intText)

/-! ## Leaves -/

/-- A value without parts. -/
inductive Scalar
  | none
  | bool (b : Bool)
  | int (i : Int)
  | float (x : Binary64)
  | str (s : String)
deriving DecidableEq, Repr, Inhabited

namespace Scalar

/-- The number a scalar stands for: truth values count as one and zero. -/
def numeral? : Scalar → Option Numeral
  | .bool b => some (.int (if b then 1 else 0))
  | .int i => some (.int i)
  | .float x => some (.float x)
  | _ => Option.none

def typeName : Scalar → String
  | .none => "NoneType"
  | .bool _ => "bool"
  | .int _ => "int"
  | .float _ => "float"
  | .str _ => "str"

def text : Scalar → String
  | .none => "None"
  | .bool b => if b then "True" else "False"
  | .int i => intText i
  | .float x => x.text
  | .str s => s

/-- The text of a scalar inside a larger one: a string is quoted. -/
def shown : Scalar → String
  | .str s => Text.quoted s
  | s => s.text

/-- Equality of values: numbers by value, whatever their type. -/
def eqv (a b : Scalar) : Bool :=
  match a, b with
  | .none, .none => true
  | .str s, .str t => s == t
  | a, b => match a.numeral?, b.numeral? with
    | some x, some y => x.eqv y
    | _, _ => false

end Scalar

/-! ## Patterns -/

/-- Which values of a field match. -/
inductive FieldPattern
  /-- every value -/
  | wildcard
  /-- one value -/
  | exact (value : Scalar)
  /-- the values from `low` to `high` -/
  | span (low high : Scalar)
  /-- every `every`-th value: from zero on when `start` is absent, else from
  `start` to `stop`, which is `start` itself when absent -/
  | step (every start stop : Scalar)
  /-- the values of any of the items -/
  | anyOf (items : List FieldPattern)
  /-- nothing said -/
  | unspecified
deriving Repr, Inhabited

namespace FieldPattern

def typeName : FieldPattern → String
  | .wildcard => "Wildcard"
  | .exact _ => "Exact"
  | .span _ _ => "Span"
  | .step _ _ _ => "Step"
  | .anyOf _ => "AnyOf"
  | .unspecified => "FieldPattern"

/-- The elements of a tuple inside its parentheses: a lone element is followed
by a comma. -/
def tupleText (parts : List String) : String :=
  match parts with
  | [p] => "(" ++ p ++ ",)"
  | ps => "(" ++ Text.joinWith ", " ps ++ ")"

mutual

/-- A pattern written as its shape and leaves. -/
def shown : FieldPattern → String
  | .wildcard => "Wildcard()"
  | .exact v => "Exact(value=" ++ v.shown ++ ")"
  | .span a b => "Span(start=" ++ a.shown ++ ", end=" ++ b.shown ++ ")"
  | .step n a b =>
    "Step(step=" ++ n.shown ++ ", start=" ++ a.shown ++ ", end=" ++ b.shown ++ ")"
  | .anyOf items => "AnyOf(items=" ++ tupleText (shownAll items) ++ ")"
  | .unspecified => "FieldPattern()"

def shownAll : List FieldPattern → List String
  | [] => []
  | p :: ps => p.shown :: shownAll ps

end

mutual

/-- Equality of patterns: the same shape with equal leaves. -/
def eqv : FieldPattern → FieldPattern → Bool
  | .wildcard, .wildcard => true
  | .exact a, .exact b => a.eqv b
  | .span a b, .span c d => a.eqv c && b.eqv d
  | .step n a b, .step m c d => n.eqv m && a.eqv c && b.eqv d
  | .anyOf ps, .anyOf qs => eqvAll ps qs
  | _, _ => false

/-- `eqv` item by item, for lists of one length. -/
def eqvAll : List FieldPattern → List FieldPattern → Bool
  | [], [] => true
  | p :: ps, q :: qs => p.eqv q && eqvAll ps qs
  | _, _ => false

end

end FieldPattern

end Cadence
