/-
Values of any kind.

Configuration files, command-line arguments and builder calls hand over values
whose kind is not known beforehand: scalars, lists, tuples, mappings, the named
months and days, compiled patterns, dates. `Value` is their common type. What it
offers is what the error texts and the tables need: the name of the kind, the
two texts of a value, equality, and whether a value can be a key.
-/
import Cadence.Field
import Cadence.Pattern.Basic
import Cadence.Text.Torn

set_option autoImplicit false

namespace Cadence

open Cadence.Number (Binary64 Numeral)

/-! ## Named months and days -/

inductive SymbolKind
  | month
  | weekday
deriving DecidableEq, Repr, Inhabited

/-- A named month or day: its full name, and the short name it stands for. -/
structure Symbol where
  kind : SymbolKind
  name : String
  text : String
deriving DecidableEq, Repr, Inhabited

namespace Symbol

def typeName (s : Symbol) : String :=
  match s.kind with
  | .month => "Month"
  | .weekday => "DayOfWeek"

def label (s : Symbol) : String := s.typeName ++ "." ++ s.name

def names : SymbolKind → List (String × String)
  | .month => monthNames
  | .weekday => weekdayNames

/-- The symbol of a kind with a full name. -/
def find? (kind : SymbolKind) (name : String) : Option Symbol :=
  ((names kind).find? (·.1 == name)).map (fun (n, t) => ⟨kind, n, t⟩)

end Symbol

/-! ## Values -/

/-- A value of any kind; a mapping keeps its entries in order, each key once. -/
inductive Value
  | atom (a : Scalar)
  | torn (t : Text.Torn)
  | list (items : List Value)
  | tuple (items : List Value)
  | mapping (entries : List (Value × Value))
  | symbol (s : Symbol)
  | pattern (p : FieldPattern)
  /-- a date as it is written, and whether a time is part of it -/
  | date (written : String) (timed : Bool)
deriving Repr, Inhabited

namespace Value

@[match_pattern] abbrev null : Value := .atom .none

@[match_pattern] abbrev bool (b : Bool) : Value := .atom (.bool b)

@[match_pattern] abbrev int (i : Int) : Value := .atom (.int i)

@[match_pattern] abbrev float (x : Binary64) : Value := .atom (.float x)

@[match_pattern] abbrev str (s : String) : Value := .atom (.str s)

/-- The text with given code points. -/
def ofPoints (ps : List Text.CodePoint) : Value :=
  match h : Text.chars? ps with
  | some s => .str (String.ofList s)
  | none => .torn ⟨ps, h⟩

/-- The code points of a text. -/
def points? : Value → Option (List Text.CodePoint)
  | .atom (.str s) => some (Text.points s.toList)
  | .torn t => some t.points
  | _ => none

def typeName : Value → String
  | .atom a => a.typeName
  | .torn _ => "str"
  | .list _ => "list"
  | .tuple _ => "tuple"
  | .mapping _ => "dict"
  | .symbol s => s.typeName
  | .pattern p => p.typeName
  | .date _ timed => if timed then "datetime.datetime" else "datetime.date"

/-- The text a value stands for: a string, or a symbol's short name. -/
def text? : Value → Option String
  | .atom (.str s) => some s
  | .symbol s => some s.text
  | _ => none

/-- The number a value stands for. -/
def numeral? : Value → Option Numeral
  | .atom a => a.numeral?
  | _ => none

mutual

/-- A value as it stands inside a larger one. -/
def shown : Value → String
  | .atom a => a.shown
  | .torn t => Text.quoted t.smooth
  | .list xs => "[" ++ Text.joinWith ", " (shownAll xs) ++ "]"
  | .tuple xs => FieldPattern.tupleText (shownAll xs)
  | .mapping es => "\x7b" ++ Text.joinWith ", " (shownEntries es) ++ "\x7d"
  | .symbol s => "<" ++ s.label ++ ": " ++ Text.quoted s.text ++ ">"
  | .pattern p => p.shown
  | .date written _ => written

def shownAll : List Value → List String
  | [] => []
  | x :: xs => x.shown :: shownAll xs

/-- Key and value of every entry. -/
def shownEntries : List (Value × Value) → List String
  | [] => []
  | (k, v) :: es => (k.shown ++ ": " ++ v.shown) :: shownEntries es

end

def text : Value → String
  | .atom a => a.text
  | .torn t => t.smooth
  | .symbol s => s.label
  | v => v.shown

mutual

/-- Equality of values. Two mappings agree when each entry of one has its equal
in the other and they have the same number of entries. -/
def eqv : Value → Value → Bool
  | .atom a, .atom b => a.eqv b
  | .torn t, .torn u => t == u
  | .atom (.str s), .symbol t => s == t.text
  | .symbol s, .atom (.str t) => s.text == t
  | .symbol s, .symbol t => s == t
  | .list xs, .list ys => eqvAll xs ys
  | .tuple xs, .tuple ys => eqvAll xs ys
  | .mapping xs, .mapping ys => xs.length == ys.length && entriesIn xs ys
  | .pattern p, .pattern q => p.eqv q
  | .date a s, .date b t => a == b && s == t
  | _, _ => false

/-- `eqv` item by item, for lists of one length. -/
def eqvAll : List Value → List Value → Bool
  | [], [] => true
  | x :: xs, y :: ys => x.eqv y && eqvAll xs ys
  | _, _ => false

/-- Every entry of the first list has its equal in the second. -/
def entriesIn : List (Value × Value) → List (Value × Value) → Bool
  | [], _ => true
  | (k, v) :: es, ys => ys.any (fun e => k.eqv e.1 && v.eqv e.2) && entriesIn es ys

end

mutual

/-- The kind of the first part that keeps a value from being a key. -/
def unhashable? : Value → Option String
  | .list _ => some "list"
  | .mapping _ => some "dict"
  | .tuple xs => unhashableAmong? xs
  | _ => none

/-- The first such part of a list. -/
def unhashableAmong? : List Value → Option String
  | [] => none
  | x :: xs => match x.unhashable? with
    | some t => some t
    | none => unhashableAmong? xs

end

/-! ## Entries of a mapping -/

/-- The value of a text key. -/
def lookup? (key : String) : List (Value × Value) → Option Value
  | [] => none
  | (k, v) :: es => if k.text? = some key then some v else lookup? key es

/-- Writes an entry: an equal key keeps its place and takes the new value. -/
def insertEntry (es : List (Value × Value)) (k v : Value) : List (Value × Value) :=
  match es with
  | [] => [(k, v)]
  | (k', v') :: rest =>
    -- the key keeps its place and its spelling
    if k'.eqv k then (k', v) :: rest else (k', v') :: insertEntry rest k v

/-- The mapping with the entries of a list, the last of equal keys winning. -/
def mappingOf (es : List (Value × Value)) : Value :=
  .mapping (es.foldl (fun acc e => insertEntry acc e.1 e.2) [])

/-! ## Without halves -/

mutual

/-- A value with U+FFFD in place of each half in its texts. -/
def smooth : Value → Value
  | .torn t => .str t.smooth
  | .list xs => .list (smoothAll xs)
  | .tuple xs => .tuple (smoothAll xs)
  | .mapping es => mappingOf (smoothEntries es)
  | v => v

def smoothAll : List Value → List Value
  | [] => []
  | x :: xs => smooth x :: smoothAll xs

def smoothEntries : List (Value × Value) → List (Value × Value)
  | [] => []
  | (k, v) :: es => (smooth k, smooth v) :: smoothEntries es

end

def textKeys (es : List (Value × Value)) : List String := es.filterMap (·.1.text?)

end Value

end Cadence
