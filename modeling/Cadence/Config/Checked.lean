/-
Checking values of unknown kind.

A configuration is checked as a whole: every part is looked at and all that is
wrong is reported together, each issue with the path to its value. Only a fault
that is not an issue (a value of a kind that no rule foresees) ends the check
at once. `Checked` is the result of such a check, and `both` its combination:
the issues of the first part come before those of the second.

The rules for scalars are lenient: an integer may be given as a truth value, as
a double without a fraction, or as text; a double also as an integer or text; a
truth value as one of a dozen words.

All of this is a library's, pydantic, in its lax mode, and is assumed here as that
library describes it: what its rules for scalars take, in which order it reports
issues, their codes and their texts. Which keys a section has, their bounds and
defaults, and the conditions on values and sections, are the program's own and
stand with the sections.
-/
import Cadence.Fault
import Cadence.Number.Reader

set_option autoImplicit false

namespace Cadence.Config

open Cadence.Number (Binary64 ofDigits takeSign takeDigits asciiLower DecimalText)
open Cadence.Text (isDigit)

/-! ## Results -/

/-- The result of a check: the value, the issues, or a fault that ends it. -/
inductive Checked (α : Type)
  | ok (a : α)
  | issues (found : List Issue)
  | abort (e : Fault)
deriving Repr

namespace Checked

variable {α β : Type}

/-- Goes on with a value; issues and faults stay. -/
def andThen (c : Checked α) (f : α → Checked β) : Checked β :=
  match c with
  | .ok a => f a
  | .issues found => .issues found
  | .abort e => .abort e

def map (f : α → β) (c : Checked α) : Checked β := c.andThen (fun a => .ok (f a))

/-- Two checks one after the other, with the issues of both. A fault of the first
keeps the second from being looked at; one of the second outweighs the issues
of the first. -/
def both (c : Checked α) (d : Checked β) : Checked (α × β) :=
  match c, d with
  | .abort e, _ => .abort e
  | _, .abort e => .abort e
  | .ok a, .ok b => .ok (a, b)
  | .ok _, .issues found => .issues found
  | .issues found, .ok _ => .issues found
  | .issues found, .issues more => .issues (found ++ more)

def issue (kind : IssueKind) : Checked α := .issues [⟨[], kind⟩]

/-- Puts a step in front of the path of every issue. -/
def under (step : LocPart) (c : Checked α) : Checked α :=
  match c with
  | .issues found => .issues (found.map (fun i => { i with loc := step :: i.loc }))
  | c => c

/-- A fault of content becomes an issue at the value; any other ends the check. -/
def ofExcept (r : Except Fault α) : Checked α :=
  match r with
  | .ok a => .ok a
  | .error e => if e.isContent then issue (.invalidValue e.message) else .abort e

/-- Checks every item of a list, with its index in the path. -/
def each (f : Value → Checked α) : Nat → List Value → Checked (List α)
  | _, [] => .ok []
  | n, v :: vs => (both ((f v).under (.index n)) (each f (n + 1) vs)).map (fun (a, as) => a :: as)

/-- The result as seen from outside: the issues are one fault. -/
def toExcept (model : String) (c : Checked α) : Except Fault α :=
  match c with
  | .ok a => .ok a
  | .issues found => .error (.invalid model found)
  | .abort e => .error e

end Checked

/-! ## Integers -/

/-- Blanks around a number inside a configuration; the four information
separators do not count. -/
def isOuterBlank (c : Char) : Bool := Text.isBlank c && !(0x1C ≤ c.toNat && c.toNat ≤ 0x1F)

/-- Drops the blanks at both ends. -/
def trimOuter (s : List Char) : List Char :=
  ((s.dropWhile isOuterBlank).reverse.dropWhile isOuterBlank).reverse

/-- Drops single underscores between two characters; any other placement is an
error. -/
def dropInner (s : List Char) : Option (List Char) :=
  let rec doubled : List Char → Bool
    | '_' :: '_' :: _ => true
    | _ :: r => doubled r
    | [] => false
  if s.head? = some '_' || s.getLast? = some '_' || doubled s then none
  else some (s.filter (· != '_'))

/-- Drops a fraction that consists of zeros. -/
def dropZeroFraction (s : List Char) : List Char :=
  let (ds, r) := (s.takeWhile (· != '.'), s.dropWhile (· != '.'))
  match r with
  | '.' :: zs => if !zs.isEmpty && zs.all (· == '0') then ds else s
  | _ => s

def readInt (text : String) : Option Int := do
  let s := trimOuter text.toList
  let (neg, body) := takeSign s
  let digits ← dropInner (dropZeroFraction body)
  if digits.isEmpty || !digits.all isDigit then none
  else
    let n : Int := ofDigits digits
    some (if neg then -n else n)

/-- The least and greatest integers that a double is converted to. -/
def maxConverted : Int := 9223372036854775807

def checkInt (v : Value) : Checked Int :=
  match v with
  | .atom (.int n) => .ok n
  | .atom (.bool b) => .ok (if b then 1 else 0)
  | .atom (.float x) =>
    if !x.isFinite then .issue .finiteNumber
    else match x.toInt? with
      | none => .issue .intFromFloat
      | some n => if n.natAbs ≤ maxConverted.natAbs then .ok n else .issue .intParsingSize
  | .atom (.str s) =>
    if Number.digitLimit < s.toList.length then .issue .intParsingSize
    else match readInt s with
      | some n => .ok n
      | none => .issue .intParsing
  | .symbol _ => .issue .intParsing
  | _ => .issue .intType

def checkIntFrom (bound : Int) (v : Value) : Checked Int :=
  (checkInt v).andThen (fun n => if bound ≤ n then .ok n else .issue (.greaterThanEqual bound))

/-! ## Doubles -/

def readFloat (text : String) : Option Binary64 :=
  let s := trimOuter text.toList
  let plain (s : List Char) : Option Binary64 := match Number.readWord s with
    | some x => some x
    | none => match DecimalText.read s with
      | some (d, []) => some d.toFloat
      | _ => none
  match plain s with
  | some x => some x
  | none => (dropInner s).bind plain

/-- A double, leniently. -/
def checkFloat (v : Value) : Checked Binary64 :=
  match v with
  | .atom (.float x) => .ok x
  | .atom (.bool b) => .ok (Binary64.ofInt (if b then 1 else 0))
  | .atom (.int n) => match (Number.Numeral.int n).toFloat? with
    | some x => .ok x
    | none => .issue .floatType
  | .atom (.str s) => match readFloat s with
    | some x => .ok x
    | none => .issue .floatParsing
  | .symbol _ => .issue .floatParsing
  | _ => .issue .floatType

/-- A double above zero; not-a-number is not. -/
def checkPositive (v : Value) : Checked Binary64 :=
  (checkFloat v).andThen (fun x =>
    if (Number.Numeral.int 0).lt (.float x) then .ok x else .issue (.greaterThan 0))

/-! ## Texts, truth values, absent values -/

def checkText (v : Value) : Checked String :=
  match v.text? with
  | some s => .ok s
  | none => .issue .stringType

def checkOptional {α : Type} (check : Value → Checked α) (v : Value) : Checked (Option α) :=
  match v with
  | .atom .none => .ok none
  | v => (check v).map some

/-- The words for the two truth values. -/
def truthWords : List (String × Bool) :=
  [("0", false), ("off", false), ("f", false), ("false", false), ("n", false), ("no", false),
    ("1", true), ("on", true), ("t", true), ("true", true), ("y", true), ("yes", true)]

def checkTruthWord (s : String) : Checked Bool :=
  match truthWords.lookup (String.ofList (asciiLower s.toList)) with
  | some b => .ok b
  | none => .issue .boolParsing

def checkTruthNumber (n : Int) : Checked Bool :=
  if n = 0 then .ok false
  else if n = 1 then .ok true
  else if n.natAbs ≤ maxConverted.natAbs then .issue .boolParsing
  else .issue .boolType

/-- A truth value, leniently. -/
def checkBool (v : Value) : Checked Bool :=
  match v with
  | .atom (.bool b) => .ok b
  | .atom (.int n) => checkTruthNumber n
  | .atom (.float x) => match x.toInt? with
    | some n => checkTruthNumber n
    | none => .issue .boolType
  | v => match v.text? with
    | some s => checkTruthWord s
    | none => .issue .boolType

/-! ## Models -/

/-- The entries of a mapping that a model is read from. -/
abbrev Entries := List (Value × Value)

/-- The entries of a value that should be a mapping. -/
def checkEntries (model : String) (v : Value) : Checked Entries :=
  match v with
  | .mapping es => .ok es
  | _ => .issue (.modelType model)

/-- Checks the entry of a key; `default` stands for an absent one. -/
def checkKey {α : Type} (es : Entries) (key : String) (default : Checked α)
    (check : Value → Checked α) : Checked α :=
  (match Value.lookup? key es with
    | some v => check v
    | none => default).under (.key key)

end Cadence.Config
