/-
References to the environment inside a configuration.

A text may refer to a variable as `$NAME`, where the name is a run of ASCII
letters, digits and underscores, or as `$` and a name in braces, where the name
is anything up to the next closing brace. `segments` takes a text apart into
references and single code points; `expand` puts the value of a variable in
place of each reference that has one. Reading is done before writing, so what is
put in is never looked at again, and a reference without a value stays as it is
written.

The environment knows a variable by the bytes of its name. Half of a surrogate
pair has none, except that those from U+DC80 to U+DCFF stand for the bytes from
0x80 on; so a name in braces that holds another half cannot be looked up, and
the expansion fails there.

Only the texts inside a value are expanded. Keys, numbers and the shape of the
value stay.
-/
import Cadence.Fault
import Cadence.Text.Blank

set_option autoImplicit false

namespace Cadence.Config

open Cadence.Text (CodePoint points)

/-! ## Names as bytes -/

/-- Whether a code point has no place in a name. -/
def isStray : CodePoint → Bool
  | .char _ => false
  | .half n => n.val < 0x480 || 0x500 ≤ n.val

/-- The bytes of a code point that has some. -/
def bytesOf : CodePoint → List UInt8
  | .char c => String.utf8EncodeChar c
  | .half n => [UInt8.ofNat (n.val - 0x400)]

/-- The bytes of a name. A half without any is reported together with the halves
right behind it. -/
def nameBytes (name : List CodePoint) : Except Fault (List UInt8) :=
  match name.dropWhile (fun p => !isStray p) with
  | [] => .ok (name.flatMap bytesOf)
  | p :: behind =>
    let start := name.length - (behind.length + 1)
    let run := (p :: behind).takeWhile CodePoint.isHalf
    .error (.content (.unencodable p start (start + run.length)))

/-! ## Environments -/

/-- What an environment has under a name, which it is given by its bytes. -/
abbrev Lookup := List UInt8 → Option (List CodePoint)

/-- Variables with their values; the first of two equal names counts. -/
abbrev Environment := List (String × String)

def Environment.get? (env : Environment) (name : String) : Option String := env.lookup name

def Environment.toLookup (env : Environment) : Lookup := fun name =>
  (env.find? (fun e => (points e.1.toList).flatMap bytesOf == name)).map
    (fun e => points e.2.toList)

/-! ## Taking a text apart -/

/-- A piece of a text: one code point, or a reference with its written form. -/
inductive Segment
  | point (p : CodePoint)
  | reference (name : List CodePoint) (written : List CodePoint)
deriving DecidableEq, Repr

/-- Whether a code point can stand in a name without braces. -/
def isNameChar : CodePoint → Bool
  | .char c => c.isAlphanum || c == '_'
  | .half _ => false

/-- The reference that stands behind a dollar sign: its name, and its length with
the braces. -/
def reference? (s : List CodePoint) : Option (List CodePoint × Nat) :=
  match s with
  | .char '\x7b' :: r =>
    match Text.cutAt (.char '\x7d') r with
    | (name, some _) => some (name, name.length + 2)
    | (_, none) => none
  | s =>
    let name := s.takeWhile isNameChar
    if name.isEmpty then none else some (name, name.length)

/-- The pieces of a text, from the left. -/
def segments (s : List CodePoint) : List Segment :=
  match s with
  | [] => []
  | p :: r =>
    if p = .char '$' then
      match reference? r with
      | some (name, n) => .reference name (.char '$' :: r.take n) :: segments (r.drop n)
      | none => .point p :: segments r
    else .point p :: segments r
termination_by s.length
decreasing_by all_goals (simp only [List.length_cons, List.length_drop]; omega)

/-! ## Putting values in -/

def Segment.expand (env : Lookup) : Segment → Except Fault (List CodePoint)
  | .point p => .ok [p]
  | .reference name written => do
    let bytes ← nameBytes name
    pure ((env bytes).getD written)

def expandText (env : Lookup) (s : List CodePoint) : Except Fault (List CodePoint) := do
  let parts ← (segments s).mapM (Segment.expand env)
  pure parts.flatten

mutual

def expand (env : Lookup) : Value → Except Fault Value
  | .atom (.str s) => do pure (.ofPoints (← expandText env (points s.toList)))
  | .torn t => do pure (.ofPoints (← expandText env t.points))
  | .list xs => do pure (.list (← expandAll env xs))
  | .mapping es => do pure (.mapping (← expandEntries env es))
  | v => .ok v

def expandAll (env : Lookup) : List Value → Except Fault (List Value)
  | [] => .ok []
  | x :: xs => do
    let y ← expand env x
    let ys ← expandAll env xs
    pure (y :: ys)

def expandEntries (env : Lookup) : List (Value × Value) → Except Fault (List (Value × Value))
  | [] => .ok []
  | (k, v) :: es => do
    let w ← expand env v
    let fs ← expandEntries env es
    pure ((k, w) :: fs)

end

end Cadence.Config
