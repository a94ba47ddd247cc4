/-
Files of environment variables.

Such a file has one binding a line: a name, an equal sign and a value, with
`export` allowed in front. A value is bare, up to the end of the line or a
comment, or stands in single or double quotes, where it may run over lines and
may hold escapes. A name alone is a binding without a value. A line that does
not read so is skipped, from where the reading stopped to the end of the line.

Values may refer to variables as `$` and a name in braces, with a default behind
`:-`. A binding sees those before it in the file, then the environment; what is
nowhere bound and has no default is empty.
-/
import Cadence.Config.Environment

set_option autoImplicit false

namespace Cadence.Config.EnvFile

open Cadence.Text (isBlank dropLead? trimEnd)

/-- A line of the file: the name, and the value when there is one. -/
structure Binding where
  name : List Char
  value : Option (List Char)
deriving DecidableEq, Repr

/-! ## Parts of a line -/

def isLineEnd (c : Char) : Bool := c == '\n' || c == '\r'

/-- A blank that does not end the line. -/
def isInlineBlank (c : Char) : Bool := isBlank c && !isLineEnd c

def skipInline (s : List Char) : List Char := s.dropWhile isInlineBlank

/-- The word `export` and the blanks behind it, if both are there. -/
def skipExport (s : List Char) : List Char :=
  match dropLead? "export".toList s with
  | some (c :: r) => if isInlineBlank c then skipInline r else s
  | _ => s

/-- What is left behind the end of the line. -/
def skipLine (s : List Char) : List Char :=
  match s.dropWhile (fun c => !isLineEnd c) with
  | [] => []
  | _ :: r => r

/-- A name, in single quotes or bare. -/
def readName (s : List Char) : Option (List Char × List Char) :=
  match s with
  | '\'' :: r =>
    match Text.cutAt '\'' r with
    | (name, some rest) => if name.isEmpty then none else some (name, rest)
    | (_, none) => none
  | s =>
    let stops (c : Char) : Bool := c == '=' || c == '#' || isBlank c
    let name := s.takeWhile (fun c => !stops c)
    if name.isEmpty then none else some (name, s.drop name.length)

/-- The text up to the closing quote, with the escapes still in it. A quote
behind a backslash does not close, unless no other does. -/
def readQuoted (quote : Char) : List Char → Option (List Char × List Char)
  | [] => none
  | [c] => if c = quote then some ([], []) else none
  | c :: d :: r =>
    if c = quote then some ([], d :: r)
    else if c = '\\' && d = quote then
      match readQuoted quote r with
      -- the quote is escaped, as another one closes
      | some (text, rest) => some (c :: d :: text, rest)
      -- no other quote closes, so this one does
      | none => some ([c], r)
    else (readQuoted quote (d :: r)).map (fun (text, rest) => (c :: text, rest))

/-- What the escapes of a double-quoted value stand for. -/
def doubleEscapes : List (Char × Char) :=
  [('\\', '\\'), ('\'', '\''), ('"', '"'), ('a', '\x07'), ('b', '\x08'), ('f', '\x0c'),
    ('n', '\n'), ('r', '\r'), ('t', '\t'), ('v', '\x0b')]

/-- What the escapes of a single-quoted value stand for. -/
def singleEscapes : List (Char × Char) := [('\\', '\\'), ('\'', '\'')]

def unescape (escapes : List (Char × Char)) : List Char → List Char
  | '\\' :: c :: r => match escapes.lookup c with
    | some d => d :: unescape escapes r
    | none => '\\' :: unescape escapes (c :: r)
  | c :: r => c :: unescape escapes r
  | [] => []

/-- A bare value: a comment in it starts at blanks that stand before a `#`. -/
def cutComment : List Char → List Char
  | [] => []
  | c :: r =>
    if isBlank c && (r.dropWhile isBlank).head? = some '#' then [] else c :: cutComment r

/-- The value behind the equal sign. -/
def readValue (s : List Char) : Option (List Char × List Char) :=
  match s with
  | '\'' :: r => (readQuoted '\'' r).map (fun (text, rest) => (unescape singleEscapes text, rest))
  | '"' :: r => (readQuoted '"' r).map (fun (text, rest) => (unescape doubleEscapes text, rest))
  | s =>
    let line := s.takeWhile (fun c => !isLineEnd c)
    some (trimEnd (cutComment line), s.drop line.length)

/-- What is left of a line behind its binding: blanks, perhaps a comment, and the
end. -/
def readLineEnd (s : List Char) : Option (List Char) :=
  let r := match skipInline s with
    | '#' :: c => c.dropWhile (fun c => !isLineEnd c)
    | _ => s
  match skipInline r with
  | [] => some []
  | '\r' :: '\n' :: rest => some rest
  | '\n' :: rest => some rest
  | '\r' :: rest => some rest
  | _ => none

/-! ## Lines -/

/-- Reads a line: its binding, if it has one, and the lines behind it. -/
def readBinding (s : List Char) : Option Binding × List Char :=
  let s := skipExport (s.dropWhile isBlank)
  let named : Option (Option (List Char) × List Char) := match s with
    | '#' :: _ => some (none, s)
    | s => (readName s).map (fun (name, rest) => (some name, rest))
  match named with
  | none => (none, skipLine s)
  | some (name, r) =>
    let r := skipInline r
    let valued : Option (Option (List Char) × List Char) × List Char := match r with
      | '=' :: v =>
        let v := skipInline v
        ((readValue v).map (fun (value, rest) => (some value, rest)), v)
      | r => (some (none, r), r)
    match valued with
    | (none, at_) => (none, skipLine at_)
    | (some (value, rest), _) =>
      match readLineEnd rest with
      | some behind => (name.map (fun n => ⟨n, value⟩), behind)
      | none => (none, skipLine rest)

/-- Reads line after line; each takes at least one character. -/
def readLines : Nat → List Char → List Binding
  | 0, _ => []
  | fuel + 1, s =>
    if s.isEmpty then []
    else
      let (binding, rest) := readBinding s
      binding.toList ++ readLines fuel rest

/-! ## References -/

/-- A reference behind a dollar sign and an opening brace: its name, its default,
and what follows. -/
def readReference (s : List Char) : Option (List Char × Option (List Char) × List Char) :=
  let stops (c : Char) : Bool := c == '\x7d' || c == ':'
  let name := s.takeWhile (fun c => !stops c)
  match s.drop name.length with
  | '\x7d' :: r => some (name, none, r)
  | ':' :: '-' :: r =>
    match Text.cutAt '\x7d' r with
    | (default, some rest) => some (name, some default, rest)
    | (_, none) => none
  | _ => none

def resolve (get? : String → Option String) : Nat → List Char → List Char
  | 0, s => s
  | _, [] => []
  | fuel + 1, '$' :: '\x7b' :: r => match readReference r with
    | some (name, default, rest) =>
      (match get? (String.ofList name) with
        | some value => value.toList
        | none => default.getD []) ++ resolve get? fuel rest
    | none => '$' :: resolve get? fuel ('\x7b' :: r)
  | fuel + 1, c :: r => c :: resolve get? fuel r

/-- Looks a name up among bindings, the last of equal names first; a binding
without a value is empty. -/
def lookup? (done : List (String × Option String)) (name : String) : Option String :=
  match done.reverse.lookup name with
  | some value => some (value.getD "")
  | none => none

/-- Resolves the bindings from the top. -/
def resolveAll (env : Environment) (done : List (String × Option String)) :
    List Binding → List (String × Option String)
  | [] => done
  | b :: bs =>
    let get? (name : String) : Option String :=
      match lookup? done name with
      | some value => some value
      | none => env.get? name
    let value := b.value.map (fun v => String.ofList (resolve get? (v.length + 1) v))
    resolveAll env (done ++ [(String.ofList b.name, value)]) bs

def read (env : Environment) (text : String) : List (String × Option String) :=
  let s := text.toList
  resolveAll env [] (readLines (s.length + 1) s)

end Cadence.Config.EnvFile
