/-
A place in a text.

Indentation is part of the syntax of the documents read here, so a reader has to
know the column it stands at. A `Cursor` is the rest of the text with the line,
the column and the number of characters before it. `skip` is the only way
forward; everything else looks.
-/

set_option autoImplicit false

namespace Cadence.Yaml

def isBreak (c : Char) : Bool :=
  c == '\n' || c == '\r' || c == '\x85' || c == '\u2028' || c == '\u2029'

/-- What a line's end becomes inside a text. -/
def breakText (c : Char) : Char := if c == '\u2028' || c == '\u2029' then c else '\n'

/-- Whether a word ends here: at a space, a tab, a line's end or the end of the
text. -/
def endsWord : Option Char → Bool
  | none => true
  | some c => c == ' ' || c == '\t' || isBreak c

/-- The mark that may stand before everything else in a text; it has no width. -/
def byteOrderMark : Char := '\uFEFF'

/-- The rest of a text, and where it starts. -/
structure Cursor where
  rest : List Char
  line : Nat
  column : Nat
  index : Nat
deriving Repr, Inhabited

namespace Cursor

def start (s : List Char) : Cursor := ⟨s, 0, 0, 0⟩

def here (c : Cursor) : Option Char := c.rest.head?

def ahead (c : Cursor) (n : Nat) : Option Char := c.rest[n]?

def next (c : Cursor) : Cursor :=
  match c.rest with
  | [] => c
  | x :: r =>
    if isBreak x then ⟨r, c.line + 1, 0, c.index + 1⟩
    else ⟨r, c.line, if x == byteOrderMark then c.column else c.column + 1, c.index + 1⟩

def skip : Nat → Cursor → Cursor
  | 0, c => c
  | n + 1, c => skip n c.next

/-- On to the first character that is not of a kind. -/
def skipWhile (p : Char → Bool) (c : Cursor) : Cursor := skip (c.rest.takeWhile p).length c

def skipLine (c : Cursor) : Cursor := c.skipWhile (fun x => !isBreak x)

/-- The line's end here, if there is one, and what is behind it. -/
def takeBreak? (c : Cursor) : Option (Char × Cursor) :=
  match c.here with
  | some x => if isBreak x then some (breakText x, c.next) else none
  | none => none

/-- Whether three equal marks stand here as a word of their own. -/
def atMark (mark : Char) (c : Cursor) : Bool :=
  match c.rest with
  | x :: y :: z :: r => x == mark && y == mark && z == mark && endsWord r.head?
  | _ => false

/-- Whether a mark between documents stands here. -/
def atSeparator (c : Cursor) : Bool := c.atMark '-' || c.atMark '.'

end Cursor

end Cadence.Yaml
