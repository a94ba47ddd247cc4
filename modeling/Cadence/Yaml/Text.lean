/-
The texts inside a document: plain, quoted, and in blocks.

All three forms fold lines: a single line's end inside a text is a space, and of
several in a row the first is dropped. They differ in where a text ends and in
what stays of the blanks. Each reader takes the cursor at the beginning of the
text and gives the text with the cursor behind it, or nothing when the text is
not well formed.
-/
import Cadence.Yaml.Cursor
import Cadence.Json.Reader

set_option autoImplicit false

namespace Cadence.Yaml

open Cadence.Text (CodePoint points)

/-- The line's end between two lines of a folded text, followed by the empty lines. -/
def foldBreaks (first : Char) (more : List Char) : List Char :=
  if first != '\n' then first :: more else if more.isEmpty then [' '] else more

/-! ## Plain texts -/

/-- The characters of a plain text up to a blank, a comment's or a key's mark. -/
def plainRun (flow : Bool) : List Char → List Char
  | [] => []
  | c :: r =>
    if endsWord (some c) then []
    else if c == ':'
      && (endsWord r.head? || (flow && ",[]\x7b\x7d".toList.contains (r.headD ' '))) then []
    else if flow && ",?[]\x7b\x7d".toList.contains c then []
    else c :: plainRun flow r

/-- Blank lines and indentation behind a line's end. Gives nothing in place of the
lines when a mark between documents follows. -/
def plainBreaks : Nat → Cursor → Option (List Char) × Cursor
  | 0, c => (some [], c)
  | fuel + 1, c =>
    match c.here with
    | some ' ' => plainBreaks fuel c.next
    | _ => match c.takeBreak? with
      | none => (some [], c)
      | some (b, d) =>
        if d.atSeparator then (none, d)
        else
          let (more, e) := plainBreaks fuel d
          (more.map (b :: ·), e)

/-- What stands between two runs of a plain text: the text it becomes, the place
behind it, and whether a line ended. -/
def plainGap (c : Cursor) : List Char × Cursor × Bool :=
  let spaces := c.rest.takeWhile (· == ' ')
  let d := c.skip spaces.length
  match d.takeBreak? with
  | none => (spaces, d, false)
  | some (b, e) =>
    if e.atSeparator then ([], e, true)
    else match plainBreaks e.rest.length e with
      | (none, f) => ([], f, true)
      | (some more, f) => (foldBreaks b more, f, true)

/-- Reads a plain text from a run on. `gap` is what stands before the run, and
`ended` says whether a line ended there. -/
def readPlainFrom (flow : Bool) (indent : Int) :
    Nat → Cursor → List Char → Bool → List Char × Cursor × Bool
  | 0, c, _, ended => ([], c, ended)
  | fuel + 1, c, gap, ended =>
    if c.here == some '#' then ([], c, ended)
    else
      let run := plainRun flow c.rest
      if run.isEmpty then ([], c, ended)
      else
        let (next, d, crossed) := plainGap (c.skip run.length)
        -- a comment or a smaller indentation ends the text, and the gap is dropped
        if next.isEmpty || d.here == some '#' || (!flow && (d.column : Int) < indent) then
          (gap ++ run, d, crossed)
        else
          let (more, e, ended) := readPlainFrom flow indent fuel d next crossed
          (gap ++ run ++ more, e, ended)

/-- Reads a plain text inside a block of the given indentation. The last part says
whether the reading stopped at the beginning of a line. -/
def readPlain (flow : Bool) (indent : Int) (c : Cursor) : List Char × Cursor × Bool :=
  readPlainFrom flow (indent + 1) (c.rest.length + 1) c [] false

/-! ## Quoted texts -/

/-- Blank lines inside quotes; a mark between documents may not stand there. -/
def quotedBreaks : Nat → Cursor → Option (List Char × Cursor)
  | 0, _ => none
  | fuel + 1, c =>
    if c.atSeparator then none
    else
      let d := c.skipWhile (fun x => x == ' ' || x == '\t')
      match d.takeBreak? with
      | none => some ([], d)
      | some (b, e) => do
        let (more, f) ← quotedBreaks fuel e
        some (b :: more, f)

/-- Blanks inside quotes, which fold when a line ends among them. -/
def quotedGap (c : Cursor) : Option (List Char × Cursor) :=
  let blanks := c.rest.takeWhile (fun x => x == ' ' || x == '\t')
  let d := c.skip blanks.length
  match d.takeBreak? with
  | none => some (blanks, d)
  | some (b, e) => do
    let (more, f) ← quotedBreaks (e.rest.length + 1) e
    some (foldBreaks b more, f)

/-- What the one-letter escapes stand for. -/
def escapes : List (Char × Char) :=
  [('0', '\x00'), ('a', '\x07'), ('b', '\x08'), ('t', '\t'), ('\t', '\t'), ('n', '\n'),
    ('v', '\x0b'), ('f', '\x0c'), ('r', '\r'), ('e', '\x1b'), (' ', ' '), ('"', '"'),
    ('\\', '\\'), ('/', '/'), ('N', '\x85'), ('_', '\xa0'), ('L', '\u2028'), ('P', '\u2029')]

/-- How many digits follow the letters of a numbered escape. -/
def escapeWidths : List (Char × Nat) := [('x', 2), ('u', 4), ('U', 8)]

def readHex (s : List Char) : Option Nat :=
  s.foldlM (fun n c => (Json.hexValue? c).map (fun d => n * 16 + d)) 0

/-- Reads an escape, with the cursor behind the backslash. A number may be that of
half of a surrogate pair. -/
def readEscape (c : Cursor) : Option (List CodePoint × Cursor) := do
  let x ← c.here
  match escapes.lookup x with
  | some y => some ([.char y], c.next)
  | none => match escapeWidths.lookup x with
    | some width =>
      let ds := c.next.rest.take width
      if ds.length < width then none
      else
        let n ← readHex ds
        if 0x10FFFF < n then none else some ([.ofNat n], c.next.skip width)
    | none => match c.takeBreak? with
      | some (_, d) => do
        let (breaks, e) ← quotedBreaks (d.rest.length + 1) d
        some (points breaks, e)
      | none => none

/-- Reads a quoted text, with the cursor behind the opening quote. -/
def readQuoted (double : Bool) : Nat → Cursor → Option (List CodePoint × Cursor)
  | 0, _ => none
  | fuel + 1, c => do
    let x ← c.here
    if endsWord (some x) then
      let (gap, d) ← quotedGap c
      let (more, e) ← readQuoted double fuel d
      some (points gap ++ more, e)
    else if double && x == '"' then some ([], c.next)
    else if double && x == '\\' then
      let (part, d) ← readEscape c.next
      let (more, e) ← readQuoted double fuel d
      some (part ++ more, e)
    else if !double && x == '\'' then
      if c.ahead 1 == some '\'' then
        let (more, e) ← readQuoted double fuel (c.skip 2)
        some (.char '\'' :: more, e)
      else some ([], c.next)
    else
      let (more, e) ← readQuoted double fuel c.next
      some (.char x :: more, e)

/-! ## Blocks -/

/-- What becomes of the line's ends behind a block. -/
inductive Chomp
  | strip
  | clip
  | keep
deriving DecidableEq, Repr

/-- The marks behind a block's opening: how it ends, and how far it is indented. -/
structure BlockHeader where
  chomp : Chomp
  increment : Option Nat
deriving Repr

/-- Reads one of the two signs. -/
def readChomp (c : Cursor) : Option Chomp × Cursor :=
  match c.here with
  | some '+' => (some .keep, c.next)
  | some '-' => (some .strip, c.next)
  | _ => (none, c)

/-- Reads a digit; zero is not allowed. -/
def readIncrement (c : Cursor) : Option (Option Nat × Cursor) :=
  match c.here with
  | some x =>
    if x == '0' then none
    else if x.isDigit then some (some (x.toNat - 0x30), c.next)
    else some (none, c)
  | none => some (none, c)

/-- Reads the rest of a block's first line: sign and digit in either order, blanks,
perhaps a comment. -/
def readBlockHeader (c : Cursor) : Option (BlockHeader × Cursor) := do
  let (first, d) := readChomp c
  let (increment, e) ← readIncrement d
  let (chomp, f) := match first with
    | some sign => (some sign, e)
    | none => if increment.isSome then readChomp e else (none, e)
  let blank := match f.here with
    | none => true
    | some x => x == ' ' || isBreak x
  if !blank then none
  else
    let g := f.skipWhile (· == ' ')
    let h := if g.here == some '#' then g.skipLine else g
    match h.here with
    | none => some (⟨chomp.getD .clip, increment⟩, h)
    | some _ => do
      let (_, i) ← h.takeBreak?
      some (⟨chomp.getD .clip, increment⟩, i)

/-- The empty lines before a block whose indentation is not given, and the widest
indentation among them and the first line. -/
def blockLead : Nat → Nat → Cursor → List Char × Nat × Cursor
  | 0, width, c => ([], width, c)
  | fuel + 1, width, c =>
    match c.here with
    | some ' ' => blockLead fuel (max width c.next.column) c.next
    | _ => match c.takeBreak? with
      | none => ([], width, c)
      | some (b, d) =>
        let (more, w, e) := blockLead fuel width d
        (b :: more, w, e)

/-- Skips indentation, up to a column. -/
def skipIndent (indent : Nat) : Nat → Cursor → Cursor
  | 0, c => c
  | fuel + 1, c =>
    if c.column < indent && c.here == some ' ' then skipIndent indent fuel c.next else c

/-- The empty lines in front of the next line of a block. -/
def blockBreaks (indent : Nat) : Nat → Cursor → List Char × Cursor
  | 0, c => ([], c)
  | fuel + 1, c =>
    let d := skipIndent indent indent c
    match d.takeBreak? with
    | none => ([], d)
    | some (b, e) =>
      let (more, f) := blockBreaks indent fuel e
      (b :: more, f)

/-- The lines of a block. `breaks` are the empty lines in front; the result ends
with the last line's end and the empty lines behind it, kept apart. -/
def blockLines (folded : Bool) (indent : Nat) :
    Nat → List Char → Cursor → List Char × List Char × List Char × Cursor
  | 0, breaks, c => ([], [], breaks, c)
  | fuel + 1, breaks, c =>
    if c.column != indent || c.here.isNone then ([], [], breaks, c)
    else
      let spaced (c : Cursor) : Bool := c.here == some ' ' || c.here == some '\t'
      let line := c.rest.takeWhile (fun x => !isBreak x)
      let d := c.skip line.length
      let (ending, e) := match d.takeBreak? with
        | some (b, e) => ([b], e)
        | none => ([], d)
      let (after, f) := blockBreaks indent e.rest.length.succ e
      -- another line of the block follows
      if f.column == indent && f.here.isSome then
        let join :=
          if folded && ending == ['\n'] && !spaced c && !spaced f then
            if after.isEmpty then [' '] else []
          else ending
        let (more, last, tail, g) := blockLines folded indent fuel after f
        (breaks ++ line ++ join ++ more, last, tail, g)
      else (breaks ++ line, ending, after, f)

/-- Reads a block, with the cursor behind its opening mark. -/
def readBlock (folded : Bool) (outer : Int) (c : Cursor) : Option (List Char × Cursor) := do
  let (header, d) ← readBlockHeader c
  let least := (max (outer + 1) 1).toNat
  let (lead, indent, e) := match header.increment with
    | none =>
      let (breaks, width, e) := blockLead (d.rest.length + 1) 0 d
      (breaks, max least width, e)
    | some n =>
      let indent := least + n - 1
      let (breaks, e) := blockBreaks indent (d.rest.length + 1) d
      (breaks, indent, e)
  let (text, last, tail, f) := blockLines folded indent (e.rest.length + 1) lead e
  some (match header.chomp with
    | .strip => (text, f)
    | .clip => (text ++ last, f)
    | .keep => (text ++ last ++ tail, f))

end Cadence.Yaml
