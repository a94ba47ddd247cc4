/-
Documents as tokens.

Two things about the tokens are not where they stand in the text. The beginning
and the end of a block follow from indentation, so the scanner keeps the
indentations of the open blocks. And a key is known to be one only when the
colon behind it comes, so for each level of brackets the scanner keeps the place
of the text that may turn out to be a key: `PendingKey`. When the colon comes,
the tokens that announce the key are put in at that place. A pending key lapses
at the end of its line, or after 1024 characters.

Tabs are no indentation and stand for no token.
-/
import Cadence.Yaml.Text

set_option autoImplicit false

namespace Cadence.Yaml

open Cadence.Text (CodePoint points)

inductive Token
  /-- the directive that gives the version of the language -/
  | version
  | directive
  | documentStart
  | documentEnd
  | blockSequenceStart
  | blockMappingStart
  | blockEnd
  | flowSequenceStart
  | flowSequenceEnd
  | flowMappingStart
  | flowMappingEnd
  | flowEntry
  | blockEntry
  | key
  | value
  | alias (name : List Char)
  | anchor (name : List Char)
  | tag (handle : Option (List Char)) (suffix : List Char)
  | scalar (text : List CodePoint) (plain : Bool)
deriving DecidableEq, Repr

/-! ## The state of the scan -/

/-- A text that may turn out to be a key: how many tokens are before it, whether
it has to be a key, and where it stands. -/
structure PendingKey where
  position : Nat
  required : Bool
  index : Nat
  line : Nat
  column : Nat
deriving Repr

/-- The state of the scan: the tokens so far, the latest first; one pending key at
most for each open bracket and one for the outside, the innermost first; the
indentation of the innermost block and those around it. -/
structure Scan where
  cursor : Cursor
  pending : List (Option PendingKey) := [none]
  indent : Int := -1
  outer : List Int := []
  mayKey : Bool := true
  tokens : List Token := []
  count : Nat := 0
deriving Repr

namespace Scan

def inFlow (s : Scan) : Bool := 1 < s.pending.length

def push (s : Scan) (t : Token) : Scan :=
  { s with tokens := t :: s.tokens, count := s.count + 1 }

/-- Puts a token in behind the first `position` ones. -/
def insert (s : Scan) (position : Nat) (t : Token) : Scan :=
  let k := s.count - position
  { s with tokens := s.tokens.take k ++ t :: s.tokens.drop k, count := s.count + 1 }

/-- Adds a token of some characters. -/
def pushHere (s : Scan) (width : Nat) (t : Token) : Scan :=
  { s.push t with cursor := s.cursor.skip width }

/-- Gives up the pending key of the present level; one that has to be a key may not
be given up. -/
def dropKey (s : Scan) : Option Scan :=
  match s.pending with
  | some k :: rest => if k.required then none else some { s with pending := none :: rest }
  | _ => some s

/-- Notes that a key may start here. -/
def noteKey (s : Scan) : Option Scan :=
  if s.mayKey then do
    let t ← s.dropKey
    let k : PendingKey :=
      ⟨t.count, !t.inFlow && t.indent == t.cursor.column, t.cursor.index, t.cursor.line,
        t.cursor.column⟩
    some { t with pending := some k :: t.pending.tail }
  else some s

/-- Lets lapse the keys that are no longer possible here. -/
def lapse (c : Cursor) : List (Option PendingKey) → Option (List (Option PendingKey))
  | [] => some []
  | none :: ks => (lapse c ks).map (none :: ·)
  | some k :: ks =>
    -- its line has ended, or it has become too long
    if k.line != c.line || 1024 < c.index - k.index then
      if k.required then none else (lapse c ks).map (none :: ·)
    else (lapse c ks).map (some k :: ·)

/-- Closes the blocks that are indented further than a column. -/
def unwind (column : Int) (s : Scan) : Scan :=
  if s.inFlow then s
  else
    let rec go (indent : Int) (s : Scan) : List Int → Scan
      | [] => { s with indent, outer := [] }
      | o :: os =>
        if column < indent then go o (s.push .blockEnd) os
        else { s with indent, outer := o :: os }
    go s.indent s s.outer

/-- Opens a block at a column, if it is indented further; says whether it did. -/
def openBlock (column : Int) (s : Scan) : Bool × Scan :=
  if s.indent < column then (true, { s with indent := column, outer := s.indent :: s.outer })
  else (false, s)

/-! ## Blanks and comments -/

/-- Goes on to the next token. Outside of brackets, a new line may start a key. -/
def skipBlanks : Nat → Scan → Scan
  | 0, s => s
  | fuel + 1, s =>
    let c := s.cursor.skipWhile (· == ' ')
    let d := if c.here == some '#' then c.skipLine else c
    match d.takeBreak? with
    | some (_, e) => skipBlanks fuel { s with cursor := e, mayKey := s.mayKey || !s.inFlow }
    | none => { s with cursor := d }

/-! ## Tokens by kind -/

/-- A mark between documents, or a directive: all blocks are closed. -/
def closeAll (s : Scan) : Option Scan := do
  let t ← (s.unwind (-1)).dropKey
  some { t with mayKey := false }

def takeBracket (s : Scan) (t : Token) : Option Scan := do
  let s ← s.noteKey
  let s := s.pushHere 1 t
  some { s with pending := none :: s.pending, mayKey := true }

def takeClosing (s : Scan) (t : Token) : Option Scan := do
  let s ← s.dropKey
  if !s.inFlow then none
  else
    let s := s.pushHere 1 t
    some { s with pending := s.pending.tail, mayKey := false }

def takeFlowEntry (s : Scan) : Option Scan := do
  let s ← s.dropKey
  some { s.pushHere 1 .flowEntry with mayKey := true }

/-- Opens a block at the cursor when needed, with its token. -/
def beginBlock (s : Scan) (t : Token) : Option Scan :=
  if s.inFlow then some s
  -- blocks do not begin in the middle of a line
  else if !s.mayKey then none
  else match s.openBlock s.cursor.column with
    | (true, s) => some (s.push t)
    | (false, s) => some s

def takeBlockEntry (s : Scan) : Option Scan := do
  let s ← s.beginBlock .blockSequenceStart
  let s ← s.dropKey
  some { s.pushHere 1 .blockEntry with mayKey := true }

def takeKey (s : Scan) : Option Scan := do
  let s ← s.beginBlock .blockMappingStart
  let s ← s.dropKey
  some { s.pushHere 1 .key with mayKey := !s.inFlow }

def takeValue (s : Scan) : Option Scan :=
  match s.pending with
  | some k :: rest =>
    let s := { s with pending := none :: rest }
    -- the text in front of the colon was a key: announce it where it stands
    let s := s.insert k.position .key
    let s := if s.inFlow then s else match s.openBlock k.column with
      -- and with it the block that it begins
      | (true, s) => s.insert k.position .blockMappingStart
      | (false, s) => s
    some { s.pushHere 1 .value with mayKey := false }
  | _ => do
    let s ← s.beginBlock .blockMappingStart
    let s ← s.dropKey
    some { s.pushHere 1 .value with mayKey := !s.inFlow }

def isNameChar (c : Char) : Bool := c.isAlphanum || c == '-' || c == '_'

/-- Reads the name behind the mark of an anchor or an alias. -/
def takeName (s : Scan) (t : List Char → Token) : Option Scan := do
  let s ← s.noteKey
  let c := s.cursor.next
  let name := c.rest.takeWhile isNameChar
  let d := c.skip name.length
  if name.isEmpty then none
  else
    let ends := match d.here with
      | none => true
      | some x => endsWord (some x) || "?:,]\x7d%@`".toList.contains x
    if ends then some { s.push (t name) with cursor := d, mayKey := false } else none

/-- Whether a tag or a directive's name ends in front of a character. -/
def endsTag : Option Char → Bool
  | none => true
  | some x => x == ' ' || isBreak x

def isTagChar (c : Char) : Bool := c.isAlphanum || "-;/?:@&=+$,_.!~*'()[]".toList.contains c

/-- Reads a tag: in angle brackets, a lone mark, or a suffix behind a handle. -/
def takeTag (s : Scan) : Option Scan := do
  let s ← s.noteKey
  let finish (tag : Token) (c : Cursor) : Option Scan :=
    if endsTag c.here then some { s.push tag with cursor := c, mayKey := false } else none
  let suffixFrom (c : Cursor) : Option (List Char × Cursor) :=
    let suffix := c.rest.takeWhile isTagChar
    if suffix.isEmpty then none else some (suffix, c.skip suffix.length)
  match s.cursor.ahead 1 with
  | some '<' => do
    let (suffix, c) ← suffixFrom (s.cursor.skip 2)
    if c.here == some '>' then finish (.tag none suffix) c.next else none
  | x =>
    if endsWord x then finish (.tag none ['!']) s.cursor.next
    else
      let word := s.cursor.next.rest.takeWhile (fun c => c != ' ' && !isBreak c)
      if word.contains '!' then
        let name := word.takeWhile (· != '!')
        if name.all isNameChar then do
          let (suffix, c) ← suffixFrom (s.cursor.skip (name.length + 2))
          finish (.tag (some ('!' :: name ++ ['!'])) suffix) c
        else none
      else do
        let (suffix, c) ← suffixFrom s.cursor.next
        finish (.tag (some ['!']) suffix) c

/-- Reads the version in its directive, two numbers with a point between them. The
first must be one; only a comment may follow. -/
def takeVersion (c : Cursor) : Option Cursor := do
  let c := c.skipWhile (· == ' ')
  let (major, _) := Number.takeDigits c.rest
  let c := c.skip major.length
  if c.here != some '.' || Number.ofDigits major != 1 then none
  else
    let c := c.next
    let (minor, _) := Number.takeDigits c.rest
    let c := c.skip minor.length
    if minor.isEmpty || !endsTag c.here then none
    else
      let c := c.skipWhile (· == ' ')
      let c := if c.here == some '#' then c.skipLine else c
      match c.here with
      | none => some c
      | some x => if isBreak x then some c else none

/-- Reads a directive, a line of its own that begins with a name. -/
def takeDirective (s : Scan) : Option Scan := do
  let s ← s.closeAll
  let c := s.cursor.next
  let name := c.rest.takeWhile isNameChar
  let c := c.skip name.length
  if name.isEmpty || !endsTag c.here then none
  else if name == "YAML".toList then
    some { s.push .version with cursor := ← takeVersion c }
  else some { s.push .directive with cursor := c.skipLine }

def takeBlockText (s : Scan) (folded : Bool) : Option Scan := do
  let s ← s.dropKey
  let (text, c) ← readBlock folded s.indent s.cursor.next
  some { s.push (.scalar (points text) false) with cursor := c, mayKey := true }

def takeQuoted (s : Scan) (double : Bool) : Option Scan := do
  let s ← s.noteKey
  let (text, c) ← readQuoted double (s.cursor.rest.length + 1) s.cursor.next
  some { s.push (.scalar text false) with cursor := c, mayKey := false }

def takePlain (s : Scan) : Option Scan := do
  let s ← s.noteKey
  let (text, c, ended) := readPlain s.inFlow s.indent s.cursor
  some { s.push (.scalar (points text) true) with cursor := c, mayKey := ended }

/-- Whether a plain text can start at a character, given the one behind it. -/
def startsPlain (flow : Bool) (x : Char) (behind : Option Char) : Bool :=
  !(endsWord (some x) || "-?:,[]\x7b\x7d#&*!|>'\"%@`".toList.contains x)
    || (!endsWord behind && (x == '-' || (!flow && (x == '?' || x == ':'))))

/-! ## The scan -/

/-- Takes the token at the cursor, whose first character is given. -/
def takeToken (s : Scan) (x : Char) : Option Scan :=
  let behind := s.cursor.ahead 1
  let word := s.inFlow || endsWord behind
  if x == '%' && s.cursor.column == 0 then s.takeDirective
  else if s.cursor.column == 0 && s.cursor.atMark '-' then do
    some ((← s.closeAll).pushHere 3 .documentStart)
  else if s.cursor.column == 0 && s.cursor.atMark '.' then do
    some ((← s.closeAll).pushHere 3 .documentEnd)
  else if x == '[' then s.takeBracket .flowSequenceStart
  else if x == '\x7b' then s.takeBracket .flowMappingStart
  else if x == ']' then s.takeClosing .flowSequenceEnd
  else if x == '\x7d' then s.takeClosing .flowMappingEnd
  else if x == ',' then s.takeFlowEntry
  else if x == '-' && endsWord behind then s.takeBlockEntry
  else if x == '?' && word then s.takeKey
  else if x == ':' && word then s.takeValue
  else if x == '*' then s.takeName .alias
  else if x == '&' then s.takeName .anchor
  else if x == '!' then s.takeTag
  else if x == '|' && !s.inFlow then s.takeBlockText false
  else if x == '>' && !s.inFlow then s.takeBlockText true
  else if x == '\'' then s.takeQuoted false
  else if x == '"' then s.takeQuoted true
  else if startsPlain s.inFlow x behind then s.takePlain
  else none

/-- Takes token after token; each has at least one character. -/
def run : Nat → Scan → Option (List Token)
  | 0, _ => none
  | fuel + 1, s => do
    let s := s.skipBlanks (s.cursor.rest.length + 1)
    let pending ← lapse s.cursor s.pending
    let s := { s with pending }.unwind s.cursor.column
    match s.cursor.here with
    | none => do
      let s ← (s.unwind (-1)).dropKey
      some s.tokens.reverse
    | some x => run fuel (← s.takeToken x)

end Scan

/-- Whether a character may stand in a document at all. -/
def isAllowed (c : Char) : Bool :=
  let n := c.toNat
  n == 0x09 || n == 0x0A || n == 0x0D || (0x20 ≤ n && n ≤ 0x7E) || n == 0x85
    || (0xA0 ≤ n && n ≤ 0xD7FF) || (0xE000 ≤ n && n ≤ 0xFFFD) || 0x10000 ≤ n

/-- The tokens of a text, if it has any reading. A mark of byte order may stand at
the beginning. -/
def tokens (s : List Char) : Option (List Token) :=
  if s.all isAllowed then
    let c := Cursor.start s
    Scan.run (s.length + 2) { cursor := if c.here == some byteOrderMark then c.next else c }
  else none

end Cadence.Yaml
