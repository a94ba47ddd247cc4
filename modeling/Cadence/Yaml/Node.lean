/-
Documents as trees.

A tree is built from the tokens of a text by recursion on the grammar: a node is
a text, a sequence or a mapping, written in a block or in brackets, with an
anchor and a tag in front if wanted. A node that is left out is an empty plain
text. An alias stands for the node of its anchor, which must be complete by
then, and no two nodes have one anchor. A text holds one document at most.

Each reader spends one unit of fuel per node or entry, and each of those has a
token of its own, so the number of tokens bounds the fuel needed.
-/
import Cadence.Yaml.Token

set_option autoImplicit false

namespace Cadence.Yaml

/-- A node with its tag: a text, with whether it is plain, a sequence or a mapping. -/
inductive Node
  | scalar (tag : Option (List Char)) (text : List Text.CodePoint) (plain : Bool)
  | sequence (tag : Option (List Char)) (items : List Node)
  | mapping (tag : Option (List Char)) (entries : List (Node × Node))
deriving Repr, Inhabited

namespace Node

/-- The node that is left out. -/
def absent : Node := .scalar none [] true

/-! ## The state of the reading -/

/-- The tokens left, and the anchors so far with their nodes; an anchor whose node
is still being read has none. -/
structure Left where
  tokens : List Token
  anchors : List (List Char × Option Node) := []
deriving Repr

namespace Left

def drop (s : Left) : Left := { s with tokens := s.tokens.tail }

def nextIs (s : Left) (ts : List Token) : Bool :=
  match s.tokens with
  | t :: _ => ts.contains t
  | [] => false

/-- Opens an anchor. -/
def opened (s : Left) : Option (List Char) → Option Left
  | none => some s
  | some name =>
    if (s.anchors.lookup name).isSome then none
    else some { s with anchors := (name, none) :: s.anchors }

/-- Gives an open anchor its node. -/
def closed (s : Left) (anchor : Option (List Char)) (n : Node) : Left :=
  match anchor with
  | none => s
  | some name => { s with anchors := (name, some n) :: s.anchors }

end Left

/-! ## Tags -/

/-- What the tags of the standard types begin with. -/
def standardPrefix : List Char := "tag:yaml.org,2002:".toList

/-- The whole of a tag; the two handles that every document knows are spelled out. -/
def wholeTag (handle : Option (List Char)) (suffix : List Char) : Option (List Char) :=
  match handle with
  | none => some suffix
  | some ['!'] => some ('!' :: suffix)
  | some ['!', '!'] => some (standardPrefix ++ suffix)
  | some _ => none

/-- The anchor and the tag in front of a node, in either order. -/
def readProperties (s : Left) :
    Option (Option (List Char) × Option (List Char) × Left) :=
  match s.tokens with
  | .anchor name :: .tag handle suffix :: rest =>
    (wholeTag handle suffix).map (fun tag => (some name, some tag, { s with tokens := rest }))
  | .anchor name :: rest => some (some name, none, { s with tokens := rest })
  | .tag handle suffix :: .anchor name :: rest =>
    (wholeTag handle suffix).map (fun tag => (some name, some tag, { s with tokens := rest }))
  | .tag handle suffix :: rest =>
    (wholeTag handle suffix).map (fun tag => (none, some tag, { s with tokens := rest }))
  | _ => some (none, none, s)

/-! ## The grammar -/

/-- Where a node stands: in brackets, in a block, or behind a key, where a
sequence need not be indented. -/
inductive Position
  | flow
  | block
  | entry
deriving DecidableEq, Repr

mutual

def read (position : Position) : Nat → Left → Option (Node × Left)
  | 0, _ => none
  | fuel + 1, s =>
    match s.tokens with
    | .alias name :: _ =>
      match s.anchors.lookup name with
      | some (some n) => some (n, s.drop)
      | _ => none
    | _ => do
      let (anchor, tag, s) ← readProperties s
      -- a node with properties may lack a body
      let bare := anchor.isNone && tag.isNone
      let s ← s.opened anchor
      let (n, s) ← match s.tokens, position with
        | .blockEntry :: _, .entry => do
          let (items, s) ← readLooseItems fuel s
          some (.sequence tag items, s)
        | .scalar text plain :: _, _ => some (.scalar tag text plain, s.drop)
        | .flowSequenceStart :: _, _ => do
          let (items, s) ← readFlowItems true fuel s.drop
          some (.sequence tag items, s)
        | .flowMappingStart :: _, _ => do
          let (entries, s) ← readFlowEntries true fuel s.drop
          some (.mapping tag entries, s)
        | .blockSequenceStart :: _, .block | .blockSequenceStart :: _, .entry => do
          let (items, s) ← readItems fuel s.drop
          some (.sequence tag items, s)
        | .blockMappingStart :: _, .block | .blockMappingStart :: _, .entry => do
          let (entries, s) ← readEntries fuel s.drop
          some (.mapping tag entries, s)
        | _, _ => if bare then none else some (.scalar tag [] tag.isNone, s)
      some (n, s.closed anchor n)

/-- Reads a node, unless one of some tokens shows that it is left out. -/
def readUnless (stops : List Token) (position : Position) :
    Nat → Left → Option (Node × Left)
  | 0, _ => none
  | fuel + 1, s => if s.nextIs stops then some (absent, s) else read position fuel s

/-- Reads the items of an indented sequence, with its end. -/
def readItems : Nat → Left → Option (List Node × Left)
  | 0, _ => none
  | fuel + 1, s => match s.tokens with
    | .blockEntry :: _ => do
      let (n, s) ← readUnless [.blockEntry, .blockEnd] .block fuel s.drop
      let (ns, s) ← readItems fuel s
      some (n :: ns, s)
    | .blockEnd :: _ => some ([], s.drop)
    | _ => none

/-- Reads the items of a sequence that is not indented behind its key. -/
def readLooseItems : Nat → Left → Option (List Node × Left)
  | 0, _ => none
  | fuel + 1, s => match s.tokens with
    | .blockEntry :: _ => do
      let (n, s) ← readUnless [.blockEntry, .key, .value, .blockEnd] .block fuel s.drop
      let (ns, s) ← readLooseItems fuel s
      some (n :: ns, s)
    | _ => some ([], s)

/-- Reads the entries of a block mapping, with its end. -/
def readEntries : Nat → Left → Option (List (Node × Node) × Left)
  | 0, _ => none
  | fuel + 1, s => match s.tokens with
    | .key :: _ => do
      let (k, s) ← readUnless [.key, .value, .blockEnd] .entry fuel s.drop
      let (v, s) ← readBlockValue fuel s
      let (es, s) ← readEntries fuel s
      some ((k, v) :: es, s)
    | .value :: _ => none
    | .blockEnd :: _ => some ([], s.drop)
    | _ => none

/-- Reads the value behind a key of a block. -/
def readBlockValue : Nat → Left → Option (Node × Left)
  | 0, _ => none
  | fuel + 1, s => match s.tokens with
    | .value :: _ => readUnless [.key, .value, .blockEnd] .entry fuel s.drop
    | _ => some (absent, s)

/-- Reads the items of a sequence in brackets, with its end. An entry of a mapping
may stand in place of an item. -/
def readFlowItems (first : Bool) : Nat → Left → Option (List Node × Left)
  | 0, _ => none
  | fuel + 1, s => match s.tokens with
    | .flowSequenceEnd :: _ => some ([], s.drop)
    | _ => do
      let s ← if first then some s else if s.nextIs [.flowEntry] then some s.drop else none
      match s.tokens with
      | .flowSequenceEnd :: _ => some ([], s.drop)
      | .key :: _ => do
        let (k, s) ← readUnless [.value, .flowEntry, .flowSequenceEnd] .flow fuel s.drop
        let (v, s) ← readFlowValue .flowSequenceEnd fuel s
        let (ns, s) ← readFlowItems false fuel s
        some (.mapping none [(k, v)] :: ns, s)
      | _ => do
        let (n, s) ← read .flow fuel s
        let (ns, s) ← readFlowItems false fuel s
        some (n :: ns, s)

/-- Reads the entries of a mapping in braces, with its end. -/
def readFlowEntries (first : Bool) : Nat → Left → Option (List (Node × Node) × Left)
  | 0, _ => none
  | fuel + 1, s => match s.tokens with
    | .flowMappingEnd :: _ => some ([], s.drop)
    | _ => do
      let s ← if first then some s else if s.nextIs [.flowEntry] then some s.drop else none
      match s.tokens with
      | .flowMappingEnd :: _ => some ([], s.drop)
      | .key :: _ => do
        let (k, s) ← readUnless [.value, .flowEntry, .flowMappingEnd] .flow fuel s.drop
        let (v, s) ← readFlowValue .flowMappingEnd fuel s
        let (es, s) ← readFlowEntries false fuel s
        some ((k, v) :: es, s)
      | _ => do
        let (k, s) ← read .flow fuel s
        let (es, s) ← readFlowEntries false fuel s
        some ((k, absent) :: es, s)

/-- Reads the value behind a key in brackets. -/
def readFlowValue (closing : Token) : Nat → Left → Option (Node × Left)
  | 0, _ => none
  | fuel + 1, s => match s.tokens with
    | .value :: _ => readUnless [.flowEntry, closing] .flow fuel s.drop
    | _ => some (absent, s)

end

/-! ## Documents -/

def isDirective : Token → Bool
  | .version | .directive => true
  | _ => false

/-- Skips the directives before a document; the version is given once at most. -/
def skipDirectives (ts : List Token) : Option (List Token) :=
  if 1 < (ts.takeWhile isDirective).count .version then none else some (ts.dropWhile isDirective)

def skipEnds : List Token → List Token
  | .documentEnd :: ts => skipEnds ts
  | ts => ts

/-- Reads the document of a text: nothing when the text is empty, and no reading
when there are two. -/
def ofTokens (ts : List Token) : Option (Option Node) :=
  let fuel := 3 * ts.length + 3
  let finish (r : Node × Left) : Option (Option Node) :=
    if (skipEnds r.2.tokens).isEmpty then some (some r.1) else none
  match ts with
  | [] => some none
  | first :: _ =>
    if isDirective first || first == .documentStart then do
      match ← skipDirectives ts with
      | .documentStart :: rest => match rest with
        | [] | .version :: _ | .directive :: _ | .documentStart :: _ | .documentEnd :: _ =>
          finish (absent, ⟨rest, []⟩)
        | rest => do finish (← read .block fuel ⟨rest, []⟩)
      | _ => none
    else do finish (← read .block fuel ⟨ts, []⟩)

end Node

end Cadence.Yaml
