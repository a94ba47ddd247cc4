/-
Values read from documents.

A node becomes a value by its tag, or, without one, by its form. Keys must be
able to be keys; of equal keys the last wins, in the place of the first. The key
`<<` is no entry: the entries of the mapping behind it, or of the mappings in
the sequence behind it, come before the entries of its own mapping, and those of
an earlier mapping in the sequence win over those of a later one.
-/
import Cadence.Yaml.Node
import Cadence.Yaml.Scalar
import Cadence.Text.Case

set_option autoImplicit false

namespace Cadence.Yaml

open Cadence.Text (CodePoint Torn chars? points)

/-- The fault of a text that is no document of values. -/
def malformed : Fault := .content (.fileFormat "YAML")

/-- The last part of the tag of a standard type. -/
def standardType? (tag : List Char) : Option String :=
  (Text.dropLead? Node.standardPrefix tag).map String.ofList

/-- Whether a tag leaves the type to the form. -/
def isUntyped (tag : Option (List Char)) : Bool := tag.isNone || tag == some ['!']

/-- The value of a text whose tag names its type. -/
def typedValue (type text : String) : Except Fault Value :=
  let s := text.toList
  match type with
  | "str" => .ok (.str text)
  | "null" => .ok .null
  | "bool" => match truthWords.lookup (Text.lower text) with
    | some b => .ok (.bool b)
    | none => .error (.missingKey (Text.lower text))
  | "int" =>
    if isInteger s then (integerValue s).map Value.int
    else .error (.content (.raised
      ("invalid literal for int() with base 10: "
        ++ Text.quoted (String.ofList (s.filter (· != '_'))))))
  | "float" =>
    match Number.readFloat (String.ofList (s.filter (· != '_'))) with
    | some x => .ok (.float x)
    | none =>
      if isDouble s then .ok (.float (doubleValue s))
      else .error (.content (.raised
        ("could not convert string to float: "
          ++ Text.quoted (String.ofList (Number.asciiLower (s.filter (· != '_')))))))
  | _ => .error malformed

/-- The value of a text of characters. -/
def wholeValue (tag : Option (List Char)) (s : List Char) (plain : Bool) : Except Fault Value :=
  if isUntyped tag then
    if plain || tag.isSome then (plainValue s).getD (.error malformed)
    else .ok (.str (String.ofList s))
  else match tag.bind standardType? with
    | some type => typedValue type (String.ofList s)
    | none => .error malformed

/-- The value of a torn text, which has no form but that of a text. -/
def tornValue (tag : Option (List Char)) (t : Torn) : Except Fault Value :=
  if isUntyped tag then .ok (.torn t)
  else match tag.bind standardType? with
    | some "str" => .ok (.torn t)
    | some type => typedValue type t.smooth
    | none => .error malformed

/-- The value of a text node. -/
def scalarValue (tag : Option (List Char)) (text : List CodePoint) (plain : Bool) :
    Except Fault Value :=
  match h : chars? text with
  | some s => wholeValue tag s plain
  | none => tornValue tag ⟨text, h⟩

/-- Whether a collection may have a tag. -/
def allows (type : String) (tag : Option (List Char)) : Bool :=
  isUntyped tag || tag.bind standardType? == some type

/-- Whether a node is the key that merges. -/
def isMergeKey : Node → Bool
  | .scalar tag text plain => plain && isUntyped tag && text == points ['<', '<']
  | _ => false

/-- Whether a node is the sign that is a text only as a key. -/
def isEqualsKey : Node → Bool
  | .scalar tag text plain => plain && isUntyped tag && text == points ['=']
  | _ => false

mutual

def Node.value : Node → Except Fault Value
  | .scalar tag text plain => scalarValue tag text plain
  | .sequence tag items =>
    if allows "seq" tag then do
      let vs ← Node.values items
      pure (.list vs)
    else .error malformed
  | .mapping tag entries =>
    if allows "map" tag then do
      let (merged, own) ← Node.pairs entries
      pure (Value.mappingOf (merged ++ own))
    else .error malformed

def Node.values : List Node → Except Fault (List Value)
  | [] => .ok []
  | n :: ns => do
    let v ← n.value
    let vs ← Node.values ns
    pure (v :: vs)

/-- The entries of a mapping: those merged into it, and its own. -/
def Node.pairs : List (Node × Node) → Except Fault (List (Value × Value) × List (Value × Value))
  | [] => .ok ([], [])
  | (k, v) :: es =>
    if isMergeKey k then do
      let first ← Node.merging v
      let (merged, own) ← Node.pairs es
      pure (first ++ merged, own)
    else do
      let key ← if isEqualsKey k then pure (.str "=") else k.value
      -- a list or a mapping cannot be a key
      if key.unhashable?.isSome then .error malformed
      else
        let value ← v.value
        let (merged, own) ← Node.pairs es
        pure (merged, (key, value) :: own)

/-- The entries that a node merges into the mapping it stands in. -/
def Node.merging : Node → Except Fault (List (Value × Value))
  | .mapping _ entries => do
    let (merged, own) ← Node.pairs entries
    pure (merged ++ own)
  | .sequence _ items => Node.mergingAll items
  | .scalar _ _ _ => .error malformed

/-- The entries that the mappings of a sequence merge, the last mapping's first. -/
def Node.mergingAll : List Node → Except Fault (List (Value × Value))
  | [] => .ok []
  | .mapping _ entries :: ns => do
    let (merged, own) ← Node.pairs entries
    let rest ← Node.mergingAll ns
    pure (rest ++ (merged ++ own))
  | _ :: _ => .error malformed

end

/-- The value of a document; an empty text is a null. -/
def read (text : String) : Except Fault Value :=
  match (tokens text.toList).bind Node.ofTokens with
  | none => .error malformed
  | some none => .ok .null
  | some (some n) => n.value

end Cadence.Yaml
