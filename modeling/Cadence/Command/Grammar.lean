/-
Command lines.

A grammar lists options and positionals. An option has names, short ones with one
dash and long ones with two; it takes one value or none. A long name may be cut
short as long as it stays unambiguous, a value may be attached with an equals
sign, and behind a short name it may follow directly; short options may share one
dash as long as all but the last take no value. Words that are no options go to the positionals in
order. A divider, two dashes alone, makes all words behind it plain; a negative
number is plain, and so is an unknown option with a space in it.

All words are sorted out before any is taken, so an ambiguous name counts first of
all; from then on things happen in the order of the words. Words that nobody
takes are a fault only at the end.
-/
import Cadence.Number.Reader

set_option autoImplicit false

namespace Cadence.Command

/-- How reading a command line can end without a command. -/
inductive Stop
  | help
  | version
  | usage
deriving DecidableEq, Repr, Inhabited

def Stop.code : Stop → Nat
  | help => 0
  | version => 0
  | usage => 2

/-! ## Grammars -/

variable {σ : Type}

/-- What an option does to the arguments read so far. -/
inductive Effect (σ : Type)
  | stop (s : Stop)
  | flag (set : σ → σ)
  | value (set : String → σ → Except Stop σ)

structure OptionSpec (σ : Type) where
  names : List String
  effect : Effect σ

def OptionSpec.takesValue (o : OptionSpec σ) : Bool :=
  match o.effect with
  | .value _ => true
  | _ => false

/-- Which words a positional takes: a plain one, plain ones as far as they go, or,
from a plain one on, everything. -/
inductive Extent
  | one
  | many
  | rest
deriving DecidableEq, Repr

structure Positional (σ : Type) where
  extent : Extent
  required : Bool := true
  set : List String → σ → Except Stop σ

/-- A positional of the extent `many` or `rest` is the last one. -/
structure Grammar (σ : Type) where
  options : List (OptionSpec σ)
  positionals : List (Positional σ)

namespace Grammar

def option? (g : Grammar σ) (name : String) : Option (OptionSpec σ) :=
  g.options.find? (·.names.contains name)

/-! ## Sorting words -/

/-- The text attached to an option's name: nothing, or text behind an equals sign or
directly behind the name. -/
inductive Attachment
  | none
  | equals (text : List Char)
  | direct (text : List Char)

/-- What a word is. -/
inductive Role (σ : Type)
  | plain
  | divider
  /-- an option under a name -/
  | option (name : String) (spec : OptionSpec σ) (attached : Attachment)
  | unknown

structure Word (σ : Type) where
  text : String
  role : Role σ

def Word.isPlain (w : Word σ) : Bool :=
  match w.role with
  | .plain => true
  | _ => false

def Word.isDivider (w : Word σ) : Bool :=
  match w.role with
  | .divider => true
  | _ => false

/-- Whether a word is an option, known or not. -/
def Word.isOption (w : Word σ) : Bool := !w.isPlain && !w.isDivider

/-- Whether a word is a minus and a number: digits, with a point among them or not. A
newline at the end does not count. -/
def isNegativeNumber (s : List Char) : Bool :=
  let isDigit (c : Char) : Bool := (Text.digitValue? c).isSome
  match s with
  | '-' :: r =>
    -- the end of a line does not count
    let r := if r.getLast? == some '\n' then r.dropLast else r
    match r.dropWhile isDigit with
    | [] => !r.isEmpty
    | '.' :: fraction => !fraction.isEmpty && fraction.all isDigit
    | _ => false
  | _ => false

/-- The options that an inexact word can mean. -/
def candidates (g : Grammar σ) (s : List Char) : List (Role σ) :=
  let all := g.options.flatMap (fun o => o.names.map (fun n => (n, o)))
  match s with
  | '-' :: '-' :: _ =>
    let (lead, attached) := Text.cutAt '=' s
    let attached := attached.elim Attachment.none .equals
    (all.filter (fun (n, _) => (Text.dropLead? lead n.toList).isSome)).map
      (fun (n, o) => .option n o attached)
  | _ =>
    (all.filter (fun (n, _) => n.toList == s.take 2)).map
      (fun (n, o) => .option n o (.direct (s.drop 2)))

def sortWord (g : Grammar σ) (text : String) : Except Stop (Role σ) :=
  match text.toList with
  | '-' :: rest =>
    match g.option? text with
    | some o => .ok (.option text o .none)
    | none =>
      -- a lone dash is no option
      if rest.isEmpty then .ok .plain
      else
        let (name, attached) := Text.cutAt '=' text.toList
        match attached, g.option? (String.ofList name) with
        | some v, some o => .ok (.option (String.ofList name) o (.equals v))
        | _, _ => match g.candidates text.toList with
          | [s] => .ok s
          | _ :: _ :: _ => .error .usage
          | [] =>
            if isNegativeNumber text.toList || text.toList.contains ' ' then .ok .plain
            else .ok .unknown
  | _ => .ok .plain

def sortWords (g : Grammar σ) : List String → Except Stop (List (Word σ))
  | [] => .ok []
  | "--" :: rest => .ok (⟨"--", .divider⟩ :: rest.map (⟨·, .plain⟩))
  | text :: rest => do
    let s ← g.sortWord text
    pure (⟨text, s⟩ :: (← sortWords g rest))

/-! ## Options -/

/-- The options in one word, each with the value attached to it. -/
structure Cluster (σ : Type) where
  options : List (OptionSpec σ × Option String)
  /-- whether letters are left over that name no option -/
  leftover : Bool

def Cluster.cons (o : OptionSpec σ) (c : Cluster σ) : Cluster σ :=
  { c with options := (o, none) :: c.options }

/-- The options behind a short name that takes no value, the letters behind it given. Each
letter names an option; the first that takes a value has the rest as its value, with an
equals sign in front or not. From a letter on that names none, all are left over. -/
def clusterFrom (g : Grammar σ) : List Char → Except Stop (Cluster σ)
  | [] => .ok ⟨[], false⟩
  | '-' :: _ => .error .usage
  | c :: rest => match g.option? (String.ofList ['-', c]) with
    | none => .ok ⟨[], true⟩
    | some o =>
      if o.takesValue then .ok ⟨[(o, match rest with
        | [] => none
        | '=' :: text => some (String.ofList text)
        | text => some (String.ofList text))], false⟩
      else match rest with
        | '=' :: _ => .error .usage
        | _ => (g.clusterFrom rest).map (.cons o)

/-- The options in a word. An option that takes no value has no attached one. -/
def optionsIn (g : Grammar σ) (name : String) (o : OptionSpec σ) :
    Attachment → Except Stop (Cluster σ)
  | .none => .ok ⟨[(o, none)], false⟩
  | .equals text =>
    if o.takesValue then .ok ⟨[(o, some (String.ofList text))], false⟩ else .error .usage
  | .direct text =>
    if o.takesValue then .ok ⟨[(o, some (String.ofList text))], false⟩
    else if text.isEmpty || (Text.dropLead? ['-', '-'] name.toList).isSome then .error .usage
    else (g.clusterFrom text).map (.cons o)

/-- Gives an option that lacks its value the next word, which must be plain. -/
def fillValues : List (OptionSpec σ × Option String) → List (Word σ) →
    Except Stop (List (OptionSpec σ × Option String) × List (Word σ))
  | [], ws => .ok ([], ws)
  | (o, v) :: os, ws =>
    if o.takesValue && v.isNone then
      match ws with
      | w :: rest =>
        if w.isPlain then do
          let (os, ws) ← fillValues os rest
          pure ((o, some w.text) :: os, ws)
        else .error .usage
      | [] => .error .usage
    else do
      let (os, ws) ← fillValues os ws
      pure ((o, v) :: os, ws)

def applyOptions : List (OptionSpec σ × Option String) → σ → Except Stop σ
  | [], a => .ok a
  | (o, v) :: os, a => do
    let a ← match o.effect with
      | .stop s => .error s
      | .flag set => .ok (set a)
      | .value set => set (v.getD "") a
    applyOptions os a

/-! ## Positionals -/

/-- How many words a positional takes from the front; it takes dividers along. -/
def extentOf (extent : Extent) (ws : List (Word σ)) : Option Nat :=
  let lead := (ws.takeWhile Word.isDivider).length
  match ws.drop lead with
  | w :: rest =>
    if w.isPlain then
      some (lead + 1 + match extent with
        | .one => (rest.takeWhile Word.isDivider).length
        | .many => (rest.takeWhile (fun w => !w.isOption)).length
        | .rest => rest.length)
    else none
  | [] => none

/-- The texts of the words that a positional takes; the divider is not one of them. -/
def textsOf (extent : Extent) (ws : List (Word σ)) : List String :=
  let texts := ws.map (·.text)
  if extent = .rest then texts else texts.erase "--"

/-- How far the reading has come. -/
structure Progress (σ : Type) where
  args : σ
  positionals : List (Positional σ)
  /-- whether there were words that nobody takes -/
  leftover : Bool

/-- Fills as many positionals as can be from the front. -/
def takePositionals (args : σ) (leftover : Bool) :
    List (Positional σ) → List (Word σ) → Except Stop (Progress σ × List (Word σ))
  | [], ws => .ok (⟨args, [], leftover⟩, ws)
  | p :: ps, ws => match extentOf p.extent ws with
    | none => .ok (⟨args, p :: ps, leftover⟩, ws)
    | some n => do
      let args ← p.set (textsOf p.extent (ws.take n)) args
      takePositionals args leftover ps (ws.drop n)

/-! ## Reading -/

/-- Goes through the words; every round takes at least one. -/
def readFrom (g : Grammar σ) : Nat → List (Word σ) → Progress σ → Except Stop (Progress σ)
  | 0, _, p => .ok p
  | fuel + 1, ws, p =>
    match ws with
    | ⟨_, .option name o attached⟩ :: rest => do
      -- an option acts at once, with its value
      let found ← g.optionsIn name o attached
      let (os, rest) ← fillValues found.options rest
      let args ← applyOptions os p.args
      readFrom g fuel rest { p with args, leftover := p.leftover || found.leftover }
    | ⟨_, .unknown⟩ :: rest => readFrom g fuel rest { p with leftover := true }
    | ws => do
      let (p, rest) ← takePositionals p.args p.leftover p.positionals ws
      if rest.isEmpty then pure p
      else if rest.length < ws.length then readFrom g fuel rest p
      -- no positional takes these words: on to the next option
      else readFrom g fuel (ws.dropWhile (fun w => !w.isOption)) { p with leftover := true }

def read (g : Grammar σ) (args : σ) (words : List String) : Except Stop σ := do
  let ws ← g.sortWords words
  let p ← g.readFrom (ws.length + 1) ws ⟨args, g.positionals, false⟩
  if p.positionals.any (·.required) || p.leftover then .error .usage else pure p.args

end Grammar

end Cadence.Command
