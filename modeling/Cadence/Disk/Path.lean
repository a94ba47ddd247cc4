/-
Paths.

A path is a list of parts, taken from the working folder or, when it is rooted,
from the top. Empty parts and single dots mean nothing and are left out when a
path is read, so two texts for one path are shown the same way. Two dots are
kept: what they mean depends on the folders that are there.
-/
import Cadence.Text.Blank
import Cadence.Text.Case

set_option autoImplicit false

namespace Cadence

structure Path where
  rooted : Bool
  parts : List String
deriving DecidableEq, Repr, Inhabited

namespace Path

def ofText (s : String) : Path :=
  let parts := (Text.splitAt '/' s.toList).filter (fun p => !p.isEmpty && p != ['.'])
  ⟨s.toList.head? == some '/', parts.map String.ofList⟩

def text (p : Path) : String :=
  let body := Text.joinWith "/" p.parts
  if p.rooted then "/" ++ body else if body.isEmpty then "." else body

/-- The folder a path stands in. -/
def parent (p : Path) : Path := { p with parts := p.parts.dropLast }

/-- The ending of the last part: its last dot and what follows, unless the dot
stands at either end. -/
def suffix (p : Path) : String :=
  let name := (p.parts.getLast?.getD "").toList
  let behind := (name.reverse.takeWhile (· != '.')).reverse
  let stem := name.length - behind.length - 1
  if behind.length < name.length && 0 < stem && !behind.isEmpty then
    String.ofList ('.' :: behind)
  else ""

/-- Whether the ending is a given one, in any case. -/
def hasSuffix (p : Path) (ending : String) : Bool := Text.lower p.suffix == ending

def addSuffix (p : Path) (ending : String) : Path :=
  { p with parts := p.parts.dropLast ++ [p.parts.getLast?.getD "" ++ ending] }

end Path

end Cadence
