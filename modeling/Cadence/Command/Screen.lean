/-
What commands show.

A screen is a list of pieces in the order in which they are shown: plain text,
text with markup for colours, and tables. How a table is drawn is up to whoever
draws it.
-/

set_option autoImplicit false

namespace Cadence.Command

structure Table where
  title : String
  columns : List String
  rows : List (List String)
deriving DecidableEq, Repr

inductive Piece
  | text (s : String)
  | markup (s : String)
  | table (t : Table)
deriving DecidableEq, Repr

abbrev Screen := List Piece

namespace Screen

/-- Shows a text; it goes on where the text before it ends. -/
def print (s : String) : Screen → Screen
  | [] => [.text s]
  | [.text t] => [.text (t ++ s)]
  | p :: rest => p :: print s rest

def printLine (s : String) (screen : Screen) : Screen := screen.print (s ++ "\n")

end Screen

/-! ## Drawing -/

/-- Whether markup can begin with a character; a name of a zone does not. -/
def startsMarkup (c : Char) : Bool := c.isLower || c == '/' || c == '#' || c == '@'

/-- A text without its markup: the words in brackets that begin like it. -/
def plain : List Char → List Char
  | [] => []
  | '[' :: c :: rest =>
    if startsMarkup c && rest.contains ']' then plain (rest.dropWhile (· != ']')).tail
    else '[' :: plain (c :: rest)
  | c :: rest => c :: plain rest
termination_by s => s.length
decreasing_by
  · have h : (rest.dropWhile (· != ']')).length ≤ rest.length :=
      (List.dropWhile_sublist _).length_le
    simp only [List.length_tail, List.length_cons]
    omega
  · simp
  · simp

def drawRow (cells : List String) : String :=
  "  ".intercalate (cells.map (fun c => String.ofList (plain c.toList)))

def Piece.draw : Piece → String
  | .text s => s
  | .markup s => String.ofList (plain s.toList) ++ "\n"
  | .table t => String.join ((t.title :: (t.columns :: t.rows).map drawRow).map (· ++ "\n"))

end Cadence.Command
