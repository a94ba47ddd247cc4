/-
Blanks, and the three ways the library cuts text at them or at a separator.

Every reader in this library works on the characters still to be read, never on
an index into a string, so the cutting functions take and give lists of
characters. `pieces` is the one recursion; `splitAt` and `words` are readings of
it, and `trim` drops blanks from both ends.

A blank is a character of Unicode's White_Space property or one of the four
information separators U+001C..U+001F. Zero-width characters (U+200B, U+FEFF,
U+180E, U+2060) are not blanks: they stay in the text and make it wrong.
-/

set_option autoImplicit false

namespace Cadence.Text

/-! ## The class -/

/-- Whether a character separates words. -/
def isBlank (c : Char) : Bool :=
  let n := c.toNat
  (0x09 ≤ n && n ≤ 0x0D) || (0x1C ≤ n && n ≤ 0x20) || n == 0x85 || n == 0xA0 || n == 0x1680
    || (0x2000 ≤ n && n ≤ 0x200A) || n == 0x2028 || n == 0x2029 || n == 0x202F || n == 0x205F
    || n == 0x3000

/-! ## Cutting -/

/-- The stretches of `s` between the characters that `p` accepts, in order and
with the empty ones kept: a text with `n` separators has `n + 1` pieces. -/
def pieces (p : Char → Bool) : List Char → List (List Char)
  | [] => [[]]
  | c :: s =>
    if p c then [] :: pieces p s
    else match pieces p s with
      | [] => [[c]]
      | w :: ws => (c :: w) :: ws

/-- The pieces of `s` between the occurrences of one character. -/
def splitAt (sep : Char) (s : List Char) : List (List Char) :=
  pieces (· == sep) s

/-- The words of `s`: its maximal stretches without a blank. -/
def words (s : List Char) : List (List Char) :=
  (pieces isBlank s).filter (fun w => !w.isEmpty)

/-- Splits at the first occurrence of `sep`: what stands before it, and what
stands behind it when there is one. -/
def cutAt {α : Type} [DecidableEq α] (sep : α) : List α → List α × Option (List α)
  | [] => ([], none)
  | c :: s =>
    if c = sep then ([], some s)
    else ((c :: (cutAt sep s).1), (cutAt sep s).2)

/-! ## Trimming -/

def trimStart (s : List Char) : List Char := s.dropWhile isBlank

def trimEnd (s : List Char) : List Char := (s.reverse.dropWhile isBlank).reverse

def trim (s : List Char) : List Char := trimEnd (trimStart s)

def trimmed (s : String) : String := String.ofList (trim s.toList)

/-- Whether `t` starts `s`; the rest of `s` when it does. -/
def dropLead? : List Char → List Char → Option (List Char)
  | [], s => some s
  | _ :: _, [] => none
  | t :: ts, c :: s => if t = c then dropLead? ts s else none

/-! ## Joining -/

/-- The lists with `sep` between each two. -/
def joinAt (sep : Char) : List (List Char) → List Char
  | [] => []
  | [w] => w
  | w :: v :: ws => w ++ sep :: joinAt sep (v :: ws)

/-- The texts with `sep` between each two. -/
def joinWith (sep : String) (parts : List String) : String := sep.intercalate parts

/-! ## First facts -/

theorem pieces_ne_nil (p : Char → Bool) (s : List Char) : pieces p s ≠ [] := by
  cases s with
  | nil => simp [pieces]
  | cons c s =>
    simp only [pieces]
    split
    · simp
    · split <;> simp

end Cadence.Text
