/-
Texts that are not all characters.

Half of a surrogate pair has a number among the code points and is no character.
A file can name one by its number, and what is read then is a text of code
points that no `String` holds: a torn text. Such a text comes up in one place
only, where references to the environment are expanded, because a name with a
half in it need not have any bytes. Everything behind that takes U+FFFD for each
half.
-/

set_option autoImplicit false

namespace Cadence.Text

/-! ## Code points -/

/-- A character, or half of a surrogate pair, numbered from U+D800. -/
inductive CodePoint
  | char (c : Char)
  | half (n : Fin 0x800)
deriving DecidableEq, Repr, Inhabited

namespace CodePoint

/-- The code point with a number, which has to be one of a code point. -/
def ofNat (n : Nat) : CodePoint :=
  if h : 0xD800 ≤ n ∧ n < 0xE000 then .half ⟨n - 0xD800, by omega⟩ else .char (Char.ofNat n)

def number : CodePoint → Nat
  | .char c => c.toNat
  | .half n => 0xD800 + n.val

def isHalf : CodePoint → Bool
  | .char _ => false
  | .half _ => true

/-- The character that stands for a code point. -/
def smooth : CodePoint → Char
  | .char c => c
  | .half _ => '\uFFFD'

end CodePoint

/-! ## Texts of code points -/

def points (s : List Char) : List CodePoint := s.map .char

/-- The characters of a text, when it has nothing else. -/
def chars? : List CodePoint → Option (List Char)
  | [] => some []
  | .char c :: ps => (chars? ps).map (c :: ·)
  | .half _ :: _ => none

@[simp] theorem chars?_points (s : List Char) : chars? (points s) = some s := by
  induction s with
  | nil => rfl
  | cons c s ih =>
    rw [points, List.map_cons, chars?, ← points, ih]
    rfl

theorem chars?_eq_some_iff {ps : List CodePoint} {s : List Char} :
    chars? ps = some s ↔ ps = points s := by
  refine ⟨fun h => ?_, fun h => h ▸ chars?_points s⟩
  induction ps generalizing s with
  | nil =>
    obtain rfl := Option.some.inj h
    rfl
  | cons p ps ih =>
    cases p with
    | half n => cases h
    | char c =>
      obtain ⟨t, ht, rfl⟩ := Option.map_eq_some_iff.mp h
      rw [ih ht]
      rfl

/-- A text with a half in it. -/
structure Torn where
  points : List CodePoint
  torn : chars? points = none
deriving DecidableEq, Repr

instance : Inhabited Torn := ⟨[.half 0], rfl⟩

/-- The text with U+FFFD in place of each half. -/
def Torn.smooth (t : Torn) : String := String.ofList (t.points.map CodePoint.smooth)

end Cadence.Text
