/-
An offset that steps, and its readings on the wall.

Near a wall reading the offset of a zone changes at most once: from `a` to `b` at a
second `t` of universal time. How far "near" reaches depends on the offsets themselves:
three offsets lie between a reading and any instant that the argument looks at, so a
reach of three times the largest offset is enough, however close changes are beyond it.
The wall clock then shows the readings below `t + a` and those from `t + b` on. When `b`
is less than `a`, the readings between `t + b` and `t + a` are shown twice; when it is
greater, those between `t + a` and `t + b` are skipped. A wall reading is taken for one
with `a` or with `b` by a line drawn at `t + max a b` for the first reading and at `t +
min a b` for the second.

`Steps` says all of this about one reading. The main statement is that an offset taken
from the wall is the one that holds at the instant it leads to, exactly when some instant
shows the reading at all (`Steps.offset_iff`). A reading that is skipped is read with the
offset on one side of the gap and leads to an instant on the other (`Steps.gap`), and no
other skipped reading leads there (`Steps.eq_of_skipped`).
-/
import Cadence.Zone.Basic

set_option autoImplicit false

namespace Cadence

/-! ## Offsets and turns -/

/-- An offset three of which keep to the reach. -/
def Modest (reach o : Int) : Prop := -reach ≤ 3 * o ∧ 3 * o ≤ reach

instance (reach o : Int) : Decidable (Modest reach o) := by unfold Modest; infer_instance

/-- Nothing keeps to a negative reach. -/
theorem Modest.reach_nonneg {reach o : Int} (h : Modest reach o) : 0 ≤ reach := by
  unfold Modest at h
  omega

/-- How far behind a change the wall is read with the new offset. -/
def turn (later : Bool) (a b : Int) : Int := if later then min a b else max a b

/-- Which of the two offsets is the old one plays no part in it. -/
theorem turn_comm (later : Bool) (a b : Int) : turn later a b = turn later b a := by
  rw [turn, turn, Int.min_comm, Int.max_comm]

/-- It is one of the two offsets. -/
theorem turn_eq_or (later : Bool) (a b : Int) : turn later a b = a ∨ turn later a b = b := by
  unfold turn
  split <;> omega

/-- A larger offset makes no earlier turn. -/
theorem turn_le_turn {a a' : Int} (h : a ≤ a') (later : Bool) (b : Int) :
    turn later a b ≤ turn later a' b := by
  unfold turn
  split <;> omega

/-- Between modest offsets the turn is modest. -/
theorem Modest.turn {reach : Int} {later : Bool} {a b : Int} (ha : Modest reach a)
    (hb : Modest reach b) : Modest reach (turn later a b) := by
  rcases turn_eq_or later a b with h | h
  · rwa [h]
  · rwa [h]

/-! ## One step -/

variable {reach : Int} {offset : Int → Int} {reading : Int → Bool → Int} {w t a b : Int}

/-- Within reach of the wall reading `w` the offset steps from `a` to `b` at `t`, and `w` is
read accordingly. -/
structure Steps (reach : Int) (offset : Int → Int) (reading : Int → Bool → Int)
    (w t a b : Int) : Prop where
  before : Modest reach a
  behind : Modest reach b
  near : ∀ u, w - reach ≤ u → u ≤ w + reach → offset u = if u < t then a else b
  wall : ∀ later, reading w later = if w < t + turn later a b then a else b

/-- Near a step the offset is one of the two. -/
theorem Steps.modest (h : Steps reach offset reading w t a b) : Modest reach (offset w) := by
  have hreach := h.before.reach_nonneg
  rw [h.near w (by omega) (by omega)]
  split
  · exact h.before
  · exact h.behind

/-- So is the offset that a wall is read with. -/
theorem Steps.modest_reading (h : Steps reach offset reading w t a b) (later : Bool) :
    Modest reach (reading w later) := by
  rw [h.wall later]
  split
  · exact h.before
  · exact h.behind

/-- Steps depend on the offset near the reading, and on the reading itself. -/
theorem Steps.congr {offset' : Int → Int} {reading' : Int → Bool → Int}
    (h : Steps reach offset reading w t a b)
    (hnear : ∀ u, w - reach ≤ u → u ≤ w + reach → offset' u = offset u)
    (hwall : ∀ later, reading' w later = reading w later) :
    Steps reach offset' reading' w t a b where
  before := h.before
  behind := h.behind
  near u hlow hhigh := by rw [hnear u hlow hhigh, h.near u hlow hhigh]
  wall later := by rw [hwall, h.wall]

/-- **The offset read from the wall is the offset of the instant it leads to exactly when
an instant shows the reading.** -/
theorem Steps.offset_iff (h : Steps reach offset reading w t a b)
    (hsmall : ∀ u, Modest reach (offset u)) (later : Bool) :
    offset (w - reading w later) = reading w later ↔ ∃ u, u + offset u = w := by
  constructor
  · intro hread
    exact ⟨w - reading w later, by rw [hread]; omega⟩
  · rintro ⟨u, hu⟩
    have hbefore := h.before
    have hbehind := h.behind
    have hshowing := hsmall u
    unfold Modest at hbefore hbehind hshowing
    have hshown := h.near u (by omega) (by omega)
    rw [h.wall later]
    unfold turn
    by_cases hside : w < t + (if later then min a b else max a b)
    · rw [if_pos hside, h.near (w - a) (by omega) (by omega)]
      -- between the two lines lie the readings that are shown twice, with either offset
      split at hshown <;> split at hside <;> split <;> omega
    · rw [if_neg hside, h.near (w - b) (by omega) (by omega)]
      split at hshown <;> split at hside <;> split <;> omega

/-! ## First readings -/

/-- The first reading of a time leads to the first instant that shows it. -/
theorem Steps.first_le (h : Steps reach offset reading w t a b) {v : Int}
    (hsmall : Modest reach (offset v)) (hv : v + offset v = w) : w - reading w false ≤ v := by
  have hbefore := h.before
  have hbehind := h.behind
  unfold Modest at hbefore hbehind hsmall
  have hshown := h.near v (by omega) (by omega)
  have hread := h.wall false
  rw [turn, if_neg Bool.false_ne_true] at hread
  split at hread <;> split at hshown <;> omega

/-! ## Skipped readings -/

variable {later later' : Bool} {w' t' a' b' : Int}

/-- A reading that leads to an instant of another offset lies in a gap: it is read with the
offset before it and leads behind it, or the other way round. -/
theorem Steps.gap (h : Steps reach offset reading w t a b)
    (hskipped : offset (w - reading w later) ≠ reading w later) :
    a < b ∧ t + a ≤ w ∧ w < t + b ∧
      (reading w later = a ∧ offset (w - a) = b ∨ reading w later = b ∧ offset (w - b) = a) := by
  have hbefore := h.before
  have hbehind := h.behind
  unfold Modest at hbefore hbehind
  by_cases hside : w < t + turn later a b
  · -- read with the offset before the step, it leads behind it
    have hread : reading w later = a := by rw [h.wall, if_pos hside]
    have hhere := h.near (w - a) (by omega) (by omega)
    rw [hread] at hskipped
    have hbeyond : ¬w - a < t := fun hlt => hskipped (by rw [hhere, if_pos hlt])
    rw [if_neg hbeyond] at hhere
    unfold turn at hside
    refine ⟨?_, ?_, ?_, .inl ⟨hread, hhere⟩⟩ <;> split at hside <;> omega
  · -- and the other way round
    have hread : reading w later = b := by rw [h.wall, if_neg hside]
    have hhere := h.near (w - b) (by omega) (by omega)
    rw [hread] at hskipped
    have hahead : w - b < t := Int.not_le.mp fun hge =>
      hskipped (by rw [hhere, if_neg (Int.not_lt.mpr hge)])
    rw [if_pos hahead] at hhere
    unfold turn at hside
    refine ⟨?_, ?_, ?_, .inr ⟨hread, hhere⟩⟩ <;> split at hside <;> omega

/-- **First readings keep the order of time**, from one that is shown on: no later reading
leads further back. -/
theorem Steps.first_mono (h : Steps reach offset reading w t a b)
    (h' : Steps reach offset reading w' t' a' b')
    (hshown : offset (w - reading w false) = reading w false) (hle : w ≤ w') :
    w - reading w false ≤ w' - reading w' false := by
  refine Int.not_lt.mp fun hback => ?_
  have hmodest := h.modest_reading false
  have hmodest' := h'.modest_reading false
  unfold Modest at hmodest hmodest'
  by_cases hskipped : offset (w' - reading w' false) = reading w' false
  · -- both instants are near the first reading, and the one step there is between them
    have hread := h.wall false
    have hhere := h.near (w - reading w false) (by omega) (by omega)
    have hthere := h.near (w' - reading w' false) (by omega) (by omega)
    rw [turn, if_neg Bool.false_ne_true] at hread
    split at hread <;> split at hhere <;> split at hthere <;> omega
  · -- the later reading is skipped, and the offset behind its gap holds at both instants
    obtain ⟨hlt, hlow, hhigh, -⟩ := h'.gap hskipped
    have hread' := h'.wall false
    have hhere := h'.near (w - reading w false) (by omega) (by omega)
    rw [turn, if_neg Bool.false_ne_true] at hread'
    split at hread' <;> split at hhere <;> omega

/-- **At most one skipped reading leads to an instant.** -/
theorem Steps.eq_of_skipped (h : Steps reach offset reading w t a b)
    (h' : Steps reach offset reading w' t' a' b')
    (hskipped : offset (w - reading w later) ≠ reading w later)
    (hskipped' : offset (w' - reading w' later') ≠ reading w' later')
    (hmeet : w - reading w later = w' - reading w' later') : w = w' := by
  obtain ⟨hlt, hlow, hhigh, hcase⟩ := h.gap hskipped
  obtain ⟨hlt', hlow', hhigh', hcase'⟩ := h'.gap hskipped'
  have ha := h.before
  have hb := h.behind
  have ha' := h'.before
  have hb' := h'.behind
  unfold Modest at ha hb ha' hb'
  -- two gaps that lead to one instant are the same: the offset beside either is that of both
  have hboth : ∀ v, w - reach ≤ v → v ≤ w + reach →
      w' - reach ≤ v → v ≤ w' + reach →
      (if v < t then a else b) = if v < t' then a' else b' := by
    intro v h₁ h₂ h₃ h₄
    rw [← h.near v h₁ h₂, ← h'.near v h₃ h₄]
  rcases hcase with ⟨hr, ho⟩ | ⟨hr, ho⟩ <;> rcases hcase' with ⟨hr', ho'⟩ | ⟨hr', ho'⟩ <;>
    rw [hr, hr'] at hmeet <;> rw [hmeet, ho'] at ho
  · have hbeside := hboth (max t t' - 1) (by omega) (by omega) (by omega) (by omega)
    omega
  · have hbeside := hboth t' (by omega) (by omega) (by omega) (by omega)
    omega
  · have hbeside := hboth t (by omega) (by omega) (by omega) (by omega)
    omega
  · have hbeside := hboth (min t t') (by omega) (by omega) (by omega) (by omega)
    omega

end Cadence
