/-
What moving a clock on by hand comes to.

A clock that is told to move on by some seconds adds them to the reading of its wall. At a
fixed offset that is the same as adding them to universal time. In a zone it is not: the
reading that comes out is the first one of its time, and it is read with whatever offset the
zone has there. So universal time moves by the seconds given and, on top of them, by what
the offset has lost (`utcMicros_of_advance`), and it may even go back.

What is left of the idea of a clock is this. Steps add up, whatever the zone does, because
the readings of the wall do. A step leads to the first instant at which the zone's wall
shows the reading it came to. And universal time goes back only from a second reading of a
repeated time or from a reading that was skipped (`Zone.Regular.first_mono`).
-/
import Cadence.Instant.Clock
import Cadence.Proofs.Instant.Projection
import Cadence.Proofs.Sequencing

set_option autoImplicit false

namespace Cadence

/-- A length of time is one that does not leave the days that can be counted. -/
theorem lengthOf_eq_ok_iff {a b : Int} :
    lengthOf a = .ok b ↔ b = a ∧ -maxDays ≤ a / dayMicros ∧ a / dayMicros ≤ maxDays := by
  simp only [lengthOf, ite_error_eq_ok_iff, Except.ok.injEq]
  unfold maxWord maxDays
  constructor
  · rintro ⟨-, hdays, rfl⟩
    exact ⟨rfl, by omega, by omega⟩
  · rintro ⟨rfl, hlow, hhigh⟩
    exact ⟨by omega, by omega, rfl⟩

/-- The first and the last day that has a date. -/
theorem minDay_maxDay : Calendar.minDay = -719162 ∧ Calendar.maxDay = 2932896 := by
  decide +kernel

/-- The years of the calendar, counted in microseconds of its days. -/
theorem inYears_iff {wall : Int} : inYears wall = true ↔
    Calendar.minDay * dayMicros ≤ wall ∧ wall < (Calendar.maxDay + 1) * dayMicros := by
  rw [inYears, Bool.and_eq_true, decide_eq_true_eq, decide_eq_true_eq]

/-- What lies between two readings in the years is in the years. -/
theorem inYears_of_between {a b wall : Int} (ha : inYears a = true) (hb : inYears b = true)
    (hlow : a ≤ wall) (hhigh : wall ≤ b) : inYears wall = true := by
  rw [inYears_iff] at *
  omega

namespace Moment

variable {m : Moment} {z : Zone}

/-- The reading a number of microseconds further on the same wall, the first one if it is
repeated. -/
def shifted (m : Moment) (micros : Int) : Moment :=
  { m with wall := m.wall + micros, later := false }

/-- Two shifts of the wall are one. -/
theorem shifted_shifted (m : Moment) (a b : Int) :
    (m.shifted a).shifted b = m.shifted (a + b) := by
  simp only [shifted, Int.add_assoc]

/-- In a zone it is the wall, and which reading it is, that tells the offset. -/
theorem offset_of_zoned (h : m.place = .zoned z) :
    m.offset? = some (z.offsetOnWall (m.wall / secondMicros) m.later * secondMicros) := by
  rw [offset?, h]

end Moment

namespace ManualClock

variable {c d : ManualClock} {m n : Int}

/-- A clock is moved on by whole seconds as long as its wall stays in the years. -/
theorem advance_eq_ok_iff (hyears : inYears c.now.wall = true) :
    c.advance (.int n) = .ok d ↔ inYears (c.now.wall + n * secondMicros) = true ∧
      d = ⟨c.now.shifted (n * secondMicros)⟩ := by
  have hlength : lengthOfSeconds (.int n) = lengthOf (n * secondMicros) := rfl
  simp only [advance, hlength, bind_eq_ok_iff, pure_eq_ok_iff, lengthOf_eq_ok_iff]
  constructor
  · rintro ⟨micros, ⟨rfl, -⟩, next, hnext, rfl⟩
    rw [Moment.plus] at hnext
    split at hnext
    case isTrue hin => exact ⟨hin, by rw [← Except.ok.inj hnext, Moment.shifted]⟩
    case isFalse => cases hnext
  · rintro ⟨hin, rfl⟩
    have hfrom := inYears_iff.mp hyears
    have hto := inYears_iff.mp hin
    obtain ⟨hmin, hmax⟩ := minDay_maxDay
    -- all the years together are fewer days than a length of time may have
    have hdays : -maxDays ≤ n * secondMicros / dayMicros ∧
        n * secondMicros / dayMicros ≤ maxDays := by
      unfold maxDays secondMicros dayMicros at *
      omega
    exact ⟨_, ⟨rfl, hdays⟩, _, by rw [Moment.plus, if_pos hin, Moment.shifted], rfl⟩

/-- **Steps add up.** -/
theorem advance_advance (hyears : inYears c.now.wall = true) (hm : 0 ≤ m) (hn : 0 ≤ n) :
    (c.advance (.int m) >>= fun c' => c'.advance (.int n)) = .ok d ↔
      c.advance (.int (m + n)) = .ok d := by
  have hsum : m * secondMicros + n * secondMicros = (m + n) * secondMicros :=
    (Int.add_mul m n secondMicros).symm
  rw [bind_eq_ok_iff, advance_eq_ok_iff hyears]
  constructor
  · rintro ⟨c', hc, hd⟩
    obtain ⟨hin, rfl⟩ := (advance_eq_ok_iff hyears).mp hc
    obtain ⟨hin', rfl⟩ := (advance_eq_ok_iff hin).mp hd
    rw [Moment.shifted_shifted, hsum]
    exact ⟨by rwa [Moment.shifted, Int.add_assoc, hsum] at hin', rfl⟩
  · rintro ⟨hin, rfl⟩
    -- between two instants that there are, so is the one where the first advance ends
    have hmid : inYears (c.now.wall + m * secondMicros) = true := by
      refine inYears_of_between hyears hin ?_ ?_ <;> unfold secondMicros <;> omega
    refine ⟨_, (advance_eq_ok_iff hyears).mpr ⟨hmid, rfl⟩,
      (advance_eq_ok_iff hmid).mpr ⟨?_, ?_⟩⟩
    · rwa [Moment.shifted, Int.add_assoc, hsum]
    · rw [Moment.shifted_shifted, hsum]

/-- **How far universal time moves**: by the seconds given, and by what the offset has
lost. -/
theorem utcMicros_of_shifted {u o o' : Int} (hu : c.now.utcMicros? = some u)
    (ho : c.now.offset? = some o) (ho' : (c.now.shifted (n * secondMicros)).offset? = some o') :
    (c.now.shifted (n * secondMicros)).utcMicros? = some (u + n * secondMicros + (o - o')) := by
  rw [Moment.utcMicros_of_offset ho, Option.some.injEq] at hu
  rw [Moment.utcMicros_of_offset ho', Option.some.injEq, ← hu, Moment.shifted]
  simp only
  omega

end ManualClock

/-! ## In a zone -/

namespace Moment

variable {m : Moment} {z : Zone} {u v : Int}

/-- The instant of a first reading is the first that shows it. -/
theorem first_le (hz : z.Regular) (hplace : m.place = .zoned z) (hlater : m.later = false)
    (hu : m.utcMicros? = some u) (hv : z.wallAt v = m.wall) : u ≤ v := by
  rw [utcMicros_of_offset (offset_of_zoned hplace), Option.some.injEq, hlater] at hu
  have hsecond : v / secondMicros + z.offsetAt (v / secondMicros) = m.wall / secondMicros := by
    rw [← hv, Zone.wallAt]
    unfold secondMicros
    omega
  have hle := hz.first_le hsecond
  rw [Zone.wallAt] at hv
  unfold secondMicros at *
  omega

/-- From a first reading that is shown, moving on along the wall never goes back. -/
theorem le_of_shifted {n u' : Int} (hz : z.Regular) (hplace : m.place = .zoned z)
    (hlater : m.later = false) (hshown : z.Shows (m.wall / secondMicros)) (hn : 0 ≤ n)
    (hu : m.utcMicros? = some u)
    (hu' : (m.shifted (n * secondMicros)).utcMicros? = some u') : u ≤ u' := by
  have hplace' : (m.shifted (n * secondMicros)).place = .zoned z := hplace
  rw [utcMicros_of_offset (offset_of_zoned hplace), Option.some.injEq, hlater] at hu
  rw [utcMicros_of_offset (offset_of_zoned hplace'), Option.some.injEq, shifted] at hu'
  simp only at hu'
  have hsecond : (m.wall + n * secondMicros) / secondMicros = m.wall / secondMicros + n := by
    unfold secondMicros
    omega
  -- a later reading leads no further back, as the first one is shown
  have hmono := hz.first_mono hshown (Int.le_add_of_nonneg_right hn)
  rw [hsecond] at hu'
  unfold secondMicros at *
  omega

end Moment

/-! ## Moving on -/

namespace ManualClock

variable {c : ManualClock} {m n : Int}

/-- **What moving on by whole seconds does.** It succeeds exactly when the wall stays in the
years, and gives the reading so many seconds further; two steps are as one of their sum.
Universal time moves by the seconds and by what the offset has lost, so exactly by the
seconds at a fixed offset. In a regular zone the clock comes to the first instant whose wall
shows the new reading, if there is one, and from a first reading that is shown it never goes
back. -/
theorem advance_decides (haware : c.now.place ≠ .naive) (hyears : inYears c.now.wall = true)
    (hm : 0 ≤ m) (hn : 0 ≤ n) :
    (∀ d, c.advance (.int n) = .ok d ↔ inYears (c.now.wall + n * secondMicros) = true ∧
      d = ⟨c.now.shifted (n * secondMicros)⟩) ∧
    (∀ d, (c.advance (.int m) >>= fun c' => c'.advance (.int n)) = .ok d ↔
      c.advance (.int (m + n)) = .ok d) ∧
    ∀ d, c.advance (.int n) = .ok d → ∃ u u' o o',
      c.now.utcMicros? = some u ∧ d.now.utcMicros? = some u' ∧
      c.now.offset? = some o ∧ d.now.offset? = some o' ∧
      u' = u + n * secondMicros + (o - o') ∧
      ((∃ k, c.now.place = .fixed k) → u' = u + n * secondMicros) ∧
      ∀ z, c.now.place = .zoned z → z.Regular →
        (∀ v, z.wallAt v = d.now.wall → u' ≤ v) ∧
        (c.now.later = false → z.Shows (c.now.wall / secondMicros) → u ≤ u') := by
  refine ⟨fun d => advance_eq_ok_iff hyears, fun d => advance_advance hyears hm hn, ?_⟩
  intro d hd
  obtain ⟨-, rfl⟩ := (advance_eq_ok_iff hyears).mp hd
  -- both readings are at the same place, and it has an offset
  obtain ⟨o, ho⟩ : ∃ o, c.now.offset? = some o := Moment.exists_offset haware
  obtain ⟨o', ho'⟩ : ∃ o', (c.now.shifted (n * secondMicros)).offset? = some o' :=
    Moment.exists_offset haware
  have hu := Moment.utcMicros_of_offset ho
  have hu' := utcMicros_of_shifted hu ho ho'
  refine ⟨_, _, o, o', hu, hu', ho, ho', rfl, ?_, ?_⟩
  · rintro ⟨k, hk⟩
    have hfixed : (c.now.shifted (n * secondMicros)).place = .fixed k := hk
    rw [Moment.offset?, hk, Option.some.injEq] at ho
    rw [Moment.offset?, hfixed, Option.some.injEq] at ho'
    omega
  · intro z hz hregular
    have hthere : (c.now.shifted (n * secondMicros)).place = .zoned z := hz
    exact ⟨fun v hv => Moment.first_le hregular hthere rfl hu' hv,
      fun hlater hshown => Moment.le_of_shifted hregular hz hlater hshown hn hu hu'⟩

/-- The second half past one of 3 November 2024 in New York, moved on by a second and then by
half an hour: two o'clock sharp is shown once, and the clock comes to it. -/
theorem advance_decides_newYork :
    let z := Zone.America.newYork
    let c : ManualClock := ⟨⟨1730597400 * secondMicros, .zoned z, true⟩⟩
    c.now.place ≠ .naive ∧ inYears c.now.wall = true ∧ (0 : Int) ≤ 1 ∧ (0 : Int) ≤ 1800 ∧
      z.Regular ∧
      (∀ d, (c.advance (.int 1) >>= fun c' => c'.advance (.int 1800)) = .ok d ↔
        c.advance (.int (1 + 1800)) = .ok d) ∧
      ∃ d u', c.advance (.int 1800) = .ok d ∧ d.now.utcMicros? = some u' ∧
        ∀ v, z.wallAt v = d.now.wall → u' ≤ v := by
  intro z c
  have haware : c.now.place ≠ .naive := by simp [c]
  have hyears : inYears c.now.wall = true := by decide +kernel
  have hin : inYears (c.now.wall + 1800 * secondMicros) = true := by decide +kernel
  have hz : z.Regular := ⟨2 * daySeconds, by decide +kernel⟩
  obtain ⟨hstep, hsum, hmoves⟩ := advance_decides haware hyears (m := 1) (n := 1800)
    (by decide) (by decide)
  have hd := (hstep _).mpr ⟨hin, rfl⟩
  obtain ⟨u, u', o, o', -, hu', -, -, -, -, hzone⟩ := hmoves _ hd
  exact ⟨haware, hyears, by decide, by decide, hz, hsum, _, u', hd, hu', (hzone z rfl hz).1⟩

/-- From that reading a step of one second, and one of none, goes back by an hour: what comes
out is a first reading. -/
theorem advance_back_newYork :
    let c : ManualClock := ⟨⟨1730597400 * secondMicros, .zoned Zone.America.newYork, true⟩⟩
    c.now.utcMicros? = some (1730615400 * secondMicros) ∧
      (∃ d, c.advance (.int 1) = .ok d ∧
        d.now.utcMicros? = some ((1730615400 + 1 - 3600) * secondMicros)) ∧
      ∃ d, c.advance (.int 0) = .ok d ∧
        d.now.utcMicros? = some ((1730615400 - 3600) * secondMicros) := by
  intro c
  have hyears : inYears c.now.wall = true := by decide +kernel
  have hnext : inYears (c.now.wall + 1 * secondMicros) = true := by decide +kernel
  have hsame : inYears (c.now.wall + 0 * secondMicros) = true := by decide +kernel
  exact ⟨by decide +kernel,
    ⟨_, (advance_eq_ok_iff hyears).mpr ⟨hnext, rfl⟩, by decide +kernel⟩,
    ⟨_, (advance_eq_ok_iff hyears).mpr ⟨hsame, rfl⟩, by decide +kernel⟩⟩

end ManualClock

end Cadence
