/-
What the projection of a moment depends on.

A moment is carried to universal time and from there onto the wall of a zone, so two
moments of one instant should have the same fields in every zone, however they are given.
They have, with one exception. A moment that stands in the zone already is taken as it is,
and it may be a reading that the wall of its zone never shows: one of those skipped where
the offset grows. Such a moment is read with the offset on one side of the gap and names
an instant on the other, where the wall shows something else.

The main statement is that this exception is the only one: the fields of two moments of
one instant, and with them the verdicts of all schedules in the zone, agree exactly when
both are skipped readings or neither is (`partsIn_eq_iff`). A gap is less than a week, so a
skipped reading differs in its weekday or in its time of day from what the wall shows
(`partsOf_ne`); and two skipped readings of one instant are the same
(`wall_eq_of_skipped`). Both need the zone to be regular: only then is a reading of its own
wall either shown at the instant it is read for, or never shown at all. Apart from that, the
zone may be any, as long as a moment that stands in it by name stands in that very zone.
-/
import Cadence.Proofs.Schedule.Meaning
import Cadence.Proofs.Zone.Regular

set_option autoImplicit false

namespace Cadence

/-! ## Readings -/

/-- What the wall of a zone shows at a number of microseconds of universal time. -/
def Zone.wallAt (z : Zone) (utc : Int) : Int :=
  utc + z.offsetAt (utc / secondMicros) * secondMicros

namespace Moment

variable {m : Moment} {z : Zone} {u w w' : Int}

/-- A moment that stands in a zone by name stands in that very zone. -/
def Recognises (m : Moment) (z : Zone) : Prop := ∀ y, m.place = .zoned y → y.name = z.name → y = z

/-- A reading of the zone's own wall that the wall never shows. -/
def Skipped (m : Moment) (z : Zone) : Prop :=
  m.standsIn z = true ∧ ¬z.Shows (m.wall / secondMicros)

/-- A moment that is not naive has an offset. -/
theorem exists_offset (h : m.place ≠ .naive) : ∃ o, m.offset? = some o := by
  rw [offset?]
  cases hplace : m.place with
  | naive => exact absurd hplace h
  | fixed o => exact ⟨_, rfl⟩
  | zoned y => exact ⟨_, rfl⟩

/-- Universal time is the reading less the offset. -/
theorem utcMicros_of_offset {o : Int} (h : m.offset? = some o) :
    m.utcMicros? = some (m.wall - o) := by
  rw [utcMicros?, h, Option.map_some]

/-- A moment that stands in a zone is a reading with the offset on its wall. -/
theorem wall_of_standsIn (hm : m.Recognises z) (hu : m.utcMicros? = some u)
    (hs : m.standsIn z = true) :
    m.wallIn z = .ok m.wall ∧
      m.wall = u + z.offsetOnWall (m.wall / secondMicros) m.later * secondMicros := by
  obtain ⟨wall, place, later⟩ := m
  cases place with
  | naive => exact absurd hs (by simp [standsIn])
  | fixed o => exact absurd hs (by simp [standsIn])
  | zoned y =>
    obtain rfl : y = z := hm y rfl (by simpa [standsIn] using hs)
    simp only [utcMicros?, offset?, Option.map_some, Option.some.injEq] at hu
    refine ⟨?_, by simp only; omega⟩
    simp [wallIn, requireOffset, offset?, standsIn, bind, Except.bind, pure, Except.pure]

/-- A moment from elsewhere is carried to universal time and onto the wall, through years on
either. -/
theorem wallIn_of_elsewhere (hu : m.utcMicros? = some u) (hs : m.standsIn z = false)
    (hyears : inYears u = true) (hlocal : inYears (z.wallAt u) = true) :
    m.wallIn z = .ok (z.wallAt u) := by
  rw [utcMicros?, Option.map_eq_some_iff] at hu
  obtain ⟨o, ho, rfl⟩ := hu
  rw [Zone.wallAt] at hlocal
  simp [wallIn, requireOffset, ho, hs, hyears, hlocal, Zone.wallAt, bind, Except.bind, pure,
    Except.pure]

/-- A reading of the zone's own wall is some seconds off what the wall shows at its
instant, less than a week of them, and none when the wall shows it. -/
theorem exists_gap (hz : z.Regular) (hm : m.Recognises z) (hu : m.utcMicros? = some u)
    (hs : m.standsIn z = true) :
    ∃ k : Int, m.wall = z.wallAt u + k * secondMicros ∧ k.natAbs < 7 * daySeconds ∧
      (k = 0 ↔ z.Shows (m.wall / secondMicros)) := by
  obtain ⟨-, hwall⟩ := wall_of_standsIn hm hu hs
  have hiff := hz.offset_iff (m.wall / secondMicros) m.later
  -- offsets are whole seconds, so the fraction of a second plays no part
  have hsecond : m.wall / secondMicros - z.offsetOnWall (m.wall / secondMicros) m.later
      = u / secondMicros := by
    unfold secondMicros at hwall ⊢
    omega
  rw [hsecond] at hiff
  refine ⟨z.offsetOnWall (m.wall / secondMicros) m.later - z.offsetAt (u / secondMicros),
    ?_, hz.natAbs_sub_lt (u / secondMicros) (m.wall / secondMicros) m.later, ?_⟩
  · rw [Int.sub_mul, Zone.wallAt]
    omega
  · rw [← hiff]
    omega

/-- Readings that are off by less than a week differ in their fields. -/
theorem partsOf_ne {k : Int} (hw : w' = w + k * secondMicros) (hk : k ≠ 0)
    (hweek : k.natAbs < 7 * daySeconds) : partsOf w' ≠ partsOf w := by
  intro h
  have hsecond : w' / secondMicros = w / secondMicros + k := by
    unfold secondMicros at *
    omega
  have hfield := fun f => congrArg (fun parts : Sextet Int => parts.get f) h
  have hs := hfield .second
  have hm := hfield .minute
  have hh := hfield .hour
  have hd := hfield .weekday
  simp only [Sextet.get, partsOf, Calendar.weekday, hsecond] at hs hm hh hd
  -- one time of day is whole days apart, and one weekday whole weeks
  unfold daySeconds at hweek hd
  omega

/-- **The fields of a moment are those that the wall shows at its instant, unless it is a
skipped reading.** -/
theorem exists_partsIn (hz : z.Regular) (hm : m.Recognises z) (hu : m.utcMicros? = some u)
    (hyears : inYears u = true) (hlocal : inYears (z.wallAt u) = true) :
    ∃ parts, m.partsIn z = .ok parts ∧ (parts = partsOf (z.wallAt u) ↔ ¬m.Skipped z) := by
  by_cases hs : m.standsIn z = true
  · obtain ⟨hwall, -⟩ := wall_of_standsIn hm hu hs
    -- a reading of its own zone is handed back; it is off the clocks by the length of a gap
    obtain ⟨k, hk, hweek, hshown⟩ := exists_gap hz hm hu hs
    refine ⟨partsOf m.wall, by rw [partsIn, hwall]; rfl, ?_⟩
    rw [Skipped, not_and_not_right, imp_iff_right hs, ← hshown]
    constructor
    · intro hparts
      by_contra hne
      exact partsOf_ne hk hne hweek hparts
    · rintro rfl
      rw [hk, Int.zero_mul, Int.add_zero]
  · rw [Bool.not_eq_true] at hs
    refine ⟨partsOf (z.wallAt u), ?_, iff_of_true rfl fun hskipped => ?_⟩
    · rw [partsIn, wallIn_of_elsewhere hu hs hyears hlocal]
      rfl
    · rw [hskipped.1] at hs
      exact Bool.noConfusion hs

end Moment

/-! ## Schedules -/

namespace Schedule

variable {z : Zone} {a b : Moment} {p q : Sextet Int}

def only (p : Sextet Int) (z : Zone) : Schedule := ⟨p.map (fun n => .exact (.int n)), z⟩

/-- A schedule made for one reading tells whether a moment has it. -/
theorem accepts_only (ha : a.partsIn z = .ok q) :
    ∃ v, (only p z).accepts a = .ok v ∧ (v = true ↔ q = p) := by
  -- a field that takes one value only tells whether it is that value
  have hfield : ∀ f : Field, ∃ v,
      ((only p z).fields.get f).accepts (.int (q.get f)) = .ok v ∧
        (v = true ↔ q.get f = p.get f) := by
    intro f
    refine ⟨_, by rw [only, Sextet.get_map, FieldPattern.accepts_exact], ?_⟩
    rw [decide_eq_true_eq]
  obtain ⟨v, hv, hall⟩ := acceptsParts_of_fields hfield Field.all
  refine ⟨v, ?_, ?_⟩
  · have hzone : (only p z).zone = z := rfl
    rw [accepts, hzone, ha]
    exact hv
  · rw [hall]
    exact ⟨fun h => Sextet.ext_get (fun f => h f (by cases f <;> decide)), fun h f _ => by rw [h]⟩

/-- Schedules tell two moments apart exactly when their fields differ. -/
theorem accepts_eq_iff (ha : a.partsIn z = .ok p) (hb : b.partsIn z = .ok q) :
    (∀ s : Schedule, s.zone = z → s.accepts a = s.accepts b) ↔ p = q := by
  constructor
  · intro h
    obtain ⟨v, hv, hvp⟩ := accepts_only (p := p) ha
    obtain ⟨v', hv', hvq⟩ := accepts_only (p := p) hb
    have hsame := h (only p z) rfl
    rw [hv, hv', Except.ok.injEq] at hsame
    exact (hvq.mp (hsame ▸ hvp.mpr rfl)).symm
  · rintro rfl s rfl
    rw [accepts, accepts, ha, hb]

end Schedule

/-! ## Two moments of one instant -/

namespace Moment

variable {a b : Moment} {z : Zone} {u : Int}

/-- Two skipped readings of one instant show the same on the wall. -/
theorem wall_eq_of_skipped (hz : z.Regular) (ha : a.Recognises z) (hb : b.Recognises z)
    (hau : a.utcMicros? = some u) (hbu : b.utcMicros? = some u) (hsa : a.Skipped z)
    (hsb : b.Skipped z) : a.wall = b.wall := by
  obtain ⟨-, hawall⟩ := wall_of_standsIn ha hau hsa.1
  obtain ⟨-, hbwall⟩ := wall_of_standsIn hb hbu hsb.1
  have hmeet : a.wall / secondMicros - z.offsetOnWall (a.wall / secondMicros) a.later
      = b.wall / secondMicros - z.offsetOnWall (b.wall / secondMicros) b.later := by
    unfold secondMicros at hawall hbwall ⊢
    omega
  have hsecond := hz.eq_of_skipped hsa.2 hsb.2 hmeet
  unfold secondMicros at hawall hbwall hsecond
  omega

/-- Two moments of one instant have the same fields exactly when both are skipped readings
or neither is. -/
theorem parts_eq_iff {p q : Sextet Int} (hz : z.Regular) (ha : a.Recognises z)
    (hb : b.Recognises z) (hau : a.utcMicros? = some u) (hbu : b.utcMicros? = some u)
    (hp : a.partsIn z = .ok p) (hq : b.partsIn z = .ok q)
    (hap : p = partsOf (z.wallAt u) ↔ ¬a.Skipped z)
    (hbq : q = partsOf (z.wallAt u) ↔ ¬b.Skipped z) : p = q ↔ (a.Skipped z ↔ b.Skipped z) := by
  by_cases hsa : a.Skipped z
  · by_cases hsb : b.Skipped z
    · -- the two are the same reading
      have hwall := wall_eq_of_skipped hz ha hb hau hbu hsa hsb
      have hsame : a.partsIn z = b.partsIn z := by
        rw [partsIn, partsIn, (wall_of_standsIn ha hau hsa.1).1,
          (wall_of_standsIn hb hbu hsb.1).1, hwall]
      rw [hp, hq, Except.ok.injEq] at hsame
      exact iff_of_true hsame (iff_of_true hsa hsb)
    · refine iff_of_false (fun hpq => ?_) (fun h => hsb (h.mp hsa))
      exact hap.mp (hpq.trans (hbq.mpr hsb)) hsa
  · by_cases hsb : b.Skipped z
    · refine iff_of_false (fun hpq => ?_) (fun h => hsa (h.mpr hsb))
      exact hbq.mp (hpq.symm.trans (hap.mpr hsa)) hsb
    · exact iff_of_true ((hap.mpr hsa).trans (hbq.mpr hsb).symm) (iff_of_false hsa hsb)

/-- **Fields and verdicts depend on the instant alone, except for skipped readings.** Two
moments of one instant, each in any place, have fields in a regular zone, those that its wall
shows unless the moment is a skipped reading. The two have the same fields, and all
schedules there judge them alike, exactly when both are skipped readings or neither is. -/
theorem partsIn_eq_iff (hz : z.Regular) (ha : a.Recognises z) (hb : b.Recognises z)
    (hau : a.utcMicros? = some u) (hbu : b.utcMicros? = some u) (hyears : inYears u = true)
    (hlocal : inYears (z.wallAt u) = true) :
    (∃ p, a.partsIn z = .ok p ∧ (p = partsOf (z.wallAt u) ↔ ¬a.Skipped z)) ∧
      (a.partsIn z = b.partsIn z ↔ (a.Skipped z ↔ b.Skipped z)) ∧
      ((∀ s : Schedule, s.zone = z → s.accepts a = s.accepts b) ↔
        (a.Skipped z ↔ b.Skipped z)) := by
  obtain ⟨p, hp, hap⟩ := exists_partsIn hz ha hau hyears hlocal
  obtain ⟨q, hq, hbq⟩ := exists_partsIn hz hb hbu hyears hlocal
  have hsame := parts_eq_iff hz ha hb hau hbu hp hq hap hbq
  refine ⟨⟨p, hp, hap⟩, ?_, ?_⟩
  · rw [hp, hq, Except.ok.injEq, hsame]
  · rw [Schedule.accepts_eq_iff hp hq, hsame]

/-- Half past two of 10 March 2024 is skipped in New York. Read with the offset before the
gap it is half past seven of universal time, when the wall there shows half past three. -/
theorem partsIn_skipped_newYork :
    let z := Zone.America.newYork
    let a : Moment := ⟨1710037800 * secondMicros, .zoned z, false⟩
    let b : Moment := ⟨1710055800 * secondMicros, .fixed 0, false⟩
    Zone.find? z.name = some z ∧ a.utcMicros? = some (1710055800 * secondMicros) ∧
      b.utcMicros? = some (1710055800 * secondMicros) ∧
      inYears (1710055800 * secondMicros) = true ∧
      inYears (z.wallAt (1710055800 * secondMicros)) = true ∧
      (a.partsIn z).toOption = some ⟨0, 30, 2, 10, 3, 0⟩ ∧
      (b.partsIn z).toOption = some ⟨0, 30, 3, 10, 3, 0⟩ ∧
      ((Schedule.only ⟨0, 30, 2, 10, 3, 0⟩ z).accepts a).toOption = some true ∧
      ((Schedule.only ⟨0, 30, 2, 10, 3, 0⟩ z).accepts b).toOption = some false := by
  decide +kernel

/-- The second reading of a time that is shown twice, and the same instant in Tokyo. -/
theorem partsIn_eq_iff_repeated :
    let z := Zone.America.newYork
    let a : Moment := ⟨1730597400 * secondMicros, .zoned z, true⟩
    let b : Moment := ⟨1730647800 * secondMicros, .zoned Zone.Pacific.tokyo, false⟩
    z.Regular ∧ a.Recognises z ∧ b.Recognises z ∧
      a.utcMicros? = some (1730615400 * secondMicros) ∧
      b.utcMicros? = some (1730615400 * secondMicros) ∧
      inYears (1730615400 * secondMicros) = true ∧
      inYears (z.wallAt (1730615400 * secondMicros)) = true ∧
      (∃ p, a.partsIn z = .ok p ∧
        (p = partsOf (z.wallAt (1730615400 * secondMicros)) ↔ ¬a.Skipped z)) ∧
      (a.partsIn z = b.partsIn z ↔ (a.Skipped z ↔ b.Skipped z)) ∧
      ((∀ s : Schedule, s.zone = z → s.accepts a = s.accepts b) ↔
        (a.Skipped z ↔ b.Skipped z)) := by
  intro z a b
  have hz : z.Regular := ⟨2 * daySeconds, by decide +kernel⟩
  have ha : a.Recognises z := by
    rintro y hy -
    exact (Place.zoned.inj hy).symm
  -- the second moment stands in Tokyo, so its name is another
  have hb : b.Recognises z := by
    rintro y hy hname
    obtain rfl := Place.zoned.inj hy
    exact absurd hname (by decide)
  have hau : a.utcMicros? = some (1730615400 * secondMicros) := by decide +kernel
  have hbu : b.utcMicros? = some (1730615400 * secondMicros) := by decide +kernel
  have hyears : inYears (1730615400 * secondMicros) = true := by decide +kernel
  have hlocal : inYears (z.wallAt (1730615400 * secondMicros)) = true := by decide +kernel
  exact ⟨hz, ha, hb, hau, hbu, hyears, hlocal,
    partsIn_eq_iff hz ha hb hau hbu hyears hlocal⟩

end Moment

end Cadence
