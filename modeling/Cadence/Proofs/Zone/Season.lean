/-
Offsets that change with the season.

A yearly rule names two turns of a year, the start of the summer offset and its end. A
turn may be given at a time of day that is days off its date; still both fall well
inside the year (`RuleDate.second_bounds`), and weeks apart from each other
(`Rule.turns_apart`). So near the turn of a year the rule of either year gives the same
offset, and the rule of one year goes on to hold for days beyond it
(`inSeason_of_near`). Near any reading, then, the offset of a rule steps at most once
(`Rule.exists_steps`): at a turn of the year in question, or not at all.

The wall is read by the same season, moved on by the larger or the smaller of the two
offsets (`Rule.offsetOnWall_yearly`), which is why reading and offset agree.
-/
import Cadence.Proofs.Calendar
import Cadence.Proofs.Zone.Steps

set_option autoImplicit false

namespace Cadence

open Cadence.Calendar (dayNumber daysInMonth daysBeforeYear daysBeforeMonth epochDay)

/-! ## Years in seconds -/

/-- The second at which a year begins. -/
def yearStart (y : Int) : Int := (daysBeforeYear y - epochDay) * daySeconds

/-- Years begin in their order. -/
theorem yearStart_le {y y' : Int} (h : y ≤ y') : yearStart y ≤ yearStart y' := by
  have hdays := Calendar.daysBeforeYear_le h
  unfold yearStart daySeconds
  omega

/-- A year has 365 days at least. -/
theorem yearStart_succ (y : Int) : yearStart y + 365 * daySeconds ≤ yearStart (y + 1) := by
  have hdays := Calendar.daysBeforeYear_succ y
  unfold yearStart daySeconds
  split at hdays <;> omega

/-- The year of a second has begun by then, and the next one has not. -/
theorem yearOfSecond_eq_iff {t y : Int} :
    yearOfSecond t = y ↔ yearStart y ≤ t ∧ t < yearStart (y + 1) := by
  rw [yearOfSecond, Calendar.year_civil, Calendar.yearOf_eq_iff]
  unfold yearStart daySeconds
  omega

/-- A second lies in a year, or within eight days of it. -/
def NearYear (y t : Int) : Prop :=
  yearStart y - 8 * daySeconds ≤ t ∧ t < yearStart (y + 1) + 8 * daySeconds

/-! ## The turns of a year -/

/-- A date between February and November, at a time of day that may be up to a week off. -/
def RuleDate.Regular (r : RuleDate) : Prop :=
  (2 ≤ r.month ∧ r.month ≤ 11) ∧ (1 ≤ r.week ∧ r.week ≤ 5) ∧
    -(7 * daySeconds) ≤ r.time ∧ r.time ≤ 7 * daySeconds

instance (r : RuleDate) : Decidable r.Regular := by unfold RuleDate.Regular; infer_instance

/-- A date of a rule falls on a day of its month. -/
theorem RuleDate.day_bounds {r : RuleDate} (h : r.Regular) (y : Int) :
    1 ≤ r.day y ∧ r.day y ≤ 31 := by
  obtain ⟨hmonth, hweek, -⟩ := h
  have hdays := Calendar.daysInMonth_bounds y (m := r.month) (by omega)
  simp only [RuleDate.day]
  split <;> omega

/-- The month of a rule says closely where in the year its second is. -/
theorem RuleDate.second_bounds {r : RuleDate} (h : r.Regular) (y : Int) :
    yearStart y + (30 * r.month - 39) * daySeconds ≤ r.second y ∧
      r.second y ≤ yearStart y + (31 * r.month + 7) * daySeconds := by
  have hday := RuleDate.day_bounds h y
  obtain ⟨hmonth, -, htime⟩ := h
  have hbefore := Calendar.daysBeforeMonth_bounds y (m := r.month) (by omega)
  unfold RuleDate.second dayNumber yearStart
  unfold daySeconds at htime ⊢
  simp only
  omega

/-- A rule whose offsets keep to a reach of two days at most. The turns of a yearly one fall
inside the year, a quarter of it from each other. -/
def Rule.Regular (reach : Int) : Rule → Prop
  | .always o => reach ≤ 2 * daySeconds ∧ Modest reach o
  | .yearly std dst start stop =>
    (reach ≤ 2 * daySeconds ∧ Modest reach std ∧ Modest reach dst) ∧
      (start.Regular ∧ stop.Regular) ∧
      (start.month + 3 ≤ stop.month ∨ stop.month + 3 ≤ start.month)

instance (reach : Int) (r : Rule) : Decidable (r.Regular reach) := by
  unfold Rule.Regular
  split <;> infer_instance

/-- The reach of a rule is two days at most. -/
theorem Rule.Regular.reach_le {reach : Int} {r : Rule} (h : r.Regular reach) :
    reach ≤ 2 * daySeconds := by
  cases r with
  | always o => exact h.1
  | yearly std dst start stop => exact h.1.1

variable {reach std dst : Int} {start stop : RuleDate}

/-- The turns of a year, in universal time, are more than eight days from its ends. -/
theorem Rule.turns_inside (h : (Rule.yearly std dst start stop).Regular reach) (y : Int) :
    (yearStart y + 8 * daySeconds < start.second y - std ∧
      start.second y - std < yearStart (y + 1) - 8 * daySeconds) ∧
    (yearStart y + 8 * daySeconds < stop.second y - dst ∧
      stop.second y - dst < yearStart (y + 1) - 8 * daySeconds) := by
  obtain ⟨⟨hreach, hstd, hdst⟩, ⟨hstart, hstop⟩, -⟩ := h
  have hbegin := RuleDate.second_bounds hstart y
  have hend := RuleDate.second_bounds hstop y
  have hnext := yearStart_succ y
  obtain ⟨hstart, -, -⟩ := hstart
  obtain ⟨hstop, -, -⟩ := hstop
  unfold Modest at hstd hdst
  unfold daySeconds at *
  omega

/-- They are more than ten days from each other, in the order of their months. -/
theorem Rule.turns_apart (h : (Rule.yearly std dst start stop).Regular reach) (y : Int) :
    if start.month < stop.month then
      start.second y - std + 10 * daySeconds < stop.second y - dst
    else stop.second y - dst + 10 * daySeconds < start.second y - std := by
  obtain ⟨⟨hreach, hstd, hdst⟩, ⟨hstart, hstop⟩, hmonths⟩ := h
  have hbegin := RuleDate.second_bounds hstart y
  have hend := RuleDate.second_bounds hstop y
  obtain ⟨hstart, -, -⟩ := hstart
  obtain ⟨hstop, -, -⟩ := hstop
  unfold Modest at hstd hdst
  unfold daySeconds at *
  split <;> omega

/-! ## Seasons -/

variable {a b t u w : Int}

/-- A season lies inside a year, or goes around its turn and leaves a stretch out. -/
theorem inSeason_iff :
    inSeason a b u = true ↔ a < b ∧ a ≤ u ∧ u < b ∨ b ≤ a ∧ (u < b ∨ a ≤ u) := by
  unfold inSeason
  split <;> simp only [Bool.and_eq_true, Bool.or_eq_true, decide_eq_true_eq] <;> omega

section

variable {offset : Int → Int} {reading : Int → Bool → Int}

/-- An offset that goes by a property of times which ends at `t` steps there. -/
theorem steps_of_turn {p : Int → Bool} (ha : Modest reach a) (hb : Modest reach b)
    (hp : ∀ u, w - reach ≤ u → u ≤ w + reach → (p u = true ↔ u < t))
    (hnear : ∀ u, w - reach ≤ u → u ≤ w + reach → offset u = if p u then a else b)
    (hwall : ∀ later, reading w later = if p (w - turn later a b) then a else b) :
    Steps reach offset reading w t a b := by
  refine ⟨ha, hb, fun u hlow hhigh => ?_, fun later => ?_⟩
  · rw [hnear u hlow hhigh]
    exact if_congr (hp u hlow hhigh) rfl rfl
  · have hturn : Modest reach (turn later a b) := ha.turn hb
    unfold Modest at hturn
    have hmoved := hp (w - turn later a b) (by omega) (by omega)
    rw [hwall later]
    exact if_congr (hmoved.trans (by omega)) rfl rfl

/-- An offset that stays the same near a reading may be said to step there, to itself. -/
theorem steps_of_calm (ha : Modest reach a)
    (hnear : ∀ u, w - reach ≤ u → u ≤ w + reach → offset u = a)
    (hwall : ∀ later, reading w later = a) : Steps reach offset reading w w a a := by
  refine ⟨ha, ha, fun u hlow hhigh => ?_, fun later => ?_⟩
  · rw [hnear u hlow hhigh, ite_self]
  · rw [hwall later, ite_self]

/-- **An offset that changes with the season steps once near a reading, or not at all.** The
ends of the season are days apart, and the wall is read by the season moved on by one of
the two offsets. -/
theorem exists_steps_of_season (hstd : Modest reach std) (hdst : Modest reach dst)
    (hreach : reach ≤ 2 * daySeconds)
    (hapart : a + 10 * daySeconds < b ∨ b + 10 * daySeconds < a)
    (hnear : ∀ u, w - reach ≤ u → u ≤ w + reach →
      offset u = if inSeason a b u then dst else std)
    (hwall : ∀ later, reading w later =
      if inSeason a b (w - turn later std dst) then dst else std) :
    ∃ t p q, Steps reach offset reading w t p q := by
  have hday : daySeconds = 86400 := rfl
  by_cases hstart : w - reach < a ∧ a ≤ w + reach
  · -- the season starts here: ahead of the turn is what is out of it
    refine ⟨a, std, dst, steps_of_turn (p := fun u => !inSeason a b u) hstd hdst
      (fun u hlow hhigh => ?_) (fun u hlow hhigh => ?_) (fun later => ?_)⟩
    · rw [Bool.not_eq_true', ← Bool.not_eq_true, inSeason_iff]
      omega
    · rw [hnear u hlow hhigh]
      cases inSeason a b u <;> rfl
    · rw [hwall later]
      cases inSeason a b (w - turn later std dst) <;> rfl
  · by_cases hstop : w - reach < b ∧ b ≤ w + reach
    · -- the season ends here
      refine ⟨b, dst, std, steps_of_turn hdst hstd (fun u hlow hhigh => ?_) hnear
        (fun later => ?_)⟩
      · rw [inSeason_iff]
        omega
      · rw [hwall later, turn_comm later dst std]
    · -- no turn is near
      have hcalm : ∀ u, w - reach ≤ u → u ≤ w + reach →
          inSeason a b u = inSeason a b w := by
        intro u hlow hhigh
        rw [Bool.eq_iff_iff, inSeason_iff, inSeason_iff]
        omega
      have hmodest : Modest reach (if inSeason a b w then dst else std) := by
        split
        · exact hdst
        · exact hstd
      refine ⟨w, _, _, steps_of_calm hmodest (fun u hlow hhigh => ?_) (fun later => ?_)⟩
      · rw [hnear u hlow hhigh, hcalm u hlow hhigh]
      · have hturn : Modest reach (turn later std dst) := hstd.turn hdst
        unfold Modest at hturn
        rw [hwall later, hcalm _ (by omega) (by omega)]

end

/-! ## Rules -/

variable {y y' : Int}

/-- Between two years, behind the turns of the first and ahead of those of the second, the
two seasons agree. -/
theorem inSeason_of_lt (h : (Rule.yearly std dst start stop).Regular reach) (hyears : y < y')
    (hlow : yearStart y' - 8 * daySeconds ≤ u) (hhigh : u < yearStart (y + 1) + 8 * daySeconds) :
    inSeason (start.second y - std) (stop.second y - dst) u
      = inSeason (start.second y' - std) (stop.second y' - dst) u := by
  have hmeet := yearStart_le (show y + 1 ≤ y' by omega)
  have hinside := Rule.turns_inside h y
  have hinside' := Rule.turns_inside h y'
  have horder := Rule.turns_apart h y
  have horder' := Rule.turns_apart h y'
  have hday : daySeconds = 86400 := rfl
  rw [Bool.eq_iff_iff, inSeason_iff, inSeason_iff]
  -- which season it is there depends on the turn that comes last in a year
  by_cases hmonths : start.month < stop.month
  · rw [if_pos hmonths] at horder horder'
    omega
  · rw [if_neg hmonths] at horder horder'
    omega

/-- Near the turn of two years it makes no difference which of them a second is counted in: no
season begins or ends there. -/
theorem inSeason_of_near (h : (Rule.yearly std dst start stop).Regular reach) (hy : NearYear y u)
    (hy' : NearYear y' u) :
    inSeason (start.second y - std) (stop.second y - dst) u
      = inSeason (start.second y' - std) (stop.second y' - dst) u := by
  rcases lt_trichotomy y y' with hlt | rfl | hgt
  · exact inSeason_of_lt h hlt hy'.1 hy.2
  · rfl
  · exact (inSeason_of_lt h hgt hy.1 hy'.2).symm

/-- What is within a week of a second is near the year of the second. -/
theorem nearYear_yearOfSecond (hlow : u - 7 * daySeconds ≤ t) (hhigh : t ≤ u + 7 * daySeconds) :
    NearYear (yearOfSecond u) t := by
  obtain ⟨hbegun, hnext⟩ := yearOfSecond_eq_iff.mp (rfl : yearOfSecond u = yearOfSecond u)
  have hday : daySeconds = 86400 := rfl
  unfold NearYear
  omega

/-- The offset of a rule by the season of a year that is near. -/
theorem Rule.offsetAt_yearly (h : (Rule.yearly std dst start stop).Regular reach)
    (hy : NearYear y u) : (Rule.yearly std dst start stop).offsetAt (yearOfSecond u) u =
      if inSeason (start.second y - std) (stop.second y - dst) u then dst else std := by
  have hday : daySeconds = 86400 := rfl
  rw [Rule.offsetAt, inSeason_of_near h (nearYear_yearOfSecond (by omega) (by omega)) hy]

/-- The wall is read by the same season, moved on. -/
theorem Rule.offsetOnWall_eq (std dst : Int) (start stop : RuleDate) (y w : Int) (later : Bool) :
    (Rule.yearly std dst start stop).offsetOnWall y w later =
      if inSeason (start.second y - std) (stop.second y - dst) (w - turn later std dst) then dst
      else std := by
  have hmove : ∀ a b m : Int, inSeason (a + m) (b + m) w = inSeason a b (w - m) := by
    intro a b m
    rw [Bool.eq_iff_iff, inSeason_iff, inSeason_iff]
    omega
  have hstop : stop.second y - (dst - std) = stop.second y - dst + std := by omega
  have hstart : start.second y + (dst - std) = start.second y - std + dst := by omega
  have hstd := hmove (start.second y - std) (stop.second y - dst) std
  have hdst := hmove (start.second y - std) (stop.second y - dst) dst
  rw [Int.sub_add_cancel] at hstd hdst
  have hturn : turn later std dst = if later == decide (0 ≤ dst - std) then std else dst := by
    unfold turn
    -- summer time may be behind standard time
    by_cases hle : 0 ≤ dst - std
    · rw [decide_eq_true hle]
      cases later <;> simp <;> omega
    · rw [decide_eq_false hle]
      cases later <;> simp <;> omega
  rw [hturn]
  simp only [Rule.offsetOnWall, hstop, hstart, hstd, hdst]
  split <;> rfl

/-- A yearly rule reads a wall as if the turn had been taken off, in any year that is near. -/
theorem Rule.offsetOnWall_yearly (h : (Rule.yearly std dst start stop).Regular reach) {later : Bool}
    (hy : NearYear y (w - turn later std dst)) :
    (Rule.yearly std dst start stop).offsetOnWall (yearOfSecond w) w later =
      if inSeason (start.second y - std) (stop.second y - dst) (w - turn later std dst) then dst
      else std := by
  have hturn : Modest reach (turn later std dst) := h.1.2.1.turn h.1.2.2
  have hreach := h.reach_le
  have hday : daySeconds = 86400 := rfl
  unfold Modest at hturn
  rw [Rule.offsetOnWall_eq, inSeason_of_near h (nearYear_yearOfSecond (by omega) (by omega)) hy]

/-- **The offset of a rule steps at most once near any reading.** -/
theorem Rule.exists_steps {r : Rule} (h : r.Regular reach) (w : Int) :
    ∃ t a b, Steps reach (fun u => r.offsetAt (yearOfSecond u) u)
      (fun w later => r.offsetOnWall (yearOfSecond w) w later) w t a b := by
  cases r with
  | always o =>
    exact ⟨w, o, o, steps_of_calm h.2 (fun _ _ _ => rfl) (fun _ => rfl)⟩
  | yearly std dst start stop =>
    have hreach := h.reach_le
    have hday : daySeconds = 86400 := rfl
    refine exists_steps_of_season (a := start.second (yearOfSecond w) - std)
      (b := stop.second (yearOfSecond w) - dst) h.1.2.1 h.1.2.2 h.reach_le ?_
      (fun u hlow hhigh => ?_) (fun later => ?_)
    -- the season of the year of the reading, whose neighbours are out of reach
    · have hapart := Rule.turns_apart h (yearOfSecond w)
      split at hapart
      · exact .inl hapart
      · exact .inr hapart
    · exact Rule.offsetAt_yearly h (nearYear_yearOfSecond (by omega) (by omega))
    · exact Rule.offsetOnWall_eq std dst start stop (yearOfSecond w) w later

/-! ## Where a rule takes over -/

/-- A rule goes on behind a change from `before`, with the offset of the change. Its own
turn may fall on the change; otherwise it is out of reach. -/
def Rule.Continues (r : Rule) (reach before : Int) (c : Change) : Prop :=
  match r with
  | .always o => o = c.offset
  | .yearly std dst start stop =>
    let starts := start.second (yearOfSecond c.time) - std
    let stops := stop.second (yearOfSecond c.time) - dst
    c.time = starts ∧ c.offset = dst ∧ std ≤ before ∨
      c.time = stops ∧ c.offset = std ∧ dst ≤ before ∨
      (2 * reach < (c.time - starts).natAbs ∧ 2 * reach < (c.time - stops).natAbs) ∧
        (if inSeason starts stops c.time then dst else std) = c.offset

instance (r : Rule) (reach before : Int) (c : Change) :
    Decidable (r.Continues reach before c) := by
  unfold Rule.Continues
  split <;> infer_instance

/-- What the season says from `low` on, the rule says behind a change and on the wall. -/
theorem Rule.offset_of_season {c : Change} {before : Int}
    (h : (Rule.yearly std dst start stop).Regular reach) (low : Int)
    (hlow : c.time - reach ≤ low ∧ low ≤ c.time)
    (hseason : ∀ v, low ≤ v → v ≤ c.time + 2 * reach →
      (if inSeason (start.second (yearOfSecond c.time) - std)
        (stop.second (yearOfSecond c.time) - dst) v then dst else std) = c.offset)
    (hwall : ∀ later, low ≤ c.time + turn later before c.offset - turn later std dst) :
    (∀ u, c.time ≤ u → u ≤ c.time + 2 * reach →
      (Rule.yearly std dst start stop).offsetAt (yearOfSecond u) u = c.offset) ∧
    ∀ w later, c.time + turn later before c.offset ≤ w → w ≤ c.time + reach →
      (Rule.yearly std dst start stop).offsetOnWall (yearOfSecond w) w later = c.offset := by
  have hday : daySeconds = 86400 := rfl
  have hreach := h.reach_le
  refine ⟨fun u hfrom hto => ?_, fun w later hfrom hto => ?_⟩
  · rw [Rule.offsetAt_yearly h (nearYear_yearOfSecond (u := c.time) (by omega) (by omega))]
    exact hseason u (by omega) hto
  -- on the wall the season is moved by a turn, which is not more than the reach
  · have hturn : Modest reach (turn later std dst) := h.1.2.1.turn h.1.2.2
    have hbehind := hwall later
    unfold Modest at hturn
    rw [Rule.offsetOnWall_yearly h (nearYear_yearOfSecond (u := c.time) (by omega) (by omega))]
    exact hseason _ (by omega) (by omega)

/-- Behind a change that a rule continues, the rule gives the offset of the change, in
universal time and on the wall, as far as readings near the change ask. -/
theorem Rule.Continues.offset {r : Rule} {before : Int} {c : Change} (h : r.Regular reach)
    (hbefore : Modest reach before) (hbehind : Modest reach c.offset)
    (hc : r.Continues reach before c) :
    (∀ u, c.time ≤ u → u ≤ c.time + 2 * reach →
      r.offsetAt (yearOfSecond u) u = c.offset) ∧
    ∀ w later, c.time + turn later before c.offset ≤ w → w ≤ c.time + reach →
      r.offsetOnWall (yearOfSecond w) w later = c.offset := by
  cases r with
  | always o => exact ⟨fun _ _ _ => hc, fun _ _ _ _ => hc⟩
  | yearly std dst start stop =>
    have hday : daySeconds = 86400 := rfl
    have hreach := h.reach_le
    have hsome := hbefore.reach_nonneg
    have hapart := Rule.turns_apart h (yearOfSecond c.time)
    rcases hc with ⟨htime, hoffset, hle⟩ | ⟨htime, hoffset, hle⟩ | ⟨hfar, hvalue⟩
    · -- the season starts on the change
      refine Rule.offset_of_season h c.time (by omega) (fun v hfrom hto => ?_)
        (fun later => ?_)
      · have hin : inSeason (start.second (yearOfSecond c.time) - std)
            (stop.second (yearOfSecond c.time) - dst) v = true := by
          rw [inSeason_iff]
          split at hapart <;> omega
        rw [hin, if_pos rfl, hoffset]
      · have hturn := turn_le_turn hle later dst
        rw [hoffset]
        omega
    · -- the season ends on the change
      refine Rule.offset_of_season h c.time (by omega) (fun v hfrom hto => ?_)
        (fun later => ?_)
      · have hout : ¬inSeason (start.second (yearOfSecond c.time) - std)
            (stop.second (yearOfSecond c.time) - dst) v = true := by
          rw [inSeason_iff]
          split at hapart <;> omega
        rw [if_neg hout, hoffset]
      · have hturn := turn_le_turn hle later std
        rw [hoffset, turn_comm later std dst]
        omega
    · -- no turn is near: the season of the change holds two days ahead of it already, and
      -- the wall is moved by less
      refine Rule.offset_of_season h (c.time - reach) (by omega)
        (fun v hfrom hto => ?_) (fun later => ?_)
      · have hsame : inSeason (start.second (yearOfSecond c.time) - std)
            (stop.second (yearOfSecond c.time) - dst) v
              = inSeason (start.second (yearOfSecond c.time) - std)
                (stop.second (yearOfSecond c.time) - dst) c.time := by
          rw [Bool.eq_iff_iff, inSeason_iff, inSeason_iff]
          omega
        rw [hsame, hvalue]
      · have hturn : Modest reach (turn later std dst) := h.1.2.1.turn h.1.2.2
        have hchange : Modest reach (turn later before c.offset) := hbefore.turn hbehind
        unfold Modest at hturn hchange
        omega

end Cadence
