/-
Years and months, counted in days.

Days are counted from 0001-01-01. A year begins behind the days of the years before it
(`daysBeforeYear`), and the year of a day is the one that has begun by then while the next
has not (`yearOf_eq_iff`). The reader of a day number goes through whole 400-year,
100-year, 4-year and single years; `daysBeforeYear_of_parts` says how many days those are,
so both bounds are linear arithmetic in the four counts.

A month begins behind the days of the months before it (`daysBeforeMonth_succ`), and the
reader takes whole months off a day of the year (`monthOf_of_take`). So a date that exists
is read back from its day number (`civil_dayNumber`), and every day number has such a date.

What the date of a day is can be said without any of these counts: day zero is the first of
January 1970, and the day behind a date is the next of its month, or the first of the next
month, or that of the next year (`Date.next`). `IsDateOf` counts the days in this way, in
both directions, and the reader agrees with it on every day (`isDateOf_iff`).
-/
import Cadence.Calendar
import Mathlib.Algebra.Order.BigOperators.Group.List
import Mathlib.Tactic.IntervalCases

set_option autoImplicit false

namespace Cadence.Calendar

/-! ## Years -/

/-- A year has 365 days, or 366 when it is a leap year. -/
theorem daysBeforeYear_succ (y : Int) :
    daysBeforeYear (y + 1) = daysBeforeYear y + if isLeap y then 366 else 365 := by
  by_cases hleap : isLeap y = true
  · rw [if_pos hleap]
    simp only [isLeap, Bool.and_eq_true, Bool.or_eq_true, decide_eq_true_eq] at hleap
    simp only [daysBeforeYear]
    omega
  · rw [if_neg hleap]
    simp only [isLeap, Bool.and_eq_true, Bool.or_eq_true, decide_eq_true_eq] at hleap
    simp only [daysBeforeYear]
    omega

/-- Years begin in order. -/
theorem daysBeforeYear_le {y y' : Int} (h : y ≤ y') : daysBeforeYear y ≤ daysBeforeYear y' := by
  simp only [daysBeforeYear]
  omega

/-- The days of `q` times 400 years, `c` centuries, `d` times four years and `u` years. -/
theorem daysBeforeYear_of_parts {q c d u : Int} (hc : 0 ≤ c ∧ c ≤ 3) (hd : 0 ≤ d ∧ d ≤ 24)
    (hu : 0 ≤ u ∧ u ≤ 3) :
    daysBeforeYear (400 * q + 100 * c + 4 * d + u + 1)
      = 146097 * q + 36524 * c + 1461 * d + 365 * u := by
  have h4 : (400 * q + 100 * c + 4 * d + u) / 4 = 100 * q + 25 * c + d := by omega
  have h100 : (400 * q + 100 * c + 4 * d + u) / 100 = 4 * q + c := by omega
  have h400 : (400 * q + 100 * c + 4 * d + u) / 400 = q := by omega
  simp only [daysBeforeYear, Int.add_sub_cancel, h4, h100, h400]
  omega

/-- The year of a day in whole 400-year, 100-year, 4-year and single years, and the days
that are left. A 366th day is in the fourth of four years, and not in one that ends a short
century. -/
theorem exists_yearOf_parts (z : Int) : ∃ q c d u rest : Int,
    (0 ≤ c ∧ c ≤ 3) ∧ (0 ≤ d ∧ d ≤ 24) ∧ (0 ≤ u ∧ u ≤ 3) ∧
      yearOf z = (400 * q + 100 * c + 4 * d + u + 1, rest) ∧
      z = 146097 * q + 36524 * c + 1461 * d + 365 * u + rest ∧ 0 ≤ rest ∧
      (rest < 365 ∨ rest = 365 ∧ u = 3 ∧ (d = 24 → c = 3)) := by
  obtain ⟨q, hq⟩ : ∃ q, q = z / 146097 := ⟨_, rfl⟩
  obtain ⟨c, hc⟩ : ∃ c, c = min (z % 146097 / 36524) 3 := ⟨_, rfl⟩
  obtain ⟨d, hd⟩ : ∃ d, d = (z % 146097 - 36524 * c) / 1461 := ⟨_, rfl⟩
  obtain ⟨u, hu⟩ : ∃ u, u = min ((z % 146097 - 36524 * c) % 1461 / 365) 3 := ⟨_, rfl⟩
  refine ⟨q, c, d, u, (z % 146097 - 36524 * c) % 1461 - 365 * u, by omega, by omega, by omega,
    ?_, by omega, by omega, by omega⟩
  simp only [yearOf, hq, hc, hd, hu]

/-- By a day its year has begun, the days that are left have passed since, and the next
year has not begun. -/
theorem yearOf_bounds (z : Int) :
    daysBeforeYear (yearOf z).1 + (yearOf z).2 = z ∧ 0 ≤ (yearOf z).2 ∧
      z < daysBeforeYear ((yearOf z).1 + 1) := by
  obtain ⟨q, c, d, u, rest, hcb, hdb, hub, hyear, hz, hrest, hlong⟩ := exists_yearOf_parts z
  have hstart := daysBeforeYear_of_parts (q := q) hcb hdb hub
  rw [hyear, daysBeforeYear_succ (400 * q + 100 * c + 4 * d + u + 1), hstart]
  refine ⟨by omega, hrest, ?_⟩
  rcases hlong with hshort | ⟨hlong, rfl, hcentury⟩
  · split <;> omega
  · have hleap : isLeap (400 * q + 100 * c + 4 * d + 3 + 1) = true := by
      simp only [isLeap, Bool.and_eq_true, Bool.or_eq_true, decide_eq_true_eq]
      clear hyear hstart hlong hz
      omega
    rw [if_pos hleap]
    omega

/-- The year of a day is the one that has begun by then while the next has not. -/
theorem yearOf_eq_iff {z y : Int} :
    (yearOf z).1 = y ↔ daysBeforeYear y ≤ z ∧ z < daysBeforeYear (y + 1) := by
  constructor
  · rintro rfl
    obtain ⟨hbegun, hrest, hnext⟩ := yearOf_bounds z
    exact ⟨by omega, hnext⟩
  · rintro ⟨hbegun, hnext⟩
    obtain ⟨hbegun', hrest', hnext'⟩ := yearOf_bounds z
    -- the year that begins last before the day: no earlier one reaches it, and no later one has
    -- begun
    have hle : y ≤ (yearOf z).1 := by
      by_contra hlt
      have hmono := daysBeforeYear_le (show (yearOf z).1 + 1 ≤ y by omega)
      omega
    have hge : (yearOf z).1 ≤ y := by
      by_contra hlt
      have hmono := daysBeforeYear_le (show y + 1 ≤ (yearOf z).1 by omega)
      omega
    omega

theorem year_civil (n : Int) : (civil n).year = (yearOf (n + epochDay)).1 := rfl

/-! ## Months -/

/-- Each month in front counts for about thirty days. -/
theorem daysBeforeMonth_bounds (y : Int) {m : Int} (h : 1 ≤ m ∧ m ≤ 12) :
    30 * (m - 1) - 2 ≤ daysBeforeMonth y m ∧ daysBeforeMonth y m ≤ 31 * (m - 1) := by
  obtain ⟨hlow, hhigh⟩ := h
  unfold daysBeforeMonth
  generalize isLeap y = leap
  interval_cases m <;> cases leap <;> decide

/-- No month is shorter than 28 days or longer than 31. -/
theorem daysInMonth_bounds (y : Int) {m : Int} (h : 1 ≤ m ∧ m ≤ 12) :
    28 ≤ daysInMonth y m ∧ daysInMonth y m ≤ 31 := by
  obtain ⟨hlow, hhigh⟩ := h
  unfold daysInMonth
  generalize isLeap y = leap
  interval_cases m <;> cases leap <;> decide

/-- A month begins behind the days of the month before it. -/
theorem daysBeforeMonth_succ (y : Int) {m : Int} (h : 1 ≤ m ∧ m ≤ 11) :
    daysBeforeMonth y (m + 1) = daysBeforeMonth y m + daysInMonth y m := by
  obtain ⟨hlow, hhigh⟩ := h
  unfold daysBeforeMonth daysInMonth
  generalize isLeap y = leap
  interval_cases m <;> cases leap <;> decide

/-- A year has the days before its last month and those of it. -/
theorem daysBeforeMonth_last (y : Int) :
    daysBeforeMonth y 12 + daysInMonth y 12 = if isLeap y then 366 else 365 := by
  unfold daysBeforeMonth daysInMonth
  cases isLeap y <;> decide

theorem monthLengths_nonneg (leap : Bool) : ∀ n ∈ monthLengths leap, 0 ≤ n := by
  cases leap <;> decide

/-- The months make up the year. -/
theorem sum_monthLengths (leap : Bool) :
    (monthLengths leap).sum = if leap then 366 else 365 := by
  cases leap <;> decide

/-- A day that is counted into a month is found there. -/
theorem monthOf_of_take {ls : List Int} (hls : ∀ n ∈ ls, 0 ≤ n) {k : Nat} {r : Int}
    (hr : 0 ≤ r ∧ r < ls.getD k 0) (month : Int) :
    monthOf ls month ((ls.take k).sum + r) = (month + k, r + 1) := by
  -- on the months that are left: each is passed with its length taken off
  induction ls generalizing k month with
  | nil =>
    rw [List.getD_nil] at hr
    omega
  | cons n ns ih =>
    rw [List.forall_mem_cons] at hls
    cases k with
    | zero =>
      rw [List.getD_cons_zero] at hr
      rw [List.take_zero, List.sum_nil, Int.zero_add, monthOf, if_pos hr.2]
      simp
    | succ k =>
      rw [List.getD_cons_succ] at hr
      have hbefore : 0 ≤ (ns.take k).sum :=
        List.sum_nonneg (fun m hm => hls.2 m (List.mem_of_mem_take hm))
      have hrest : n + (ns.take k).sum + r - n = (ns.take k).sum + r := by omega
      rw [List.take_succ_cons, List.sum_cons, monthOf, if_neg (by omega), hrest,
        ih hls.2 hr (month + 1)]
      push_cast
      exact Prod.ext (by omega) rfl

/-- Every day of the year is counted into a month. -/
theorem exists_take_of_lt_sum {ls : List Int} {rest : Int} (hnonneg : 0 ≤ rest)
    (hlt : rest < ls.sum) :
    ∃ k r, (0 ≤ r ∧ r < ls.getD k 0) ∧ rest = (ls.take k).sum + r := by
  induction ls generalizing rest with
  | nil =>
    rw [List.sum_nil] at hlt
    omega
  | cons n ns ih =>
    rw [List.sum_cons] at hlt
    by_cases hfirst : rest < n
    · exact ⟨0, rest, ⟨hnonneg, hfirst⟩, by simp⟩
    · have hbehind : 0 ≤ rest - n := by omega
      obtain ⟨k, r, hr, hrest⟩ := ih hbehind (by omega)
      refine ⟨k + 1, r, hr, ?_⟩
      rw [List.take_succ_cons, List.sum_cons]
      omega

/-! ## Dates -/

/-- The day of a date lies in its month, and its month in its year. -/
theorem Date.Exists.bounds {d : Date} (h : d.Exists) :
    daysBeforeYear d.year ≤ dayNumber d + epochDay ∧
      dayNumber d + epochDay < daysBeforeYear (d.year + 1) := by
  obtain ⟨hlow, hhigh, hfirst, hlast⟩ := h
  have hbefore := daysBeforeMonth_bounds d.year ⟨hlow, hhigh⟩
  have hin := daysInMonth_bounds d.year ⟨hlow, hhigh⟩
  have hyear := daysBeforeYear_succ d.year
  have hend := daysBeforeMonth_last d.year
  rw [dayNumber]
  -- the month and its days end within the year, December with it
  have hinside : daysBeforeMonth d.year d.month + daysInMonth d.year d.month
      ≤ if isLeap d.year then 366 else 365 := by
    by_cases hdecember : d.month = 12
    · rw [hdecember, hend]
    · have hnext := daysBeforeMonth_succ d.year (m := d.month) ⟨hlow, by omega⟩
      have hbound := daysBeforeMonth_bounds d.year (m := d.month + 1) ⟨by omega, by omega⟩
      split <;> omega
  have hstart : 0 ≤ daysBeforeMonth d.year d.month := by
    by_cases hjanuary : d.month = 1
    · rw [hjanuary]
      exact le_refl 0
    · omega
  omega

/-- **A date that exists is read back from its day number.** -/
theorem civil_dayNumber {d : Date} (h : d.Exists) : civil (dayNumber d) = d := by
  have hyear : (yearOf (dayNumber d + epochDay)).1 = d.year := yearOf_eq_iff.mpr h.bounds
  obtain ⟨hlow, hhigh, hfirst, hlast⟩ := h
  obtain ⟨hrest, -, -⟩ := yearOf_bounds (dayNumber d + epochDay)
  rw [hyear] at hrest
  -- what is left of the day number behind the year are the months before this one and its days
  have hday : (yearOf (dayNumber d + epochDay)).2
      = ((monthLengths (isLeap d.year)).take (d.month - 1).toNat).sum + (d.day - 1) := by
    have hbefore : daysBeforeMonth d.year d.month
        = ((monthLengths (isLeap d.year)).take (d.month - 1).toNat).sum := rfl
    rw [← hbefore]
    rw [dayNumber] at hrest ⊢
    omega
  have hmonth := monthOf_of_take (monthLengths_nonneg (isLeap d.year))
    (k := (d.month - 1).toNat) (r := d.day - 1) ⟨by omega, by rw [daysInMonth] at hlast; omega⟩ 1
  simp only [civil, hyear, hday, hmonth]
  obtain ⟨year, month, day⟩ := d
  simp only [Date.mk.injEq, true_and]
  simp only at hlow
  omega

/-- Every day has a date. -/
theorem exists_dayNumber_eq (n : Int) : ∃ d : Date, d.Exists ∧ dayNumber d = n := by
  obtain ⟨hyear, hnonneg, hnext⟩ := yearOf_bounds (n + epochDay)
  generalize (yearOf (n + epochDay)).1 = year at hyear hnext
  generalize (yearOf (n + epochDay)).2 = rest at hyear hnonneg
  rw [daysBeforeYear_succ] at hnext
  have hlt : rest < (monthLengths (isLeap year)).sum := by
    rw [sum_monthLengths]
    omega
  obtain ⟨k, r, hr, hrest⟩ := exists_take_of_lt_sum hnonneg hlt
  -- behind the twelfth month no length is left that could hold the rest
  have hk : k < 12 := by
    by_contra hk
    have hlength : (monthLengths (isLeap year)).length ≤ k := Nat.le_of_not_lt hk
    rw [List.getD_eq_getElem?_getD, List.getElem?_eq_none hlength, Option.getD_none] at hr
    omega
  have hmonth : ((k : Int) + 1 - 1).toNat = k := by omega
  have hin : daysInMonth year (k + 1) = (monthLengths (isLeap year)).getD k 0 := by
    rw [daysInMonth, hmonth]
  have hbefore : daysBeforeMonth year (k + 1) = ((monthLengths (isLeap year)).take k).sum := by
    rw [daysBeforeMonth, hmonth]
    rfl
  refine ⟨⟨year, k + 1, r + 1⟩, ⟨by simp only; omega, by simp only; omega, by simp only; omega,
    by simp only [hin]; omega⟩, ?_⟩
  simp only [dayNumber, hbefore]
  omega

/-- The date of the day behind. -/
def Date.next (d : Date) : Date :=
  if d.day < daysInMonth d.year d.month then ⟨d.year, d.month, d.day + 1⟩
  else if d.month < 12 then ⟨d.year, d.month + 1, 1⟩
  else ⟨d.year + 1, 1, 1⟩

/-- The next date exists, and its number is the next. -/
theorem Date.Exists.next {d : Date} (h : d.Exists) :
    d.next.Exists ∧ dayNumber d.next = dayNumber d + 1 := by
  obtain ⟨hlow, hhigh, hfirst, hlast⟩ := h
  rw [Date.next]
  by_cases hday : d.day < daysInMonth d.year d.month
  · rw [if_pos hday]
    refine ⟨⟨hlow, hhigh, by simp only; omega, by simp only; omega⟩, ?_⟩
    simp only [dayNumber]
    omega
  · rw [if_neg hday]
    by_cases hmonth : d.month < 12
    · rw [if_pos hmonth]
      have hnext := daysBeforeMonth_succ d.year (m := d.month) ⟨hlow, by omega⟩
      have hin := daysInMonth_bounds d.year (m := d.month + 1) ⟨by omega, by omega⟩
      refine ⟨⟨by simp only; omega, by simp only; omega, le_refl 1, by simp only; omega⟩, ?_⟩
      simp only [dayNumber, hnext]
      omega
    · rw [if_neg hmonth]
      -- over the end of a year
      have hdecember : d.month = 12 := by omega
      have hend := daysBeforeMonth_last d.year
      have hfirst : daysBeforeMonth (d.year + 1) 1 = 0 := rfl
      have hin := daysInMonth_bounds (d.year + 1) (m := 1) ⟨le_refl 1, by omega⟩
      refine ⟨⟨le_refl 1, by simp only; omega, le_refl 1, by simp only; omega⟩, ?_⟩
      rw [hdecember] at hday hlast
      simp only [dayNumber, daysBeforeYear_succ, hfirst, hdecember]
      omega

/-- `d` is the date of day `n`, counted day by day from the first of January 1970, onwards
and back. -/
inductive IsDateOf : Int → Date → Prop
  | epoch : IsDateOf 0 ⟨1970, 1, 1⟩
  | next {n : Int} {d : Date} : IsDateOf n d → IsDateOf (n + 1) d.next
  | previous {n : Int} {d : Date} : d.Exists → IsDateOf (n + 1) d.next → IsDateOf n d

/-- Counting day by day comes to the dates that exist, under their numbers. -/
theorem isDateOf_iff_exists {n : Int} {d : Date} :
    IsDateOf n d ↔ d.Exists ∧ dayNumber d = n := by
  constructor
  · intro h
    -- counting day by day keeps the day number in step
    induction h with
    | epoch => decide
    | next _ ih => exact ⟨ih.1.next.1, by rw [ih.1.next.2, ih.2]⟩
    | previous hd _ ih =>
      refine ⟨hd, ?_⟩
      have hnext := hd.next.2
      omega
  · -- from day zero, first onwards, then back
    induction n using Int.induction_on generalizing d with
    | zero =>
      rintro ⟨hd, hn⟩
      have hepoch : civil 0 = ⟨1970, 1, 1⟩ := by decide
      rw [← civil_dayNumber hd, hn, hepoch]
      exact .epoch
    | succ i ih =>
      rintro ⟨hd, hn⟩
      obtain ⟨e, he, hi⟩ := exists_dayNumber_eq i
      obtain ⟨hnext, hnumber⟩ := he.next
      rw [← civil_dayNumber hd, hn, ← hi, ← hnumber, civil_dayNumber hnext]
      rw [hnumber, hi]
      exact (ih ⟨he, hi⟩).next
    | pred i ih =>
      rintro ⟨hd, hn⟩
      obtain ⟨hnext, hnumber⟩ := hd.next
      refine .previous hd ?_
      rw [Int.sub_add_cancel]
      exact ih ⟨hnext, by omega⟩

/-- **The reader gives every day its date.** -/
theorem isDateOf_iff {n : Int} {d : Date} : IsDateOf n d ↔ d = civil n := by
  rw [isDateOf_iff_exists]
  constructor
  · rintro ⟨hd, rfl⟩
    exact (civil_dayNumber hd).symm
  · rintro rfl
    obtain ⟨e, he, rfl⟩ := exists_dayNumber_eq n
    rw [civil_dayNumber he]
    exact ⟨he, rfl⟩

end Cadence.Calendar
