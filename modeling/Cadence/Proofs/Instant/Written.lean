/-
Moments written and read back.

What the writer puts down is read by parts. A number of a fixed width is read off the front of
any text (`readDigits_of_fills`), so that groups, clocks and dates are read with anything
behind them, and the separator is found from the date alone (`separatorAt_of_fills`). No sign
stands in a time of day (`startsOffset_timeText`), hence an offset begins at the first sign
behind the separator and a hyphen of the date is none. A written moment ends in a digit, so the
rewriting of a final letter leaves it alone (`spellZulu_of_digit`).

From the parts of a wall reading the reader puts the same reading together (`wall_of_parts`).
`parse_iso` joins the two for aware moments, for the offset zero spelled as a letter and for
naive moments, which are read in universal time.
-/
import Cadence.Instant.Reader
import Cadence.Proofs.Instant.Advance
import Cadence.Proofs.Number.Numeral

set_option autoImplicit false

namespace Cadence

open Cadence.Number (Fills fills_padded isDigit_of_mem_padded padded)
open Cadence.Text (isDigit)

namespace IsoText

variable {s f rest : List Char} {w v u left : Nat} {colons : Option Bool} {done : List Nat}

/-! ## Digits -/

/-- A number of fixed width is read from its digits, whatever follows. -/
theorem readDigits_of_fills (hs : Fills s w v) : readDigits w (s ++ rest) = some (v, rest) := by
  rw [readDigits, ← hs.length, List.take_left, List.drop_left]
  simp only [decide_true, Bool.true_and, List.all_eq_true.mpr hs.isDigit, if_true, hs.value]

/-- Nothing need follow. -/
theorem readDigits_of_fills_end (hs : Fills s w v) : readDigits w s = some (v, []) := by
  have h : readDigits w (s ++ []) = some (v, []) := readDigits_of_fills hs
  rwa [List.append_nil] at h

/-- Two digits are told from what may stand in their place. -/
theorem exists_two_digits (hs : Fills s 2 v) :
    ∃ a b, s = [a, b] ∧ isDigit a = true ∧ isDigit b = true := by
  obtain ⟨a, b, rfl⟩ := List.length_eq_two.mp hs.length
  exact ⟨a, b, rfl, hs.isDigit a (by simp), hs.isDigit b (by simp)⟩

theorem ne_of_isDigit {a c : Char} (ha : isDigit a = true) (hc : isDigit c = false) : a ≠ c := by
  rintro rfl
  exact Bool.noConfusion (ha.symm.trans hc)

/-! ## Groups -/

/-- A group with a colon behind it. -/
theorem readGroups_colon (hs : Fills s 2 v) (hrest : rest ≠ []) (hcolons : colons ≠ some false) :
    readGroups (left + 1) colons done (s ++ ':' :: rest)
      = readGroups left (some true) (done ++ [v]) rest := by
  obtain ⟨c, r, rfl⟩ := List.exists_cons_of_ne_nil hrest
  -- either this is the first separator, or the first one was a colon too
  have hcolon : colons.getD true = true := by
    match colons, hcolons with
    | none, _ => rfl
    | some true, _ => rfl
  rw [readGroups, readDigits_of_fills hs]
  simp [hcolon]

/-- The last group. -/
theorem readGroups_end (hs : Fills s 2 v) :
    readGroups (left + 1) colons done s = some (done ++ [v], 0, true) := by
  rw [readGroups, readDigits_of_fills_end hs]
  rfl

/-- The last group with a fraction of six digits. -/
theorem readGroups_fraction (hs : Fills s 2 v) (hf : Fills f 6 u) :
    readGroups (left + 1) colons done (s ++ '.' :: f) = some (done ++ [v], u, true) := by
  have hread : readFraction f = some (u, []) := by
    rw [readFraction, hf.length]
    simp [readDigits_of_fills_end hf]
  rw [readGroups, readDigits_of_fills hs]
  simp [hf.ne_nil (by decide), hread, isEnd]

/-! ## Clocks -/

variable {hs ms ss time off : List Char} {h m n : Nat} {clock o : Clock}

/-- Hours and minutes. -/
theorem readClock_minutes (hhour : Fills hs 2 h) (hminute : Fills ms 2 m) :
    readClock (hs ++ ':' :: ms) = some ⟨h, m, 0, 0, true⟩ := by
  rw [readClock, readGroups_colon hhour (hminute.ne_nil (by decide)) (by simp),
    readGroups_end hminute]
  rfl

/-- Hours, minutes and seconds, with a fraction unless it is zero. -/
theorem readClock_seconds (hhour : Fills hs 2 h) (hminute : Fills ms 2 m) (hsecond : Fills ss 2 n)
    (hu : u < 1000000) :
    readClock (hs ++ ':' :: (ms ++ ':' :: (ss ++ (Moment.fractionText u).toList)))
      = some ⟨h, m, n, u, true⟩ := by
  have hne : ss ++ (Moment.fractionText u).toList ≠ [] :=
    List.append_ne_nil_of_left_ne_nil (hsecond.ne_nil (by decide)) _
  rw [readClock, readGroups_colon hhour (by simp) (by simp), readGroups_colon hminute hne (by simp)]
  -- a fraction of zero is not written
  rcases Nat.eq_zero_or_pos u with rfl | hpos
  · have hnone : (Moment.fractionText 0).toList = [] := rfl
    rw [hnone, List.append_nil, readGroups_end hsecond]
    rfl
  · have hdot : (Moment.fractionText u).toList = '.' :: (padded 6 u).toList := by
      rw [Moment.fractionText, if_neg (by omega), String.toList_append]
      rfl
    rw [hdot, readGroups_fraction hsecond (fills_padded (by decide) hu)]
    rfl

/-! ## A time and its offset -/

/-- A time without an offset. -/
theorem readTime_local (hclock : readClock time = some clock) (hwhole : clock.whole = true)
    (htime : ∀ c ∈ time, startsOffset c = false) : readTime time = some (clock, none) := by
  have hall : time.takeWhile (fun c => !startsOffset c) = time :=
    List.takeWhile_eq_self_iff.mpr (fun c hc => by simp [htime c hc])
  rw [readTime]
  simp [hall, hclock, hwhole]

/-- A time with an offset behind a sign. -/
theorem readTime_offset (hclock : readClock time = some clock)
    (htime : ∀ c ∈ time, startsOffset c = false) {sign : Char} (hsign : sign = '+' ∨ sign = '-')
    (hoff : readClock off = some o) (hwhole : o.whole = true) (hmicro : o.micro = 0) :
    readTime (time ++ sign :: off) = some (clock, some
      (if sign = '-' then -(o.seconds * secondMicros) else o.seconds * secondMicros)) := by
  have hstarts : startsOffset sign = true := by
    rcases hsign with rfl | rfl <;> rfl
  have hall : (time ++ sign :: off).takeWhile (fun c => !startsOffset c) = time := by
    rw [List.takeWhile_append_of_pos (fun c hc => by simp [htime c hc])]
    simp [hstarts]
  -- an offset of zero is read as such, whatever its sign
  by_cases hzero : o.seconds = 0
  · rcases hsign with rfl | rfl <;> simp [readTime, hall, hclock, hoff, hwhole, hzero]
  · rcases hsign with rfl | rfl <;> simp [readTime, hall, hclock, hoff, hwhole, hmicro, hzero]

/-! ## Dates -/

variable {ys ds : List Char} {y d : Nat}

/-- A date with hyphens is no week date. -/
theorem readDate_of_fills (hyear : Fills ys 4 y) (hmonth : Fills ms 2 m) (hday : Fills ds 2 d) :
    readDate (ys ++ '-' :: (ms ++ '-' :: ds)) = some (.ok ⟨y, m, d⟩) := by
  have hread : readDigits 2 (ms ++ '-' :: ds) = some (m, '-' :: ds) := readDigits_of_fills hmonth
  obtain ⟨a, b, rfl, ha, -⟩ := exists_two_digits hmonth
  have hno : a ≠ 'W' := ne_of_isDigit ha (by decide)
  simp only [List.cons_append, List.nil_append] at hread
  rw [readDate, readDigits_of_fills hyear]
  simp [hno, hread, readDigits_of_fills_end hday]

/-- Behind such a date stands the separator. -/
theorem separatorAt_of_fills (hyear : Fills ys 4 y) (hmonth : Fills ms 2 m) (hday : Fills ds 2 d)
    (rest : List Char) :
    separatorAt (ys ++ '-' :: (ms ++ '-' :: (ds ++ rest))) = some 10 := by
  obtain ⟨a, b, rfl, ha, -⟩ := exists_two_digits hmonth
  have hno : a ≠ 'W' := ne_of_isDigit ha (by decide)
  -- a hyphen behind the year, and no week behind the hyphen: the date has ten characters
  have hfour : (ys ++ '-' :: ([a, b] ++ '-' :: (ds ++ rest)))[4]? = some '-' := by
    rw [List.getElem?_append_right (by rw [hyear.length]), hyear.length]
    rfl
  have hfive : (ys ++ '-' :: ([a, b] ++ '-' :: (ds ++ rest)))[5]? = some a := by
    rw [List.getElem?_append_right (by rw [hyear.length]; decide), hyear.length]
    rfl
  have hlong : 7 < (ys ++ '-' :: ([a, b] ++ '-' :: (ds ++ rest))).length := by
    simp [hyear.length, hday.length]
    omega
  rw [separatorAt]
  simp only [hfour, hfive]
  rw [if_neg (by omega), if_neg (by omega), if_true, if_neg (by simpa using hno)]

/-- A date is read up to the separator, a time behind it. -/
theorem readParts_of_fills (hyear : Fills ys 4 y) (hmonth : Fills ms 2 m) (hday : Fills ds 2 d)
    {t : Clock × Option Int} (htime : readTime time = some t) :
    readParts (ys ++ '-' :: (ms ++ '-' :: (ds ++ 'T' :: time)))
      = some (.ok ⟨y, m, d⟩, some t) := by
  have hlength : (ys ++ '-' :: (ms ++ '-' :: ds)).length = 10 := by
    simp [hyear.length, hmonth.length, hday.length]
  have hsplit : ys ++ '-' :: (ms ++ '-' :: (ds ++ 'T' :: time))
      = (ys ++ '-' :: (ms ++ '-' :: ds)) ++ 'T' :: time := by simp
  rw [readParts, separatorAt_of_fills hyear hmonth hday]
  simp only [hsplit, Option.bind_eq_bind, Option.bind_some, ← hlength, List.take_left,
    List.drop_left, readDate_of_fills hyear hmonth hday, htime]

/-- What is well formed is the moment of its parts. -/
theorem read_of_parts {text : String} {date : Calendar.Date} {clock : Clock} {offset : Option Int}
    {place : Place} {wall : Int}
    (hparts : readParts text.toList = some (.ok date, some (clock, offset)))
    (hplace : placeOf offset = .ok place)
    (hwall : WallParts.wall ⟨date.year, date.month, date.day, clock.hour, clock.minute,
      clock.second, clock.micro⟩ = .ok wall) : read text = .ok ⟨wall, place, false⟩ := by
  rw [read, hparts]
  simp only [Option.bind_some, hplace, Option.map_some, Option.getD_some, bind_eq_ok_iff,
    pure_eq_ok_iff]
  exact ⟨place, rfl, date, rfl, wall, hwall, rfl⟩

end IsoText

/-! ## The final letter -/

/-- The text ends in a digit. -/
def EndsInDigit (s : List Char) : Prop := ∃ c ∈ s.getLast?, isDigit c = true

/-- A number of fixed width ends in a digit, unless it has none. -/
theorem endsInDigit_of_fills {s : List Char} {w v : Nat} (hs : Fills s w v) (hw : 0 < w) :
    EndsInDigit s := by
  have hne : s ≠ [] := hs.ne_nil hw
  exact ⟨s.getLast hne, List.getLast?_eq_some_getLast hne, hs.isDigit _ (List.getLast_mem hne)⟩

/-- Only what stands at the end counts. -/
theorem EndsInDigit.append {s : List Char} (h : EndsInDigit s) (r : List Char) :
    EndsInDigit (r ++ s) := by
  obtain ⟨c, hc, hdigit⟩ := h
  refine ⟨c, ?_, hdigit⟩
  rw [Option.mem_def, List.getLast?_append, Option.mem_def.mp hc]
  rfl

theorem EndsInDigit.cons {s : List Char} (h : EndsInDigit s) (a : Char) : EndsInDigit (a :: s) :=
  h.append [a]

/-- A text that ends in a digit is read as it is. -/
theorem spellZulu_of_digit {text : String} (h : EndsInDigit text.toList) :
    spellZulu text = text := by
  obtain ⟨c, hc, hdigit⟩ := h
  obtain ⟨r, hr⟩ := List.getLast?_eq_some_iff.mp hc
  have hupper : c ≠ 'Z' := IsoText.ne_of_isDigit hdigit (by decide)
  have hlower : c ≠ 'z' := IsoText.ne_of_isDigit hdigit (by decide)
  rw [spellZulu, hr, List.reverse_append]
  simp [hupper, hlower]

/-- A final letter stands for the offset zero. -/
theorem spellZulu_append {text z : String} (hz : z = "Z" ∨ z = "z") :
    spellZulu (text ++ z) = text ++ "+00:00" := by
  rcases hz with rfl | rfl
  all_goals
    rw [spellZulu, String.toList_append, ← String.toList_inj]
    simp

/-! ## The wall -/

namespace Moment

variable {wall : Int}

/-- The date of a wall reading in the years. -/
theorem date_of_inYears (h : inYears wall = true) :
    let date := Calendar.civil (wall / secondMicros / daySeconds)
    date.Exists ∧ Calendar.dayNumber date = wall / secondMicros / daySeconds ∧
      1 ≤ date.year ∧ date.year ≤ 9999 := by
  intro date
  obtain ⟨hexists, hnumber⟩ :=
    Calendar.isDateOf_iff_exists.mp (Calendar.isDateOf_iff.mpr (rfl : date = _))
  refine ⟨hexists, hnumber, ?_⟩
  obtain ⟨hlow, hhigh⟩ := inYears_iff.mp h
  rw [minDay_maxDay.1] at hlow
  rw [minDay_maxDay.2] at hhigh
  -- the first and the last day of the years, counted from the epoch
  have hday : -719162 ≤ wall / secondMicros / daySeconds ∧
      wall / secondMicros / daySeconds ≤ 2932896 := by
    simp only [dayMicros, secondMicros, daySeconds] at hlow hhigh ⊢
    omega
  have hyearOf : (Calendar.yearOf (wall / secondMicros / daySeconds + Calendar.epochDay)).1
      = date.year := rfl
  have hbegun := Calendar.yearOf_eq_iff.mp hyearOf
  simp only [Calendar.epochDay] at hbegun
  have hfirst : Calendar.daysBeforeYear 1 = 0 := by decide
  have hlast : Calendar.daysBeforeYear 10000 = 3652059 := by decide
  constructor
  · by_contra hyear
    have hmono := Calendar.daysBeforeYear_le (show date.year + 1 ≤ 1 by omega)
    omega
  · by_contra hyear
    have hmono := Calendar.daysBeforeYear_le (show 10000 ≤ date.year by omega)
    omega

/-- The parts of a wall reading in the years put together give the reading. -/
theorem wall_of_parts (h : inYears wall = true) :
    let s := wall / secondMicros
    let date := Calendar.civil (s / daySeconds)
    WallParts.wall ⟨date.year, date.month, date.day, s / 3600 % 24, s / 60 % 60, s % 60,
      wall % secondMicros⟩ = .ok wall := by
  intro s date
  obtain ⟨⟨hmonth, hmonth', hday, hday'⟩, hnumber, hyear, hyear'⟩ := date_of_inYears h
  have hsame : Calendar.dayNumber ⟨date.year, date.month, date.day⟩ = s / daySeconds := hnumber
  -- the digits of the clock make up the second of the day again
  have hwall : (s / daySeconds * daySeconds + s / 3600 % 24 * 3600 + s / 60 % 60 * 60 + s % 60)
      * secondMicros + wall % secondMicros = wall := by
    simp only [daySeconds, secondMicros, s]
    omega
  rw [WallParts.wall]
  simp only [hsame, hwall, Calendar.minYear, Calendar.maxYear]
  rw [if_neg (not_or.mpr ⟨not_lt.mpr hyear, not_lt.mpr hyear'⟩),
    if_neg (not_or.mpr ⟨not_lt.mpr hmonth, not_lt.mpr hmonth'⟩),
    if_neg (not_or.mpr ⟨not_lt.mpr hday, not_lt.mpr hday'⟩), if_neg (by omega), if_neg (by omega),
    if_neg (by omega)]

/-- The time of day of a wall reading, as it is written. -/
def timeText (wall : Int) : List Char :=
  let s := wall / secondMicros
  (padded 2 (s / 3600 % 24).toNat).toList ++ ':' :: ((padded 2 (s / 60 % 60).toNat).toList ++
    ':' :: ((padded 2 (s % 60).toNat).toList ++ (fractionText (wall % secondMicros).toNat).toList))

/-- The date of a wall reading, as it is written, with more behind it. -/
def dateText (wall : Int) (rest : List Char) : List Char :=
  let date := Calendar.civil (wall / secondMicros / daySeconds)
  (padded 4 date.year.toNat).toList ++ '-' :: ((padded 2 date.month.toNat).toList ++
    '-' :: ((padded 2 date.day.toNat).toList ++ rest))

/-- A wall is written as its date, a letter and its time. -/
theorem toList_wallText (wall : Int) :
    (wallText wall).toList = dateText wall ('T' :: timeText wall) := by
  simp [wallText, dateText, timeText]

/-- The same time of day, as it is read. -/
def clockOf (wall : Int) : IsoText.Clock :=
  let s := wall / secondMicros
  ⟨(s / 3600 % 24).toNat, (s / 60 % 60).toNat, (s % 60).toNat, (wall % secondMicros).toNat, true⟩

theorem micro_lt (wall : Int) : (wall % secondMicros).toNat < 1000000 := by
  unfold secondMicros
  omega

/-- A time is read back from its text. -/
theorem readClock_timeText (wall : Int) :
    IsoText.readClock (timeText wall) = some (clockOf wall) :=
  IsoText.readClock_seconds (fills_padded (by decide) (by omega))
    (fills_padded (by decide) (by omega)) (fills_padded (by decide) (by omega)) (micro_lt wall)

/-- No sign stands in a time of day. -/
theorem startsOffset_timeText {c : Char} (hc : c ∈ timeText wall) :
    IsoText.startsOffset c = false := by
  have hdigit : ∀ {w n : Nat}, c ∈ (padded w n).toList → IsoText.startsOffset c = false := by
    intro w n hpadded
    have h := isDigit_of_mem_padded hpadded
    have hplus : c ≠ '+' := IsoText.ne_of_isDigit h (by decide)
    have hminus : c ≠ '-' := IsoText.ne_of_isDigit h (by decide)
    have hzulu : c ≠ 'Z' := IsoText.ne_of_isDigit h (by decide)
    simp [IsoText.startsOffset, hplus, hminus, hzulu]
  rw [timeText] at hc
  simp only [List.mem_append, List.mem_cons] at hc
  -- digits, colons and a point, none of which starts an offset
  rcases hc with hc | rfl | hc | rfl | hc | hc
  · exact hdigit hc
  · rfl
  · exact hdigit hc
  · rfl
  · exact hdigit hc
  · rw [fractionText] at hc
    split at hc
    · cases hc
    · rw [String.toList_append, List.mem_append] at hc
      rcases hc with hc | hc
      · rw [List.mem_singleton.mp hc]
        rfl
      · exact hdigit hc

/-- A time ends in a digit, of its fraction or of its seconds. -/
theorem endsInDigit_timeText (wall : Int) : EndsInDigit (timeText wall) := by
  have hsecond : EndsInDigit (padded 2 (wall / secondMicros % 60).toNat).toList :=
    endsInDigit_of_fills (fills_padded (by decide) (by omega)) (by decide)
  refine .append (.cons (.append (.cons ?_ _) _) _) _
  -- without a fraction the seconds are last
  rcases Nat.eq_zero_or_pos (wall % secondMicros).toNat with hzero | hpos
  · rw [hzero, fractionText, if_pos rfl, String.toList_empty, List.append_nil]
    exact hsecond
  · rw [fractionText, if_neg (by omega), String.toList_append]
    exact .append (.append
      (endsInDigit_of_fills (fills_padded (by decide) (micro_lt wall)) (by decide)) _) _

theorem endsInDigit_dateText {rest : List Char} (h : EndsInDigit rest) :
    EndsInDigit (dateText wall rest) :=
  .append (.cons (.append (.cons (.append h _) _) _) _) _

/-- A text with the date of a wall reading and its time of day is read as the wall reading. -/
theorem read_of_dateText (h : inYears wall = true) {text : String} {time : List Char}
    {offset : Option Int} {place : Place} (htext : text.toList = dateText wall ('T' :: time))
    (htime : IsoText.readTime time = some (clockOf wall, offset))
    (hplace : IsoText.placeOf offset = .ok place) :
    IsoText.read text = .ok ⟨wall, place, false⟩ := by
  obtain ⟨hexists, -, hyear, hyear'⟩ := date_of_inYears h
  have hwall := wall_of_parts h
  simp only [dateText] at hwall htext
  -- the date enters by its bounds only, and by the wall reading that its parts give
  generalize Calendar.civil (wall / secondMicros / daySeconds) = date at *
  obtain ⟨hmonth, hmonth', hday, hday'⟩ := hexists
  have hdays := Calendar.daysInMonth_bounds date.year ⟨hmonth, hmonth'⟩
  have hys : Fills (padded 4 date.year.toNat).toList 4 date.year.toNat :=
    fills_padded (by decide) (by omega)
  have hms : Fills (padded 2 date.month.toNat).toList 2 date.month.toNat :=
    fills_padded (by decide) (by omega)
  have hds : Fills (padded 2 date.day.toNat).toList 2 date.day.toNat :=
    fills_padded (by decide) (by omega)
  have hparts := htext ▸ IsoText.readParts_of_fills hys hms hds htime
  refine IsoText.read_of_parts hparts hplace ?_
  have hcast : ∀ n : Int, 0 ≤ n → (n.toNat : Int) = n := fun n => Int.toNat_of_nonneg
  simp only [clockOf]
  rw [hcast _ (by omega), hcast _ (by omega), hcast _ (by omega), hcast _ (by omega),
    hcast _ (by omega), hcast _ (by omega), hcast _ (by unfold secondMicros; omega)]
  exact hwall

/-! ## The offset -/

/-- What stands behind the sign of an offset of whole seconds. -/
def sizeText (n : Nat) : List Char :=
  (padded 2 (n / 3600)).toList ++ ':' :: ((padded 2 (n / 60 % 60)).toList ++
    if n % 60 = 0 then [] else ':' :: (padded 2 (n % 60)).toList)

/-- The sign of an offset; zero has a plus. -/
def signOf (k : Int) : Char := if k < 0 then '-' else '+'

/-- An offset of whole seconds is written with its sign in front of its size. -/
theorem toList_offsetText (k : Int) :
    (offsetText (k * secondMicros)).toList = signOf k :: sizeText k.natAbs := by
  have hseconds : (k * secondMicros).natAbs / 1000000 = k.natAbs := by
    unfold secondMicros
    omega
  -- an offset of whole seconds has no fraction
  have hmicros : (k * secondMicros).natAbs % 1000000 = 0 := by
    unfold secondMicros
    omega
  have hsign : k * secondMicros < 0 ↔ k < 0 := by
    unfold secondMicros
    omega
  rw [offsetText, sizeText, signOf]
  simp only [hseconds, hmicros, hsign, fractionText]
  by_cases hneg : k < 0
  · by_cases hzero : k.natAbs % 60 = 0 <;> simp [hneg, hzero]
  · by_cases hzero : k.natAbs % 60 = 0 <;> simp [hneg, hzero]

theorem offsetText_zero : offsetText 0 = "+00:00" := by decide +kernel

/-- The size of an offset of less than a day is read. -/
theorem readClock_sizeText {n : Nat} (hn : n < 86400) :
    IsoText.readClock (sizeText n) = some ⟨n / 3600, n / 60 % 60, n % 60, 0, true⟩ := by
  have hhour : Fills (padded 2 (n / 3600)).toList 2 (n / 3600) :=
    fills_padded (by decide) (by omega)
  have hminute : Fills (padded 2 (n / 60 % 60)).toList 2 (n / 60 % 60) :=
    fills_padded (by decide) (by omega)
  have hsecond : Fills (padded 2 (n % 60)).toList 2 (n % 60) := fills_padded (by decide) (by omega)
  rw [sizeText]
  split
  case isTrue hzero => rw [List.append_nil, IsoText.readClock_minutes hhour hminute, hzero]
  case isFalse =>
    have hread := IsoText.readClock_seconds hhour hminute hsecond (u := 0) (by decide)
    rwa [fractionText, if_pos rfl, String.toList_empty, List.append_nil] at hread

/-- The size of an offset ends in a digit too. -/
theorem endsInDigit_sizeText {n : Nat} : EndsInDigit (sizeText n) := by
  have hminute : Fills (padded 2 (n / 60 % 60)).toList 2 (n / 60 % 60) :=
    fills_padded (by decide) (by omega)
  have hsecond : Fills (padded 2 (n % 60)).toList 2 (n % 60) := fills_padded (by decide) (by omega)
  refine .append (.cons ?_ _) _
  split
  · rw [List.append_nil]
    exact endsInDigit_of_fills hminute (by decide)
  · exact .append (.cons (endsInDigit_of_fills hsecond (by decide)) _) _

/-- A time of day with an offset of less than a day is read with it. -/
theorem readTime_sizeText {k : Int} (hlow : -86400 < k) (hhigh : k < 86400) :
    IsoText.readTime (timeText wall ++ signOf k :: sizeText k.natAbs)
      = some (clockOf wall, some (k * secondMicros)) := by
  have hsign : signOf k = '+' ∨ signOf k = '-' := by
    rw [signOf]
    split
    · exact .inr rfl
    · exact .inl rfl
  have hread := IsoText.readTime_offset (readClock_timeText wall)
    (fun c => startsOffset_timeText) hsign (readClock_sizeText (n := k.natAbs) (by omega)) rfl rfl
  have hsize : IsoText.Clock.seconds
      ⟨k.natAbs / 3600, k.natAbs / 60 % 60, k.natAbs % 60, 0, true⟩ = k.natAbs := by
    simp only [IsoText.Clock.seconds]
    omega
  rw [hread, hsize]
  -- the sign is read and put back before the size
  by_cases hneg : k < 0
  · have hminus : signOf k = '-' := if_pos hneg
    have habs : -((k.natAbs : Int) * secondMicros) = k * secondMicros := by
      unfold secondMicros
      omega
    rw [if_pos hminus, habs]
  · have hplus : signOf k ≠ '-' := by
      rw [signOf, if_neg hneg]
      decide
    have habs : (k.natAbs : Int) * secondMicros = k * secondMicros := by
      unfold secondMicros
      omega
    rw [if_neg hplus, habs]

/-! ## Written and read back -/

/-- A text with a date, a time of day and an offset of less than a day is a moment there. -/
theorem parse_of_offset (h : inYears wall = true) {text : String} {k : Int} (hlow : -86400 < k)
    (hhigh : k < 86400)
    (htext : (spellZulu text).toList = (wallText wall).toList ++ signOf k :: sizeText k.natAbs) :
    parse text = .ok ⟨wall, .fixed (k * secondMicros), false⟩ := by
  have hplace : IsoText.placeOf (some (k * secondMicros)) = .ok (.fixed (k * secondMicros)) := by
    rw [IsoText.placeOf, if_pos (by unfold dayMicros secondMicros; omega)]
  have hread : IsoText.read (spellZulu text) = .ok ⟨wall, .fixed (k * secondMicros), false⟩ := by
    refine read_of_dateText h ?_ (readTime_sizeText hlow hhigh) hplace
    rw [htext, toList_wallText]
    simp [dateText]
  rw [parse, hread]
  rfl

/-- **A moment is read back from its text**: an aware one, with an offset of whole seconds that
is less than a day, as the same reading with the same offset, and so too when an offset of zero
is written as a letter; a naive one as the same reading in universal time. -/
theorem parse_iso (m : Moment) (h : inYears m.wall = true) :
    (∀ k : Int, m.offset? = some (k * secondMicros) → -86400 < k → k < 86400 →
      parse m.iso = .ok ⟨m.wall, .fixed (k * secondMicros), false⟩) ∧
    (m.offset? = some 0 → ∃ body, m.iso = body ++ "+00:00" ∧ ∀ z, z = "Z" ∨ z = "z" →
      parse (body ++ z) = .ok ⟨m.wall, .fixed 0, false⟩) ∧
    (m.offset? = none → parse m.iso = .ok ⟨m.wall, .fixed 0, false⟩) := by
  refine ⟨fun k hk hlow hhigh => ?_, fun hzero => ?_, fun hnaive => ?_⟩
  case refine_1 =>
    have hiso : m.iso.toList = (wallText m.wall).toList ++ signOf k :: sizeText k.natAbs := by
      simp only [iso, hk, String.toList_append, toList_offsetText]
    have hdigit : EndsInDigit m.iso.toList := hiso ▸ .append (.cons endsInDigit_sizeText _) _
    exact parse_of_offset h hlow hhigh (by rw [spellZulu_of_digit hdigit, hiso])
  case refine_2 =>
    have hiso : m.iso = wallText m.wall ++ "+00:00" := by
      simp only [iso, hzero, offsetText_zero]
    -- a Z at the end is spelled out as the offset zero before anything is read
    have hzulu : ∀ z, z = "Z" ∨ z = "z" → (spellZulu (wallText m.wall ++ z)).toList
        = (wallText m.wall).toList ++ signOf 0 :: sizeText 0 := by
      intro z hz
      rw [spellZulu_append hz, ← offsetText_zero, String.toList_append]
      exact congrArg _ (toList_offsetText 0)
    exact ⟨_, hiso, fun z hz => parse_of_offset h (k := 0) (by decide) (by decide) (hzulu z hz)⟩
  case refine_3 =>
    have hiso : m.iso.toList = dateText m.wall ('T' :: timeText m.wall) := by
      simp only [iso, hnaive, String.append_empty, toList_wallText]
    have hdigit : EndsInDigit m.iso.toList :=
      hiso ▸ endsInDigit_dateText (.cons (endsInDigit_timeText m.wall) _)
    have htime : IsoText.readTime (timeText m.wall) = some (clockOf m.wall, none) :=
      IsoText.readTime_local (readClock_timeText m.wall) rfl (fun c => startsOffset_timeText)
    rw [parse, spellZulu_of_digit hdigit, read_of_dateText h hiso htime rfl]
    rfl

/-- Before the year 1970 a reading is negative and its fraction is not; the offset here has
seconds, and the texts of the other two have none. -/
theorem parse_iso_before_epoch :
    let west : Moment := ⟨-1500000, .fixed (-19801 * secondMicros), false⟩
    let utc : Moment := ⟨-1500000, .fixed 0, true⟩
    let naive : Moment := ⟨-1500000, .naive, false⟩
    (west.iso = "1969-12-31T23:59:58.500000-05:30:01" ∧ parse west.iso = .ok west) ∧
    (∃ body, utc.iso = body ++ "+00:00" ∧ parse (body ++ "z") = .ok ⟨-1500000, .fixed 0, false⟩) ∧
    parse naive.iso = .ok ⟨-1500000, .fixed 0, false⟩ := by
  intro west utc naive
  have hyears : inYears (-1500000) = true := by decide +kernel
  obtain ⟨hwest, -, -⟩ := parse_iso west hyears
  obtain ⟨-, hutc, -⟩ := parse_iso utc hyears
  obtain ⟨-, -, hnaive⟩ := parse_iso naive hyears
  obtain ⟨body, hbody, hread⟩ := hutc rfl
  refine ⟨⟨by decide +kernel, ?_⟩, ⟨body, hbody, hread "z" (.inr rfl)⟩, hnaive rfl⟩
  exact hwest (-19801) rfl (by decide) (by decide)

end Moment

end Cadence
