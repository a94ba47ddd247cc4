/-
How a check of values against a pattern text ends.

A check reads the text, asks the pattern for each value, and writes the values into a table.
It is meant to end with an exit code whatever it is given: zero when the text is a pattern
that all values match, and one otherwise, a text that is no pattern included. `CheckEnds`
says how it does end, one constructor a way. Three of them are the ones that are meant. The
other two are faults that it lets through, for one reason: an integer of more digits than
are converted can neither be read nor written. A text with such a numeral is refused with a
fault that is not one of form (`FieldPattern.Lengthy`), and a value with so many digits has
no text (`Writable`).

The check ends in exactly these ways (`check_iff`). Values that come from a command line are
writable, since they were read under the same limit, so there the text alone is to blame.
-/
import Cadence.Command.Evaluate
import Cadence.Proofs.Pattern.RoundTrip
import Cadence.Proofs.Schedule.Faults

set_option autoImplicit false

namespace Cadence

open Cadence.Number (digits digitLimit intText)

/-! ## Integers that are read -/

/-- An integer that was read has a numeral. -/
theorem Number.exists_writes_of_readInteger {text : String} {i : Int}
    (h : Number.readInteger text = .value i) : ∃ ds, Number.Writes ds i.natAbs := by
  rw [Number.readInteger] at h
  split at h
  case h_1 => cases h
  case h_2 s _ =>
    simp only at h
    split at h
    case isTrue => cases h
    case isFalse hform =>
      simp only [Bool.or_eq_true, List.isEmpty_iff, Bool.not_eq_true', not_or, Bool.not_eq_false,
        List.all_eq_true] at hform
      split at h
      case isTrue => cases h
      case isFalse hshort =>
        -- the digits behind the sign, which number no more than the limit
        refine ⟨(Number.takeSign s).2, hform.1, hform.2, Nat.not_lt.mp hshort, ?_⟩
        rw [← Number.IntegerText.value.inj h]
        split
        · rw [Int.natAbs_neg, Int.natAbs_natCast]
        · rw [Int.natAbs_natCast]

namespace Command

open Cadence.FieldPattern (parse)

/-- An integer of no more digits than are converted. -/
def Writable (v : Int) : Prop := (digits v.natAbs).length ≤ digitLimit

variable {l : CheckLine} {d : Desk} {p : FieldPattern} {v : Int} {values : List Int}
  {matched : Bool} {pairs : List (Int × Bool)} {text : String}

/-! ## Rows -/

/-- A value that can be written has its row. -/
theorem checkRow_of_writable (h : Writable v) :
    checkRow v matched = .ok [intText v, colouredVerdict matched] := by
  rw [checkRow, shownValue, if_neg (Nat.not_lt.mpr h)]
  rfl

/-- One that cannot be ends the report. -/
theorem checkRow_of_not_writable (h : ¬Writable v) :
    checkRow v matched = .error (.content .unwritable) := by
  rw [checkRow, shownValue, if_pos (Nat.not_le.mp h)]
  rfl

/-- All rows are written when all values can be. -/
theorem rows_of_writable (h : ∀ x ∈ pairs, Writable x.1) :
    pairs.mapM (fun x => checkRow x.1 x.2)
      = .ok (pairs.map (fun x => [intText x.1, colouredVerdict x.2])) := by
  rw [mapM_eq_ok_iff, List.forall₂_map_right_iff, List.forall₂_same]
  exact fun x hx => checkRow_of_writable (h x hx)

/-- One value that has no text is enough. -/
theorem rows_of_not_writable (h : ∃ x ∈ pairs, ¬Writable x.1) :
    pairs.mapM (fun x => checkRow x.1 x.2) = .error (.content .unwritable) := by
  cases hrows : pairs.mapM (fun x => checkRow x.1 x.2) with
  | ok rows =>
    obtain ⟨x, hx, hlong⟩ := h
    obtain ⟨row, -, hrow⟩ := exists_of_mem_forall₂ (mapM_eq_ok_iff.mp hrows).flip hx
    rw [checkRow_of_not_writable hlong] at hrow
    cases hrow
  | error e =>
    obtain ⟨_, x, _, -, -, hx⟩ := mapM_eq_error_iff.mp hrows
    by_cases hlong : Writable x.1
    · rw [checkRow_of_writable hlong] at hx
      cases hx
    · rw [checkRow_of_not_writable hlong] at hx
      exact congrArg Except.error (Except.error.inj hx.symm)

/-! ## The report -/

/-- A pattern that was read has a text and a verdict on every value, so only the rows are
left. -/
theorem exists_checkReport (h : parse text = .ok p) (values : List Int) : ∃ title : String,
    ∃ verdict : Int → Bool, (∀ v, p.accepts (.int v) = .ok (verdict v)) ∧
      checkReport p values = (do
        let rows ← (values.map (fun v => (v, verdict v))).mapM (fun x => checkRow x.1 x.2)
        pure (⟨title, ["Value", "Match"], rows⟩, values.all verdict)) := by
  choose verdict hverdict using (FieldPattern.integral_of_parse h).exists_accepts
  have hrender := FieldPattern.render_of_requireText (FieldPattern.requireText_of_parse h)
  have hverdicts : values.mapM (fun v => p.accepts (.int v)) = .ok (values.map verdict) := by
    rw [mapM_eq_ok_iff, List.forall₂_map_right_iff, List.forall₂_same]
    exact fun v _ => hverdict v
  have hzip : values.zip (values.map verdict) = values.map (fun v => (v, verdict v)) := by
    simpa using List.zip_map' (f := id) (g := verdict) (l := values)
  refine ⟨"Pattern " ++ String.ofList p.written, verdict, hverdict, ?_⟩
  rw [checkReport, hrender, hverdicts]
  simp only [bind, Except.bind, hzip, List.all_map, Function.comp_def, id]

/-- Then there is a table, and the verdict is that all values match. -/
theorem checkReport_of_writable (h : parse text = .ok p) (hvalues : ∀ v ∈ values, Writable v) :
    ∃ table matched, checkReport p values = .ok (table, matched) ∧
      (matched = true ↔ ∀ v ∈ values, p.accepts (.int v) = .ok true) := by
  obtain ⟨title, verdict, hverdict, hreport⟩ := exists_checkReport h values
  -- every row can be written, so nothing can go wrong behind the verdicts
  have hpairs : ∀ x ∈ values.map (fun v => (v, verdict v)), Writable x.1 :=
    List.forall_mem_map.mpr hvalues
  rw [rows_of_writable hpairs] at hreport
  refine ⟨_, values.all verdict, hreport, ?_⟩
  simp only [hverdict, Except.ok.injEq, List.all_eq_true]

/-- One value that cannot be written and there is no table at all. -/
theorem checkReport_of_not_writable (h : parse text = .ok p) (hvalue : ∃ v ∈ values, ¬Writable v) :
    checkReport p values = .error (.content .unwritable) := by
  obtain ⟨title, verdict, -, hreport⟩ := exists_checkReport h values
  obtain ⟨v, hv, hlong⟩ := hvalue
  have hpair : ∃ x ∈ values.map (fun v => (v, verdict v)), ¬Writable x.1 :=
    ⟨(v, verdict v), List.mem_map_of_mem hv, hlong⟩
  rw [hreport, rows_of_not_writable hpair]
  rfl

/-! ## The ways to end -/

/-- How a check ends. -/
inductive CheckEnds (l : CheckLine) : Except Fault Nat → Prop
  | all {p : FieldPattern} : parse l.pattern = .ok p → (∀ v ∈ l.values, Writable v) →
    (∀ v ∈ l.values, p.accepts (.int v) = .ok true) → CheckEnds l (.ok 0)
  | some {p : FieldPattern} {v : Int} : parse l.pattern = .ok p →
    (∀ v ∈ l.values, Writable v) → v ∈ l.values → p.accepts (.int v) = .ok false →
      CheckEnds l (.ok 1)
  | refused {blame : String} {why : Malformation} :
    parse l.pattern = .error (.pattern blame why) → CheckEnds l (.ok 1)
  /-- a numeral of the text is too long -/
  | lengthy {n : Nat} : FieldPattern.Lengthy l.pattern.toList n →
    CheckEnds l (.error (.content (.tooManyDigits n)))
  /-- a value is too long -/
  | unwritable {p : FieldPattern} {v : Int} : parse l.pattern = .ok p → v ∈ l.values →
    ¬Writable v → CheckEnds l (.error (.content .unwritable))

/-- The exit code is that of the verdict. -/
theorem snd_check_of_writable {b : Bool} (hp : parse l.pattern = .ok p)
    (hvalues : ∀ v ∈ l.values, Writable v)
    (hb : b = true ↔ ∀ v ∈ l.values, p.accepts (.int v) = .ok true) :
    (check l d).2 = .ok (exitCode b) := by
  obtain ⟨table, matched, hreport, hmatched⟩ :=
    checkReport_of_writable hp hvalues
  have hsame : matched = b := Bool.eq_iff_iff.mpr (hmatched.trans hb.symm)
  simp only [check, hp, hreport, hsame]

/-- The ways to end are told by what the command returns. -/
theorem CheckEnds.snd_check {r : Except Fault Nat} (h : CheckEnds l r) : (check l d).2 = r := by
  cases h with
  | all hp hvalues hall => exact snd_check_of_writable hp hvalues (iff_of_true rfl hall)
  | some hp hvalues hv hfalse =>
    refine snd_check_of_writable hp hvalues (iff_of_false Bool.false_ne_true fun hall => ?_)
    rw [hall _ hv] at hfalse
    cases hfalse
  | refused hrefused => simp only [check, hrefused]
  | lengthy hlong => simp only [check, FieldPattern.parse_tooManyDigits_iff.mpr hlong]
  | unwritable hp hv hlong =>
    have hreport := checkReport_of_not_writable hp ⟨_, hv, hlong⟩
    simp only [check, hp, hreport]

/-- There is a way to end for every line. -/
theorem exists_checkEnds (l : CheckLine) : ∃ r, CheckEnds l r := by
  cases hp : parse l.pattern with
  | error e =>
    rcases FieldPattern.parse_faults hp with ⟨blame, why, rfl⟩ | ⟨n, hlong, -⟩
    · exact ⟨_, .refused hp⟩
    · exact ⟨_, .lengthy hlong⟩
  | ok p =>
    -- a value too long to be written ends the report before any verdict
    by_cases hvalues : ∀ v ∈ l.values, Writable v
    · by_cases hall : ∀ v ∈ l.values, p.accepts (.int v) = .ok true
      · exact ⟨_, .all hp hvalues hall⟩
      · obtain ⟨v, hv, hne⟩ := by simpa only [not_forall, exists_prop] using hall
        obtain ⟨b, hb⟩ := (FieldPattern.integral_of_parse hp).exists_accepts v
        cases b with
        | true => exact absurd hb hne
        | false => exact ⟨_, .some hp hvalues hv hb⟩
    · obtain ⟨v, hv, hlong⟩ := by simpa only [not_forall, exists_prop] using hvalues
      exact ⟨_, .unwritable hp hv hlong⟩

/-- **A check ends in exactly these ways.** -/
theorem check_iff {r : Except Fault Nat} : (check l d).2 = r ↔ CheckEnds l r := by
  refine ⟨fun h => ?_, CheckEnds.snd_check⟩
  obtain ⟨r', hr'⟩ := exists_checkEnds l
  rwa [← h, hr'.snd_check]

/-- A check ends with an exit code unless an integer is too long: a numeral of the text, or a
value that would be written next to its verdict. -/
theorem check_returns_iff : (∃ code, (check l d).2 = .ok code) ↔
    (∀ n, ¬FieldPattern.Lengthy l.pattern.toList n) ∧
      ((∃ p, parse l.pattern = .ok p) → ∀ v ∈ l.values, Writable v) := by
  constructor
  · rintro ⟨code, hcode⟩
    -- there is one way to end, so with an exit code none of those with a fault
    have hnot : ∀ {e : Fault}, ¬CheckEnds l (.error e) := by
      intro e he
      rw [he.snd_check] at hcode
      cases hcode
    refine ⟨fun n hn => hnot (.lengthy hn), ?_⟩
    rintro ⟨p, hp⟩ v hv
    by_contra hlong
    exact hnot (.unwritable hp hv hlong)
  · rintro ⟨hshort, hvalues⟩
    obtain ⟨r, hr⟩ := exists_checkEnds l
    cases hr with
    | lengthy hlong => exact absurd hlong (hshort _)
    | unwritable hp hv hlong => exact absurd (hvalues ⟨_, hp⟩ _ hv) hlong
    | all hp hv hall => exact ⟨0, (CheckEnds.all hp hv hall).snd_check⟩
    | some hp hv hmem hfalse => exact ⟨1, (CheckEnds.some hp hv hmem hfalse).snd_check⟩
    | refused hrefused => exact ⟨1, (CheckEnds.refused hrefused).snd_check⟩

/-- **Which faults a text can have, and how a check ends.** A pattern text is refused for its
form, a cron text for its form, a range or its zone; besides these there is one fault, that
of a numeral too long, and each has it exactly when it is lengthy. A check ends with zero
when the text is read and all values match, with one when one does not or the text is
refused for its form, and with a fault exactly when the text is lengthy or a value too long
to be written. -/
theorem faults_of_texts (text fallback : String) (l : CheckLine) (d : Desk) :
    (∀ e, parse text = .error e →
      (∃ blame why, e = .pattern blame why) ∨ ∃ n, e = .content (.tooManyDigits n)) ∧
    (∀ n, parse text = .error (.content (.tooManyDigits n)) ↔
      FieldPattern.Lengthy text.toList n) ∧
    (∀ e, Schedule.ofCron text fallback = .error e → (∃ blame why, e = .pattern blame why) ∨
      (∃ why, e = .domain why) ∨ ∃ n, e = .content (.tooManyDigits n)) ∧
    (∀ n, Schedule.ofCron text fallback = .error (.content (.tooManyDigits n)) ↔
      Schedule.Lengthy text n) ∧
    (∀ r, (check l d).2 = r ↔ CheckEnds l r) ∧
    ((∃ code, (check l d).2 = .ok code) ↔ (∀ n, ¬FieldPattern.Lengthy l.pattern.toList n) ∧
      ((∃ p, parse l.pattern = .ok p) → ∀ v ∈ l.values, Writable v)) := by
  refine ⟨fun e he => ?_, fun n => FieldPattern.parse_tooManyDigits_iff, fun e he => ?_,
    fun n => Schedule.ofCron_tooManyDigits_iff, fun r => check_iff, check_returns_iff⟩
  · exact (FieldPattern.parse_faults he).imp id (fun ⟨n, _, hn⟩ => ⟨n, hn⟩)
  · exact (Schedule.ofCron_faults he).imp id (Or.imp id (fun ⟨n, _, hn⟩ => ⟨n, hn⟩))

/-- A run of one digit more than is converted. As a pattern text, as a field of a cron text
and in a check it gives a fault that is neither one of form nor one of range. -/
theorem faults_of_long_run :
    let run := List.replicate 4301 '1'
    (¬∃ p, parse (String.ofList run) = .ok p) ∧
    (¬∃ blame why, parse (String.ofList run) = .error (.pattern blame why)) ∧
    (∃ n, Schedule.ofCron (String.ofList (run ++ " * * * * *".toList)) "UTC"
      = .error (.content (.tooManyDigits n))) ∧
    ¬∃ code, (check ⟨String.ofList run, [5]⟩ default).2 = .ok code := by
  intro run
  -- one digit more than the limit
  have hrun : Number.TooLong run 4301 :=
    ⟨fun c hc => by rw [List.eq_of_mem_replicate hc]; decide, List.length_replicate, by decide⟩
  have hlong : FieldPattern.Lengthy (String.ofList run).toList 4301 := by
    rw [String.toList_ofList]
    exact FieldPattern.lengthy_of_tooLong hrun
  have hparse := FieldPattern.parse_tooManyDigits_iff.mpr hlong
  refine ⟨?_, ?_, ⟨4301, Schedule.ofCron_of_lengthy (Schedule.lengthy_of_tooLong hrun)⟩,
    fun hcode => (check_returns_iff.mp hcode).1 4301 hlong⟩
  · rintro ⟨p, hp⟩
    rw [hparse] at hp
    cases hp
  · rintro ⟨blame, why, he⟩
    rw [hparse] at he
    cases he

/-! ## Values from a command line -/

/-- A value that was read from a word is writable. -/
theorem writable_of_readValue {word : String} (h : readValue word = .ok v) : Writable v := by
  rw [readValue] at h
  split at h
  case h_1 i hi =>
    obtain rfl := Except.ok.inj h
    obtain ⟨ds, hds⟩ := Number.exists_writes_of_readInteger hi
    exact hds.length_digits_le
  case h_2 => cases h

end Command

end Cadence
