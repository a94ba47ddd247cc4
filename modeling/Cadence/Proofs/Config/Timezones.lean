/-
The timezone of a schedule.

A schedule takes its zone from one of three places: from its timezone; given by a cron text,
from its timezone without the blanks around it; or, where the cron text names a zone in
brackets, from there (`ScheduleConfig.Takes`). Only what it is taken from is looked up. So a
schedule builds when its fields do, which has nothing to do with the timezone
(`FieldsBuild`), and what its zone is taken from is known (`exists_toSchedule_iff`).

It follows what the check of a schedule makes sure of. The timezone of an accepted schedule is
known, unless the cron text names a zone: then no text is refused as its timezone
(`ScheduleConfig.located_of_check`).
-/
import Cadence.Proofs.Config.Schedules
import Cadence.Proofs.Schedule.Format
import Cadence.Proofs.Schedule.RoundTrip

set_option autoImplicit false

namespace Cadence.Config

open Cadence.Schedule (LaidOut Fits tokenOf)
open Cadence.Text (Stripped stripped_iff)
open Cadence.Value (lookup?)

variable {c : ScheduleConfig} {name t : String} {v : Value} {es : Entries}

/-! ## Known zones -/

/-- The text is the name of a zone. -/
def IsZone (s : String) : Prop := ∃ z, Zone.find (.str s) = .ok z

/-- A name of a zone is one under which a zone is found. -/
theorem isZone_iff : IsZone name ↔ ∃ z, Zone.find? name = some z := by
  simp only [IsZone, Zone.find_str_eq_ok_iff]

theorem not_isZone_iff : ¬IsZone name ↔ Zone.find? name = none := by
  rw [isZone_iff, Option.eq_none_iff_forall_ne_some, not_exists]

/-- Nothing is found under no name at all. -/
theorem not_isZone_empty : ¬IsZone (Text.trimmed "") := not_isZone_iff.mpr (by decide +kernel)

/-- A name has no blanks around it. -/
theorem IsZone.trimmed_eq (h : IsZone name) : Text.trimmed name = name := by
  obtain ⟨z, hz⟩ := isZone_iff.mp h
  obtain rfl := Zone.name_of_find? hz
  rw [Text.trimmed, Text.trim_of_blankFree (fun c hc => (Zone.name_plain hz c hc).1),
    String.ofList_toList]

namespace ScheduleConfig

/-! ## Where the zone is taken from -/

/-- What a schedule takes its zone from: its timezone as it stands; or, given by a cron text,
what this has in brackets, or else the timezone, in both cases without the blanks around it. -/
inductive Takes (c : ScheduleConfig) : String → Prop
  | timezone : c.cron = none → Takes c c.timezone
  | cron {text : String} {body name : List Char} {zone : Option (List Char)} :
    c.cron = some text → Framed text.toList body zone →
      Stripped (zone.getD c.timezone.toList) name → Takes c (String.ofList name)

/-- The cron text names a zone of its own. -/
def NamesZone (c : ScheduleConfig) : Prop :=
  ∃ text body zone, c.cron = some text ∧ Framed text.toList body (some zone)

/-- The fields of a schedule build, whatever its timezone: its inputs compile, or its cron text
has six words that fit. -/
def FieldsBuild (c : ScheduleConfig) : Prop :=
  match c.cron with
  | none => ∀ f input, c.inputs.get f = some input → ∃ p, FieldPattern.compile f input.value = .ok p
  | some text => ∃ tokens zone, LaidOut text.toList tokens zone ∧ tokens.length = 6 ∧
    ∀ f, ∃ p, Fits f (tokenOf tokens f) p

/-- Without a text of six fields the name is that of the setting. -/
theorem takes_iff_of_none (h : c.cron = none) : c.Takes name ↔ name = c.timezone := by
  constructor
  · intro ht
    cases ht with
    | timezone => rfl
    | cron hcron => simp [h] at hcron
  · rintro rfl
    exact .timezone h

/-- Without a zone in the cron text it is the timezone that the zone is taken from. -/
theorem Takes.isZone_trimmed (h : c.Takes name) (hname : IsZone name) (hown : ¬c.NamesZone) :
    IsZone (Text.trimmed c.timezone) := by
  cases h with
  | timezone => rwa [hname.trimmed_eq]
  | @cron text body name zone hcron hframed hstrip =>
    cases zone with
    | none =>
      have htrim : Text.trim c.timezone.toList = name := stripped_iff.mp hstrip
      rwa [Text.trimmed, htrim]
    | some zone => exact absurd ⟨text, body, zone, hcron, hframed⟩ hown

/-- With a zone in the cron text the timezone is not asked for. -/
theorem Takes.of_namesZone (h : c.Takes name) (hown : c.NamesZone) (t : String) :
    Takes { c with timezone := t } name := by
  obtain ⟨text, body, zone, hcron, hframed⟩ := hown
  cases h with
  | timezone hnone => simp [hcron] at hnone
  | @cron text' body' name zone' hcron' hframed' hstrip =>
    obtain rfl := Option.some.inj (hcron.symm.trans hcron')
    obtain ⟨rfl, rfl⟩ := hframed.unique hframed'
    exact .cron hcron hframed hstrip

/-! ## Building -/

/-- No input of a field touches the zone. -/
theorem zone_applyInputs {inputs : Sextet (Option FieldInput)} {fs : List Field} {s r : Schedule}
    (h : applyInputs inputs s fs = .ok r) : r.zone = s.zone := by
  induction fs generalizing s with
  | nil =>
    cases h
    rfl
  | cons f fs ih =>
    rw [applyInputs] at h
    split at h
    case h_1 => exact ih h
    case h_2 input hinput =>
      obtain ⟨q, hq, hr⟩ := bind_eq_ok_iff.mp h
      rw [Schedule.withField, map_eq_ok_iff] at hq
      obtain ⟨p, -, rfl⟩ := hq
      exact (ih hr).trans rfl

/-- **A schedule is in the zone that is named where it is taken from.** -/
theorem exists_takes {s : Schedule} (h : c.toSchedule = .ok s) :
    ∃ name, c.Takes name ∧ Zone.find (.str name) = .ok s.zone := by
  rw [toSchedule] at h
  cases hcron : c.cron with
  | none =>
    simp only [hcron, bind_eq_ok_iff] at h
    obtain ⟨z, hz, hs⟩ := h
    exact ⟨c.timezone, .timezone hcron, hz.trans (congrArg _ (zone_applyInputs hs).symm)⟩
  | some text =>
    simp only [hcron] at h
    obtain ⟨tokens, zone, name, ⟨body, hframed, -⟩, -, -, hstrip, hfound, -⟩ :=
      Schedule.ofCron_eq_ok_iff.mp h
    exact ⟨String.ofList name, .cron hcron hframed hstrip, Zone.find_str_eq_ok_iff.mpr hfound⟩

/-- Six words that fit and a zone that is known make a schedule. -/
theorem exists_ofCron {text fallback : String} {tokens : List (List Char)}
    {zone : Option (List Char)} {name : List Char} (hlaid : LaidOut text.toList tokens zone)
    (hlen : tokens.length = 6) (hfits : ∀ f, ∃ p, Fits f (tokenOf tokens f) p)
    (hstrip : Stripped (zone.getD fallback.toList) name) (hname : IsZone (String.ofList name)) :
    ∃ s, Schedule.ofCron text fallback = .ok s := by
  obtain ⟨z, hz⟩ := hname
  obtain ⟨fields, hfields⟩ : ∃ fields, Schedule.readFields text tokens = .ok fields :=
    Schedule.exists_readFields hlen hfits
  refine ⟨⟨fields, z⟩, ?_⟩
  rw [Schedule.ofCron_of_laidOut hlaid hstrip, hfields, hz]
  rfl

/-- **A schedule builds when its fields do and what its zone is taken from is known.** -/
theorem exists_toSchedule_iff :
    (∃ s, c.toSchedule = .ok s) ↔ c.FieldsBuild ∧ ∃ name, c.Takes name ∧ IsZone name := by
  rw [FieldsBuild]
  cases hcron : c.cron with
  | none =>
    have hzone : (∃ name, c.Takes name ∧ IsZone name) ↔ IsZone c.timezone := by
      simp only [takes_iff_of_none hcron, exists_eq_left]
    rw [hzone, toSchedule_eq_chain hcron, and_comm]
    simp only [Schedule.chain_eq_ok_iff, exists_and_left, exists_eq', and_true]
    exact succeeds_calls_iff
  | some text =>
    have hbuilt : c.toSchedule = Schedule.ofCron text c.timezone := by rw [toSchedule, hcron]
    constructor
    · rintro ⟨s, hs⟩
      obtain ⟨name, htakes, hname⟩ := exists_takes hs
      rw [hbuilt] at hs
      obtain ⟨tokens, zone, -, hlaid, hlen, hfits, -⟩ := Schedule.ofCron_eq_ok_iff.mp hs
      exact ⟨⟨tokens, zone, hlaid, hlen, fun f => ⟨_, hfits f⟩⟩, name, htakes, s.zone, hname⟩
    · rintro ⟨⟨tokens, zone, hlaid, hlen, hfits⟩, name, htakes, hname⟩
      cases htakes with
      | timezone hnone => simp [hcron] at hnone
      | @cron text' body name zone' hcron' hframed hstrip =>
        obtain rfl := Option.some.inj (hcron.symm.trans hcron')
        obtain ⟨body', hframed', -⟩ := id hlaid
        -- the name is taken from the layout that the words are
        obtain ⟨-, rfl⟩ := hframed'.unique hframed
        rw [hbuilt]
        exact exists_ofCron hlaid hlen hfits hstrip hname

/-! ## Checking -/

/-- What is accepted, whatever it is read from, is given in one way and builds. -/
theorem verify_of_check (h : ScheduleConfig.check v = .ok c) : c.verify = .ok c := by
  rw [check, Checked.andThen_eq_ok_iff] at h
  obtain ⟨d, -, hd⟩ := h
  rw [Checked.ofExcept_eq_ok_iff] at hd
  obtain ⟨rfl, -⟩ := verify_eq_ok_iff.mp hd
  exact hd

/-- The entries that say what a configuration says, each part as it is. -/
def entries (c : ScheduleConfig) : Entries :=
  (.str "name", .str c.name) :: (.str "cron", (c.cron.map Value.str).getD .null) ::
    (.str "timezone", .str c.timezone) :: (.str "enabled", .bool c.enabled) ::
      (.str "message", (c.message.map Value.str).getD .null) ::
        Field.all.map (fun f => (.str f.name, ((c.inputs.get f).map FieldInput.value).getD .null))

/-- What is found, or null, is an optional entry. -/
theorem optionalEntry_of_getD {es : Entries} {key : String} {o : Option Value}
    (h : lookup? key es = some (o.getD .null)) : OptionalEntry es key o := by
  cases o with
  | none => exact .inr h
  | some v => exact h

/-- Every configuration can be given. -/
theorem gives_entries (c : ScheduleConfig) : Gives c.entries c where
  name := rfl
  inputs f := optionalEntry_of_getD (by cases f <;> rfl)
  cron := optionalEntry_of_getD rfl
  timezone := .inl rfl
  enabled := .inl rfl
  message := optionalEntry_of_getD rfl

/-- With another timezone an accepted schedule is accepted again when what its zone is then
taken from is known. -/
theorem check_retimed_iff (h : c.verify = .ok c) (hgives : Gives es { c with timezone := t }) :
    (∃ d, ScheduleConfig.check (.mapping es) = .ok d) ↔
      ∃ name, Takes { c with timezone := t } name ∧ IsZone name := by
  obtain ⟨-, hone, hs⟩ := verify_eq_ok_iff.mp h
  have hbuild : FieldsBuild { c with timezone := t } := (exists_toSchedule_iff.mp hs).1
  simp only [check_eq_ok_iff hgives hone, exists_eq_left, exists_toSchedule_iff, hbuild, true_and]

/-- **A timezone that is not known passes exactly beside a cron text that names a zone.** -/
theorem exists_unknown_iff (h : c.verify = .ok c) :
    (∃ t es d, Gives es { c with timezone := t } ∧ ScheduleConfig.check (.mapping es) = .ok d ∧
      ¬IsZone (Text.trimmed d.timezone)) ↔ c.NamesZone := by
  obtain ⟨-, hone, s, hs⟩ := verify_eq_ok_iff.mp h
  constructor
  · rintro ⟨t, es, d, hgives, hd, hunknown⟩
    by_contra hown
    obtain ⟨name, htakes, hname⟩ := (check_retimed_iff h hgives).mp ⟨d, hd⟩
    obtain ⟨rfl, -⟩ := (check_eq_ok_iff hgives hone).mp hd
    exact hunknown (htakes.isZone_trimmed hname hown)
  · intro hown
    obtain ⟨name, htakes, hname⟩ := exists_takes hs
    -- any text that names no zone will do
    have hgives := gives_entries { c with timezone := "" }
    obtain ⟨d, hd⟩ := (check_retimed_iff h hgives).mpr
      ⟨name, htakes.of_namesZone hown "", _, hname⟩
    obtain ⟨rfl, -⟩ := (check_eq_ok_iff hgives hone).mp hd
    exact ⟨"", _, _, hgives, hd, not_isZone_empty⟩

/-- What the check of a schedule makes sure of about its timezone. -/
structure Located (c : ScheduleConfig) : Prop where
  /-- it is known, unless the cron text names a zone -/
  known : ¬c.NamesZone → IsZone (Text.trimmed c.timezone)
  /-- the schedule is in the zone that is named where it is taken from -/
  built : ∃ s name, c.toSchedule = .ok s ∧ c.Takes name ∧ Zone.find (.str name) = .ok s.zone
  /-- with another timezone the schedule is accepted when what its zone is then taken from is
  known -/
  retimed : ∀ t es, Gives es { c with timezone := t } →
    ((∃ d, ScheduleConfig.check (.mapping es) = .ok d) ↔
      ∃ name, Takes { c with timezone := t } name ∧ IsZone name)
  /-- and one that is not known is let through exactly when the cron text names a zone -/
  unchecked : (∃ t es d, Gives es { c with timezone := t } ∧
    ScheduleConfig.check (.mapping es) = .ok d ∧ ¬IsZone (Text.trimmed d.timezone)) ↔ c.NamesZone

/-- **What is known of the timezone of an accepted schedule**, whatever it was read from. -/
theorem located_of_check (h : ScheduleConfig.check v = .ok c) : Located c := by
  have hverify := verify_of_check h
  obtain ⟨-, -, s, hs⟩ := verify_eq_ok_iff.mp hverify
  obtain ⟨name, htakes, hzone⟩ := exists_takes hs
  exact {
    known := htakes.isZone_trimmed ⟨_, hzone⟩
    built := ⟨s, name, hs, htakes, hzone⟩
    retimed := fun _ _ hgives => check_retimed_iff hverify hgives
    unchecked := exists_unknown_iff hverify }

/-- A cron text without a zone, and a timezone between blanks. -/
theorem located_of_check_tokyo :
    let es : Entries := [(.str "name", .str "tea"), (.str "cron", .str "0 0 4 * * *"),
      (.str "timezone", .str " Asia/Tokyo ")]
    ∃ c, ScheduleConfig.check (.mapping es) = .ok c ∧ Located c ∧
      c.timezone = " Asia/Tokyo " ∧ ¬c.NamesZone ∧ IsZone (Text.trimmed c.timezone) := by
  intro es
  let c : ScheduleConfig :=
    { name := "tea", cron := some "0 0 4 * * *", timezone := " Asia/Tokyo " }
  have hcheck : ScheduleConfig.check (.mapping es) = .ok c := rfl
  have hlocated := located_of_check hcheck
  -- a text of six fields without brackets names no zone of its own
  have hown : ¬c.NamesZone := by
    rintro ⟨text, body, zone, hcron, hframed⟩
    obtain rfl := Option.some.inj hcron
    have hbare : CronShape.read "0 0 4 * * *".toList = some ⟨"0 0 4 * * *".toList, none⟩ := by
      decide +kernel
    cases hbare.symm.trans (CronShape.read_eq_some_iff.mpr hframed)
  exact ⟨c, hcheck, hlocated, rfl, hown, hlocated.known hown⟩

/-- A timezone that is not known passes beside a cron text that names a zone. -/
theorem check_unknown_timezone :
    let es : Entries := [(.str "name", .str "raw"), (.str "cron", .str "0 * * * * * [UTC]"),
      (.str "timezone", .str "Garbage/Zone")]
    ∃ c, ScheduleConfig.check (.mapping es) = .ok c ∧ c.timezone = "Garbage/Zone" ∧
      ¬IsZone (Text.trimmed c.timezone) := by
  intro es
  let c : ScheduleConfig :=
    { name := "raw", cron := some "0 * * * * * [UTC]", timezone := "Garbage/Zone" }
  have hcheck : ScheduleConfig.check (.mapping es) = .ok c := rfl
  exact ⟨c, hcheck, rfl, not_isZone_iff.mpr (by decide +kernel)⟩

end ScheduleConfig

end Cadence.Config
