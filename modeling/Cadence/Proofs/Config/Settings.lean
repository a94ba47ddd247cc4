/-
Settings, one by one.

The logging section has five settings and the engine section four; each has a key, a check
and a default. Entries pass the check of a configuration when every setting is read as what
the configuration has for it, each by itself: from the value under its key, if its section
is there and has the key, else as its default (`Settings.check_eq_ok_iff`).

No setting is a mapping. So of one value over another only the upper one counts for a
setting, whatever the lower one is (`readAs_overlay`).
-/
import Cadence.Proofs.Config.Checked
import Cadence.Proofs.Config.Entries

set_option autoImplicit false

namespace Cadence.Config

open Cadence.Number (Binary64)
open Cadence.Value (lookup?)

/-! ## The nine settings -/

inductive Setting
  | level
  | format
  | logFile
  | maxBytes
  | backupCount
  | tickInterval
  | maxWorkers
  | misfireGraceTime
  | timezone
deriving DecidableEq, Repr

namespace Setting

def Kind : Setting → Type
  | .level => Level
  | .format => String
  | .logFile => Option String
  | .maxBytes => Int
  | .backupCount => Int
  | .tickInterval => Binary64
  | .maxWorkers => Int
  | .misfireGraceTime => Int
  | .timezone => String

/-- The section of a setting. -/
def part : Setting → String
  | .level | .format | .logFile | .maxBytes | .backupCount => "logging"
  | .tickInterval | .maxWorkers | .misfireGraceTime | .timezone => "engine"

def key : Setting → String
  | .level => "level"
  | .format => "format"
  | .logFile => "log_file"
  | .maxBytes => "max_bytes"
  | .backupCount => "backup_count"
  | .tickInterval => "tick_interval"
  | .maxWorkers => "max_workers"
  | .misfireGraceTime => "misfire_grace_time"
  | .timezone => "timezone"

def check : (σ : Setting) → Value → Checked σ.Kind
  | .level => checkLevel
  | .format => checkText
  | .logFile => checkOptional checkText
  | .maxBytes => checkInt
  | .backupCount => checkInt
  | .tickInterval => checkPositive
  | .maxWorkers => checkIntFrom 1
  | .misfireGraceTime => checkIntFrom 1
  | .timezone => checkZone

def get (c : Settings) : (σ : Setting) → σ.Kind
  | .level => c.logging.level
  | .format => c.logging.format
  | .logFile => c.logging.logFile
  | .maxBytes => c.logging.maxBytes
  | .backupCount => c.logging.backupCount
  | .tickInterval => c.engine.tickInterval
  | .maxWorkers => c.engine.maxWorkers
  | .misfireGraceTime => c.engine.misfireGraceTime
  | .timezone => c.engine.timezone

/-- What a setting is when nothing is said of it. -/
def default (σ : Setting) : σ.Kind := get {} σ

/-- What entries have for a setting. -/
def entry? (σ : Setting) (es : Entries) : Option Value := inner? σ.key (lookup? σ.part es)

/-- What may be there for a setting is read as a value. -/
def Reads (σ : Setting) (o : Option Value) (x : σ.Kind) : Prop := ReadAs σ.check (.ok σ.default) o x

end Setting

/-! ## Sections -/

/-- If anything is there, it is a mapping. -/
def IsSection (o : Option Value) : Prop := ∀ v, o = some v → ∃ es, v = .mapping es

theorem isSection_none : IsSection none := nofun

/-- A section that is there is a mapping. -/
theorem isSection_some_iff {v : Value} : IsSection (some v) ↔ ∃ es, v = .mapping es := by
  simp [IsSection]

/-- A logging section passes when each of its keys does. -/
theorem readAs_logging_iff {o : Option Value} {l : LoggingConfig} :
    ReadAs LoggingConfig.check (.ok {}) o l ↔ IsSection o ∧
      Setting.level.Reads (inner? "level" o) l.level ∧
      Setting.format.Reads (inner? "format" o) l.format ∧
      Setting.logFile.Reads (inner? "log_file" o) l.logFile ∧
      Setting.maxBytes.Reads (inner? "max_bytes" o) l.maxBytes ∧
      Setting.backupCount.Reads (inner? "backup_count" o) l.backupCount := by
  cases o with
  | none =>
    constructor
    -- nothing there: every key has its default
    · intro h
      cases h
      exact ⟨isSection_none, rfl, rfl, rfl, rfl, rfl⟩
    · rintro ⟨-, hlevel, hformat, hfile, hbytes, hcount⟩
      obtain ⟨level, format, logFile, maxBytes, backupCount⟩ := l
      cases hlevel
      cases hformat
      cases hfile
      cases hbytes
      cases hcount
      rfl
  | some v =>
    rw [isSection_some_iff]
    change LoggingConfig.check v = .ok l ↔ _
    simp only [LoggingConfig.check, Checked.andThen_eq_ok_iff, Checked.map_eq_ok_iff,
      Checked.both_eq_ok_iff, checkEntries_eq_ok_iff, checkKey_eq_ok_iff]
    constructor
    · rintro ⟨es, rfl, p, ⟨hlevel, hformat, hfile, hbytes, hcount⟩, rfl⟩
      exact ⟨⟨es, rfl⟩, hlevel, hformat, hfile, hbytes, hcount⟩
    · rintro ⟨⟨es, rfl⟩, hlevel, hformat, hfile, hbytes, hcount⟩
      exact ⟨es, rfl, ⟨_, _, _, _, _⟩, ⟨hlevel, hformat, hfile, hbytes, hcount⟩, rfl⟩

/-- An engine section passes when each of its keys does. -/
theorem readAs_engine_iff {o : Option Value} {e : EngineConfig} :
    ReadAs EngineConfig.check (.ok {}) o e ↔ IsSection o ∧
      Setting.tickInterval.Reads (inner? "tick_interval" o) e.tickInterval ∧
      Setting.maxWorkers.Reads (inner? "max_workers" o) e.maxWorkers ∧
      Setting.misfireGraceTime.Reads (inner? "misfire_grace_time" o) e.misfireGraceTime ∧
      Setting.timezone.Reads (inner? "timezone" o) e.timezone := by
  cases o with
  | none =>
    constructor
    · intro h
      cases h
      exact ⟨isSection_none, rfl, rfl, rfl, rfl⟩
    · rintro ⟨-, htick, hworkers, hgrace, hzone⟩
      obtain ⟨tickInterval, maxWorkers, misfireGraceTime, timezone⟩ := e
      cases htick
      cases hworkers
      cases hgrace
      cases hzone
      rfl
  | some v =>
    rw [isSection_some_iff]
    change EngineConfig.check v = .ok e ↔ _
    simp only [EngineConfig.check, Checked.andThen_eq_ok_iff, Checked.map_eq_ok_iff,
      Checked.both_eq_ok_iff, checkEntries_eq_ok_iff, checkKey_eq_ok_iff]
    constructor
    · rintro ⟨es, rfl, p, ⟨htick, hworkers, hgrace, hzone⟩, rfl⟩
      exact ⟨⟨es, rfl⟩, htick, hworkers, hgrace, hzone⟩
    · rintro ⟨⟨es, rfl⟩, htick, hworkers, hgrace, hzone⟩
      exact ⟨es, rfl, ⟨_, _, _, _⟩, ⟨htick, hworkers, hgrace, hzone⟩, rfl⟩

/-- Whether a key may stand in the whole. -/
def IsKnown (k : Value) : Prop := k.text?.getD "" ∈ Settings.partNames

/-- There is no unknown key when every key is known. -/
theorem checkExtra_eq_ok_iff {es : Entries} :
    Settings.checkExtra es = .ok () ↔ ∀ e ∈ es, IsKnown e.1 := by
  induction es with
  | nil => simp [Settings.checkExtra]
  | cons e es ih =>
    have hrest : (∃ u : Unit, Settings.checkExtra es = .ok u) ↔ Settings.checkExtra es = .ok () :=
      ⟨fun ⟨_, h⟩ => h, fun h => ⟨(), h⟩⟩
    rw [List.forall_mem_cons, ← ih, IsKnown, Settings.checkExtra, Checked.map_eq_ok_iff]
    by_cases hk : e.1.text?.getD "" ∈ Settings.partNames
    · simp [hk, hrest]
    · simp [hk, Checked.issue]

/-- **Entries pass when every setting does by itself**, and the schedules do, and no other key
is there. -/
theorem Settings.check_eq_ok_iff {es : Entries} {c : Settings} :
    Settings.check es = .ok c ↔
      (∀ σ : Setting, IsSection (lookup? σ.part es)) ∧
      (∀ σ : Setting, σ.Reads (σ.entry? es) (σ.get c)) ∧
      ReadAs Settings.checkSchedules (.ok []) (lookup? "schedules" es) c.schedules ∧
      ∀ e ∈ es, IsKnown e.1 := by
  rw [← checkExtra_eq_ok_iff]
  simp only [Settings.check, Checked.map_eq_ok_iff, Checked.both_eq_ok_iff, checkKey_eq_ok_iff,
    readAs_logging_iff, readAs_engine_iff]
  constructor
  · rintro ⟨⟨logging, engine, schedules, _⟩,
      ⟨⟨hlogging, h1, h2, h3, h4, h5⟩, ⟨hengine, h6, h7, h8, h9⟩, hschedules, hextra⟩, rfl⟩
    refine ⟨fun σ => ?_, fun σ => ?_, hschedules, hextra⟩
    -- two sections, each spoken of once for every setting in it
    · cases σ <;> assumption
    · cases σ <;> assumption
  · rintro ⟨hsections, hsettings, hschedules, hextra⟩
    exact ⟨⟨c.logging, c.engine, c.schedules, ()⟩,
      ⟨⟨hsections .level, hsettings .level, hsettings .format, hsettings .logFile,
        hsettings .maxBytes, hsettings .backupCount⟩,
        ⟨hsections .tickInterval, hsettings .tickInterval, hsettings .maxWorkers,
          hsettings .misfireGraceTime, hsettings .timezone⟩, hschedules, hextra⟩, rfl⟩

/-! ## One value over another -/

/-- A check that no mapping passes. -/
def Flat {α : Type} (check : Value → Checked α) : Prop := ∀ es a, check (.mapping es) ≠ .ok a

/-- No check of a single setting takes a mapping. -/
theorem Setting.flat (σ : Setting) : Flat σ.check := by
  intro es a
  cases σ <;> exact nofun

theorem flat_checkSchedules : Flat Settings.checkSchedules := fun _ _ => nofun

/-- A value gives way only to a mapping over a mapping. -/
theorem layer_cases (v : Value) (l : Option Value) :
    layer v l = v ∨ ∃ us fs, v = .mapping us ∧ layer v l = .mapping fs := by
  cases v with
  | mapping us =>
    cases l with
    | none => exact .inl rfl
    | some w => cases w <;> exact .inr ⟨us, _, rfl, rfl⟩
  | _ => exact .inl (by cases l <;> rfl)

/-- **Of one value over another the upper one counts**, where no mapping does. -/
theorem readAs_overlay {α : Type} {check : Value → Checked α} {default : Checked α} (h : Flat check)
    (u l : Option Value) {a : α} :
    ReadAs check default (overlay u l) a ↔ ReadAs check default (u.or l) a := by
  cases u with
  | none => rfl
  | some v =>
    change check (layer v l) = .ok a ↔ check v = .ok a
    rcases layer_cases v l with hv | ⟨us, fs, rfl, hfs⟩
    · rw [hv]
    · -- two mappings: neither the upper one nor the two together pass
      rw [hfs]
      exact iff_of_false (h fs a) (h us a)

/-- Whether the outcome is a section is decided by the first that gives anything. -/
theorem isSection_overlay (u l : Option Value) : IsSection (overlay u l) ↔ IsSection (u.or l) := by
  cases u with
  | none => rfl
  | some v =>
    change IsSection (some (layer v l)) ↔ IsSection (some v)
    rcases layer_cases v l with hv | ⟨us, fs, rfl, hfs⟩
    · rw [hv]
    · rw [hfs]
      exact iff_of_true (isSection_some_iff.mpr ⟨_, rfl⟩) (isSection_some_iff.mpr ⟨_, rfl⟩)

/-- Of three sources over one another the first that has anything counts. -/
theorem readAs_overlay_overlay {α : Type} {check : Value → Checked α} {default : Checked α}
    (h : Flat check) (u l w : Option Value) {a : α} :
    ReadAs check default (overlay (overlay u l) w) a ↔ ReadAs check default ((u.or l).or w) a := by
  rw [readAs_overlay h]
  cases u with
  | none => rfl
  | some v => exact readAs_overlay h (some v) l

/-- So it is for three. -/
theorem isSection_overlay_overlay (u l w : Option Value) :
    IsSection (overlay (overlay u l) w) ↔ IsSection ((u.or l).or w) := by
  rw [isSection_overlay]
  cases u with
  | none => rfl
  | some v => exact isSection_overlay (some v) l

end Cadence.Config
