/-
How schedules are made.

A schedule is started from the builder's first value, from a cron text or from a
configuration, and changed by any number of setter calls. `Made Q` says so, one
constructor a way, where `Q` is what is assumed of the inputs that are handed over. On all
of these ways a pattern comes from one of three producers: it is the star, it is read from
a word and checked, or it is compiled from an input (`Produced`). The zone is one that is
known under its name. This is followed through the ways once (`Made.sourced`), so that what
holds of a schedule's patterns has only to be shown of the three producers.
-/
import Cadence.Config.Model
import Cadence.Proofs.Schedule.Reading

set_option autoImplicit false

namespace Cadence

/-! ## The ways -/

/-- A pattern comes from one of the producers, compiled only from inputs with `Q`. -/
inductive FieldPattern.Produced (Q : Value → Prop) (f : Field) : FieldPattern → Prop
  | wildcard : Produced Q f .wildcard
  | read {token : List Char} {p : FieldPattern} :
    Schedule.readField f token = .ok p → Produced Q f p
  | compiled {input : Value} {p : FieldPattern} :
    Q input → FieldPattern.compile f input = .ok p → Produced Q f p

open Cadence.FieldPattern (Produced)

namespace Schedule

/-- A schedule is made by the public ways from inputs with `Q`. -/
inductive Made (Q : Value → Prop) : Schedule → Prop
  | every : Made Q .every
  | cron {text fallback : String} {s : Schedule} : ofCron text fallback = .ok s → Made Q s
  | config {c : Config.ScheduleConfig} {s : Schedule} :
    (∀ f input, c.inputs.get f = some input → Q input.value) → c.toSchedule = .ok s → Made Q s
  | call {s t : Schedule} {setter : Setter} {input : Value} :
    Made Q s → Q input → s.call setter input = .ok t → Made Q t

/-- A schedule is made by the public ways, whatever the inputs. -/
abbrev Reachable (s : Schedule) : Prop := Made (fun _ => True) s

/-- Where the parts of a schedule come from. -/
structure Sourced (Q : Value → Prop) (s : Schedule) : Prop where
  produced : ∀ f : Field, Produced Q f (s.fields.get f)
  known : Zone.find? s.zone.name = some s.zone

end Schedule

/-! ## The parts -/

/-- The zone that a name finds is known under its own name, which is that one. -/
theorem Zone.find_eq_ok_iff {name : Value} {z : Zone} :
    Zone.find name = .ok z ↔ name = .str z.name ∧ Zone.find? z.name = some z := by
  unfold Zone.find
  split
  case h_1 s =>
    rw [Value.atom.injEq, Scalar.str.injEq]
    cases hz : Zone.find? s with
    | none =>
      simp only [reduceCtorEq, false_iff, not_and]
      rintro rfl
      simp [hz]
    | some y =>
      rw [Except.ok.injEq]
      constructor
      · rintro rfl
        -- a zone is found under its own name
        have hname := Zone.name_of_find? hz
        rw [hname]
        exact ⟨rfl, hz⟩
      · rintro ⟨rfl, hknown⟩
        rw [hz] at hknown
        exact Option.some.inj hknown
  case h_2 hne =>
    simp only [reduceCtorEq, false_iff, not_and]
    rintro rfl
    exact absurd rfl (hne z.name)

namespace Schedule

variable {Q : Value → Prop} {s t : Schedule}

/-- The schedule that a chain begins with is sourced. -/
theorem sourced_every : Sourced Q every where
  produced f := by
    rw [every, Sextet.get_same]
    exact .wildcard
  known := by decide +kernel

/-- What is read from a text comes from reading. -/
theorem sourced_of_ofCron {text fallback : String} (h : ofCron text fallback = .ok s) :
    Sourced Q s where
  produced f := .read (readField_of_ofCron h f)
  known := by
    rw [ofCron] at h
    split at h
    case h_1 => simp at h
    case h_2 =>
      simp only [bind_eq_ok_iff, pure_eq_ok_iff] at h
      obtain ⟨_, -, _, hz, rfl⟩ := h
      exact (Zone.find_eq_ok_iff.mp hz).2

/-- A field that is set comes from its input, and the others keep their source. -/
theorem Sourced.withField (hs : Sourced Q s) {f : Field} {input : Value} (hinput : Q input)
    (h : s.withField f input = .ok t) : Sourced Q t := by
  rw [Schedule.withField, map_eq_ok_iff] at h
  obtain ⟨p, hp, rfl⟩ := h
  refine ⟨fun g => ?_, hs.known⟩
  rw [Sextet.get_set]
  by_cases hg : g = f
  · rw [if_pos hg, hg]
    exact .compiled hinput hp
  · rw [if_neg hg]
    exact hs.produced g

/-- Every setter keeps a schedule sourced; one for the zone leaves the fields alone. -/
theorem Sourced.call (hs : Sourced Q s) {setter : Setter} {input : Value} (hinput : Q input)
    (h : s.call setter input = .ok t) : Sourced Q t := by
  cases setter with
  | zone =>
    rw [Schedule.call, Schedule.withZone, map_eq_ok_iff] at h
    obtain ⟨z, hz, rfl⟩ := h
    exact ⟨hs.produced, (Zone.find_eq_ok_iff.mp hz).2⟩
  | field name =>
    rw [Schedule.call, bind_eq_ok_iff] at h
    obtain ⟨f, -, hf⟩ := h
    exact hs.withField hinput hf

/-- So do the inputs of a configuration, one after the other. -/
theorem Sourced.applyInputs {inputs : Sextet (Option Config.FieldInput)}
    (hinputs : ∀ f input, inputs.get f = some input → Q input.value) {fs : List Field}
    (hs : Sourced Q s) (h : Config.ScheduleConfig.applyInputs inputs s fs = .ok t) :
    Sourced Q t := by
  induction fs generalizing s with
  | nil =>
    rw [Config.ScheduleConfig.applyInputs, Except.ok.injEq] at h
    rwa [← h]
  | cons f fs ih =>
    rw [Config.ScheduleConfig.applyInputs] at h
    split at h
    case h_1 => exact ih hs h
    case h_2 input hinput =>
      rw [bind_eq_ok_iff] at h
      obtain ⟨u, hu, h⟩ := h
      exact ih (hs.withField (hinputs f input hinput) hu) h

/-- A configuration makes a sourced schedule, from its text or from its inputs. -/
theorem sourced_of_toSchedule {c : Config.ScheduleConfig}
    (hinputs : ∀ f input, c.inputs.get f = some input → Q input.value)
    (h : c.toSchedule = .ok s) : Sourced Q s := by
  rw [Config.ScheduleConfig.toSchedule] at h
  split at h
  case h_1 => exact sourced_of_ofCron h
  case h_2 =>
    rw [bind_eq_ok_iff] at h
    obtain ⟨z, hz, h⟩ := h
    have hstart : Sourced Q ⟨Sextet.same .wildcard, z⟩ := by
      refine ⟨fun f => ?_, (Zone.find_eq_ok_iff.mp hz).2⟩
      rw [Sextet.get_same]
      exact .wildcard
    exact hstart.applyInputs hinputs h

/-- **Every part of a schedule comes from a producer**, on whatever way it was made. -/
theorem Made.sourced (h : Made Q s) : Sourced Q s := by
  induction h with
  | every => exact sourced_every
  | cron h => exact sourced_of_ofCron h
  | config hinputs h => exact sourced_of_toSchedule hinputs h
  | call _ hinput h ih => exact ih.call hinput h

end Schedule

end Cadence
