/-
What a cron text means.

A schedule asks its six patterns in turn and stops at the first that does not match.
Each pattern decides the set of its word, so the schedule matches exactly when every
field of the moment, seen in the schedule's zone, lies in the set of the word at its
place.
-/
import Cadence.Proofs.Pattern.Meaning
import Cadence.Proofs.Schedule.Reading

set_option autoImplicit false

namespace Cadence.Schedule

open Cadence.FieldPattern (meaning parse isMatch)

/-- Asking fields one after the other is asking all of them. -/
theorem acceptsParts_of_fields {s : Schedule} {parts : Sextet Int} {P : Field → Prop}
    (h : ∀ f, ∃ b, (s.fields.get f).accepts (.int (parts.get f)) = .ok b ∧ (b = true ↔ P f))
    (fs : List Field) :
    ∃ b, s.acceptsParts parts fs = .ok b ∧ (b = true ↔ ∀ f ∈ fs, P f) := by
  induction fs with
  | nil => exact ⟨true, by rw [acceptsParts], by simp⟩
  | cons f fs ih =>
    obtain ⟨b, hb, hP⟩ := h f
    obtain ⟨c, hc, hrest⟩ := ih
    rw [acceptsParts, hb]
    -- the first field that does not match ends the walk
    cases b with
    | true =>
      refine ⟨c, hc, ?_⟩
      rw [hrest, List.forall_mem_cons, and_iff_right (hP.mp rfl)]
    | false =>
      refine ⟨false, rfl, ?_⟩
      rw [List.forall_mem_cons, ← hP]
      simp

/-- **Matching is membership in the meaning of the text.** A pattern text that is
accepted matches exactly the integers it stands for; a schedule read from a cron text
matches exactly the moments whose six fields, in the schedule's zone, lie in the sets
of the words at their places. -/
theorem accepts_iff_mem_meaning :
    (∀ (text : String) (p : FieldPattern), parse text = .ok p → ∀ v : Int,
      ∃ b, isMatch (.int v) (.str text) = .ok b ∧ (b = true ↔ v ∈ meaning text.toList)) ∧
    (∀ (text fallback : String) (s : Schedule), ofCron text fallback = .ok s →
      ∀ (m : Moment) (parts : Sextet Int), m.partsIn s.zone = .ok parts →
        ∃ b, s.accepts m = .ok b ∧
          (b = true ↔ ∀ f : Field, parts.get f ∈ meaning (fieldToken text.toList f))) := by
  constructor
  · intro text p hp v
    rw [FieldPattern.isMatch_str, hp]
    exact FieldPattern.parse_accepts hp v
  · intro text fallback s hs m parts hparts
    have hfield : ∀ f : Field, ∃ b, (s.fields.get f).accepts (.int (parts.get f)) = .ok b ∧
        (b = true ↔ parts.get f ∈ meaning (fieldToken text.toList f)) := by
      intro f
      -- each field was read from its own token
      have hread := parse_of_readField (readField_of_ofCron hs f)
      simpa using FieldPattern.parse_accepts hread (parts.get f)
    obtain ⟨b, hb, hall⟩ := acceptsParts_of_fields hfield Field.all
    refine ⟨b, ?_, ?_⟩
    · rw [accepts, hparts]
      exact hb
    · rw [hall]
      exact ⟨fun h f => h f (by cases f <;> decide), fun h f _ => h f⟩

/-- A list on a negative number, and a text with a zone at the start of 2026. -/
theorem accepts_iff_mem_meaning_kolkata :
    (∃ p, parse " 1-10/3 , */4" = .ok p ∧ ∃ b, isMatch (.int (-8)) (.str " 1-10/3 , */4") = .ok b ∧
      (b = true ↔ -8 ∈ meaning " 1-10/3 , */4".toList)) ∧
    (∃ s parts, ofCron "0 */5 1-9/4 * 1,6 * [Asia/Kolkata]" defaultZone = .ok s ∧
      Moment.partsIn ⟨1767225600 * secondMicros, .fixed 0, false⟩ s.zone = .ok parts ∧
      ∃ b, s.accepts ⟨1767225600 * secondMicros, .fixed 0, false⟩ = .ok b ∧ (b = true ↔
        ∀ f : Field, parts.get f ∈
          meaning (fieldToken "0 */5 1-9/4 * 1,6 * [Asia/Kolkata]".toList f))) := by
  have hlist : (parse " 1-10/3 , */4").toOption.isSome = true := by decide +kernel
  have hcron : (ofCron "0 */5 1-9/4 * 1,6 * [Asia/Kolkata]" defaultZone >>= fun s =>
      Moment.partsIn ⟨1767225600 * secondMicros, .fixed 0, false⟩ s.zone).toOption.isSome
        = true := by
    decide +kernel
  obtain ⟨p, hp⟩ := exists_eq_ok_of_isSome hlist
  obtain ⟨parts, h⟩ := exists_eq_ok_of_isSome hcron
  obtain ⟨s, hs, hparts⟩ := bind_eq_ok_iff.mp h
  exact ⟨⟨p, hp, accepts_iff_mem_meaning.1 _ p hp (-8)⟩,
    s, parts, hs, hparts, accepts_iff_mem_meaning.2 _ _ s hs _ parts hparts⟩

end Cadence.Schedule
