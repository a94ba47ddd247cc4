/-
Cron texts, read field by field.

A text is taken apart at its brackets, what stands before them is cut into words,
and each of the six words is read for its field. `fieldToken` names the word of a
field without the reader's help: it is the one at the field's place among the words
before the first bracket. An accepted text has six of them, and the pattern of each
field is read from its word (`readField_of_ofCron`).
-/
import Cadence.Schedule.Cron
import Cadence.Proofs.Sequencing
import Cadence.Proofs.Text.Cutting

set_option autoImplicit false

namespace Cadence

open Cadence.Text (cutAt trim words cutAt_eq_some_iff cutAt_eq_none_iff)

variable {text fallback : String} {s : Schedule}

/-! ## The words of the fields -/

/-- The place of a field in a cron text, counted from zero. -/
def Field.place (f : Field) : Nat := Field.all.idxOf f

/-- The words before the brackets of a cron text. -/
def fieldTokens (text : List Char) : List (List Char) := words (text.takeWhile (· != '['))

def fieldToken (text : List Char) (f : Field) : List Char := (fieldTokens text).getD f.place []

/-! ## The parts of a text -/

/-- What is cut off stands before the first separator. -/
theorem Text.fst_cutAt (sep : Char) (s : List Char) :
    (cutAt sep s).1 = s.takeWhile (· != sep) := by
  induction s with
  | nil => rfl
  | cons c s ih =>
    by_cases hc : c = sep
    · simp [cutAt, hc]
    · rw [cutAt, if_neg hc, List.takeWhile_cons_of_pos (by simpa using hc), ← ih]

/-- The fields stand before the first bracket. -/
theorem CronShape.fields_of_read {s : List Char} {shape : CronShape} (h : read s = some shape) :
    shape.fields = s.takeWhile (· != '[') := by
  rw [← Text.fst_cutAt]
  rw [read] at h
  -- without an opening bracket all of the text are fields
  split at h
  case h_1 before hcut =>
    rw [hcut]
    split at h
    · simp at h
    · simp only [Option.some.injEq] at h
      rw [← h]
  case h_2 before rest hcut =>
    rw [hcut]
    split at h
    · simp at h
    · split at h
      · simp at h
      · split at h
        · simp at h
        · simp only [Option.some.injEq] at h
          rw [← h]

namespace Schedule

/-- The six words are read for their fields, and there are exactly six. -/
theorem readFields_eq_ok_iff {tokens : List (List Char)} {fields : Sextet FieldPattern} :
    readFields text tokens = .ok fields ↔
      tokens.length = 6 ∧
        ∀ f : Field, readField f (tokens.getD f.place []) = .ok (fields.get f) := by
  unfold readFields
  split
  case h_1 a b c d e g =>
    simp only [bind_eq_ok_iff, pure_eq_ok_iff]
    constructor
    · rintro ⟨second, h₁, minute, h₂, hour, h₃, day, h₄, month, h₅, weekday, h₆, rfl⟩
      -- six tokens, one for each field in the order of the text
      refine ⟨rfl, fun f => ?_⟩
      cases f
      exacts [h₁, h₂, h₃, h₄, h₅, h₆]
    · rintro ⟨-, h⟩
      exact ⟨_, h .second, _, h .minute, _, h .hour, _, h .day, _, h .month, _, h .weekday, rfl⟩
  case h_2 hne =>
    simp only [reduceCtorEq, false_iff, not_and]
    intro hlen
    simp only [List.length_eq_succ_iff, List.length_eq_zero_iff] at hlen
    obtain ⟨a, _, rfl, b, _, rfl, c, _, rfl, d, _, rfl, e, _, rfl, g, _, rfl, rfl⟩ := hlen
    exact absurd rfl (hne a b c d e g)

/-- An accepted text has a reading of each field from its word. -/
theorem readField_of_ofCron (h : ofCron text fallback = .ok s) (f : Field) :
    readField f (fieldToken text.toList f) = .ok (s.fields.get f) := by
  rw [ofCron] at h
  split at h
  case h_1 => simp at h
  case h_2 shape hshape =>
    simp only [bind_eq_ok_iff, pure_eq_ok_iff] at h
    obtain ⟨fields, hfields, zone, -, rfl⟩ := h
    have hread := (readFields_eq_ok_iff.mp hfields).2 f
    rwa [CronShape.fields_of_read hshape] at hread

/-- What is read as a field was read as a pattern first. -/
theorem parse_of_readField {f : Field} {token : List Char} {p : FieldPattern}
    (h : readField f token = .ok p) : FieldPattern.parse (String.ofList token) = .ok p := by
  simp only [readField, FieldPattern.checked, bind_eq_ok_iff, pure_eq_ok_iff] at h
  obtain ⟨q, hq, _, -, rfl⟩ := h
  exact hq

end Schedule

end Cadence
