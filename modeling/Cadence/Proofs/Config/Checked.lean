/-
Checks that pass.

A check that passes gives a value, and so did each check that it is made of. The lemmas here
take a passing check apart in that way, one for each way of putting checks together; what a
key of a model is read as is the check of its value, or its default where it is absent
(`ReadAs`).
-/
import Cadence.Config.Model
import Mathlib.Data.List.Forall2

set_option autoImplicit false

namespace Cadence.Config

variable {α β : Type} {a : α} {b : β}

namespace Checked

variable {c : Checked α} {d : Checked β}

/-- A chain of checks passes when each of them does. -/
@[simp] theorem andThen_eq_ok_iff {f : α → Checked β} :
    c.andThen f = .ok b ↔ ∃ a, c = .ok a ∧ f a = .ok b := by
  cases c <;> simp [andThen]

/-- What is made of a result leaves the verdict. -/
@[simp] theorem map_eq_ok_iff {f : α → β} : c.map f = .ok b ↔ ∃ a, c = .ok a ∧ f a = b := by
  rw [map, andThen_eq_ok_iff]
  simp

/-- Two checks side by side pass together. -/
@[simp] theorem both_eq_ok_iff {p : α × β} :
    c.both d = .ok p ↔ c = .ok p.1 ∧ d = .ok p.2 := by
  obtain ⟨a, b⟩ := p
  cases c <;> cases d <;> simp [both]

/-- Where a fault is reported does not bear on what passes. -/
@[simp] theorem under_eq_ok_iff {step : LocPart} : c.under step = .ok a ↔ c = .ok a := by
  cases c <;> simp [under]

/-- A single check passes as it is. -/
theorem ofExcept_eq_ok_iff {r : Except Fault α} : ofExcept r = .ok a ↔ r = .ok a := by
  cases r with
  | ok b => simp [ofExcept]
  | error e => by_cases he : e.isContent <;> simp [ofExcept, issue, he]

/-- Gathering the faults under the name of a model leaves the verdict too. -/
theorem toExcept_eq_ok_iff {model : String} : c.toExcept model = .ok a ↔ c = .ok a := by
  cases c <;> simp [toExcept]

/-- A list of values passes when each of them does. -/
theorem each_eq_ok_iff {f : Value → Checked α} {xs : List Value} {as : List α} {n : Nat} :
    each f n xs = .ok as ↔ List.Forall₂ (fun x a => f x = .ok a) xs as := by
  induction xs generalizing as n with
  | nil =>
    rw [each, List.forall₂_nil_left_iff, ok.injEq, eq_comm]
  | cons x xs ih =>
    simp only [each, map_eq_ok_iff, both_eq_ok_iff, under_eq_ok_iff, ih,
      List.forall₂_cons_left_iff, Prod.exists]
    constructor
    · rintro ⟨a, as, ⟨ha, has⟩, rfl⟩
      exact ⟨a, as, ha, has, rfl⟩
    · rintro ⟨a, as, ha, has, rfl⟩
      exact ⟨a, as, ⟨ha, has⟩, rfl⟩

end Checked

/-- A value that may be absent is read as what its check gives, or as the default. -/
def ReadAs (check : Value → Checked α) (default : Checked α) (o : Option Value) (a : α) : Prop :=
  match o with
  | some v => check v = .ok a
  | none => default = .ok a

/-- The check of a key reads what stands under it, or gives its default. -/
theorem checkKey_eq_ok_iff {es : Entries} {key : String} {default : Checked α}
    {check : Value → Checked α} :
    checkKey es key default check = .ok a ↔ ReadAs check default (Value.lookup? key es) a := by
  rw [checkKey, Checked.under_eq_ok_iff]
  cases Value.lookup? key es <;> rfl

/-- Only a mapping has entries. -/
theorem checkEntries_eq_ok_iff {model : String} {v : Value} {es : Entries} :
    checkEntries model v = .ok es ↔ v = .mapping es := by
  cases v <;> simp [checkEntries, Checked.issue]

end Cadence.Config
