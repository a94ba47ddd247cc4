/-
Lists with their repetitions collapsed.

`List.destutter` with "differs from" as its relation drops each entry that repeats the
one before it. A history grows at its end, so the lemma that carries the inductions is
about one more entry at the end (`destutter_concat`): it is kept exactly when the last
entry so far differs from it. Entries are compared by a value they have, so a history
of moments can be collapsed by their seconds.

Collapsing leaves no value twice exactly when the list never comes back to a value it
has left (`nodup_destutter_iff`), as a list in order never does.
-/
import Mathlib.Data.List.Destutter

set_option autoImplicit false

namespace Cadence

variable {α β : Type} {l : List β}

/-! ## Coming back -/

/-- The list never comes back to a value it has left. -/
def NeverReturns (l : List β) : Prop := ∀ a b : β, [a, b, a].Sublist l → b = a

/-- A value that is repeated at once has not come back. -/
theorem neverReturns_cons_self {a : β} : NeverReturns (a :: a :: l) ↔ NeverReturns (a :: l) := by
  refine ⟨fun h x y hs => h x y (hs.cons a), fun h x y hs => ?_⟩
  cases hs with
  | cons _ hs => exact h x y hs
  | cons_cons _ hs =>
    cases hs with
    | cons _ hs => exact h a y (hs.cons_cons a)
    | cons_cons _ _ => rfl

/-- A value that is left must not be found again. -/
theorem neverReturns_cons_cons {a b : β} (hab : a ≠ b) :
    NeverReturns (a :: b :: l) ↔ a ∉ b :: l ∧ NeverReturns (b :: l) := by
  constructor
  · intro h
    refine ⟨fun hmem => ?_, fun x y hs => h x y (hs.cons a)⟩
    have hl : a ∈ l := (List.mem_cons.mp hmem).resolve_left hab
    have hback : [a, b, a].Sublist (a :: b :: l) :=
      ((List.singleton_sublist.mpr hl).cons_cons b).cons_cons a
    exact hab (h a b hback).symm
  · rintro ⟨hmem, h⟩ x y hs
    cases hs with
    | cons _ hs => exact h x y hs
    | cons_cons _ hs => exact absurd (hs.subset (by simp)) hmem

/-- Values that never fall never come back either. -/
theorem neverReturns_of_pairwise {l : List Int} (h : l.Pairwise (· ≤ ·)) : NeverReturns l := by
  intro a b hs
  have hpair := h.sublist hs
  simp only [List.pairwise_cons, List.mem_cons, List.not_mem_nil, or_false, forall_eq_or_imp,
    forall_eq] at hpair
  omega

/-! ## One more entry -/

variable [DecidableEq β] (f : α → β)

/-- An entry at the end is dropped when it shows what the last one shows. -/
theorem destutter'_concat (l : List α) (b a : α) :
    (l ++ [a]).destutter' (fun x y => f x ≠ f y) b =
      if (b :: l).getLast?.map f = some (f a) then l.destutter' (fun x y => f x ≠ f y) b
      else l.destutter' (fun x y => f x ≠ f y) b ++ [a] := by
  induction l generalizing b with
  | nil =>
    rw [List.nil_append, List.destutter'_singleton, List.destutter'_nil]
    by_cases h : f b = f a
    · simp [h]
    · simp [h]
  | cons c l ih =>
    rw [List.cons_append, List.getLast?_cons_cons]
    by_cases h : f b = f c
    · -- the run goes on, and its last entry has the value of its first
      have hlast : (b :: l).getLast?.map f = (c :: l).getLast?.map f := by
        cases l with
        | nil => simp [h]
        | cons d l => rw [List.getLast?_cons_cons, List.getLast?_cons_cons]
      rw [List.destutter'_cons_neg (h := not_not.mpr h),
        List.destutter'_cons_neg (h := not_not.mpr h), ih b, hlast]
    · rw [List.destutter'_cons_pos (h := h), List.destutter'_cons_pos (h := h), ih c]
      split <;> rfl

/-- An entry at the end is kept when the one before it has another value. -/
theorem destutter_concat (l : List α) (a : α) :
    (l ++ [a]).destutter (fun x y => f x ≠ f y) =
      if l.getLast?.map f = some (f a) then l.destutter (fun x y => f x ≠ f y)
      else l.destutter (fun x y => f x ≠ f y) ++ [a] := by
  cases l with
  | nil => simp
  | cons b l => rw [List.cons_append, List.destutter_cons', List.destutter_cons', destutter'_concat]

/-- The last value is kept, whichever of its entries stands for it. -/
theorem getLast?_destutter (l : List α) :
    (l.destutter (fun x y => f x ≠ f y)).getLast?.map f = l.getLast?.map f := by
  induction l using List.reverseRecOn with
  | nil => rfl
  | append_singleton l a ih =>
    rw [destutter_concat, List.getLast?_concat]
    split
    case isTrue h => rw [ih, h, Option.map_some]
    case isFalse => rw [List.getLast?_concat]

/-- Dropping entries by what they show is dropping equal values in a row. -/
theorem map_destutter (l : List α) :
    (l.destutter (fun x y => f x ≠ f y)).map f = (l.map f).destutter (· ≠ ·) :=
  List.map_destutter (fun _ _ _ _ => Iff.rfl)

/-! ## The values that are left -/

/-- No value is lost. -/
theorem mem_destutter_iff {b : β} : b ∈ l.destutter (· ≠ ·) ↔ b ∈ l := by
  refine ⟨fun h => (List.destutter_sublist (· ≠ ·) l).subset h, fun h => ?_⟩
  induction l using List.reverseRecOn with
  | nil => exact absurd h (by simp)
  | append_singleton l a ih =>
    have hconcat := destutter_concat (id : β → β) l a
    simp only [id_eq, Option.map_id_fun] at hconcat
    rw [hconcat]
    rw [List.mem_append, List.mem_singleton] at h
    split
    case isTrue hlast =>
      rcases h with h | rfl
      · exact ih h
      · exact ih (List.mem_of_getLast? hlast)
    case isFalse =>
      rw [List.mem_append, List.mem_singleton]
      exact h.imp_left ih

/-- **Values are left once each exactly when none is come back to.** -/
theorem nodup_destutter_iff (l : List β) :
    (l.destutter (· ≠ ·)).Nodup ↔ NeverReturns l := by
  match l with
  | [] =>
    simp [NeverReturns]
  | [a] =>
    rw [List.destutter_singleton]
    refine ⟨fun _ x y hs => absurd hs.length_le (by simp), fun _ => List.nodup_singleton a⟩
  | a :: b :: l =>
    have ih := nodup_destutter_iff (b :: l)
    by_cases hab : a = b
    · subst hab
      rw [neverReturns_cons_self, ← ih, List.destutter_cons_cons, if_neg (by simp),
        List.destutter_cons']
    · rw [neverReturns_cons_cons hab, ← ih, ← mem_destutter_iff (l := b :: l), ← List.nodup_cons,
        List.destutter_cons_cons, if_pos hab, List.destutter_cons']

/-- A list in order collapses to one in strict order. -/
theorem pairwise_lt_destutter {l : List Int} (h : l.Pairwise (· ≤ ·)) :
    (l.destutter (· ≠ ·)).Pairwise (· < ·) := by
  have hle := h.sublist (List.destutter_sublist (· ≠ ·) l)
  have hne := (nodup_destutter_iff l).mpr (neverReturns_of_pairwise h)
  exact hle.imp₂ (fun _ _ h₁ h₂ => Int.lt_iff_le_and_ne.mpr ⟨h₁, h₂⟩) hne

end Cadence
