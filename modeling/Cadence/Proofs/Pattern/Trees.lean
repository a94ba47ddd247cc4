/-
Patterns as trees.

A pattern built by hand may nest its lists to any depth, have lists of one item, and steps
with an end but no start. Its text shows none of this: commas join the items of the
innermost lists one after the other, so what is read back is the pattern of the leaves,
`flat`. The two differ as data and agree in what they match.

Everything follows from three facts about the leaves of a tree, each by induction over the
tree. Its text is theirs joined by commas (`written_eq_joinAt`), as long as no list is
empty; it passes the check when they do (`validate_iff_leaves`); and it matches what one of
them matches (`accepts_eq_anyAccepts_leaves`), with the same fault if there is one, since
they are tried in the same order.
-/
import Cadence.Proofs.Pattern.Items
import Cadence.Proofs.Pattern.RoundTrip

set_option autoImplicit false

namespace Cadence

namespace FieldPattern

open Cadence.Number (digits digitLimit)
open Cadence.Text (joinAt)

variable {f : Field} {p q : FieldPattern}

/-- Induction over the tree of a pattern: an item that is no list, and a list whose items
have the property. -/
theorem induct {P : FieldPattern → Prop} (item : ∀ p, (∀ ps, p ≠ .anyOf ps) → P p)
    (list : ∀ ps, (∀ p ∈ ps, P p) → P (.anyOf ps)) : ∀ p, P p
  | .wildcard => item _ (by simp)
  | .exact _ => item _ (by simp)
  | .span _ _ => item _ (by simp)
  | .step _ _ _ => item _ (by simp)
  | .unspecified => item _ (by simp)
  | .anyOf ps => list ps (fun p _ => induct item list p)

mutual

/-- The items of a tree that are no lists, from the left. -/
def leaves : FieldPattern → List FieldPattern
  | .anyOf ps => leavesAll ps
  | p => [p]

def leavesAll : List FieldPattern → List FieldPattern
  | [] => []
  | p :: ps => p.leaves ++ leavesAll ps

end

/-- The leaves of some trees are those of each, in order. -/
theorem leavesAll_eq_flatMap (ps : List FieldPattern) : leavesAll ps = ps.flatMap leaves := by
  induction ps with
  | nil => rfl
  | cons p ps ih => rw [leavesAll, ih, List.flatMap_cons]

/-- What is no list is a leaf. -/
theorem leaves_of_not_list (h : ∀ ps, p ≠ .anyOf ps) : p.leaves = [p] := by
  cases p with
  | anyOf ps => exact absurd rfl (h ps)
  | _ => rfl

/-- The leaves of a list are those of its items. -/
theorem leaves_anyOf (ps : List FieldPattern) : (anyOf ps).leaves = ps.flatMap leaves := by
  rw [leaves, leavesAll_eq_flatMap]

mutual

/-- Whether no list of a tree is empty. -/
def filled : FieldPattern → Bool
  | .anyOf ps => !ps.isEmpty && allFilled ps
  | _ => true

def allFilled : List FieldPattern → Bool
  | [] => true
  | p :: ps => p.filled && allFilled ps

end

/-- A list is filled when it has items and each of them is filled. -/
theorem filled_anyOf_iff {ps : List FieldPattern} :
    (anyOf ps).filled = true ↔ ps ≠ [] ∧ ∀ p ∈ ps, p.filled = true := by
  have hall : ∀ qs : List FieldPattern, allFilled qs = true ↔ ∀ p ∈ qs, p.filled = true := by
    intro qs
    induction qs with
    | nil => simp [allFilled]
    | cons q qs ih => rw [allFilled, Bool.and_eq_true, ih, List.forall_mem_cons]
  rw [filled, Bool.and_eq_true, hall]
  simp

/-- A filled tree has a leaf, and so every list in it has one. -/
theorem leaves_ne_nil (h : p.filled = true) : p.leaves ≠ [] := by
  induction p using induct with
  | item p hp => simp [leaves_of_not_list hp]
  | list ps ih =>
    obtain ⟨hne, hall⟩ := filled_anyOf_iff.mp h
    obtain ⟨q, hq⟩ := List.exists_mem_of_ne_nil ps hne
    obtain ⟨r, hr⟩ := List.exists_mem_of_ne_nil _ (ih q hq (hall q hq))
    rw [leaves_anyOf]
    exact List.ne_nil_of_mem (List.mem_flatMap.mpr ⟨q, hq, hr⟩)

/-- A leaf is no list. -/
theorem not_list_of_mem_leaves (h : q ∈ p.leaves) : ∀ ps, q ≠ .anyOf ps := by
  induction p using induct with
  | item p hp =>
    rw [leaves_of_not_list hp, List.mem_singleton] at h
    exact h ▸ hp
  | list ps ih =>
    rw [leaves_anyOf, List.mem_flatMap] at h
    obtain ⟨p, hp, h⟩ := h
    exact ih p hp h

/-! ## Text, check and matching by the leaves -/

/-- **The text of a tree is that of its leaves**, joined by commas. -/
theorem written_eq_joinAt (h : p.filled = true) :
    p.written = joinAt ',' (p.leaves.map written) := by
  induction p using induct with
  | item p hp => simp [leaves_of_not_list hp, joinAt]
  | list ps ih =>
    obtain ⟨-, hall⟩ := filled_anyOf_iff.mp h
    have hinner : ps.map written = (ps.map (fun p => p.leaves.map written)).map (joinAt ',') := by
      rw [List.map_map]
      exact List.map_congr_left (fun p hp => ih p hp (hall p hp))
    rw [written, writtenAll_eq_map, hinner, Text.joinAt_map_joinAt, leaves_anyOf, List.map_flatMap,
      List.flatMap_def]
    intro ws hws
    obtain ⟨p, hp, rfl⟩ := List.mem_map.mp hws
    simpa using leaves_ne_nil (hall p hp)

/-- **A tree passes the check when its leaves do.** -/
theorem validate_iff_leaves :
    validate f p = .ok () ↔ ∀ q ∈ p.leaves, validate f q = .ok () := by
  induction p using induct with
  | item p hp => simp [leaves_of_not_list hp]
  | list ps ih =>
    rw [validate, validateAll_eq_ok_iff, leaves_anyOf, List.forall_mem_flatMap]
    exact forall₂_congr ih

/-- The items of the first list are asked first. -/
theorem anyAccepts_append (ps qs : List FieldPattern) (v : Value) :
    anyAccepts (ps ++ qs) v = (do if ← anyAccepts ps v then pure true else anyAccepts qs v) := by
  induction ps with
  | nil => rw [List.nil_append, anyAccepts]; rfl
  | cons p ps ih =>
    rw [List.cons_append, anyAccepts, ih, anyAccepts]
    cases hp : p.accepts v with
    | error e => rfl
    | ok b => cases b <;> rfl

theorem anyAccepts_singleton (p : FieldPattern) (v : Value) : anyAccepts [p] v = p.accepts v := by
  rw [anyAccepts, anyAccepts]
  cases p.accepts v with
  | error e => rfl
  | ok b => cases b <;> rfl

/-- **A tree matches what its leaves match**, and fails as they do: they are tried in the
same order. -/
theorem accepts_eq_anyAccepts_leaves (p : FieldPattern) (v : Value) :
    p.accepts v = anyAccepts p.leaves v := by
  induction p using induct with
  | item p hp => rw [leaves_of_not_list hp, anyAccepts_singleton]
  | list ps ih =>
    rw [accepts, leaves_anyOf]
    induction ps with
    | nil => rfl
    | cons p ps ihps =>
      obtain ⟨hp, hps⟩ := List.forall_mem_cons.mp ih
      rw [List.flatMap_cons, anyAccepts_append, ← hp, ← ihps hps, anyAccepts]

/-! ## The pattern that is read back -/

/-- A step without a start is written without its end. -/
def bare : FieldPattern → FieldPattern
  | .step n .none _ => .step n .none .none
  | p => p

/-- The pattern of a tree's leaves, in one list. -/
def flat (p : FieldPattern) : FieldPattern := ofItems (p.leaves.map bare)

/-- Only a step that has an end and no start is changed by leaving the end out. -/
theorem bare_cases (p : FieldPattern) :
    p.bare = p ∨ ∃ n stop, p = .step n .none stop ∧ p.bare = .step n .none .none := by
  unfold bare
  split
  case h_1 n stop => exact .inr ⟨n, stop, rfl, rfl⟩
  case h_2 => exact .inl rfl

/-- Such an end is never written. -/
theorem written_bare (p : FieldPattern) : p.bare.written = p.written := by
  rcases bare_cases p with h | ⟨n, stop, rfl, h⟩ <;> rw [h]
  simp only [written]

/-- Nor does it count when a value is looked at. -/
theorem accepts_bare (p : FieldPattern) (v : Value) : p.bare.accepts v = p.accepts v := by
  rcases bare_cases p with h | ⟨n, stop, rfl, h⟩ <;> rw [h]
  simp only [accepts, stepAccepts]

theorem anyAccepts_map_bare (ps : List FieldPattern) (v : Value) :
    anyAccepts (ps.map bare) v = anyAccepts ps v := by
  induction ps with
  | nil => rfl
  | cons p ps ih => rw [List.map_cons, anyAccepts, ih, accepts_bare, anyAccepts]

/-- Items are written with commas, and a single one as it is. -/
theorem written_ofItems (ps : List FieldPattern) :
    (ofItems ps).written = joinAt ',' (ps.map written) := by
  match ps with
  | [] => rfl
  | [p] => rfl
  | p :: q :: ps => rw [ofItems_of_two_le (by simp), written, writtenAll_eq_map]

/-- Items accept what one of them accepts, and a single one what it accepts. -/
theorem accepts_ofItems (ps : List FieldPattern) (v : Value) :
    (ofItems ps).accepts v = anyAccepts ps v := by
  match ps with
  | [] => rfl
  | [p] => exact (anyAccepts_singleton p v).symm
  | p :: q :: ps => rw [ofItems_of_two_le (by simp), accepts]

/-- **The flat pattern matches what the tree does.** -/
theorem accepts_flat (p : FieldPattern) (v : Value) : p.flat.accepts v = p.accepts v := by
  rw [flat, accepts_ofItems, anyAccepts_map_bare, ← accepts_eq_anyAccepts_leaves]

/-- The flat pattern has the text of the tree. -/
theorem written_flat (h : p.filled = true) : p.flat.written = p.written := by
  rw [flat, written_ofItems, List.map_map, written_eq_joinAt h]
  exact congrArg (joinAt ',') (List.map_congr_left (fun q _ => written_bare q))

/-! ## Reading the text of a tree -/

/-- What stands in a pattern that is no list. -/
def scalars : FieldPattern → List Scalar
  | .exact v => [v]
  | .span a b => [a, b]
  | .step n a b => [n, a, b]
  | _ => []

/-- The integers of a tree have no more decimal digits than are converted. -/
def Moderate (p : FieldPattern) : Prop :=
  ∀ q ∈ p.leaves, ∀ n : Int, .int n ∈ q.scalars → (digits n.natAbs).length ≤ digitLimit

/-- What suits a field is an item of its canonical patterns, but for the end that nothing
looks at. -/
theorem Suits.simple_bare (h : Suits f p)
    (hm : ∀ n : Int, .int n ∈ p.scalars → (digits n.natAbs).length ≤ digitLimit) :
    Simple f p.bare := by
  have hlow := f.low_nonneg
  -- no field goes below zero, so that its numbers are natural ones
  cases h with
  | wildcard => exact .wildcard
  | @exact n h₁ h₂ => exact simple_exact h₁ h₂
  | @span a b h₁ h₂ h₃ =>
    obtain ⟨j, rfl⟩ := Int.eq_ofNat_of_zero_le (by omega : 0 ≤ a)
    obtain ⟨k, rfl⟩ := Int.eq_ofNat_of_zero_le (by omega : 0 ≤ b)
    exact .span h₁ (by omega) h₃
  | @every n stop h₁ h₂ =>
    obtain ⟨k, rfl⟩ := Int.eq_ofNat_of_zero_le (by omega : 0 ≤ n)
    exact .every (by omega) h₂
  | @based a n h₁ h₂ h₃ =>
    obtain ⟨j, rfl⟩ := Int.eq_ofNat_of_zero_le (by omega : 0 ≤ a)
    obtain ⟨k, rfl⟩ := Int.eq_ofNat_of_zero_le (by omega : 0 ≤ n)
    exact .based h₁ h₂ (by omega) (hm k (by simp [scalars]))
  | @stepped a b n h₁ h₂ h₃ h₄ =>
    obtain ⟨i, rfl⟩ := Int.eq_ofNat_of_zero_le (by omega : 0 ≤ a)
    obtain ⟨j, rfl⟩ := Int.eq_ofNat_of_zero_le (by omega : 0 ≤ b)
    obtain ⟨k, rfl⟩ := Int.eq_ofNat_of_zero_le (by omega : 0 ≤ n)
    exact .stepped h₁ (by omega) h₃ (by omega) (hm k (by simp [scalars]))

/-- The leaves of a tree that passes the check suit the field. -/
theorem suits_of_mem_leaves (h : validate f p = .ok ()) (hq : q ∈ p.leaves) : Suits f q :=
  suits_of_validate (not_list_of_mem_leaves hq) (validate_iff_leaves.mp h q hq)

/-- **The flat pattern of a tree is canonical.** -/
theorem canonical_flat (hfilled : p.filled = true) (h : validate f p = .ok ())
    (hm : p.Moderate) : Canonical f p.flat := by
  have hsimple : ∀ q ∈ p.leaves.map bare, Simple f q := by
    intro q hq
    obtain ⟨r, hr, rfl⟩ := List.mem_map.mp hq
    exact (suits_of_mem_leaves h hr).simple_bare (hm r hr)
  have hne : p.leaves.map bare ≠ [] := by simpa using leaves_ne_nil hfilled
  rw [flat]
  match hps : p.leaves.map bare, hne with
  | [q], _ => exact .item (hsimple q (by simp [hps]))
  | q :: r :: qs, _ =>
    rw [hps] at hsimple
    exact .list (by simp) hsimple

/-- What passes the check has a text when its integers have. -/
theorem requireText_of_validate (h : validate f p = .ok ()) (hm : p.Moderate) :
    p.requireText = .ok () := by
  -- over the tree, whose leaves are those of its branches
  induction p using induct with
  | item p hp =>
    have hscalar : ∀ n : Int, .int n ∈ p.scalars → requireScalarText (.int n) = .ok () :=
      fun n hn => requireScalarText_int (hm p (by simp [leaves_of_not_list hp]) n hn)
    cases suits_of_validate hp h with
    | wildcard => rfl
    | exact => exact hscalar _ (by simp [scalars])
    | span =>
      rw [requireText, hscalar _ (by simp [scalars])]
      exact hscalar _ (by simp [scalars])
    | every => exact hscalar _ (by simp [scalars])
    | @based a n =>
      rw [requireText, hscalar a (by simp [scalars])]
      · exact hscalar n (by simp [scalars])
      · simp
    | @stepped a b n =>
      rw [requireText, hscalar a (by simp [scalars])]
      · rw [hscalar b (by simp [scalars])]
        exact hscalar n (by simp [scalars])
      · simp
      · simp
  | list ps ih =>
    rw [validate, validateAll_eq_ok_iff] at h
    rw [requireText, requireTexts_eq_ok_iff]
    exact fun q hq => ih q hq (h q hq) (fun r hr => hm r (by
      rw [leaves_anyOf]
      exact List.mem_flatMap.mpr ⟨q, hq, hr⟩))

/-- **Writing keeps the meaning of a tree.** A pattern that passes the check of a field has
a text, however its lists are nested, as long as none is empty and its integers can be
written. The text is read as a pattern without a list in a list; this passes the check of
the field and matches what the tree matches, and on integers both answer. -/
theorem parse_render_of_tree (hfilled : p.filled = true) (h : validate f p = .ok ())
    (hm : p.Moderate) : ∃ text q, p.render = .ok text ∧ parse text = .ok q ∧ q.Flat ∧
      checked f q = .ok q ∧ (∀ v, q.accepts v = p.accepts v) ∧
      ∀ n : Int, ∃ b, p.accepts (.int n) = .ok b := by
  have hcanonical := canonical_flat hfilled h hm
  -- the tree is written as its flattened form, and that form is canonical
  have hread := hcanonical.parse_written
  rw [written_flat hfilled] at hread
  refine ⟨String.ofList p.written, p.flat, ?_, hread, ?_, ?_, accepts_flat p, fun n => ?_⟩
  · exact render_of_requireText (requireText_of_validate h hm)
  · refine flat_ofItems (by simpa using leaves_ne_nil hfilled) (fun q hq => ?_)
    obtain ⟨r, hr, rfl⟩ := List.mem_map.mp hq
    exact ((suits_of_mem_leaves h hr).simple_bare (hm r hr)).suits.not_list
  · rw [checked, hcanonical.validate]
    rfl
  · obtain ⟨b, hb, -⟩ := parse_accepts hread n
    exact ⟨b, by rw [← accepts_flat, hb]⟩

/-- Lists of one item, a list in a list in a list, and a step with an end but no start, for
the month. -/
theorem parse_render_of_tree_nested :
    let p := anyOf [anyOf [step (.int 5) .none (.int 9)], anyOf [anyOf [exact (.int 3),
      span (.int 7) (.int 11)], step (.int 40) (.int 2) .none]]
    p.filled = true ∧ validate .month p = .ok () ∧ p.Moderate ∧
      ∃ text q, p.render = .ok text ∧ parse text = .ok q ∧ q.Flat ∧
        checked .month q = .ok q ∧ (∀ v, q.accepts v = p.accepts v) ∧
        ∀ n : Int, ∃ b, p.accepts (.int n) = .ok b := by
  intro p
  have hfilled : p.filled = true := rfl
  have hvalid : validate .month p = .ok () := rfl
  have hmoderate : p.Moderate := by
    intro q hq n hn
    have hsmall : n.natAbs < 100 := by
      -- the leaves of the tree, with two digits at most each
      have hleaves : p.leaves = [step (.int 5) .none (.int 9), exact (.int 3),
        span (.int 7) (.int 11), step (.int 40) (.int 2) .none] := rfl
      simp only [hleaves, List.mem_cons, List.not_mem_nil, or_false] at hq
      rcases hq with rfl | rfl | rfl | rfl <;>
        simp only [scalars, List.mem_cons, List.not_mem_nil, or_false, reduceCtorEq, false_or,
          Scalar.int.injEq] at hn <;> omega
    exact Nat.le_trans (Number.length_digits_le_two hsmall) (by decide)
  exact ⟨hfilled, hvalid, hmoderate, parse_render_of_tree hfilled hvalid hmoderate⟩

end FieldPattern

end Cadence
