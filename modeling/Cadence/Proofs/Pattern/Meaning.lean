/-
What a pattern text means.

`Denotes s S` gives each form of an item the set of integers it stands for, and
`meaning` gives a text the union over its items. Neither mentions a pattern: the
step in `a-b/k` is an arithmetic progression here and a remainder in the matcher.
That the matcher decides membership in that set, for every integer, is
`parse_accepts`.

The matcher works on values of any kind. On integers its three operations are the
plain ones, which the first section says once.
-/
import Cadence.Pattern.Match
import Cadence.Proofs.Pattern.Grammar
import Mathlib.Data.Set.Basic

set_option autoImplicit false

namespace Cadence

open Cadence.Number (Numeral Writes)

/-! ## The operations on integers -/

/-- Integers are compared as fractions, and those over one compare as they do themselves. -/
theorem Number.Numeral.order_int (a b : Int) :
    (Numeral.int a).order? (.int b) = some (compare a b) := by
  change some (compare (a * (1 : Nat)) (b * (1 : Nat))) = _
  rw [Nat.cast_one, Int.mul_one, Int.mul_one]

/-- Equality of numbers is that of the integers. -/
theorem Number.Numeral.eqv_int (a b : Int) : (Numeral.int a).eqv (.int b) = decide (a = b) := by
  rw [Numeral.eqv, order_int, Bool.eq_iff_iff]
  simp

/-- So is their order. -/
theorem Number.Numeral.le_int (a b : Int) : (Numeral.int a).le (.int b) = decide (a ≤ b) := by
  rw [Numeral.le, order_int]
  rcases Int.lt_trichotomy a b with h | rfl | h
  · rw [Int.compare_eq_lt.mpr h, decide_eq_true (Int.le_of_lt h)]
  · rw [Int.compare_eq_eq.mpr rfl, decide_eq_true (Int.le_refl a)]
  · rw [Int.compare_eq_gt.mpr h, decide_eq_false (by omega)]

namespace Value

theorem eqv_int (a b : Int) : (Value.int a).eqv (.int b) = decide (a = b) := by
  rw [eqv]
  exact Numeral.eqv_int a b

theorem lessEq_int (a b : Int) : (Value.int a).lessEq (.int b) = .ok (decide (a ≤ b)) := by
  change Except.ok ((Numeral.int a).le (.int b)) = _
  rw [Numeral.le_int]

/-- An integer is looked up between its bounds, the lower one first. -/
theorem between_int (a v b : Int) :
    (Value.int a).between (.int v) (.int b) = .ok (decide (a ≤ v ∧ v ≤ b)) := by
  rw [between, lessEq_int, lessEq_int]
  by_cases h : a ≤ v
  · simp [h, bind, Except.bind]
  · simp [h, bind, Except.bind, pure, Except.pure]

/-- No remainder is left where the divisor divides. -/
theorem remainderIsZero_int (v : Int) {n : Int} (hn : n ≠ 0) :
    (Value.int v).remainderIsZero (.int n) = .ok (decide (n ∣ v)) := by
  change ((Numeral.int v).remainderIsZero (.int n)).mapError Fault.ofArithmetic = _
  rw [Numeral.remainderIsZero, if_neg hn, Except.mapError]
  simp only [Int.dvd_iff_emod_eq_zero]

theorem sub_int (a b : Int) : (Value.int a).sub (.int b) = .ok (.int (a - b)) := rfl

end Value

namespace FieldPattern

open Cadence.Text (splitAt trim)

variable {s : List Char} {p : FieldPattern}

/-- A number takes itself. -/
theorem accepts_exact (n v : Int) :
    (FieldPattern.exact (.int n)).accepts (.int v) = .ok (decide (v = n)) := by
  rw [accepts, Value.eqv_int]

/-- A range takes what is between its ends, and the ends. -/
theorem accepts_span (a b v : Int) :
    (FieldPattern.span (.int a) (.int b)).accepts (.int v) = .ok (decide (a ≤ v ∧ v ≤ b)) := by
  rw [accepts, Value.between_int]

/-- A bare step takes the multiples of its step, and has no use for an end. -/
theorem accepts_every {n : Int} (hn : n ≠ 0) (stop : Scalar) (v : Int) :
    (FieldPattern.step (.int n) .none stop).accepts (.int v) = .ok (decide (n ∣ v)) := by
  rw [accepts, stepAccepts, Value.remainderIsZero_int v hn]

/-- The remainder counts from the start. -/
theorem accepts_stepped {n : Int} (hn : n ≠ 0) (a b v : Int) :
    (FieldPattern.step (.int n) (.int a) (.int b)).accepts (.int v)
      = .ok (decide (a ≤ v ∧ v ≤ b ∧ n ∣ v - a)) := by
  rw [accepts]
  simp only [stepAccepts, Value.between_int, Value.sub_int, bind, Except.bind,
    Value.remainderIsZero_int _ hn, pure, Except.pure, decide_eq_true_eq]
  by_cases h : a ≤ v ∧ v ≤ b
  · simp [h]
  · rw [if_neg h, decide_eq_false (fun h' => h ⟨h'.1, h'.2.1⟩)]

/-- A step with a start and no end takes the start alone: its end is its start. -/
theorem accepts_based {n : Int} (hn : n ≠ 0) (a v : Int) :
    (FieldPattern.step (.int n) (.int a) .none).accepts (.int v) = .ok (decide (v = a)) := by
  -- without an end the start is put in its place
  have hstop : (FieldPattern.step (.int n) (.int a) .none).accepts (.int v)
      = (FieldPattern.step (.int n) (.int a) (.int a)).accepts (.int v) := by
    rw [accepts, accepts]
    rfl
  rw [hstop, accepts_stepped hn, Except.ok.injEq, decide_eq_decide]
  constructor
  · rintro ⟨h₁, h₂, -⟩
    omega
  · rintro rfl
    simp

/-! ## The set of an item -/

/-- The item `s`, without commas and outer blanks, stands for the integers in `S`. -/
inductive Denotes : List Char → Set Int → Prop
  | star : Denotes ['*'] Set.univ
  | number {s : List Char} {n : Nat} : Writes s n → Denotes s {(n : Int)}
  | range {a b : List Char} {low high : Nat} :
    Writes a low → Writes b high → Denotes (a ++ '-' :: b) {v | (low : Int) ≤ v ∧ v ≤ high}
  /-- all multiples, also the negative ones -/
  | every {k : List Char} {n : Nat} :
    Writes k n → 1 ≤ n → Denotes ('*' :: '/' :: k) {v | ∃ j : Int, v = j * n}
  | based {a k : List Char} {start n : Nat} :
    Writes a start → Writes k n → 1 ≤ n → Denotes (a ++ '/' :: k) {(start : Int)}
  | stepped {a b k : List Char} {low high n : Nat} :
    Writes a low → Writes b high → Writes k n → 1 ≤ n →
      Denotes ((a ++ '-' :: b) ++ '/' :: k) {v | ∃ j : Nat, v = low + j * n ∧ v ≤ high}

/-- The integers that a text stands for: those of its items, of which there is one
more than there are commas. -/
def meaning (text : List Char) : Set Int :=
  {v | ∃ part ∈ (trim text).splitOn ',', ∃ S, Denotes (trim part) S ∧ v ∈ S}

/-- Every item stands for some set of integers. -/
theorem Item.exists_denotes (h : Item s p) : ∃ S, Denotes s S := by
  cases h with
  | star => exact ⟨_, .star⟩
  | number hn => exact ⟨_, .number hn⟩
  | range ha hb => exact ⟨_, .range ha hb⟩
  | every hk hpos => exact ⟨_, .every hk hpos⟩
  | based ha hk hpos => exact ⟨_, .based ha hk hpos⟩
  | stepped ha hb hk hpos => exact ⟨_, .stepped ha hb hk hpos⟩

/-- An arithmetic progression from `low` is what has the remainder of `low`. -/
theorem progression_iff {low high v : Int} {n : Nat} :
    (∃ j : Nat, v = low + j * n ∧ v ≤ high) ↔ low ≤ v ∧ v ≤ high ∧ (n : Int) ∣ v - low := by
  constructor
  · rintro ⟨j, rfl, hle⟩
    have hpos : (0 : Int) ≤ j * n := by positivity
    refine ⟨by omega, hle, ⟨j, ?_⟩⟩
    rw [Int.mul_comm (n : Int)]
    omega
  · rintro ⟨hlow, hhigh, j, hj⟩
    -- steps of length zero do not leave the start
    rcases Nat.eq_zero_or_pos n with rfl | hn
    · rw [Nat.cast_zero, Int.zero_mul] at hj
      exact ⟨0, by simp; omega, hhigh⟩
    · have hj0 : 0 ≤ j := by
        by_contra hneg
        have hlt : (n : Int) * j < 0 := Int.mul_neg_of_pos_of_neg (by omega) (by omega)
        omega
      refine ⟨j.toNat, ?_, hhigh⟩
      rw [Int.toNat_of_nonneg hj0, Int.mul_comm j]
      omega

/-- What denotes a set is an item, and its pattern decides the set. -/
theorem Denotes.exists_item {S : Set Int} (h : Denotes s S) : ∃ q, Item s q ∧
    ∀ v : Int, ∃ b, q.accepts (.int v) = .ok b ∧ (b = true ↔ v ∈ S) := by
  cases h with
  | star =>
    refine ⟨_, .star, fun v => ⟨true, ?_, by simp⟩⟩
    rw [accepts]
  | number hn =>
    exact ⟨_, .number hn, fun v => ⟨_, accepts_exact _ v, by simp⟩⟩
  | range ha hb =>
    exact ⟨_, .range ha hb, fun v => ⟨_, accepts_span _ _ v, by simp⟩⟩
  | @every k n hk hpos =>
    -- the multiples of the step, counted from zero
    refine ⟨_, .every hk hpos, fun v => ⟨_, accepts_every (by omega) _ v, ?_⟩⟩
    rw [decide_eq_true_eq, Set.mem_ofPred_eq]
    exact ⟨fun ⟨j, hj⟩ => ⟨j, by rw [hj, Int.mul_comm]⟩,
      fun ⟨j, hj⟩ => ⟨j, by rw [hj, Int.mul_comm]⟩⟩
  | based ha hk hpos =>
    exact ⟨_, .based ha hk hpos, fun v => ⟨_, accepts_based (by omega) _ v, by simp⟩⟩
  | stepped ha hb hk hpos =>
    refine ⟨_, .stepped ha hb hk hpos, fun v => ⟨_, accepts_stepped (by omega) _ _ v, ?_⟩⟩
    rw [decide_eq_true_eq, Set.mem_ofPred_eq, progression_iff]

/-- **An item is matched by the integers it denotes.** -/
theorem Item.accepts (h : Item s p) (v : Int) :
    ∃ b, p.accepts (.int v) = .ok b ∧ (b = true ↔ ∃ S, Denotes s S ∧ v ∈ S) := by
  obtain ⟨S, hS⟩ := h.exists_denotes
  obtain ⟨q, hq, hdec⟩ := hS.exists_item
  obtain rfl := h.unique hq
  obtain ⟨b, hb, hmem⟩ := hdec v
  refine ⟨b, hb, fun h' => ⟨S, hS, hmem.mp h'⟩, ?_⟩
  -- another set of the same item has the same members, since both are decided by `p`
  rintro ⟨T, hT, hv⟩
  obtain ⟨r, hr, hdec'⟩ := hT.exists_item
  obtain rfl := h.unique hr
  obtain ⟨b', hb', hmem'⟩ := hdec' v
  rw [hb, Except.ok.injEq] at hb'
  rw [hb']
  exact hmem'.mpr hv

/-! ## The set of a text -/

/-- A list is matched by what matches one of its items. -/
theorem anyAccepts_of_items {parts : List (List Char)} {items : List FieldPattern}
    (h : List.Forall₂ (fun part q => Item (trim part) q) parts items) (v : Int) :
    ∃ b, anyAccepts items (.int v) = .ok b ∧
      (b = true ↔ ∃ part ∈ parts, ∃ S, Denotes (trim part) S ∧ v ∈ S) := by
  induction h with
  | nil => exact ⟨false, by rw [anyAccepts], by simp⟩
  | @cons part q parts items hq _ ih =>
    obtain ⟨b, hb, hmem⟩ := hq.accepts v
    obtain ⟨c, hc, hrest⟩ := ih
    rw [anyAccepts, hb]
    -- the first item that accepts ends the search
    cases b with
    | true =>
      refine ⟨true, rfl, ?_⟩
      obtain ⟨S, hS, hv⟩ := hmem.mp rfl
      exact ⟨fun _ => ⟨part, by simp, S, hS, hv⟩, fun _ => rfl⟩
    | false =>
      refine ⟨c, hc, ?_⟩
      rw [hrest, List.exists_mem_cons_iff, or_iff_right]
      intro hpart
      exact absurd (hmem.mpr hpart) (by decide)

/-- **A pattern text is matched by the integers it means.** -/
theorem parse_accepts {text : String} (h : parse text = .ok p) (v : Int) :
    ∃ b, p.accepts (.int v) = .ok b ∧ (b = true ↔ v ∈ meaning text.toList) := by
  simp only [meaning, Set.mem_ofPred_eq]
  rcases parse_eq_ok_iff.mp h with ⟨hc, hitem⟩ | ⟨hc, items, rfl, hitems⟩
  · rw [List.splitOn_eq_singleton hc]
    simpa [Text.trim_trim] using hitem.accepts v
  · rw [accepts, ← Text.splitAt_eq_splitOn]
    exact anyAccepts_of_items hitems v

/-- Matching against a text reads the text and matches. -/
theorem isMatch_str (v : Value) (text : String) :
    isMatch v (.str text) = (parse text >>= fun p => p.accepts v) := rfl

end FieldPattern

end Cadence
