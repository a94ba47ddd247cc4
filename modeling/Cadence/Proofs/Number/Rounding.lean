/-
The rounding of a ratio, and what it keeps.

A ratio below `2^(b + 1)` is rounded to a whole number of units of `2^(-k)` with `k` at
least `52 - b`, and the rounded value is within half a unit of it (`exists_ratio?_ofRatio`).
The floor of the ratio is kept when half a unit is less than the least distance that a
fraction of the denominator can have from the next integer, which is one part in the
denominator (`floor_eq_of_near`). For seconds that come in millionths this is so up to
`2^34`: the units are then of `2^(-19)`, and half of one is below a millionth.
-/
import Cadence.Instant.Basic
import Mathlib.Tactic.Linarith
import Mathlib.Tactic.Ring

set_option autoImplicit false

namespace Cadence

namespace Number

/-! ## Parts of the rounding -/

/-- A scale of two to a natural number is a product. -/
theorem scaleUp_natCast (n k : Nat) : scaleUp n (k : Int) = n * 2 ^ k := by
  rw [scaleUp, Int.toNat_natCast, Nat.pow_eq]

/-- A scale below one is left to the divisor. -/
theorem scaleUp_of_nonpos (n : Nat) {e : Int} (he : e ≤ 0) : scaleUp n e = n := by
  rw [scaleUp, Int.toNat_of_nonpos he, Nat.pow_eq, Nat.pow_zero, Nat.mul_one]

/-- The nearest integer is within a half. -/
theorem roundHalfEven_bounds (num : Nat) {den : Nat} (hden : 0 < den) :
    2 * num ≤ 2 * (den * roundHalfEven num den) + den ∧
      2 * (den * roundHalfEven num den) ≤ 2 * num + den := by
  have hdiv := Nat.div_add_mod num den
  have hmod := Nat.mod_lt num hden
  have hnext : den * (num / den + 1) = den * (num / den) + den := Nat.mul_succ ..
  unfold roundHalfEven
  simp only
  -- down, up, or to the even one of the two
  split
  · omega
  · split
    · rw [hnext]
      omega
    · split
      · omega
      · rw [hnext]
        omega

/-- A ratio below `2^(b + 1)` has an order of at most `b`. -/
theorem binaryOrder_le {num den b : Nat} (hnum : num ≠ 0) (h : num < den * 2 ^ (b + 1)) :
    binaryOrder num den ≤ b := by
  have hden : den < 2 ^ (den.log2 + 1) := Nat.lt_log2_self
  have hlog : num.log2 < den.log2 + b + 2 := by
    rw [Nat.log2_lt hnum]
    calc num < den * 2 ^ (b + 1) := h
      _ ≤ 2 ^ (den.log2 + 1) * 2 ^ (b + 1) := Nat.mul_le_mul_right _ (Nat.le_of_lt hden)
      _ = 2 ^ (den.log2 + b + 2) := by rw [← Nat.pow_add]; congr 1; omega
  unfold binaryOrder
  simp only
  by_cases htop : (num.log2 : Int) - den.log2 = ((b + 1 : Nat) : Int)
  · -- the numbers of digits give one too many, which the comparison takes back
    rw [htop, scaleUp_natCast, scaleUp_of_nonpos num (by omega), if_neg (by omega)]
    omega
  · split <;> omega

/-! ## The rounded value -/

/-- **The double nearest to a ratio below `2^(b + 1)`**, as a number of units of
`2^(-k)`. -/
theorem exists_ratio?_ofRatio (negative : Bool) {num den b : Nat} (hden : 0 < den) (hb : b ≤ 51)
    (h : num < den * 2 ^ (b + 1)) :
    ∃ m k : Nat, 52 ≤ b + k ∧ 2 * (num * 2 ^ k) ≤ 2 * (den * m) + den ∧
      2 * (den * m) ≤ 2 * (num * 2 ^ k) + den ∧
      ∃ (n : Int) (d : Nat), (Binary64.ofRatio negative num den).ratio? = some (n, d) ∧
        n / d = (if negative then -(m : Int) else m) / 2 ^ k := by
  by_cases hnum : num = 0
  · refine ⟨0, 52, by omega, by simp [hnum], by simp, ?_⟩
    rw [Binary64.ofRatio, if_pos hnum, Binary64.ratio?]
    refine ⟨_, _, rfl, ?_⟩
    rw [scaleUp_of_nonpos 0 (by decide), Nat.cast_zero, Int.neg_zero, ite_self, Int.zero_ediv,
      Int.zero_ediv]
  · have horder := binaryOrder_le hnum h
    obtain ⟨k, hk⟩ : ∃ k : Nat, max (binaryOrder num den - 52) (-1074) = -(k : Int) :=
      ⟨(-max (binaryOrder num den - 52) (-1074)).toNat, by omega⟩
    have hround := roundHalfEven_bounds (num * 2 ^ k) hden
    refine ⟨roundHalfEven (num * 2 ^ k) den, k, by omega, hround.1, hround.2, ?_⟩
    generalize hm : roundHalfEven (num * 2 ^ k) den = m
    -- a mantissa that is rounded up to a power of two carries into the exponent
    have hvalue : Binary64.ofRatio negative num den
        = if m = 2 * mantissaStart then .finite negative mantissaStart (-(k : Int) + 1)
          else .finite negative m (-(k : Int)) := by
      rw [Binary64.ofRatio, if_neg hnum]
      simp only [hk, Int.neg_neg, scaleUp_natCast,
        scaleUp_of_nonpos den (by omega : -(k : Int) ≤ 0), hm]
      split
      · simp only
        rw [if_neg (by omega)]
      · simp only
        rw [if_neg (by omega)]
    rw [hvalue]
    by_cases hcarry : m = 2 * mantissaStart
    · -- the mantissa is halved and so is the number of units
      obtain ⟨j, rfl⟩ : ∃ j, k = j + 1 := ⟨k - 1, by omega⟩
      have hexp : -((j + 1 : Nat) : Int) + 1 = -(j : Int) := by omega
      rw [if_pos hcarry, hexp, Binary64.ratio?]
      refine ⟨_, _, rfl, ?_⟩
      rw [Int.neg_neg, scaleUp_natCast, scaleUp_of_nonpos _ (by omega), Nat.one_mul, hcarry]
      have htwice : (if negative then -((2 * mantissaStart : Nat) : Int)
          else ((2 * mantissaStart : Nat) : Int))
          = 2 * (if negative then -(mantissaStart : Int) else mantissaStart) := by
        split <;> omega
      rw [htwice, Int.pow_succ', Int.mul_ediv_mul_of_pos _ _ (by decide)]
      norm_cast
    · rw [if_neg hcarry, Binary64.ratio?]
      refine ⟨_, _, rfl, ?_⟩
      rw [Int.neg_neg, scaleUp_natCast, scaleUp_of_nonpos _ (by omega), Nat.one_mul]
      norm_cast

/-! ## The floor -/

/-- A number of units within half a unit of a fraction has its floor, when half a unit is
less than one part of the fraction. -/
theorem floor_eq_of_near {n m d : Int} {k : Nat} (hpos : 0 < d) (hd : d < 2 * 2 ^ k)
    (h₁ : 2 * (n * 2 ^ k) ≤ 2 * (d * m) + d) (h₂ : 2 * (d * m) ≤ 2 * (n * 2 ^ k) + d) :
    m / 2 ^ k = n / d := by
  have hunit : (0 : Int) < 2 ^ k := by positivity
  have hdiv := Int.mul_ediv_add_emod n d
  have hmod := Int.emod_nonneg n (by omega : d ≠ 0)
  have hmod' := Int.emod_lt_of_pos n hpos
  generalize n / d = s at hdiv ⊢
  generalize n % d = e at hdiv hmod hmod'
  rw [← hdiv] at h₁ h₂
  refine Int.ediv_eq_iff_of_pos hunit |>.mpr ⟨?_, ?_⟩
  · -- `m` is not below `s` units, since the fraction is not
    have hlow : d * (2 * (s * 2 ^ k)) ≤ d * (2 * m + 1) := by nlinarith
    have := le_of_mul_le_mul_left hlow hpos
    omega
  · -- and it stays below `s + 1` units, from which the fraction is one part away
    have hhigh : d * (2 * m) < d * (2 * (s * 2 ^ k + 2 ^ k)) := by nlinarith
    have := lt_of_mul_lt_mul_left hhigh (le_of_lt hpos)
    omega

end Number

/-! ## Time stamps -/

/-- **The time stamp of a moment before second `2^34` has the floor of the moment.** -/
theorem Moment.stampFloor_eq {micros : Int} (h : (micros / secondMicros).natAbs < 2 ^ 34) :
    Moment.stampFloor micros = micros / secondMicros := by
  have hsecond : secondMicros = 1000000 := rfl
  rw [hsecond] at h ⊢
  have hbound : micros.natAbs < 1000000 * 2 ^ (33 + 1) := by omega
  obtain ⟨m, k, hk, h₁, h₂, n, d, hratio, hvalue⟩ :=
    Number.exists_ratio?_ofRatio (decide (micros < 0)) (by decide) (by decide) hbound
  -- nineteen binary places beside the seconds, so that rounding moves by less than a microsecond
  have hunit : (2 : Int) ^ 19 ≤ 2 ^ k := by
    exact_mod_cast Nat.pow_le_pow_right (by decide : 0 < 2) (by omega : 19 ≤ k)
  rw [Moment.stampFloor, Number.Binary64.ofSigned, hratio]
  simp only
  rw [hvalue]
  zify at h₁ h₂
  by_cases hneg : micros < 0
  · rw [abs_of_neg hneg] at h₁ h₂
    rw [if_pos (by simpa using hneg)]
    exact Number.floor_eq_of_near (by decide) (by omega) (by linarith) (by linarith)
  · rw [abs_of_nonneg (by omega)] at h₁ h₂
    rw [if_neg (by simpa using hneg)]
    exact Number.floor_eq_of_near (by decide) (by omega) (by linarith) (by linarith)

end Cadence
