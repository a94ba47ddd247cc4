/-
Numerals, written and read.

`digits` writes a number and `ofDigits` reads it back: reading is a fold from the
left, and writing puts the last digit behind those of the tenth part, so the two
meet at the last digit. A numeral in the sense of the readers, `Writes s n`, is a
text of digits within the limit together with its number; leading zeros are
allowed, so a number has many numerals and `digits n` is the shortest of them.
-/
import Cadence.Number.Decimal
import Mathlib.Data.List.Induction
import Mathlib.Tactic.IntervalCases

set_option autoImplicit false

namespace Cadence.Number

open Cadence.Text (isDigit)

/-! ## One digit -/

/-- The digits are ten characters in a row. -/
theorem toNat_digitChar (d : Nat) : (digitChar d).toNat = 0x30 + d % 10 := by
  have h : d % 10 < 10 := Nat.mod_lt _ (by decide)
  rw [digitChar]
  generalize d % 10 = k at h
  interval_cases k <;> rfl

theorem isDigit_iff (c : Char) : isDigit c = true ↔ 0x30 ≤ c.toNat ∧ c.toNat ≤ 0x39 := by
  rw [isDigit, Bool.and_eq_true, decide_eq_true_eq, decide_eq_true_eq]
  rfl

theorem isDigit_digitChar (d : Nat) : isDigit (digitChar d) = true := by
  rw [isDigit_iff, toNat_digitChar]
  omega

/-! ## Writing -/

theorem digitsOnto_of_lt {n : Nat} (h : n < 10) (acc : List Char) :
    digitsOnto n acc = digitChar n :: acc := by
  rw [digitsOnto, if_pos h]

/-- The last digit goes in front of those written before, and the tenth part before it. -/
theorem digitsOnto_of_le {n : Nat} (h : 10 ≤ n) (acc : List Char) :
    digitsOnto n acc = digitsOnto (n / 10) (digitChar (n % 10) :: acc) := by
  rw [digitsOnto, if_neg (by omega)]

/-- The digits written before do not matter to those that come in front. -/
theorem digitsOnto_eq_append (n : Nat) (acc : List Char) : digitsOnto n acc = digits n ++ acc := by
  induction n using Nat.strongRecOn generalizing acc with
  | ind n ih =>
    rw [digits]
    rcases Nat.lt_or_ge n 10 with h | h
    · rw [digitsOnto_of_lt h, digitsOnto_of_lt h]
      rfl
    · rw [digitsOnto_of_le h, digitsOnto_of_le h, ih (n / 10) (by omega),
        ih (n / 10) (by omega) [_], List.append_assoc]
      rfl

theorem digits_of_lt {n : Nat} (h : n < 10) : digits n = [digitChar n] :=
  digitsOnto_of_lt h []

/-- The last digit stands behind those of the tenth part. -/
theorem digits_of_le {n : Nat} (h : 10 ≤ n) :
    digits n = digits (n / 10) ++ [digitChar (n % 10)] := by
  rw [digits, digitsOnto_of_le h, digitsOnto_eq_append]

theorem digits_ne_nil (n : Nat) : digits n ≠ [] := by
  rcases Nat.lt_or_ge n 10 with h | h
  · simp [digits_of_lt h]
  · simp [digits_of_le h]

/-- A number is written with digits only, by induction on its tenth part. -/
theorem isDigit_of_mem_digits {n : Nat} {c : Char} (h : c ∈ digits n) : isDigit c = true := by
  induction n using Nat.strongRecOn with
  | ind n ih =>
    rcases Nat.lt_or_ge n 10 with hn | hn
    · rw [digits_of_lt hn, List.mem_singleton] at h
      rw [h]
      exact isDigit_digitChar n
    · rw [digits_of_le hn, List.mem_append, List.mem_singleton] at h
      rcases h with h | rfl
      · exact ih (n / 10) (by omega) h
      · exact isDigit_digitChar _

/-! ## Reading -/

/-- One digit more moves the others up by a place. -/
theorem ofDigits_append (s : List Char) (c : Char) :
    ofDigits (s ++ [c]) = ofDigits s * 10 + (c.toNat - 0x30) := by
  simp [ofDigits]

/-- **A number is read from its own digits.** -/
theorem ofDigits_digits (n : Nat) : ofDigits (digits n) = n := by
  induction n using Nat.strongRecOn with
  | ind n ih =>
    rcases Nat.lt_or_ge n 10 with h | h
    · rw [digits_of_lt h, ← List.nil_append [digitChar n], ofDigits_append, toNat_digitChar]
      simp only [ofDigits, List.foldl_nil]
      omega
    · rw [digits_of_le h, ofDigits_append, ih (n / 10) (by omega), toNat_digitChar]
      omega

/-- A number below a power of ten has no more digits than the exponent says. -/
theorem length_digits_le {width n : Nat} (hwidth : 0 < width) (h : n < 10 ^ width) :
    (digits n).length ≤ width := by
  induction width generalizing n with
  | zero => exact absurd hwidth (Nat.lt_irrefl 0)
  | succ width ih =>
    rcases Nat.lt_or_ge n 10 with hn | hn
    · simp [digits_of_lt hn]
    -- the tenth part loses a digit, and the power one in its exponent
    · have htenth : n / 10 < 10 ^ width := by
        rw [Nat.div_lt_iff_lt_mul (by decide), ← Nat.pow_succ]
        exact h
      have hpos : 0 < width := by
        rcases Nat.eq_zero_or_pos width with rfl | hpos
        · omega
        · exact hpos
      rw [digits_of_le hn, List.length_append, List.length_singleton]
      exact Nat.add_le_add_right (ih hpos htenth) 1

theorem length_digits_le_two {n : Nat} (h : n < 100) : (digits n).length ≤ 2 :=
  length_digits_le (by decide) h

/-- No text of digits is shorter than the digits of its number. -/
theorem length_digits_ofDigits_le {s : List Char} (hne : s ≠ [])
    (hs : ∀ c ∈ s, isDigit c = true) : (digits (ofDigits s)).length ≤ s.length := by
  induction s using List.reverseRecOn with
  | nil => exact absurd rfl hne
  | append_singleton s c ih =>
    have hc := (isDigit_iff c).mp (hs c (by simp))
    rw [ofDigits_append, List.length_append, List.length_singleton]
    rcases Nat.lt_or_ge (ofDigits s * 10 + (c.toNat - 0x30)) 10 with h | h
    · rw [digits_of_lt h, List.length_singleton]
      omega
    · have hs' : s ≠ [] := by
        rintro rfl
        simp only [ofDigits, List.foldl_nil] at h
        omega
      -- dropping the last character is taking the tenth part
      have htenth : (ofDigits s * 10 + (c.toNat - 0x30)) / 10 = ofDigits s := by omega
      rw [digits_of_le h, htenth, List.length_append, List.length_singleton]
      exact Nat.add_le_add_right (ih hs' (fun d hd => hs d (by simp [hd]))) 1

/-! ## Numbers of a fixed width -/

/-- The text `s` is `n` written with `width` digits. -/
structure Fills (s : List Char) (width n : Nat) : Prop where
  length : s.length = width
  isDigit : ∀ c ∈ s, isDigit c = true
  value : ofDigits s = n

/-- A text that fills some width is not empty. -/
theorem Fills.ne_nil {s : List Char} {width n : Nat} (h : Fills s width n) (hwidth : 0 < width) :
    s ≠ [] :=
  List.ne_nil_of_length_pos (h.length ▸ hwidth)

/-- Zeros in front change nothing. -/
theorem ofDigits_zeros (k : Nat) (s : List Char) :
    ofDigits (List.replicate k '0' ++ s) = ofDigits s := by
  induction k with
  | zero => rfl
  | succ k ih => rw [List.replicate_succ, List.cons_append, ← ih]; rfl

/-- Zeros in front are digits as well. -/
theorem isDigit_of_mem_padded {width n : Nat} {c : Char} (h : c ∈ (padded width n).toList) :
    isDigit c = true := by
  rw [padded, String.toList_ofList] at h
  rcases List.mem_append.mp h with h | h
  · rw [List.eq_of_mem_replicate h]
    rfl
  · exact isDigit_of_mem_digits h

/-- A number that is small enough fills its width. -/
theorem fills_padded {width n : Nat} (hwidth : 0 < width) (h : n < 10 ^ width) :
    Fills (padded width n).toList width n := by
  have hlength := length_digits_le hwidth h
  refine ⟨?_, fun c => isDigit_of_mem_padded, ?_⟩
  · rw [padded, String.toList_ofList, List.length_append, List.length_replicate]
    omega
  · rw [padded, String.toList_ofList, ofDigits_zeros, ofDigits_digits]

/-! ## Numerals -/

/-- The text `s` writes the number `n`: it consists of digits, at least one and at
most as many as are converted. -/
structure Writes (s : List Char) (n : Nat) : Prop where
  ne_nil : s ≠ []
  isDigit : ∀ c ∈ s, isDigit c = true
  short : s.length ≤ digitLimit
  value : ofDigits s = n

/-- The digits of a number of moderate length are a numeral of it. -/
theorem writes_digits {n : Nat} (h : (digits n).length ≤ digitLimit) : Writes (digits n) n :=
  ⟨digits_ne_nil n, fun _ => isDigit_of_mem_digits, h, ofDigits_digits n⟩

/-- No sign, blank or letter stands in a numeral. -/
theorem Writes.notMem {s : List Char} {n : Nat} (h : Writes s n) {c : Char}
    (hc : Text.isDigit c = false) : c ∉ s := by
  intro hmem
  rw [h.isDigit c hmem] at hc
  exact Bool.noConfusion hc

/-- The number of a numeral has digits within the limit. -/
theorem Writes.length_digits_le {s : List Char} {n : Nat} (h : Writes s n) :
    (digits n).length ≤ digitLimit := by
  rw [← h.value]
  exact Nat.le_trans (length_digits_ofDigits_le h.ne_nil h.isDigit) h.short

theorem toList_intText_natCast (n : Nat) : (intText (n : Int)).toList = digits n := by
  rw [intText, if_neg (by omega), natText, String.toList_ofList, Int.natAbs_natCast]

/-! ## Integers

The text of a negative integer starts with a hyphen, where a numeral has a digit. -/

/-- An integer is written with its sign in front of the digits of its size. -/
theorem toList_intText (n : Int) : (intText n).toList =
    if n < 0 then '-' :: digits n.natAbs else digits n.natAbs := by
  rw [intText]
  split
  · rw [String.toList_ofList]
  · rw [natText, String.toList_ofList]

/-- The text of an integer consists of digits and of a hyphen for the sign. -/
theorem isDigit_or_hyphen {n : Int} {c : Char} (h : c ∈ (intText n).toList) :
    isDigit c = true ∨ c = '-' := by
  rw [toList_intText] at h
  split at h
  · rcases List.mem_cons.mp h with rfl | h
    · exact .inr rfl
    · exact .inl (isDigit_of_mem_digits h)
  · exact .inl (isDigit_of_mem_digits h)

/-- A text that is a numeral writes no other integer than its own. -/
theorem eq_of_writes_intText {n : Int} {m : Nat} (h : Writes (intText n).toList m) :
    n = m := by
  have hvalue := h.value
  rw [toList_intText] at h hvalue
  split at h
  case isTrue =>
    have hsign : '-' ∉ '-' :: digits n.natAbs := h.notMem (by decide)
    exact absurd (List.mem_cons_self) hsign
  case isFalse hn =>
    rw [if_neg hn, ofDigits_digits] at hvalue
    omega

/-- The text of an integer that starts with a numeral has no sign. -/
theorem hyphen_notMem_intText {n : Int} {s t u : List Char} {m : Nat} (hs : Writes s m)
    (h : (intText n).toList ++ u = s ++ t) : '-' ∉ (intText n).toList := by
  have hhyphen : isDigit '-' = false := by decide
  intro hmem
  rw [toList_intText] at h hmem
  split at hmem
  case isTrue hn =>
    rw [if_pos hn] at h
    obtain ⟨c, s', rfl⟩ := List.exists_cons_of_ne_nil hs.ne_nil
    obtain ⟨rfl, -⟩ := List.cons.inj h
    exact hs.notMem hhyphen (by simp)
  case isFalse =>
    have hdigit := isDigit_of_mem_digits hmem
    rw [hhyphen] at hdigit
    exact Bool.noConfusion hdigit

end Cadence.Number
