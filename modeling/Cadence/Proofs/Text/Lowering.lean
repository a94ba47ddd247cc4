/-
Lower case and plain letters.

A text in lower case has no capital of the plain alphabet in it, and not the Kelvin sign,
which is the one character beyond the plain ones that lowers to a plain letter (`NoCapital`).
So a piece of such a text that lowers to plain small letters and underscores is these
letters already (`eq_of_lower_eq`): names that differ only in case are told apart before
they are lowered, and not behind.

The facts about the table of runs are checked run by run.
-/
import Cadence.Text.Case

set_option autoImplicit false

namespace Cadence.Text

variable {c d : Char} {s seen : List Char} {n : Nat}

/-! ## Runs -/

/-- What a run makes of the characters beyond the plain ones: nothing plain, unless it is
the run of the Kelvin sign, and never the Kelvin sign. -/
def CaseRun.lowersWell (r : CaseRun) : Bool :=
  r.last < 0x80 || (r.first == 0x212A && r.last == 0x212A && r.shift == 0x6B - 0x212A) ||
    (0x80 ≤ r.first && 0x80 ≤ r.first + r.shift
      && (r.last + r.shift < 0x212A || 0x212A < r.first + r.shift))

/-- Each run of the table lowers well; there are few enough to look at all of them. -/
theorem lowersWell_lowerRuns : ∀ r ∈ lowerRuns, r.lowersWell = true := by
  decide +kernel

/-- The Kelvin sign is lowered. -/
theorem any_covers_kelvin : lowerRuns.any (·.covers 0x212A) = true := by
  decide +kernel

/-- Beyond the plain characters only the Kelvin sign lowers to a plain one, and nothing
lowers to it. -/
theorem shiftBy_lowerRuns (hn : 0x80 ≤ n) :
    (shiftBy lowerRuns n < 0x80 → n = 0x212A) ∧ shiftBy lowerRuns n ≠ 0x212A ∧
      (shiftBy lowerRuns n < 0x80 → shiftBy lowerRuns n = 0x6B) := by
  rw [shiftBy]
  cases hr : lowerRuns.find? (·.covers n) with
  | none =>
    refine ⟨fun h => by simp at h; omega, ?_, fun h => by simp at h; omega⟩
    rintro rfl
    obtain ⟨r, hmem, hcovers⟩ := List.any_eq_true.mp any_covers_kelvin
    exact absurd hcovers (List.find?_eq_none.mp hr r hmem)
  | some r =>
    -- no run leads to the Kelvin sign, and none but that of the sign leads below 128
    have hwell := lowersWell_lowerRuns r (List.mem_of_find?_eq_some hr)
    have hcovers := List.find?_some hr
    simp only [CaseRun.lowersWell, CaseRun.covers, Bool.or_eq_true, Bool.and_eq_true,
      decide_eq_true_eq, beq_iff_eq] at hwell hcovers
    simp only
    omega

/-! ## Characters -/

/-- A small letter of the plain alphabet, or an underscore. -/
def IsNameLetter (c : Char) : Prop := (0x61 ≤ c.toNat ∧ c.toNat ≤ 0x7A) ∨ c.toNat = 0x5F

/-- Neither a capital of the plain alphabet nor the Kelvin sign. -/
def NoCapital (c : Char) : Prop := ¬(0x41 ≤ c.toNat ∧ c.toNat ≤ 0x5A) ∧ c.toNat ≠ 0x212A

instance (c : Char) : Decidable (IsNameLetter c) := inferInstanceAs (Decidable (_ ∨ _))

instance (c : Char) : Decidable (NoCapital c) := inferInstanceAs (Decidable (_ ∧ _))

/-- A number that is none of a character gives the character zero. -/
theorem toNat_ofNat_cases (n : Nat) : (Char.ofNat n).toNat = n ∨ (Char.ofNat n).toNat = 0 := by
  by_cases h : n.isValidChar
  · rw [Char.ofNat, dif_pos h]
    exact .inl rfl
  · rw [Char.ofNat, dif_neg h]
    exact .inr rfl

/-- What a character lowers to has no capital in it. -/
theorem noCapital_of_mem_lowerChar (h : d ∈ lowerChar c) : NoCapital d := by
  simp only [lowerChar] at h
  split at h
  · rw [List.mem_singleton] at h
    subst h
    split
    -- a capital of the first letters, which moves by thirty-two
    case isTrue hn =>
      simp only [Bool.and_eq_true, decide_eq_true_eq] at hn
      rw [NoCapital]
      have := toNat_ofNat_cases (c.toNat + 32)
      omega
    case isFalse hn =>
      simp only [Bool.and_eq_true, decide_eq_true_eq] at hn
      rw [NoCapital]
      omega
  · split at h
    · simp only [List.mem_cons, List.not_mem_nil, or_false] at h
      rcases h with rfl | rfl <;> decide
    case isFalse hplain _ =>
      obtain rfl := List.mem_singleton.mp h
      obtain ⟨-, hne, hletter⟩ := shiftBy_lowerRuns (Nat.not_lt.mp hplain)
      rw [NoCapital]
      have := toNat_ofNat_cases (shiftBy lowerRuns c.toNat)
      omega

/-- A small character that lowers to letters is the letter. -/
theorem lowerChar_eq_self (hc : NoCapital c) (h : ∀ d ∈ lowerChar c, IsNameLetter d) :
    lowerChar c = [c] := by
  simp only [lowerChar] at h ⊢
  split
  case isTrue hplain =>
    rw [NoCapital] at hc
    simp [hc.1]
  case isFalse hplain =>
    rw [if_neg hplain] at h
    -- behind the first letters only the Kelvin sign has a small letter among the letters of names
    exfalso
    split at h
    · have := h (Char.ofNat 0x307) (by simp)
      exact absurd this (by decide)
    · have hletter := h _ List.mem_cons_self
      have hshift := (shiftBy_lowerRuns (Nat.not_lt.mp hplain)).1
      rw [IsNameLetter] at hletter
      rw [NoCapital] at hc
      have := toNat_ofNat_cases (shiftBy lowerRuns c.toNat)
      omega

/-! ## Texts -/

/-- So it is for a text, wherever its sigmas stand. -/
theorem noCapital_of_mem_lowerFrom (h : d ∈ lowerFrom seen s) : NoCapital d := by
  induction s generalizing seen with
  | nil => cases h
  | cons c s ih =>
    rw [lowerFrom, List.mem_append] at h
    rcases h with h | h
    · split at h
      · obtain rfl := List.mem_singleton.mp h
        decide
      · exact noCapital_of_mem_lowerChar h
    · exact ih h

/-- A text without capitals is lowered to itself when the result has letters of names only: a sigma
would not be one. -/
theorem lowerFrom_eq_self (hs : ∀ c ∈ s, NoCapital c) (h : ∀ d ∈ lowerFrom seen s, IsNameLetter d) :
    lowerFrom seen s = s := by
  induction s generalizing seen with
  | nil => rfl
  | cons c s ih =>
    rw [List.forall_mem_cons] at hs
    rw [lowerFrom, List.forall_mem_append] at h
    rw [lowerFrom, ih hs.2 h.2]
    split
    -- a final sigma is no letter of a name
    case isTrue hsigma =>
      have := h.1 (Char.ofNat 0x3C2) (by rw [if_pos hsigma]; exact List.mem_cons_self)
      exact absurd this (by decide)
    case isFalse hno =>
      rw [if_neg hno] at h
      rw [lowerChar_eq_self hs.1 h.1]
      rfl

/-- **A piece of a text in lower case that lowers to letters is these letters.** -/
theorem eq_of_lower_eq {piece name : String} (hpiece : ∀ c ∈ piece.toList, NoCapital c)
    (hname : ∀ c ∈ name.toList, IsNameLetter c) (h : lower piece = name) : piece = name := by
  have hlist : lowerFrom [] piece.toList = name.toList := by
    rw [← h, lower, String.toList_ofList]
  rw [← hlist] at hname
  rw [lowerFrom_eq_self hpiece hname] at hlist
  exact String.toList_inj.mp hlist

end Cadence.Text
