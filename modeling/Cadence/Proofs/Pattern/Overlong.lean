/-
Numerals that are too long to be read.

A numeral of more digits than are converted is in no form of the grammar, and yet it is not
refused for its form: the reader has a fault of its own for it, which names no text. Which
numeral that is depends on the order of reading. A step is read before its base, the start
of a range before its end, and reading stops at the first thing that is wrong.

`Overlong s n` says that the reader of an item comes upon such a numeral of `n` digits: what
stands before it in that order is fine, and what stands behind is not looked at. On exactly
these items the reader has that fault (`readItem_tooManyDigits_iff`), and every other fault
is put on the text it was told to blame (`readItem_faults`).
-/
import Cadence.Proofs.Pattern.Grammar

set_option autoImplicit false

namespace Cadence

open Cadence.Text (isDigit splitAt cutAt)

namespace Number

variable {s : List Char} {n : Nat}

/-- A run of `n` digits, more than are converted. -/
structure TooLong (s : List Char) (n : Nat) : Prop where
  isDigit : ∀ c ∈ s, Text.isDigit c = true
  length : s.length = n
  long : digitLimit < n

theorem TooLong.ne_nil (h : TooLong s n) : s ≠ [] := by
  rintro rfl
  have hlong := h.long
  rw [← h.length] at hlong
  exact Nat.not_lt_zero _ hlong

/-- No separator stands in such a numeral. -/
theorem TooLong.notMem (h : TooLong s n) {c : Char} (hc : Text.isDigit c = false) : c ∉ s := by
  intro hmem
  rw [h.isDigit c hmem] at hc
  exact Bool.noConfusion hc

end Number

open Cadence.Number (Writes TooLong digitLimit)

namespace FieldPattern

variable {s base every : List Char} {n : Nat} {blame : String} {e : Fault}

/-- A fault is put on a text, or it is that of a numeral too long whose length has `P`. -/
def Blames (blame : String) (P : Nat → Prop) (e : Fault) : Prop :=
  (∃ why, e = .pattern blame why) ∨ ∃ n, P n ∧ e = .content (.tooManyDigits n)

/-- What is said of the length may be weakened. -/
theorem Blames.imp {P Q : Nat → Prop} (h : Blames blame P e) (hpq : ∀ n, P n → Q n) :
    Blames blame Q e :=
  Or.imp id (fun ⟨n, hn, he⟩ => ⟨n, hpq n hn, he⟩) h

/-! ## Items -/

/-- A number or a range in which the reader comes upon a numeral of `n` digits. -/
inductive OverlongBase : List Char → Nat → Prop
  | number {s : List Char} {n : Nat} : TooLong s n → OverlongBase s n
  | low {a b : List Char} {n : Nat} : TooLong a n → '-' ∉ b → OverlongBase (a ++ '-' :: b) n
  | high {a b : List Char} {m n : Nat} :
    Writes a m → TooLong b n → OverlongBase (a ++ '-' :: b) n

/-- An item in which the reader comes upon a numeral of `n` digits, more than are
converted. -/
inductive Overlong : List Char → Nat → Prop
  | bare {s : List Char} {n : Nat} : '/' ∉ s → OverlongBase s n → Overlong s n
  | every {base k : List Char} {n : Nat} :
    '/' ∉ base → TooLong k n → Overlong (base ++ '/' :: k) n
  | based {base k : List Char} {m n : Nat} :
    '/' ∉ base → OverlongBase base n → Writes k m → 1 ≤ m → Overlong (base ++ '/' :: k) n

/-! ## Where the reader comes upon one -/

/-- A numeral that is too long has a fault of its own, whoever is to blame. -/
theorem readNumber_of_tooLong (h : TooLong s n) :
    readNumber blame s = .error (.content (.tooManyDigits n)) := by
  have hdigits : s.all isDigit = true := List.all_eq_true.mpr h.isDigit
  have hempty : s.isEmpty = false := by simpa using h.ne_nil
  have hlong : digitLimit < s.length := h.length ▸ h.long
  rw [readNumber, hdigits, hempty, if_neg (by decide), if_pos hlong, h.length]

theorem OverlongBase.ne_star (h : OverlongBase s n) : s ≠ ['*'] := by
  cases h with
  | number h =>
    rintro rfl
    exact h.notMem isDigit_separators.1 (by simp)
  | low _ _ => exact append_hyphen_ne_star _ _
  | high _ _ => exact append_hyphen_ne_star _ _

/-- Without a hyphen it is the number itself. -/
theorem OverlongBase.tooLong (h : OverlongBase s n) (hs : '-' ∉ s) : TooLong s n := by
  cases h with
  | number h => exact h
  | low _ _ => exact absurd (by simp) hs
  | high _ _ => exact absurd (by simp) hs

/-- With a hyphen the start is read first, and the end when the start is fine. -/
theorem OverlongBase.readRange_eq (h : OverlongBase s n) (hs : '-' ∈ s) :
    readRange blame s = .error (.content (.tooManyDigits n)) := by
  have hhyphen : isDigit '-' = false := isDigit_separators.2.1
  cases h with
  | number h => exact absurd hs (h.notMem hhyphen)
  -- the end may be anything, as it is not read any more
  | low ha hb =>
    rw [readRange, Text.splitAt_eq_pair_iff.mpr ⟨rfl, ha.notMem hhyphen, hb⟩]
    simp only
    rw [bind_eq_error_iff]
    exact .inl (readNumber_of_tooLong ha)
  | @high a b m n ha hb =>
    rw [readRange, Text.splitAt_eq_pair_iff.mpr ⟨rfl, ha.notMem hhyphen, hb.notMem hhyphen⟩]
    simp only [bind_eq_error_iff]
    have hlow : readNumber blame a = .ok m := readNumber_eq_ok_iff.mpr ⟨m, ha, rfl⟩
    exact .inr ⟨m, hlow, .inl (readNumber_of_tooLong hb)⟩

/-- A base is looked at behind a step that is fine. -/
theorem readStep_of_overlongBase {k : List Char} {m : Nat} (hbase : OverlongBase base n)
    (hk : Writes k m) (hm : 1 ≤ m) :
    readStep blame base k = .error (.content (.tooManyDigits n)) := by
  have hstep : readNumber blame k = .ok m := readNumber_eq_ok_iff.mpr ⟨m, hk, rfl⟩
  rw [readStep, bind_eq_error_iff]
  refine .inr ⟨m, hstep, ?_⟩
  rw [if_neg (by omega), if_neg hbase.ne_star]
  by_cases hmem : '-' ∈ base
  · rw [if_pos (by simpa using hmem), bind_eq_error_iff]
    exact .inl (hbase.readRange_eq hmem)
  · rw [if_neg (by simpa using hmem), bind_eq_error_iff]
    exact .inl (readNumber_of_tooLong (hbase.tooLong hmem))

/-- The reader comes upon the numeral. -/
theorem readItem_of_overlong (h : Overlong s n) :
    readItem blame s = .error (.content (.tooManyDigits n)) := by
  cases h with
  | bare hslash h =>
    rw [readItem, if_neg h.ne_star, Text.cutAt_eq_none_iff.mpr ⟨rfl, hslash⟩]
    simp only
    -- without a slash and without a hyphen the whole item is the numeral
    by_cases hmem : '-' ∈ s
    · rw [if_pos (by simpa using hmem), bind_eq_error_iff]
      exact .inl (h.readRange_eq hmem)
    · rw [if_neg (by simpa using hmem), bind_eq_error_iff]
      exact .inl (readNumber_of_tooLong (h.tooLong hmem))
  | every hbase hk =>
    rw [readItem_of_slash hbase, readStep, bind_eq_error_iff]
    exact .inl (readNumber_of_tooLong hk)
  | based hslash hbase hk hm =>
    rw [readItem_of_slash hslash]
    exact readStep_of_overlongBase hbase hk hm

/-! ## Which faults there are -/

/-- Nothing else but its length can be wrong with digits; what is no digits is to blame. -/
theorem readNumber_faults (he : readNumber blame s = .error e) : Blames blame (TooLong s) e := by
  rw [readNumber] at he
  split at he
  case isTrue => exact .inl ⟨_, (Except.error.inj he).symm⟩
  case isFalse hdigits =>
    simp only [Bool.or_eq_true, Bool.not_eq_true', not_or, Bool.not_eq_false,
      List.all_eq_true] at hdigits
    split at he
    case isTrue hlong =>
      exact .inr ⟨s.length, ⟨hdigits.2, rfl, hlong⟩, (Except.error.inj he).symm⟩
    case isFalse => cases he

/-- A range is to blame, or the first of its ends that is too long. -/
theorem readRange_faults (he : readRange blame s = .error e) :
    Blames blame (OverlongBase s) e := by
  rw [readRange] at he
  split at he
  case h_1 a b hsplit =>
    obtain ⟨rfl, -, hb⟩ := Text.splitAt_eq_pair_iff.mp hsplit
    simp only [bind_eq_error_iff] at he
    rcases he with he | ⟨low, hlow, he | ⟨high, -, he⟩⟩
    · exact (readNumber_faults he).imp (fun n hn => .low hn hb)
    · obtain ⟨m, hm, -⟩ := readNumber_eq_ok_iff.mp hlow
      exact (readNumber_faults he).imp (fun n hn => .high hm hn)
    · cases he
  case h_2 => exact .inl ⟨_, (Except.error.inj he).symm⟩

/-- A step is to blame, or the first numeral of it that is too long. -/
theorem readStep_faults (hslash : '/' ∉ base) (he : readStep blame base every = .error e) :
    Blames blame (Overlong (base ++ '/' :: every)) e := by
  rw [readStep, bind_eq_error_iff] at he
  rcases he with he | ⟨step, hstep, he⟩
  · exact (readNumber_faults he).imp (fun n hn => .every hslash hn)
  · obtain ⟨m, hm, rfl⟩ := readNumber_eq_ok_iff.mp hstep
    split at he
    case isTrue => exact .inl ⟨_, (Except.error.inj he).symm⟩
    case isFalse hpos =>
      -- the step is fine, so what is wrong is in the base
      have hbased : ∀ n, OverlongBase base n → Overlong (base ++ '/' :: every) n :=
        fun n hn => .based hslash hn hm (by omega)
      split at he
      case isTrue => cases he
      case isFalse =>
        split at he
        case isTrue =>
          rcases bind_eq_error_iff.mp he with he | ⟨_, -, he⟩
          · exact (readRange_faults he).imp hbased
          · cases he
        case isFalse =>
          rcases bind_eq_error_iff.mp he with he | ⟨_, -, he⟩
          · exact (readNumber_faults he).imp (fun n hn => hbased n (.number hn))
          · cases he

/-- **An item is refused in the name of the text that is to blame, or for a numeral too
long that the reader comes upon.** -/
theorem readItem_faults (he : readItem blame s = .error e) : Blames blame (Overlong s) e := by
  rw [readItem] at he
  split at he
  case isTrue => cases he
  case isFalse =>
    split at he
    -- what stands before a slash is the base of a step
    case h_1 base every hcut =>
      obtain ⟨rfl, hslash⟩ := Text.cutAt_eq_some_iff.mp hcut
      exact readStep_faults hslash he
    case h_2 hcut =>
      obtain ⟨-, hslash⟩ := Text.cutAt_eq_none_iff.mp hcut
      split at he
      case isTrue =>
        rcases bind_eq_error_iff.mp he with he | ⟨_, -, he⟩
        · exact (readRange_faults he).imp (fun n hn => .bare hslash hn)
        · cases he
      case isFalse =>
        rcases bind_eq_error_iff.mp he with he | ⟨_, -, he⟩
        · exact (readNumber_faults he).imp (fun n hn => .bare hslash (.number hn))
        · cases he

/-- **The reader has the fault of a numeral too long exactly where it comes upon one.** -/
theorem readItem_tooManyDigits_iff :
    readItem blame s = .error (.content (.tooManyDigits n)) ↔ Overlong s n := by
  refine ⟨fun h => ?_, readItem_of_overlong⟩
  rcases readItem_faults h with ⟨why, hwhy⟩ | ⟨m, hm, hmn⟩
  · cases hwhy
  · cases hmn
    exact hm

/-! ## The run of digits -/

/-- The numeral is a part of the text. -/
theorem OverlongBase.exists_run (h : OverlongBase s n) : ∃ run, run <:+: s ∧ TooLong run n := by
  cases h with
  | number h => exact ⟨s, List.infix_refl s, h⟩
  | low ha _ => exact ⟨_, (List.prefix_append _ _).isInfix, ha⟩
  | high _ hb =>
    exact ⟨_, ((List.suffix_cons _ _).trans (List.suffix_append _ _)).isInfix, hb⟩

/-- An item with a numeral too long has a run of so many digits. -/
theorem Overlong.exists_run (h : Overlong s n) : ∃ run, run <:+: s ∧ TooLong run n := by
  cases h with
  | bare _ h => exact h.exists_run
  | every _ hk =>
    exact ⟨_, ((List.suffix_cons _ _).trans (List.suffix_append _ _)).isInfix, hk⟩
  | based _ hbase _ _ =>
    obtain ⟨run, hrun, hlong⟩ := hbase.exists_run
    exact ⟨run, hrun.trans (List.prefix_append _ _).isInfix, hlong⟩

end FieldPattern

end Cadence
