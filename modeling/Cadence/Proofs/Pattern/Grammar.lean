/-
The grammar of pattern texts.

`Item s p` lists the forms of an item without commas, one constructor a form, each
with the pattern it is read as; it mentions neither cutting nor the order in which
the reader looks for separators. The reader accepts exactly these texts
(`readItem_eq_ok_iff`), and since it is a function the grammar is unambiguous. A
whole text is an item or, when a comma is in it, a list of them.
-/
import Cadence.Pattern.Text
import Cadence.Proofs.Number.Numeral
import Cadence.Proofs.Sequencing
import Cadence.Proofs.Text.Cutting

set_option autoImplicit false

namespace Cadence.FieldPattern

open Cadence.Number (Writes digitLimit ofDigits)
open Cadence.Text (splitAt cutAt trim cutAt_eq_some_iff cutAt_eq_none_iff splitAt_eq_pair_iff)

variable {s : List Char} {p : FieldPattern} {blame : String}

/-! ## Items -/

/-- The text `s`, without commas and outer blanks, is read as the pattern `p`. -/
inductive Item : List Char → FieldPattern → Prop
  | star : Item ['*'] .wildcard
  | number {s : List Char} {n : Nat} : Writes s n → Item s (.exact (.int n))
  | range {a b : List Char} {low high : Nat} :
    Writes a low → Writes b high → Item (a ++ '-' :: b) (.span (.int low) (.int high))
  | every {k : List Char} {n : Nat} :
    Writes k n → 1 ≤ n → Item ('*' :: '/' :: k) (.step (.int n) .none .none)
  | based {a k : List Char} {start n : Nat} :
    Writes a start → Writes k n → 1 ≤ n →
      Item (a ++ '/' :: k) (.step (.int n) (.int start) .none)
  | stepped {a b k : List Char} {low high n : Nat} :
    Writes a low → Writes b high → Writes k n → 1 ≤ n →
      Item ((a ++ '-' :: b) ++ '/' :: k) (.step (.int n) (.int low) (.int high))

/-! ## Numbers and ranges -/

/-- A number is read exactly from its numerals. -/
theorem readNumber_eq_ok_iff {i : Int} :
    readNumber blame s = .ok i ↔ ∃ n : Nat, Writes s n ∧ i = n := by
  rw [readNumber]
  by_cases hs : (s.isEmpty || !s.all Text.isDigit) = true
  · rw [if_pos hs]
    simp only [reduceCtorEq, false_iff, not_exists, not_and]
    intro n h
    rw [Bool.or_eq_true, Bool.not_eq_true', List.isEmpty_iff] at hs
    rcases hs with hs | hs
    · exact absurd hs h.ne_nil
    · rw [List.all_eq_true.mpr h.isDigit] at hs
      exact absurd hs (by decide)
  · rw [if_neg hs]
    simp only [Bool.or_eq_true, List.isEmpty_iff, Bool.not_eq_true', not_or,
      Bool.not_eq_false, List.all_eq_true] at hs
    -- digits alone, but they may still be too many to be read
    by_cases hlen : digitLimit < s.length
    · rw [if_pos hlen]
      simp only [reduceCtorEq, false_iff, not_exists, not_and]
      intro n h
      exact absurd h.short (by omega)
    · rw [if_neg hlen, Except.ok.injEq]
      constructor
      · rintro rfl
        exact ⟨ofDigits s, ⟨hs.1, hs.2, by omega, rfl⟩, rfl⟩
      · rintro ⟨n, h, rfl⟩
        rw [h.value]

/-- A range is read from two numerals with one hyphen between them. -/
theorem readRange_eq_ok_iff {low high : Int} :
    readRange blame s = .ok (low, high) ↔ ∃ (a b : List Char) (m n : Nat),
      s = a ++ '-' :: b ∧ Writes a m ∧ Writes b n ∧ low = m ∧ high = n := by
  have hhyphen : Text.isDigit '-' = false := by decide
  rw [readRange]
  constructor
  · intro h
    split at h
    case h_1 a b hsplit =>
      obtain ⟨rfl, -, -⟩ := splitAt_eq_pair_iff.mp hsplit
      simp only [bind_eq_ok_iff, readNumber_eq_ok_iff, pure_eq_ok_iff, Prod.mk.injEq] at h
      obtain ⟨_, ⟨m, hm, rfl⟩, _, ⟨n, hn, rfl⟩, rfl, rfl⟩ := h
      exact ⟨a, b, m, n, rfl, hm, hn, rfl, rfl⟩
    case h_2 => simp at h
  · rintro ⟨a, b, m, n, rfl, hm, hn, rfl, rfl⟩
    -- there is no hyphen inside a number, so the range is cut at its own
    rw [splitAt_eq_pair_iff.mpr ⟨rfl, hm.notMem hhyphen, hn.notMem hhyphen⟩]
    simp only [bind_eq_ok_iff, readNumber_eq_ok_iff, pure_eq_ok_iff, Prod.mk.injEq]
    exact ⟨m, ⟨m, hm, rfl⟩, n, ⟨n, hn, rfl⟩, rfl, rfl⟩

/-! ## Reading an item

The separators are looked for in a fixed order: the slash, then the hyphen. None of
them is a digit, so what stands around the one that is found is free of it and the
constructor of `Item` can be read off. -/

/-- What separates numerals is no digit. -/
theorem isDigit_separators :
    Text.isDigit '*' = false ∧ Text.isDigit '-' = false ∧ Text.isDigit '/' = false := by decide

/-- A numeral is no star. -/
theorem ne_star_of_writes {n : Nat} (h : Writes s n) : s ≠ ['*'] := by
  rintro rfl
  exact h.notMem isDigit_separators.1 (by simp)

theorem append_hyphen_ne_star (a b : List Char) : a ++ '-' :: b ≠ ['*'] := by
  intro h
  have hmem : '-' ∈ a ++ '-' :: b := by simp
  rw [h] at hmem
  exact absurd hmem (by decide)

/-- A step is read from a numeral of one at least, behind a star, a range or a number. -/
theorem readStep_eq_ok_iff {base every : List Char} :
    readStep blame base every = .ok p ↔ ∃ n : Nat, Writes every n ∧ 1 ≤ n ∧
      ((base = ['*'] ∧ p = .step (.int n) .none .none) ∨
        (∃ (a b : List Char) (low high : Nat), base = a ++ '-' :: b ∧ Writes a low ∧
          Writes b high ∧ p = .step (.int n) (.int low) (.int high)) ∨
        (∃ start : Nat, Writes base start ∧ p = .step (.int n) (.int start) .none)) := by
  simp only [readStep, bind_eq_ok_iff, readNumber_eq_ok_iff, ite_error_eq_ok_iff]
  constructor
  · rintro ⟨_, ⟨n, hn, rfl⟩, hpos, h⟩
    refine ⟨n, hn, by omega, ?_⟩
    -- the base of a step is the star, a range, or a start
    split at h
    case isTrue hstar =>
      rw [pure_eq_ok_iff] at h
      exact .inl ⟨hstar, h.symm⟩
    case isFalse hstar =>
      split at h
      case isTrue =>
        simp only [bind_eq_ok_iff, Prod.exists, readRange_eq_ok_iff, pure_eq_ok_iff] at h
        obtain ⟨_, _, ⟨a, b, low, high, rfl, ha, hb, rfl, rfl⟩, rfl⟩ := h
        exact .inr (.inl ⟨a, b, low, high, rfl, ha, hb, rfl⟩)
      case isFalse =>
        simp only [bind_eq_ok_iff, readNumber_eq_ok_iff, pure_eq_ok_iff] at h
        obtain ⟨_, ⟨start, hs, rfl⟩, rfl⟩ := h
        exact .inr (.inr ⟨start, hs, rfl⟩)
  · rintro ⟨n, hn, hpos, h⟩
    refine ⟨n, ⟨n, hn, rfl⟩, by omega, ?_⟩
    rcases h with ⟨rfl, rfl⟩ | ⟨a, b, low, high, rfl, ha, hb, rfl⟩ | ⟨start, hs, rfl⟩
    · rw [if_pos rfl, pure_eq_ok_iff]
    · rw [if_neg (append_hyphen_ne_star a b), if_pos (by simp)]
      simp only [bind_eq_ok_iff, Prod.exists, readRange_eq_ok_iff, pure_eq_ok_iff]
      exact ⟨low, high, ⟨a, b, low, high, rfl, ha, hb, rfl, rfl⟩, rfl⟩
    · rw [if_neg (ne_star_of_writes hs),
        if_neg (by simpa using hs.notMem isDigit_separators.2.1)]
      simp only [bind_eq_ok_iff, readNumber_eq_ok_iff, pure_eq_ok_iff]
      exact ⟨start, ⟨start, hs, rfl⟩, rfl⟩

/-- With a slash, an item is a stepped one. -/
theorem readItem_of_slash {base every : List Char} (h : '/' ∉ base) :
    readItem blame (base ++ '/' :: every) = readStep blame base every := by
  have hstar : base ++ '/' :: every ≠ ['*'] := by
    intro heq
    have hmem : '/' ∈ base ++ '/' :: every := by simp
    rw [heq] at hmem
    exact absurd hmem (by decide)
  rw [readItem, if_neg hstar, cutAt_eq_some_iff.mpr ⟨rfl, h⟩]

/-- **The reader of items accepts exactly the grammar.** -/
theorem readItem_eq_ok_iff : readItem blame s = .ok p ↔ Item s p := by
  obtain ⟨hstar, hhyphen, hslash⟩ := isDigit_separators
  constructor
  · intro h
    rw [readItem] at h
    split at h
    case isTrue hs =>
      cases h
      rw [hs]
      exact .star
    case isFalse =>
      split at h
      case h_1 base every hcut =>
        obtain ⟨rfl, -⟩ := cutAt_eq_some_iff.mp hcut
        obtain ⟨n, hn, hpos, h⟩ := readStep_eq_ok_iff.mp h
        -- each form is found by the first of its signs: no digit is a star, a slash or a hyphen
        rcases h with ⟨rfl, rfl⟩ | ⟨a, b, low, high, rfl, ha, hb, rfl⟩ | ⟨start, hs, rfl⟩
        · exact .every hn hpos
        · exact .stepped ha hb hn hpos
        · exact .based hs hn hpos
      case h_2 hcut =>
        split at h
        case isTrue =>
          simp only [bind_eq_ok_iff, Prod.exists, readRange_eq_ok_iff, pure_eq_ok_iff] at h
          obtain ⟨_, _, ⟨a, b, low, high, rfl, ha, hb, rfl, rfl⟩, rfl⟩ := h
          exact .range ha hb
        case isFalse =>
          simp only [bind_eq_ok_iff, readNumber_eq_ok_iff, pure_eq_ok_iff] at h
          obtain ⟨_, ⟨n, hn, rfl⟩, rfl⟩ := h
          exact .number hn
  · intro h
    cases h with
    | star => rw [readItem, if_pos rfl]
    | number hn =>
      rw [readItem, if_neg (ne_star_of_writes hn), cutAt_eq_none_iff.mpr ⟨rfl, hn.notMem hslash⟩]
      simp only
      rw [if_neg (by simpa using hn.notMem hhyphen)]
      simp only [bind_eq_ok_iff, readNumber_eq_ok_iff, pure_eq_ok_iff]
      exact ⟨_, ⟨_, hn, rfl⟩, rfl⟩
    | @range a b low high ha hb =>
      have hfree : '/' ∉ a ++ '-' :: b := by
        simp [ha.notMem hslash, hb.notMem hslash]
      rw [readItem, if_neg (append_hyphen_ne_star a b), cutAt_eq_none_iff.mpr ⟨rfl, hfree⟩]
      simp only
      rw [if_pos (by simp)]
      simp only [bind_eq_ok_iff, Prod.exists, readRange_eq_ok_iff, pure_eq_ok_iff]
      exact ⟨low, high, ⟨a, b, low, high, rfl, ha, hb, rfl, rfl⟩, rfl⟩
    | @every k n hk hpos =>
      have hcut : readItem blame (['*'] ++ '/' :: k) = readStep blame ['*'] k :=
        readItem_of_slash (by decide)
      rw [← List.singleton_append, hcut, readStep_eq_ok_iff]
      exact ⟨_, hk, hpos, .inl ⟨rfl, rfl⟩⟩
    | based ha hk hpos =>
      rw [readItem_of_slash (ha.notMem hslash), readStep_eq_ok_iff]
      exact ⟨_, hk, hpos, .inr (.inr ⟨_, ha, rfl⟩)⟩
    | @stepped a b k low high n ha hb hk hpos =>
      have hfree : '/' ∉ a ++ '-' :: b := by
        simp [ha.notMem hslash, hb.notMem hslash]
      rw [readItem_of_slash hfree, readStep_eq_ok_iff]
      exact ⟨n, hk, hpos, .inr (.inl ⟨a, b, low, high, rfl, ha, hb, rfl⟩)⟩

/-- An item is read in one way. -/
theorem Item.unique {q : FieldPattern} (hp : Item s p) (hq : Item s q) : p = q := by
  have hreadP : readItem "" s = .ok p := readItem_eq_ok_iff.mpr hp
  have hreadQ : readItem "" s = .ok q := readItem_eq_ok_iff.mpr hq
  exact Except.ok.inj (hreadP.symm.trans hreadQ)

/-! ## Reading a text -/

/-- A text with a comma is a list of items, any other a single one. -/
theorem parse_eq_ok_iff {text : String} :
    parse text = .ok p ↔
      (',' ∉ trim text.toList ∧ Item (trim text.toList) p) ∨
      (',' ∈ trim text.toList ∧ ∃ items, p = .anyOf items ∧
        List.Forall₂ (fun part q => Item (trim part) q)
          (splitAt ',' (trim text.toList)) items) := by
  simp only [parse]
  -- a comma makes it a list, whose parts are trimmed too
  by_cases hc : ',' ∈ trim text.toList
  · rw [if_pos (by simpa using hc)]
    simp only [map_eq_ok_iff, mapM_eq_ok_iff, readPart, readItem_eq_ok_iff, hc, not_true,
      false_and, false_or, true_and]
    constructor
    · rintro ⟨items, h, rfl⟩
      exact ⟨items, rfl, h⟩
    · rintro ⟨items, rfl, h⟩
      exact ⟨items, h, rfl⟩
  · rw [if_neg (by simpa using hc), readItem_eq_ok_iff]
    simp [hc]

end Cadence.FieldPattern
