/-
Writing patterns and reading them back.

The text of a canonical pattern is read as that pattern again (`Canonical.parse_written`):
an item is written in the form of the grammar that is read as it, and no item holds a
comma, so a list is cut where it was joined. The text is a word without brackets, as
it has to be to stand in a cron text. Among canonical patterns equality by value is
equality, so the text tells apart whatever differs.
-/
import Cadence.Proofs.Pattern.Canonical
import Cadence.Proofs.Pattern.Meaning

set_option autoImplicit false

namespace Cadence.FieldPattern

open Cadence.Number (Writes digits digitLimit)
open Cadence.Text (BlankFree isBlank isDigit)

variable {f g : Field} {p q : FieldPattern} {s : List Char}

/-! ## Writing and reading back -/

def isItemChar (c : Char) : Bool := isDigit c || c == '*' || c == '-' || c == '/'

/-- Digits may stand in an item. -/
theorem isItemChar_of_isDigit {c : Char} (h : isDigit c = true) : isItemChar c = true := by
  simp [isItemChar, h]

/-- An item consists of digits and the three signs. -/
theorem Item.isItemChar (h : Item s p) : ∀ c ∈ s, isItemChar c = true := by
  have hwrites : ∀ {s : List Char} {n : Nat}, Writes s n →
      ∀ c ∈ s, FieldPattern.isItemChar c = true :=
    fun hw c hc => isItemChar_of_isDigit (hw.isDigit c hc)
  have hsigns : FieldPattern.isItemChar '*' = true ∧ FieldPattern.isItemChar '-' = true ∧
      FieldPattern.isItemChar '/' = true := by decide
  obtain ⟨hstar, hhyphen, hslash⟩ := hsigns
  cases h with
  | star => simpa using hstar
  | number hn => exact hwrites hn
  | range ha hb =>
    simp only [List.forall_mem_append, List.forall_mem_cons]
    exact ⟨hwrites ha, hhyphen, hwrites hb⟩
  | every hk _ =>
    simp only [List.forall_mem_cons]
    exact ⟨hstar, hslash, hwrites hk⟩
  | based ha hk _ =>
    simp only [List.forall_mem_append, List.forall_mem_cons]
    exact ⟨hwrites ha, hslash, hwrites hk⟩
  | stepped ha hb hk _ =>
    simp only [List.forall_mem_append, List.forall_mem_cons]
    exact ⟨⟨hwrites ha, hhyphen, hwrites hb⟩, hslash, hwrites hk⟩

/-- The text of an item is read as that item. -/
theorem Simple.item_written (h : Simple f p) : Item p.written p := by
  -- numbers of a field have two digits at most; only a bare step may have more
  have hsmall : ∀ {n : Nat}, (n : Int) < 100 → Writes (digits n) n := fun hn =>
    Number.writes_digits (Nat.le_trans (Number.length_digits_le_two (by omega)) (by decide))
  have hhigh := f.high_lt
  have hwidth := f.width_lt
  cases h with
  | wildcard => exact .star
  | exact _ h₂ =>
    rw [written, Scalar.text, Number.toList_intText_natCast]
    exact .number (hsmall (by omega))
  | span _ h₂ h₃ =>
    rw [written, Scalar.text, Scalar.text, Number.toList_intText_natCast,
      Number.toList_intText_natCast]
    exact .range (hsmall (by omega)) (hsmall (by omega))
  | every h₁ h₂ =>
    rw [written, Scalar.text, Number.toList_intText_natCast]
    exact .every (hsmall (by omega)) h₁
  | based _ h₂ h₃ h₄ =>
    simp only [written, Scalar.text, Number.toList_intText_natCast]
    exact .based (hsmall (by omega)) (Number.writes_digits h₄) h₃
  | stepped _ h₂ h₃ h₄ h₅ =>
    simp only [written, Scalar.text, Number.toList_intText_natCast]
    exact .stepped (hsmall (by omega)) (hsmall (by omega)) (Number.writes_digits h₅) h₄

/-- No item is empty. -/
theorem Item.ne_nil (h : Item s p) : s ≠ [] := by
  cases h with
  | number hn => exact hn.ne_nil
  | _ => simp

/-- The characters of an item are neither blanks nor brackets nor commas. -/
theorem of_isItemChar {c : Char} (h : FieldPattern.isItemChar c = true) :
    isBlank c = false ∧ c ≠ '[' ∧ c ≠ ']' ∧ c ≠ ',' := by
  simp only [FieldPattern.isItemChar, Bool.or_eq_true, beq_iff_eq] at h
  rcases h with ((h | rfl) | rfl) | rfl
  · have hrange := (Number.isDigit_iff c).mp h
    have hblank : isBlank c = false := by
      simp only [isBlank, Bool.or_eq_false_iff, Bool.and_eq_false_iff, decide_eq_false_iff_not,
        beq_eq_false_iff_ne]
      omega
    refine ⟨hblank, ?_, ?_, ?_⟩ <;> rintro rfl <;> exact absurd h (by decide)
  all_goals decide

/-- The items of a list are written one by one. -/
theorem writtenAll_eq_map (items : List FieldPattern) : writtenAll items = items.map written := by
  induction items with
  | nil => rw [writtenAll, List.map_nil]
  | cons p items ih => rw [writtenAll, ih, List.map_cons]

/-- The text of a canonical pattern is a word without brackets. -/
theorem Canonical.written_word (h : Canonical f p) :
    p.written ≠ [] ∧ ∀ c ∈ p.written, isBlank c = false ∧ c ≠ '[' ∧ c ≠ ']' := by
  cases h with
  | item hs =>
    refine ⟨hs.item_written.ne_nil, fun c hc => ?_⟩
    obtain ⟨h₁, h₂, h₃, -⟩ := of_isItemChar (hs.item_written.isItemChar c hc)
    exact ⟨h₁, h₂, h₃⟩
  | list hlen hall =>
    rw [written, writtenAll_eq_map]
    refine ⟨List.ne_nil_of_mem (Text.mem_joinAt (by simpa using hlen)), fun c hc => ?_⟩
    rcases Text.eq_or_mem_of_mem_joinAt hc with rfl | ⟨w, hw, hc⟩
    · decide
    · obtain ⟨q, hq, rfl⟩ := List.mem_map.mp hw
      obtain ⟨h₁, h₂, h₃, -⟩ := of_isItemChar ((hall q hq).item_written.isItemChar c hc)
      exact ⟨h₁, h₂, h₃⟩

/-- A canonical pattern is written without blanks. -/
theorem Canonical.blankFree_written (h : Canonical f p) : BlankFree p.written :=
  fun c hc => (h.written_word.2 c hc).1

/-- **What is written is read back.** -/
theorem Canonical.parse_written (h : Canonical f p) : parse (String.ofList p.written) = .ok p := by
  rw [parse_eq_ok_iff, String.toList_ofList, Text.trim_of_blankFree h.blankFree_written]
  have hcomma : ∀ {q : FieldPattern}, Simple f q → ',' ∉ q.written := fun hq hc =>
    (of_isItemChar (hq.item_written.isItemChar _ hc)).2.2.2 rfl
  cases h with
  | item hs => exact .inl ⟨hcomma hs, hs.item_written⟩
  | @list items hlen hall =>
    rw [written, writtenAll_eq_map]
    have hne : items.map written ≠ [] := by
      rintro hnil
      rw [List.map_eq_nil_iff.mp hnil] at hlen
      simp at hlen
    -- the commas of the text are those between the items
    have hfree : ∀ w ∈ items.map written, ',' ∉ w := by
      intro w hw
      obtain ⟨q, hq, rfl⟩ := List.mem_map.mp hw
      exact hcomma (hall q hq)
    refine .inr ⟨Text.mem_joinAt (by simpa using hlen), items, rfl, ?_⟩
    rw [Text.splitAt_joinAt hne hfree, List.forall₂_map_left_iff, List.forall₂_same]
    intro q hq
    have hword := (Canonical.item (hall q hq)).blankFree_written
    rw [Text.trim_of_blankFree hword]
    exact (hall q hq).item_written

/-! ## What has a text -/

/-- An integer within the limit of digits can be written. -/
theorem requireScalarText_int {n : Int} (h : (digits n.natAbs).length ≤ digitLimit) :
    requireScalarText (.int n) = .ok () := by
  rw [requireScalarText, if_neg (Nat.not_lt.mpr h)]

/-- What was read from a numeral can be written again. -/
theorem Writes.requireScalarText {n : Nat} (h : Writes s n) :
    requireScalarText (.int n) = .ok () :=
  requireScalarText_int (by rw [Int.natAbs_natCast]; exact h.length_digits_le)

/-- A list has a text when its items have. -/
theorem requireTexts_eq_ok_iff {items : List FieldPattern} :
    requireTexts items = .ok () ↔ ∀ p ∈ items, p.requireText = .ok () := by
  induction items with
  | nil => simp [requireTexts]
  | cons p items ih =>
    simp only [requireTexts, bind_eq_ok_iff, ih, List.forall_mem_cons]
    constructor
    · rintro ⟨_, hp, hps⟩
      exact ⟨hp, hps⟩
    · rintro ⟨hp, hps⟩
      exact ⟨(), hp, hps⟩

/-- A pattern whose numbers can all be written has a text. -/
theorem render_of_requireText (h : p.requireText = .ok ()) :
    p.render = .ok (String.ofList p.written) := by
  rw [render, h]
  rfl

/-- What is read as an item is short enough to be written. -/
theorem Item.requireText (h : Item s p) : p.requireText = .ok () := by
  cases h with
  | star => rfl
  | number hn => exact Writes.requireScalarText hn
  | range ha hb =>
    rw [FieldPattern.requireText, Writes.requireScalarText ha]
    exact Writes.requireScalarText hb
  | every hk _ => exact Writes.requireScalarText hk
  | based ha hk _ =>
    simp only [FieldPattern.requireText, Writes.requireScalarText ha]
    exact Writes.requireScalarText hk
  | stepped ha hb hk _ =>
    simp only [FieldPattern.requireText, Writes.requireScalarText ha,
      Writes.requireScalarText hb]
    exact Writes.requireScalarText hk

/-- **What is read has a text.** -/
theorem requireText_of_parse {text : String} (h : parse text = .ok p) :
    p.requireText = .ok () := by
  rcases parse_eq_ok_iff.mp h with ⟨-, hitem⟩ | ⟨-, items, rfl, hall⟩
  · exact hitem.requireText
  · rw [requireText, requireTexts_eq_ok_iff]
    intro q hq
    obtain ⟨w, -, hw⟩ := exists_of_mem_forall₂ hall hq
    exact hw.requireText

/-- So does a canonical pattern. -/
theorem Canonical.render (h : Canonical f p) : p.render = .ok (String.ofList p.written) :=
  render_of_requireText (requireText_of_parse h.parse_written)

/-! ## Equality

On integers equality of leaves is equality, so among canonical patterns equality by
value tells apart whatever differs. -/

theorem scalarEqv_int (a b : Int) : (Scalar.int a).eqv (.int b) = decide (a = b) :=
  Number.Numeral.eqv_int a b

/-- Simple patterns are equal as values when they are the same. -/
theorem Simple.eqv_iff (hp : Simple f p) (hq : Simple g q) : p.eqv q = true ↔ p = q := by
  have hnone : Scalar.none.eqv .none = true := rfl
  have hleft : ∀ n : Int, (Scalar.int n).eqv .none = false := fun _ => rfl
  have hright : ∀ n : Int, Scalar.none.eqv (.int n) = false := fun _ => rfl
  cases hp <;> cases hq <;>
    simp [eqv, scalarEqv_int, hnone, hleft, hright, and_assoc]

/-- So are lists of them, item by item. -/
theorem eqvAll_iff {ps qs : List FieldPattern} (hp : ∀ p ∈ ps, Simple f p)
    (hq : ∀ q ∈ qs, Simple g q) : eqvAll ps qs = true ↔ ps = qs := by
  induction ps generalizing qs with
  | nil => cases qs <;> simp [eqvAll]
  | cons p ps ih =>
    cases qs with
    | nil => simp [eqvAll]
    | cons q qs =>
      rw [List.forall_mem_cons] at hp hq
      rw [eqvAll, Bool.and_eq_true, hp.1.eqv_iff hq.1, ih hp.2 hq.2, List.cons.injEq]

/-- **Equality of canonical patterns is by value.** -/
theorem Canonical.eqv_iff (hp : Canonical f p) (hq : Canonical g q) :
    p.eqv q = true ↔ p = q := by
  cases hp with
  | item hps =>
    cases hq with
    | item hqs => exact hps.eqv_iff hqs
    | list => cases hps <;> simp [eqv]
  | list _ hps =>
    cases hq with
    | item hqs => cases hqs <;> simp [eqv]
    | list _ hqs => rw [eqv, eqvAll_iff hps hqs, FieldPattern.anyOf.injEq]

end Cadence.FieldPattern
