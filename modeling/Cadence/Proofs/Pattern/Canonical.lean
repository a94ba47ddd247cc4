/-
Canonical patterns.

Three producers build the patterns of a schedule: the star, the compiler of
structured inputs, and the reader of texts followed by the check against the field.
`Canonical f p` describes what they build: items whose numbers lie within the field,
and lists of at least two such items. The check passes all of these, and each
producer stays among them (`canonical_of_compile`, `canonical_of_parse`).

A step over bounds has no upper limit in the field, so how many digits it has is a
condition of its own; a text has no more digits than its reader converts, and of an
input it has to be assumed (`Value.Moderate`).
-/
import Cadence.Pattern.Check
import Cadence.Proofs.Pattern.Grammar

set_option autoImplicit false

namespace Cadence

open Cadence.Number (Writes digits digitLimit)

/-! ## Inputs -/

/-- The integer `n` occurs in a value. -/
inductive Value.Occurs (n : Int) : Value → Prop
  | here : Occurs n (.int n)
  | list {v : Value} {items : List Value} : v ∈ items → Occurs n v → Occurs n (.list items)
  | tuple {v : Value} {items : List Value} : v ∈ items → Occurs n v → Occurs n (.tuple items)
  | entry {k v : Value} {entries : List (Value × Value)} :
    (k, v) ∈ entries → Occurs n v → Occurs n (.mapping entries)

/-- The integers of a value have no more decimal digits than are converted. -/
def Value.Moderate (v : Value) : Prop :=
  ∀ n : Int, v.Occurs n → (digits n.natAbs).length ≤ digitLimit

/-! ## The three checks -/

namespace Field

variable {f : Field}

/-- No field has a negative value. -/
theorem low_nonneg (f : Field) : 0 ≤ f.low := by cases f <;> decide

/-- Values of a field have two digits at most. -/
theorem high_lt (f : Field) : f.high < 100 := by cases f <;> decide

theorem width_lt (f : Field) : f.width < 100 := by cases f <;> decide

/-- A value passes when it is an integer in the range of the field. -/
theorem checkValue_eq_ok_iff {v : Value} {n : Int} :
    f.checkValue v = .ok n ↔ v = .int n ∧ f.low ≤ n ∧ n ≤ f.high := by
  unfold checkValue
  split
  case h_1 m =>
    split
    case isTrue h =>
      rw [Except.ok.injEq, Value.atom.injEq, Scalar.int.injEq]
      constructor
      · rintro rfl
        exact ⟨rfl, h⟩
      · exact fun h' => h'.1
    case isFalse h =>
      rw [Value.atom.injEq, Scalar.int.injEq]
      simp only [reduceCtorEq, false_iff, not_and]
      rintro rfl h₁ h₂
      exact h ⟨h₁, h₂⟩
  -- a value of another kind is never in range
  case h_2 hne =>
    simp only [reduceCtorEq, false_iff, not_and]
    rintro rfl
    exact absurd rfl (hne n)

/-- A step passes when it is a positive integer up to the bound, if there is one. -/
theorem checkStep_eq_ok_iff {v : Value} {upper : Option Int} {n : Int} :
    f.checkStep v upper = .ok n ↔ v = .int n ∧ 1 ≤ n ∧ ∀ u ∈ upper, n ≤ u := by
  unfold checkStep
  split
  case h_1 m =>
    rw [Value.atom.injEq, Scalar.int.injEq]
    -- a step in a range that is given has no upper bound of its own
    cases upper with
    | none =>
      simp only [ite_error_eq_ok_iff, Except.ok.injEq, Option.mem_def, reduceCtorEq,
        false_implies, implies_true, and_true, Int.not_lt]
      constructor
      · rintro ⟨h, rfl⟩
        exact ⟨rfl, h⟩
      · rintro ⟨rfl, h⟩
        exact ⟨h, rfl⟩
    | some u =>
      simp only [Option.mem_def, Option.some.injEq, forall_eq']
      split
      case isTrue h =>
        rw [Except.ok.injEq]
        constructor
        · rintro rfl
          exact ⟨rfl, h⟩
        · exact fun h' => h'.1
      case isFalse h =>
        simp only [reduceCtorEq, false_iff, not_and]
        rintro rfl h₁ h₂
        exact h ⟨h₁, h₂⟩
  case h_2 hne =>
    simp only [reduceCtorEq, false_iff, not_and]
    rintro rfl
    exact absurd rfl (hne n)

/-- Two ends pass when they are integers of the range, in order. -/
theorem checkBounds_eq_ok_iff {a b : Value} {low high : Int} :
    f.checkBounds a b = .ok (low, high) ↔
      a = .int low ∧ b = .int high ∧ f.low ≤ low ∧ low ≤ high ∧ high ≤ f.high := by
  simp only [checkBounds, bind_eq_ok_iff, checkValue_eq_ok_iff, ite_error_eq_ok_iff,
    pure_eq_ok_iff, Prod.mk.injEq, Int.not_lt]
  constructor
  · rintro ⟨_, ⟨rfl, h₁, -⟩, _, ⟨rfl, -, h₂⟩, h₃, rfl, rfl⟩
    exact ⟨rfl, rfl, h₁, h₃, h₂⟩
  · rintro ⟨rfl, rfl, h₁, h₂, h₃⟩
    exact ⟨low, ⟨rfl, h₁, by omega⟩, high, ⟨rfl, by omega, h₃⟩, h₂, rfl, rfl⟩

/-- The names of a field's values stand for values of the field. -/
theorem aliases_within (f : Field) : ∀ e ∈ f.aliases, f.low ≤ e.2 ∧ e.2 ≤ f.high := by
  cases f <;> decide

/-- What a name or a number resolves to is in the range of the field. -/
theorem within_of_resolve {v : Value} {n : Int} (h : f.resolve v = .ok n) :
    f.low ≤ n ∧ n ≤ f.high := by
  have hentry : ∀ {key : String} {m : Int}, f.aliases.lookup key = some m →
      f.low ≤ m ∧ m ≤ f.high := by
    intro key m hm
    obtain ⟨l, r, hl, -⟩ := List.lookup_eq_some_iff.mp hm
    exact f.aliases_within (key, m) (by rw [hl]; simp)
  unfold resolve at h
  split at h
  case h_3 => simp at h
  -- a name as text and a symbol are looked up alike
  all_goals
    simp only at h
    split at h
    case h_1 m hm =>
      rw [← Except.ok.inj h]
      exact hentry hm
    case h_2 => simp at h

end Field

namespace FieldPattern

open Cadence.Text (BlankFree isBlank isDigit splitAt joinAt trim)

variable {f g : Field} {p q : FieldPattern} {s : List Char}

/-! ## What the producers build -/

/-- An item whose numbers lie within a field. -/
inductive Simple (f : Field) : FieldPattern → Prop
  | wildcard : Simple f .wildcard
  | exact {n : Nat} : f.low ≤ n → (n : Int) ≤ f.high → Simple f (.exact (.int n))
  | span {a b : Nat} : f.low ≤ a → a ≤ b → (b : Int) ≤ f.high → Simple f (.span (.int a) (.int b))
  | every {n : Nat} : 1 ≤ n → (n : Int) ≤ f.width → Simple f (.step (.int n) .none .none)
  | based {a n : Nat} : f.low ≤ a → (a : Int) ≤ f.high → 1 ≤ n →
    (digits n).length ≤ digitLimit → Simple f (.step (.int n) (.int a) .none)
  | stepped {a b n : Nat} : f.low ≤ a → a ≤ b → (b : Int) ≤ f.high → 1 ≤ n →
    (digits n).length ≤ digitLimit → Simple f (.step (.int n) (.int a) (.int b))

/-- What a schedule holds for a field: an item, or a list of two or more. -/
inductive Canonical (f : Field) : FieldPattern → Prop
  | item {p : FieldPattern} : Simple f p → Canonical f p
  | list {items : List FieldPattern} : 2 ≤ items.length → (∀ p ∈ items, Simple f p) →
    Canonical f (.anyOf items)

/-! ## The check -/

/-- The check passes what is canonical for the field. -/
theorem Simple.validate (h : Simple f p) : validate f p = .ok () := by
  cases h with
  | wildcard => rw [FieldPattern.validate]
  | exact h₁ h₂ =>
    rw [FieldPattern.validate, map_eq_ok_iff]
    exact ⟨_, Field.checkValue_eq_ok_iff.mpr ⟨rfl, h₁, h₂⟩, rfl⟩
  | span h₁ h₂ h₃ =>
    rw [FieldPattern.validate, map_eq_ok_iff]
    exact ⟨_, Field.checkBounds_eq_ok_iff.mpr ⟨rfl, rfl, h₁, by omega, h₃⟩, rfl⟩
  | every h₁ h₂ =>
    rw [FieldPattern.validate, map_eq_ok_iff]
    exact ⟨_, Field.checkStep_eq_ok_iff.mpr ⟨rfl, by omega, by simpa using h₂⟩, rfl⟩
  | based h₁ h₂ h₃ _ =>
    simp only [FieldPattern.validate, bind_eq_ok_iff, pure_eq_ok_iff, Prod.exists,
      Field.checkBounds_eq_ok_iff, Field.checkStep_eq_ok_iff]
    exact ⟨_, _, ⟨rfl, rfl, h₁, le_refl _, h₂⟩, _, ⟨rfl, by omega, by simp⟩, trivial⟩
  | stepped h₁ h₂ h₃ h₄ _ =>
    simp only [FieldPattern.validate, bind_eq_ok_iff, pure_eq_ok_iff, Prod.exists,
      Field.checkBounds_eq_ok_iff, Field.checkStep_eq_ok_iff]
    exact ⟨_, _, ⟨rfl, rfl, h₁, by omega, h₃⟩, _, ⟨rfl, by omega, by simp⟩, trivial⟩

/-- A list of patterns is valid when each of them is. -/
theorem validateAll_eq_ok_iff {items : List FieldPattern} :
    validateAll f items = .ok () ↔ ∀ p ∈ items, validate f p = .ok () := by
  induction items with
  | nil => simp [validateAll]
  | cons p items ih =>
    rw [validateAll, bind_eq_ok_iff, List.forall_mem_cons, ih]
    exact ⟨fun ⟨_, h⟩ => h, fun h => ⟨(), h⟩⟩

/-- A canonical pattern is valid as it stands. -/
theorem Canonical.validate (h : Canonical f p) : validate f p = .ok () := by
  cases h with
  | item hs => exact hs.validate
  | list _ hall =>
    rw [FieldPattern.validate, validateAll_eq_ok_iff]
    exact fun p hp => (hall p hp).validate

/-- An item that passes the check has its numbers within the field. -/
theorem Item.simple (h : Item s p) (hv : FieldPattern.validate f p = .ok ()) : Simple f p := by
  -- the numbers of an item are natural, so that only the bounds of the field are to be checked
  cases h with
  | star => exact .wildcard
  | number _ =>
    rw [FieldPattern.validate, map_eq_ok_iff] at hv
    obtain ⟨n, hn, -⟩ := hv
    obtain ⟨heq, h₁, h₂⟩ := Field.checkValue_eq_ok_iff.mp hn
    cases heq
    exact .exact h₁ h₂
  | range _ _ =>
    rw [FieldPattern.validate, map_eq_ok_iff] at hv
    obtain ⟨⟨low, high⟩, hb, -⟩ := hv
    obtain ⟨hl, hh, h₁, h₂, h₃⟩ := Field.checkBounds_eq_ok_iff.mp hb
    cases hl
    cases hh
    exact .span h₁ (by omega) h₃
  | every _ hpos =>
    rw [FieldPattern.validate, map_eq_ok_iff] at hv
    obtain ⟨n, hn, -⟩ := hv
    obtain ⟨heq, -, hu⟩ := Field.checkStep_eq_ok_iff.mp hn
    cases heq
    exact .every hpos (by simpa using hu)
  | based _ hk hpos =>
    simp only [FieldPattern.validate, bind_eq_ok_iff, Prod.exists,
      Field.checkBounds_eq_ok_iff] at hv
    obtain ⟨low, high, ⟨hl, hh, h₁, h₂, h₃⟩, -⟩ := hv
    cases hl
    cases hh
    exact .based h₁ h₃ hpos hk.length_digits_le
  | stepped _ _ hk hpos =>
    simp only [FieldPattern.validate, bind_eq_ok_iff, Prod.exists,
      Field.checkBounds_eq_ok_iff] at hv
    obtain ⟨low, high, ⟨hl, hh, h₁, h₂, h₃⟩, -⟩ := hv
    cases hl
    cases hh
    exact .stepped h₁ (by omega) h₃ hpos hk.length_digits_le

/-- **Texts that are read and checked give canonical patterns.** -/
theorem canonical_of_parse {text : String} (h : parse text = .ok p)
    (hv : FieldPattern.validate f p = .ok ()) : Canonical f p := by
  rcases parse_eq_ok_iff.mp h with ⟨-, hitem⟩ | ⟨hc, items, rfl, hitems⟩
  · exact .item (hitem.simple hv)
  · rw [FieldPattern.validate, validateAll_eq_ok_iff] at hv
    refine .list ?_ (fun q hq => ?_)
    · rw [← hitems.length_eq]
      exact Text.two_le_length_splitAt hc
    · obtain ⟨part, -, hq'⟩ := exists_of_mem_forall₂ hitems hq
      exact hq'.simple (hv q hq)

/-! ## Structured inputs

`Compiled` lists what comes out, whatever goes in. A list of one value is compiled to that
value, so the lists that remain have two items or more. The entries of a mapping are looked
up by key, and what is found is one of its values. -/

/-- What is found under a key is the value of one of the entries. -/
theorem mem_of_lookup? {key : String} {entries : List (Value × Value)} {v : Value}
    (h : Value.lookup? key entries = some v) : ∃ k, (k, v) ∈ entries := by
  induction entries with
  | nil => simp [Value.lookup?] at h
  | cons e entries ih =>
    obtain ⟨k, w⟩ := e
    rw [Value.lookup?] at h
    split at h
    · cases h
      exact ⟨k, by simp⟩
    · obtain ⟨k', hk'⟩ := ih h
      exact ⟨k', by simp [hk']⟩

/-- An integer that is found under a key occurs in the mapping. -/
theorem occurs_of_entry {entries : List (Value × Value)} {key : String} {n : Int}
    (h : (Value.lookup? key entries).getD .null = .int n) :
    (Value.mapping entries).Occurs n := by
  cases hl : Value.lookup? key entries with
  | none => simp [hl] at h
  | some v =>
    rw [hl, Option.getD_some] at h
    obtain ⟨k, hk⟩ := mem_of_lookup? hl
    rw [h] at hk
    exact .entry hk .here

/-- What an input is compiled to; the step over bounds is a number of the input. -/
inductive Compiled (f : Field) (v : Value) : FieldPattern → Prop
  | values {ns : List Int} : ns ≠ [] → (∀ n ∈ ns, f.low ≤ n ∧ n ≤ f.high) →
    Compiled f v (ofValues ns)
  | every {n : Int} : 1 ≤ n → n ≤ f.width → Compiled f v (.step (.int n) .none .none)
  | span {a b : Int} : f.low ≤ a → a ≤ b → b ≤ f.high → Compiled f v (.span (.int a) (.int b))
  | stepped {a b n : Int} : f.low ≤ a → a ≤ b → b ≤ f.high → 1 ≤ n → v.Occurs n →
    Compiled f v (.step (.int n) (.int a) (.int b))

/-- One value is a list of one. -/
theorem Compiled.exact {v : Value} {n : Int} (h : f.low ≤ n ∧ n ≤ f.high) :
    Compiled f v (.exact (.int n)) := by
  have hone : ofValues [n] = .exact (.int n) := rfl
  rw [← hone]
  exact .values (List.cons_ne_nil n []) (by simpa using h)

/-- A list compiles to the exact values of its items. -/
theorem compiled_of_compileList {v : Value} {items : List Value}
    (h : compileList f items = .ok p) : Compiled f v p := by
  simp only [compileList, ite_error_eq_ok_iff, map_eq_ok_iff, mapM_eq_ok_iff,
    List.isEmpty_iff] at h
  obtain ⟨hne, ns, hns, rfl⟩ := h
  refine .values ?_ (fun n hn => ?_)
  · rintro rfl
    exact hne (List.forall₂_nil_right_iff.mp hns)
  · obtain ⟨v, -, hv⟩ := exists_of_mem_forall₂ hns hn
    exact (Field.checkValue_eq_ok_iff.mp hv).2

/-- A mapping compiles to the range or the step that its keys ask for. -/
theorem compiled_of_compileRange {entries : List (Value × Value)}
    (h : compileRange f entries = .ok p) : Compiled f (.mapping entries) p := by
  simp only [compileRange] at h
  split at h
  -- a step alone
  case isTrue =>
    simp only [bind_eq_ok_iff, pure_eq_ok_iff, Field.checkStep_eq_ok_iff] at h
    obtain ⟨n, ⟨-, h₁, h₂⟩, rfl⟩ := h
    exact .every h₁ (by simpa using h₂)
  case isFalse =>
    split at h
    case isTrue =>
      simp only [bind_eq_ok_iff, pure_eq_ok_iff, Prod.exists, Field.checkBounds_eq_ok_iff] at h
      obtain ⟨low, high, ⟨-, -, h₁, h₂, h₃⟩, rfl⟩ := h
      exact .span h₁ h₂ h₃
    case isFalse =>
      split at h
      case isTrue =>
        simp only [bind_eq_ok_iff, pure_eq_ok_iff, Prod.exists, Field.checkBounds_eq_ok_iff,
          Field.checkStep_eq_ok_iff] at h
        obtain ⟨low, high, ⟨-, -, h₁, h₂, h₃⟩, n, ⟨hn, h₄, -⟩, rfl⟩ := h
        exact .stepped h₁ h₂ h₃ h₄ (occurs_of_entry hn)
      case isFalse => simp [bind_eq_ok_iff] at h

/-- **What the compiler returns**, whatever the input. -/
theorem compiled_of_compile {v : Value} (h : compile f v = .ok p) : Compiled f v p := by
  unfold compile at h
  -- by the kind of the input: a name (a text or a symbol), a number, a list, a tuple, a mapping
  split at h
  case h_1 =>
    obtain ⟨n, hn, rfl⟩ := map_eq_ok_iff.mp h
    exact .exact (Field.within_of_resolve hn)
  case h_2 =>
    obtain ⟨n, hn, rfl⟩ := map_eq_ok_iff.mp h
    exact .exact (Field.within_of_resolve hn)
  case h_3 =>
    obtain ⟨n, hn, rfl⟩ := map_eq_ok_iff.mp h
    exact .exact (Field.checkValue_eq_ok_iff.mp hn).2
  case h_4 => exact compiled_of_compileList h
  case h_5 => exact compiled_of_compileList h
  case h_6 => exact compiled_of_compileRange h
  case h_7 => simp at h

/-- A value of the field is the simplest pattern there is. -/
theorem simple_exact {n : Int} (h₁ : f.low ≤ n) (h₂ : n ≤ f.high) :
    Simple f (.exact (.int n)) := by
  obtain ⟨k, rfl⟩ := Int.eq_ofNat_of_zero_le (Int.le_trans f.low_nonneg h₁)
  exact .exact h₁ h₂

/-- So is a list of such values, or the one value in it. -/
theorem canonical_ofValues {ns : List Int} (hne : ns ≠ [])
    (h : ∀ n ∈ ns, f.low ≤ n ∧ n ≤ f.high) : Canonical f (ofValues ns) := by
  match ns, hne with
  | [n], _ => exact .item (simple_exact (h n (by simp)).1 (h n (by simp)).2)
  | m :: n :: ns, _ =>
    refine .list (by simp) (fun p hp => ?_)
    obtain ⟨k, hk, rfl⟩ := List.mem_map.mp hp
    exact simple_exact (h k hk).1 (h k hk).2

/-- **Compiled inputs are canonical patterns.** -/
theorem canonical_of_compile {v : Value} (hm : v.Moderate) (h : compile f v = .ok p) :
    Canonical f p := by
  have hlow := f.low_nonneg
  -- no field goes below zero, so that its numbers can be written without a sign
  cases compiled_of_compile h with
  | values hne hall => exact canonical_ofValues hne hall
  | @every n h₁ h₂ =>
    obtain ⟨k, rfl⟩ := Int.eq_ofNat_of_zero_le (by omega : 0 ≤ n)
    exact .item (.every (by omega) h₂)
  | @span a b h₁ h₂ h₃ =>
    obtain ⟨j, rfl⟩ := Int.eq_ofNat_of_zero_le (by omega : 0 ≤ a)
    obtain ⟨k, rfl⟩ := Int.eq_ofNat_of_zero_le (by omega : 0 ≤ b)
    exact .item (.span h₁ (by omega) h₃)
  | @stepped a b n h₁ h₂ h₃ h₄ hoccurs =>
    obtain ⟨i, rfl⟩ := Int.eq_ofNat_of_zero_le (by omega : 0 ≤ a)
    obtain ⟨j, rfl⟩ := Int.eq_ofNat_of_zero_le (by omega : 0 ≤ b)
    obtain ⟨k, rfl⟩ := Int.eq_ofNat_of_zero_le (by omega : 0 ≤ n)
    exact .item (.stepped h₁ (by omega) h₃ (by omega) (hm _ hoccurs))

end FieldPattern

end Cadence
