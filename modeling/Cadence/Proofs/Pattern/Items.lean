/-
The items of a pattern.

A pattern that a field is given is one item or a list of them, which commas join in its
text. `Suits f p` says what the check against a field asks of an item; for anything but a
list it is the whole of the check (`validate_eq_ok_iff_suits`). What suits a field matches
one of its values (`Suits.exists_accepts`), and unless it counts across the whole field it
matches nothing beyond (`Suits.accepts_outside`).

A step that counts across the field counts from zero, while the field may start at one. It
is at most the width of the field, which is why its own number is a value of the field
that it matches.
-/
import Cadence.Proofs.Pattern.Canonical
import Cadence.Proofs.Pattern.Meaning

set_option autoImplicit false

namespace Cadence.FieldPattern

variable {f : Field} {p q : FieldPattern} {v : Value}

/-! ## Items and lists -/

/-- The items that commas join in the text of a pattern. -/
def items : FieldPattern → List FieldPattern
  | .anyOf ps => ps
  | p => [p]

/-- The pattern of some items: a single one stands for itself. -/
def ofItems : List FieldPattern → FieldPattern
  | [p] => p
  | ps => .anyOf ps

/-- A pattern counts across the whole field: the star, or a step without a start. -/
def isOpen : FieldPattern → Bool
  | .wildcard => true
  | .step _ .none _ => true
  | _ => false

/-- No list stands in a list, and a list has two items or more. -/
def Flat (p : FieldPattern) : Prop :=
  ∀ ps, p = .anyOf ps → 2 ≤ ps.length ∧ ∀ q ∈ ps, ∀ qs, q ≠ .anyOf qs

/-- What is no list is its only item. -/
theorem items_of_not_list (h : ∀ ps, p ≠ .anyOf ps) : p.items = [p] := by
  cases p with
  | anyOf ps => exact absurd rfl (h ps)
  | _ => rfl

/-- Two items or more make a list. -/
theorem ofItems_of_two_le {ps : List FieldPattern} (h : 2 ≤ ps.length) :
    ofItems ps = .anyOf ps := by
  match ps, h with
  | _ :: _ :: _, _ => rfl

/-- Items that are no lists make a flat pattern. -/
theorem flat_ofItems {ps : List FieldPattern} (hne : ps ≠ [])
    (h : ∀ q ∈ ps, ∀ qs, q ≠ .anyOf qs) : (ofItems ps).Flat := by
  intro qs hqs
  match ps, hne with
  | [p], _ => exact absurd hqs (h p (by simp) qs)
  | p :: q :: ps, _ =>
    obtain rfl := FieldPattern.anyOf.inj hqs
    exact ⟨by simp, h⟩

/-! ## What the check asks of an item -/

/-- An item whose numbers suit a field. Nothing looks at the end of a step that has no
start. -/
inductive Suits (f : Field) : FieldPattern → Prop
  | wildcard : Suits f .wildcard
  | exact {n : Int} : f.low ≤ n → n ≤ f.high → Suits f (.exact (.int n))
  | span {a b : Int} : f.low ≤ a → a ≤ b → b ≤ f.high → Suits f (.span (.int a) (.int b))
  | every {n : Int} (stop : Scalar) : 1 ≤ n → n ≤ f.width → Suits f (.step (.int n) .none stop)
  | based {a n : Int} : f.low ≤ a → a ≤ f.high → 1 ≤ n →
    Suits f (.step (.int n) (.int a) .none)
  | stepped {a b n : Int} : f.low ≤ a → a ≤ b → b ≤ f.high → 1 ≤ n →
    Suits f (.step (.int n) (.int a) (.int b))

/-- A list is not among the forms that suit a field. -/
theorem Suits.not_list (h : Suits f p) : ∀ ps, p ≠ .anyOf ps := by
  cases h <;> simp

/-- A step with a start is checked as one over bounds, which are the start alone when there
is no end. -/
theorem validate_step {n a b : Scalar} (ha : a ≠ .none) : validate f (.step n a b) = (do
    let _ ← f.checkBounds (.atom a) (.atom (if b = .none then a else b))
    let _ ← f.checkStep (.atom n) none
    pure ()) := by
  cases a with
  | none => exact absurd rfl ha
  | _ => cases b <;> simp [validate]

/-- **What passes the check and is no list suits the field.** -/
theorem suits_of_validate (hp : ∀ ps, p ≠ .anyOf ps) (h : validate f p = .ok ()) : Suits f p := by
  cases p with
  | wildcard => exact .wildcard
  | exact v =>
    simp only [validate, map_eq_ok_iff, Field.checkValue_eq_ok_iff, Value.atom.injEq] at h
    obtain ⟨n, ⟨rfl, h₁, h₂⟩, -⟩ := h
    exact .exact h₁ h₂
  | span a b =>
    simp only [validate, map_eq_ok_iff, Prod.exists, Field.checkBounds_eq_ok_iff,
      Value.atom.injEq] at h
    obtain ⟨low, high, ⟨rfl, rfl, h₁, h₂, h₃⟩, -⟩ := h
    exact .span h₁ h₂ h₃
  | step n a b =>
    -- without a start the stop is never looked at
    by_cases ha : a = .none
    · subst ha
      simp only [validate, map_eq_ok_iff, Field.checkStep_eq_ok_iff, Value.atom.injEq,
        Option.mem_def, Option.some.injEq, forall_eq'] at h
      obtain ⟨k, ⟨rfl, h₁, h₂⟩, -⟩ := h
      exact .every b h₁ h₂
    · simp only [validate_step ha, bind_eq_ok_iff, Prod.exists, Field.checkBounds_eq_ok_iff,
        Field.checkStep_eq_ok_iff, Value.atom.injEq] at h
      obtain ⟨low, high, ⟨rfl, hstop, h₁, h₂, h₃⟩, k, ⟨rfl, h₄, -⟩, -⟩ := h
      -- without a stop the steps go on to the end of the field
      by_cases hb : b = .none
      · subst hb
        rw [if_pos rfl, Scalar.int.injEq] at hstop
        exact .based h₁ (by omega) h₄
      · rw [if_neg hb] at hstop
        subst hstop
        exact .stepped h₁ h₂ h₃ h₄
  | anyOf ps => exact absurd rfl (hp ps)
  | unspecified => simp [validate] at h

/-! ## What an item matches -/

/-- **What suits a field matches one of its values.** -/
theorem Suits.exists_accepts (h : Suits f p) :
    ∃ n : Int, f.low ≤ n ∧ n ≤ f.high ∧ p.accepts (.int n) = .ok true := by
  have hlow : f.low ≤ 1 := by cases f <;> decide
  have hnonneg := f.low_nonneg
  cases h with
  | wildcard =>
    refine ⟨f.low, Int.le_refl _, ?_, by rw [accepts]⟩
    cases f <;> decide
  | @exact n h₁ h₂ => exact ⟨n, h₁, h₂, by simp [accepts_exact]⟩
  | @span a b h₁ h₂ h₃ => exact ⟨a, h₁, by omega, by simp [accepts_span, h₂]⟩
  | @every n stop h₁ h₂ =>
    -- the number of the step is a value of the field, whether this starts at zero or at one
    rw [Field.width] at h₂
    exact ⟨n, by omega, by omega, by simp [accepts_every (by omega : n ≠ 0)]⟩
  | @based a n h₁ h₂ h₃ => exact ⟨a, h₁, h₂, by simp [accepts_based (by omega : n ≠ 0)]⟩
  | @stepped a b n h₁ h₂ h₃ h₄ =>
    exact ⟨a, h₁, by omega, by simp [accepts_stepped (by omega : n ≠ 0), h₂]⟩

/-- **What suits a field and does not count across it matches nothing beyond.** -/
theorem Suits.accepts_outside (h : Suits f p) (hp : p.isOpen = false) {m : Int}
    (hm : ¬(f.low ≤ m ∧ m ≤ f.high)) : p.accepts (.int m) = .ok false := by
  -- only a wildcard and a bare step reach beyond the field
  cases h with
  | wildcard => simp [isOpen] at hp
  | exact h₁ h₂ =>
    rw [accepts_exact, Except.ok.injEq, decide_eq_false_iff_not]
    omega
  | span h₁ h₂ h₃ =>
    rw [accepts_span, Except.ok.injEq, decide_eq_false_iff_not]
    omega
  | every stop h₁ h₂ => simp [isOpen] at hp
  | based h₁ h₂ h₃ =>
    rw [accepts_based (by omega), Except.ok.injEq, decide_eq_false_iff_not]
    omega
  | stepped h₁ h₂ h₃ h₄ =>
    rw [accepts_stepped (by omega), Except.ok.injEq, decide_eq_false_iff_not]
    omega

/-! ## What the producers make -/

/-- The items of a canonical pattern suit the field. -/
theorem Simple.suits (h : Simple f p) : Suits f p :=
  suits_of_validate (by cases h <;> simp) h.validate

/-- Each item of a canonical pattern suits the field, and there is one. -/
theorem Canonical.suits_items (h : Canonical f p) : p.items ≠ [] ∧ ∀ q ∈ p.items, Suits f q := by
  cases h with
  | item hs =>
    rw [items_of_not_list hs.suits.not_list]
    exact ⟨by simp, by simpa using hs.suits⟩
  | list hlen hall =>
    rw [items]
    exact ⟨List.ne_nil_of_length_pos (by omega), fun q hq => (hall q hq).suits⟩

/-- The items of a compiled input suit the field. -/
theorem Compiled.suits_items (h : Compiled f v p) : p.items ≠ [] ∧ ∀ q ∈ p.items, Suits f q := by
  have hone : ∀ {q : FieldPattern}, Suits f q → q.items ≠ [] ∧ ∀ r ∈ q.items, Suits f r := by
    intro q hq
    rw [items_of_not_list hq.not_list]
    exact ⟨by simp, by simpa using hq⟩
  cases h with
  | values hne hall => exact (canonical_ofValues hne hall).suits_items
  | every h₁ h₂ => exact hone (.every .none h₁ h₂)
  | span h₁ h₂ h₃ => exact hone (.span h₁ h₂ h₃)
  | stepped h₁ h₂ h₃ h₄ _ => exact hone (.stepped h₁ h₂ h₃ h₄)

/-- **A pattern that is accepted for a field is never empty.** Whether an input was
compiled to it or a text was read as it and checked, it has items, each matches a value of
the field, and each that does not count across the whole field matches no integer that is
not one of its values. -/
theorem items_never_empty (h : compile f v = .ok p ∨
    ∃ text q, parse text = .ok q ∧ checked f q = .ok p) :
    p.items ≠ [] ∧ ∀ q ∈ p.items,
      (∃ n : Int, f.low ≤ n ∧ n ≤ f.high ∧ q.accepts (.int n) = .ok true) ∧
      (q.isOpen = false → ∀ m : Int, ¬(f.low ≤ m ∧ m ≤ f.high) →
        q.accepts (.int m) = .ok false) := by
  have hsuits : p.items ≠ [] ∧ ∀ q ∈ p.items, Suits f q := by
    rcases h with h | ⟨text, q, hparse, hcheck⟩
    · exact (compiled_of_compile h).suits_items
    · simp only [checked, bind_eq_ok_iff, pure_eq_ok_iff] at hcheck
      obtain ⟨_, hvalid, rfl⟩ := hcheck
      exact (canonical_of_parse hparse hvalid).suits_items
  exact ⟨hsuits.1, fun q hq => ⟨(hsuits.2 q hq).exists_accepts,
    fun hopen m hm => (hsuits.2 q hq).accepts_outside hopen hm⟩⟩

/-- Every thirtieth day of the month, a field that starts at one, and its last day. -/
theorem items_never_empty_days :
    ∃ p q, parse "*/30, 31/7" = .ok q ∧ checked .day q = .ok p ∧ p.items ≠ [] ∧
      ∀ q ∈ p.items,
        (∃ n : Int, Field.day.low ≤ n ∧ n ≤ Field.day.high ∧ q.accepts (.int n) = .ok true) ∧
        (q.isOpen = false → ∀ m : Int, ¬(Field.day.low ≤ m ∧ m ≤ Field.day.high) →
          q.accepts (.int m) = .ok false) := by
  have hread : (parse "*/30, 31/7" >>= checked .day).toOption.isSome = true := by decide +kernel
  obtain ⟨p, hp⟩ := exists_eq_ok_of_isSome hread
  obtain ⟨q, hq, hp⟩ := bind_eq_ok_iff.mp hp
  exact ⟨p, q, hq, hp, items_never_empty (v := .null) (.inr ⟨_, q, hq, hp⟩)⟩

end Cadence.FieldPattern
