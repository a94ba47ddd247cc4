/-
The order of texts.

Texts are ordered by their code points: the first place where two texts differ
decides, and a text comes before the texts that go on where it ends.
-/

set_option autoImplicit false

namespace Cadence.Text

/-- Whether the first text does not come after the second. -/
def notAfter : List Char → List Char → Bool
  | [], _ => true
  | _ :: _, [] => false
  | c :: s, d :: t => c.toNat < d.toNat || (c == d && notAfter s t)

/-- The first text comes before the second: it has the lesser code point where they differ
first, or it ends there. -/
def Precedes (s t : List Char) : Prop := List.Lex (fun c d => c.toNat < d.toNat) s t

theorem notAfter_total (s t : List Char) : (notAfter s t || notAfter t s) = true := by
  induction s generalizing t with
  | nil => simp [notAfter]
  | cons c s ih =>
    cases t with
    | nil => simp [notAfter]
    | cons d t =>
      rcases Nat.lt_trichotomy c.toNat d.toNat with h | h | h
      · simp [notAfter, h]
      · have hc : c = d := Char.toNat_inj.mp h
        subst hc
        have := ih t
        simp [notAfter] at this ⊢
        exact this
      · simp [notAfter, h]

/-- A text does not come after another when it is the same or comes before it. -/
theorem notAfter_iff {s t : List Char} : notAfter s t = true ↔ s = t ∨ Precedes s t := by
  induction s generalizing t with
  | nil =>
    cases t with
    | nil => simp [notAfter]
    | cons d t => simp [notAfter, Precedes]
  | cons c s ih =>
    cases t with
    | nil => simp [notAfter, Precedes]
    | cons d t =>
      simp only [notAfter, Bool.or_eq_true, Bool.and_eq_true, decide_eq_true_eq, beq_iff_eq, ih,
        Precedes, List.cons_lex_cons_iff, List.cons.injEq]
      constructor
      · rintro (hlt | ⟨rfl, rfl | hlex⟩)
        · exact .inr (.inl hlt)
        · exact .inl ⟨rfl, rfl⟩
        · exact .inr (.inr ⟨rfl, hlex⟩)
      · rintro (⟨rfl, rfl⟩ | hlt | ⟨rfl, hlex⟩)
        · exact .inr ⟨rfl, .inl rfl⟩
        · exact .inl hlt
        · exact .inr ⟨rfl, .inr hlex⟩

theorem notAfter_trans {s t u : List Char} (hst : notAfter s t = true) (htu : notAfter t u = true) :
    notAfter s u = true := by
  induction s generalizing t u with
  | nil => simp [notAfter]
  | cons c s ih =>
    cases t with
    | nil => simp [notAfter] at hst
    | cons d t =>
      cases u with
      | nil => simp [notAfter] at htu
      | cons e u =>
        simp only [notAfter, Bool.or_eq_true, Bool.and_eq_true, decide_eq_true_eq, beq_iff_eq]
          at hst htu ⊢
        rcases hst with hcd | ⟨rfl, hst⟩
        · rcases htu with hde | ⟨rfl, -⟩
          · exact .inl (Nat.lt_trans hcd hde)
          · exact .inl hcd
        · exact htu.imp_right (fun h => ⟨h.1, ih hst h.2⟩)

end Cadence.Text
