/-
Words and trimmed texts, described by what the text looks like.

`words` and `trim` are computed; here stands what they compute, said of the text
alone. `Splits s ws` writes `s` down as blanks and words in turn, `Stripped s m` as
`m` between blanks. Each of the two has exactly one outcome for a text, the computed
one (`splits_iff`, `stripped_iff`), so a statement about the words of a text can be
read without knowing how they are found.
-/
import Cadence.Proofs.Text.Cutting

set_option autoImplicit false

namespace Cadence.Text

variable {s t m w gap lead tail : List Char} {ws : List (List Char)}

/-- A list of blanks only. -/
def AllBlank (s : List Char) : Prop := ∀ c ∈ s, isBlank c = true

/-- A list that does not begin with a blank. -/
def BlankFreeStart (s : List Char) : Prop := ∀ c ∈ s.head?, isBlank c = false

/-! ## Words -/

/-- Blanks in front of a text add no word. -/
theorem words_blank_append (h : AllBlank gap) (s : List Char) : words (gap ++ s) = words s := by
  induction gap with
  | nil => rfl
  | cons c gap ih =>
    obtain ⟨hc, hgap⟩ := List.forall_mem_cons.mp h
    have hcut := words_append_cons hc [] (gap ++ s)
    rw [List.nil_append] at hcut
    rw [List.cons_append, hcut, ih hgap]
    rfl

theorem words_of_allBlank (h : AllBlank s) : words s = [] := by
  have hs := words_blank_append h []
  rwa [List.append_nil] at hs

/-- Nor do blanks behind it. -/
theorem words_append_blank (h : AllBlank tail) (s : List Char) :
    words (s ++ tail) = words s := by
  -- the first blank behind ends the last word, and the others make none
  cases tail with
  | nil => rw [List.append_nil]
  | cons c tail =>
    obtain ⟨hc, htail⟩ := List.forall_mem_cons.mp h
    rw [words_append_cons hc, words_of_allBlank htail, List.append_nil]

/-- A text as blanks and words in turn. A word is not empty, holds no blank, and is
followed by a blank or by nothing. -/
inductive Splits : List Char → List (List Char) → Prop
  | done {gap : List Char} : AllBlank gap → Splits gap []
  | word {gap w rest : List Char} {ws : List (List Char)} :
    AllBlank gap → w ≠ [] → BlankFree w → (∀ c ∈ rest.head?, isBlank c = true) →
      Splits rest ws → Splits (gap ++ (w ++ rest)) (w :: ws)

/-- However a text is split, its words are those of the splitting. -/
theorem Splits.words_eq (h : Splits s ws) : words s = ws := by
  induction h with
  | done hgap => exact words_of_allBlank hgap
  | @word gap w rest ws hgap hne hw hrest _ ih =>
    rw [words_blank_append hgap]
    -- a word is cut off at the blank behind it, or is the rest of the text
    cases rest with
    | nil =>
      rw [List.append_nil, words_of_blankFree hne hw, ← ih]
      rfl
    | cons c rest =>
      have hc : isBlank c = true := hrest c rfl
      have hcut := words_append_cons hc [] rest
      rw [words_append_cons hc, words_of_blankFree hne hw, ← ih]
      rw [List.nil_append] at hcut
      rw [hcut]
      rfl

/-- A blank more in front goes to the gap that is there. -/
theorem Splits.cons_blank {c : Char} (hc : isBlank c = true) (h : Splits s ws) :
    Splits (c :: s) ws := by
  have hcons : ∀ {gap}, AllBlank gap → AllBlank (c :: gap) := fun hgap =>
    List.forall_mem_cons.mpr ⟨hc, hgap⟩
  cases h with
  | done hgap => exact .done (hcons hgap)
  | word hgap hne hw hrest hs => exact .word (hcons hgap) hne hw hrest hs

/-- One more character in front that is no blank: it begins a word of its own, or the
first word of the text. -/
theorem Splits.exists_cons {c : Char} (hc : isBlank c = false) (h : Splits s ws) :
    ∃ vs, Splits (c :: s) vs := by
  have hnil : AllBlank [] := fun d hd => by simp at hd
  have hone : BlankFree [c] := fun d hd => by rwa [List.mem_singleton.mp hd]
  by_cases hs : ∀ d ∈ s.head?, isBlank d = true
  · -- nothing or a blank follows
    have hword : Splits ([] ++ ([c] ++ s)) ([c] :: ws) := .word hnil (by simp) hone hs h
    exact ⟨_, hword⟩
  · -- a word follows at once
    cases h with
    | done hgap =>
      refine absurd (fun d hd => hgap d ?_) hs
      exact List.mem_of_mem_head? hd
    | @word gap w rest ws hgap hne hw hrest hsplit =>
      cases gap with
      | nil =>
        have hcw : BlankFree (c :: w) := List.forall_mem_cons.mpr ⟨hc, hw⟩
        have hword : Splits ([] ++ (c :: w ++ rest)) ((c :: w) :: ws) :=
          .word hnil (by simp) hcw hrest hsplit
        exact ⟨_, hword⟩
      | cons d gap =>
        refine absurd (fun e he => ?_) hs
        rw [List.cons_append, List.head?_cons, Option.mem_some_iff] at he
        exact hgap e (by simp [he])

/-- Every text can be split, from its end to its beginning. -/
theorem exists_splits (s : List Char) : ∃ ws, Splits s ws := by
  induction s with
  | nil => exact ⟨[], .done (fun c hc => by simp at hc)⟩
  | cons c s ih =>
    obtain ⟨ws, h⟩ := ih
    by_cases hc : isBlank c = true
    · exact ⟨ws, h.cons_blank hc⟩
    · exact h.exists_cons (Bool.eq_false_iff.mpr hc)

/-- **The words are the one way of splitting a text.** -/
theorem splits_iff : Splits s ws ↔ words s = ws := by
  constructor
  · exact Splits.words_eq
  · rintro rfl
    obtain ⟨ws, h⟩ := exists_splits s
    rwa [h.words_eq]

/-- A word of a text is a part of it. -/
theorem Splits.isInfix (h : Splits s ws) (hw : w ∈ ws) : w <:+: s := by
  induction h with
  | done _ => simp at hw
  | word _ _ _ _ _ ih =>
    rcases List.mem_cons.mp hw with rfl | hw
    · exact List.infix_append' _ _ _
    · exact (ih hw).trans ((List.suffix_append _ _).trans (List.suffix_append _ _)).isInfix

/-! ## Trimmed texts -/

/-- `m` is `s` without the blanks at both ends. -/
def Stripped (s m : List Char) : Prop :=
  ∃ lead tail, s = lead ++ m ++ tail ∧ AllBlank lead ∧ AllBlank tail ∧
    BlankFreeStart m ∧ BlankFreeStart m.reverse

/-- Blanks in front of a text are trimmed with its own. -/
theorem trimStart_append (h : AllBlank lead) (s : List Char) :
    trimStart (lead ++ s) = trimStart s := by
  rw [trimStart, List.dropWhile_append_of_pos h, trimStart]

theorem trimStart_eq_self (h : BlankFreeStart s) : trimStart s = s := by
  cases s with
  | nil => rfl
  | cons c s => rw [trimStart, List.dropWhile_cons_of_neg (by simp [h c rfl])]

/-- Trimming at the end is trimming the mirrored text at its beginning. -/
theorem trimEnd_eq_reverse (s : List Char) : trimEnd s = (trimStart s.reverse).reverse := rfl

theorem blankFreeStart_trimStart (s : List Char) : BlankFreeStart (trimStart s) := by
  intro c hc
  have hhead := List.head?_dropWhile_not isBlank s
  rw [trimStart] at hc
  rw [Option.mem_def.mp hc] at hhead
  exact hhead

/-- **The trimmed text is the one between its outer blanks.** -/
theorem stripped_iff : Stripped s m ↔ trim s = m := by
  constructor
  · rintro ⟨lead, tail, rfl, hlead, htail, hfirst, hlast⟩
    have htail' : AllBlank tail.reverse := fun c hc => htail c (List.mem_reverse.mp hc)
    -- when there is nothing between the blanks, those behind are taken for leading ones
    have hfront : trimStart (m ++ tail) = m ++ tail ∨ m = [] := by
      cases m with
      | nil => exact .inr rfl
      | cons c m => exact .inl (trimStart_eq_self hfirst)
    rw [trim, List.append_assoc, trimStart_append hlead]
    rcases hfront with hfront | rfl
    · rw [hfront, trimEnd_eq_reverse, List.reverse_append, trimStart_append htail',
        trimStart_eq_self hlast, List.reverse_reverse]
    · have hall := trimStart_append htail []
      rw [List.append_nil] at hall
      rw [List.nil_append, hall]
      rfl
  · rintro rfl
    refine ⟨s.takeWhile isBlank, (trimStart s).rtakeWhile isBlank, ?_, ?_, ?_, ?_, ?_⟩
    · rw [List.append_assoc, trim, trimEnd_eq_rdropWhile, List.rdropWhile_append_rtakeWhile,
        trimStart, List.takeWhile_append_dropWhile]
    · exact fun c hc => List.mem_takeWhile_imp hc
    · exact fun c hc => List.mem_rtakeWhile_imp hc
    · have hfix : trimStart (trim s) = trim s :=
        trimStart_trimEnd (trimStart_eq_self (blankFreeStart_trimStart s))
      rw [← hfix]
      exact blankFreeStart_trimStart _
    · rw [trim, trimEnd_eq_reverse, List.reverse_reverse]
      exact blankFreeStart_trimStart _

/-- What is trimmed off are blanks. -/
theorem trim_isInfix (s : List Char) : trim s <:+: s := by
  obtain ⟨lead, tail, hs, -⟩ := stripped_iff.mpr (rfl : trim s = trim s)
  exact ⟨lead, tail, hs.symm⟩

/-- Trimming takes away no character but blanks. -/
theorem mem_trim_iff {c : Char} (hc : isBlank c = false) : c ∈ trim s ↔ c ∈ s := by
  refine ⟨fun h => (trim_isInfix s).subset h, fun h => ?_⟩
  obtain ⟨lead, tail, hs, hlead, htail, -⟩ := stripped_iff.mpr (rfl : trim s = trim s)
  have hoff : ∀ {t : List Char}, AllBlank t → c ∉ t := fun ht hmem => by
    rw [ht c hmem] at hc
    cases hc
  rw [hs, List.mem_append, List.mem_append] at h
  exact (h.resolve_right (hoff htail)).resolve_left (hoff hlead)

end Cadence.Text
