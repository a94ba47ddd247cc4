/-
Cutting and joining, stated in the terms of lists.

`pieces`, `splitAt` and `joinAt` are the standard library's `splitOnP`, `splitOn`
and `intercalate`; once that is said, what is known of those is known of these.
`cutAt` has no counterpart there, so its two outcomes are characterised here, each
by an equation on the text: which separator it cuts at, and that there is none.
The words of a text and its trimmed form are settled for the two cases that the
readers of this library meet, a text without blanks and words joined by blanks.
-/
import Cadence.Text.Blank
import Mathlib.Data.List.DropRight

set_option autoImplicit false

namespace Cadence.Text

variable {sep : Char} {s a b w : List Char}

/-! ## Pieces and joins -/

/-- The pieces of a text are the library's. -/
theorem pieces_eq_splitOnP (p : Char → Bool) (s : List Char) : pieces p s = s.splitOnP p := by
  induction s with
  | nil => simp [pieces]
  | cons c s ih =>
    rw [pieces, List.splitOnP_cons_eq_if_modifyHead, ih]
    split
    · rfl
    · obtain ⟨w, ws, h⟩ := List.exists_cons_of_ne_nil (List.splitOnP_ne_nil p s)
      rw [h]
      rfl

/-- Cutting at one character is the library's `splitOn`. -/
theorem splitAt_eq_splitOn (sep : Char) (s : List Char) : splitAt sep s = s.splitOn sep := by
  rw [splitAt, pieces_eq_splitOnP, List.splitOn_eq_splitOnP]

/-- Joining is the library's `intercalate`, with a separator of one character. -/
theorem joinAt_eq_intercalate (sep : Char) (ws : List (List Char)) :
    joinAt sep ws = [sep].intercalate ws := by
  induction ws with
  | nil => rfl
  | cons w ws ih =>
    cases ws with
    | nil => simp [joinAt]
    | cons v ws =>
      rw [joinAt, ih, List.intercalate_cons_cons]
      simp

/-- Pieces without the separator come back from their join. -/
theorem splitAt_joinAt {ws : List (List Char)} (hne : ws ≠ []) (hsep : ∀ w ∈ ws, sep ∉ w) :
    splitAt sep (joinAt sep ws) = ws := by
  rw [splitAt_eq_splitOn, joinAt_eq_intercalate, List.splitOn_intercalate sep hsep hne]

/-- No piece has the separator in it. -/
theorem notMem_of_mem_splitAt (h : w ∈ splitAt sep s) : sep ∉ w := by
  rw [splitAt] at h
  induction s generalizing w with
  | nil =>
    simp only [pieces, List.mem_singleton] at h
    simp [h]
  | cons c s ih =>
    obtain ⟨v, vs, hv⟩ := List.exists_cons_of_ne_nil (pieces_ne_nil (· == sep) s)
    rw [hv] at ih
    -- a separator begins a new piece; another sign joins the first one
    by_cases hc : c = sep
    · simp only [pieces, hc, beq_self_eq_true, if_true, hv, List.mem_cons] at h
      rcases h with rfl | h
      · simp
      · exact ih (by simpa using h)
    · simp only [pieces, beq_eq_false_iff_ne.mpr hc, Bool.false_eq_true, if_false, hv,
        List.mem_cons] at h
      rcases h with rfl | h
      · simp [Ne.symm hc, ih (w := v) (by simp)]
      · exact ih (by simp [h])

/-- Where there is a separator there are two pieces at least. -/
theorem two_le_length_splitAt (h : sep ∈ s) : 2 ≤ (splitAt sep s).length := by
  obtain ⟨a, b, rfl⟩ := List.append_of_mem h
  rw [splitAt_eq_splitOn, List.splitOn_append_cons_self, List.length_append]
  have ha := List.length_pos_iff.mpr (List.splitOn_ne_nil sep a)
  have hb := List.length_pos_iff.mpr (List.splitOn_ne_nil sep b)
  omega

theorem mem_joinAt {ws : List (List Char)} (h : 2 ≤ ws.length) : sep ∈ joinAt sep ws := by
  match ws, h with
  | w :: v :: ws, _ => simp [joinAt]

/-- A join has no characters of its own but the separator. -/
theorem eq_or_mem_of_mem_joinAt {c : Char} {ws : List (List Char)} (h : c ∈ joinAt sep ws) :
    c = sep ∨ ∃ w ∈ ws, c ∈ w := by
  induction ws with
  | nil => simp [joinAt] at h
  | cons w ws ih =>
    cases ws with
    | nil => exact .inr ⟨w, by simp, h⟩
    | cons v ws =>
      rw [joinAt, List.mem_append, List.mem_cons] at h
      rcases h with h | rfl | h
      · exact .inr ⟨w, by simp, h⟩
      · exact .inl rfl
      · rcases ih h with rfl | ⟨x, hx, hc⟩
        · exact .inl rfl
        · exact .inr ⟨x, List.mem_cons_of_mem w hx, hc⟩

/-- Two lists of pieces are joined by one separator more. -/
theorem joinAt_append {ws vs : List (List Char)} (hws : ws ≠ []) (hvs : vs ≠ []) :
    joinAt sep (ws ++ vs) = joinAt sep ws ++ sep :: joinAt sep vs := by
  obtain ⟨v, vs, rfl⟩ := List.exists_cons_of_ne_nil hvs
  induction ws with
  | nil => exact absurd rfl hws
  | cons w ws ih =>
    cases ws with
    | nil => rfl
    | cons x ws =>
      have hrest := ih (List.cons_ne_nil x ws)
      rw [List.cons_append] at hrest
      rw [List.cons_append, List.cons_append, joinAt, hrest, joinAt, List.append_assoc,
        List.cons_append]

/-- A join of joins is the join of all pieces, when each inner one has pieces. -/
theorem joinAt_map_joinAt {wss : List (List (List Char))} (h : ∀ ws ∈ wss, ws ≠ []) :
    joinAt sep (wss.map (joinAt sep)) = joinAt sep wss.flatten := by
  induction wss with
  | nil => rfl
  | cons ws wss ih =>
    obtain ⟨hws, hwss⟩ := List.forall_mem_cons.mp h
    cases wss with
    | nil => simp [joinAt]
    | cons vs wss =>
      have hinner : (vs :: wss).flatten ≠ [] := by simp [hwss vs (by simp)]
      have hrest := ih hwss
      rw [List.map_cons] at hrest
      rw [List.map_cons, List.map_cons, joinAt, hrest, List.flatten_cons (l := ws),
        joinAt_append hws hinner]

/-- A piece stands in the join. -/
theorem isInfix_joinAt {ws : List (List Char)} (h : w ∈ ws) : w <:+: joinAt sep ws := by
  induction ws with
  | nil => simp at h
  | cons v ws ih =>
    cases ws with
    | nil =>
      rw [List.mem_singleton.mp h]
      exact List.infix_refl v
    | cons x ws =>
      rw [joinAt]
      rcases List.mem_cons.mp h with rfl | h
      · exact (List.prefix_append w _).isInfix
      · exact (ih h).trans ((List.suffix_cons sep _).trans (List.suffix_append v _)).isInfix

/-- The join of the pieces is the text. -/
theorem joinAt_splitAt (sep : Char) (s : List Char) : joinAt sep (splitAt sep s) = s := by
  rw [splitAt_eq_splitOn, joinAt_eq_intercalate, List.intercalate_splitOn]

/-- Two pieces are what stands around the one separator. -/
theorem splitAt_eq_pair_iff : splitAt sep s = [a, b] ↔ s = a ++ sep :: b ∧ sep ∉ a ∧ sep ∉ b := by
  constructor
  · intro h
    have hs := joinAt_splitAt sep s
    rw [h] at hs
    refine ⟨hs.symm, notMem_of_mem_splitAt (s := s) ?_, notMem_of_mem_splitAt (s := s) ?_⟩
    · simp [h]
    · simp [h]
  · rintro ⟨rfl, ha, hb⟩
    rw [splitAt_eq_splitOn, List.splitOn_append_cons_self_of_not_mem ha,
      List.splitOn_eq_singleton hb]

/-! ## The first separator -/

section

variable {α : Type} [DecidableEq α] {sep : α} {s a b : List α}

/-- The cut goes through the first separator. -/
theorem cutAt_eq_some_iff : cutAt sep s = (a, some b) ↔ s = a ++ sep :: b ∧ sep ∉ a := by
  induction s generalizing a with
  | nil => simp [cutAt]
  | cons c s ih =>
    by_cases hc : c = sep
    · subst hc
      rw [cutAt, if_pos rfl, Prod.mk.injEq, Option.some.injEq]
      cases a with
      | nil => simp
      | cons d a =>
        simp only [reduceCtorEq, false_and, List.cons_append, List.cons.injEq, List.mem_cons,
          not_or, false_iff, not_and]
        rintro ⟨rfl, -⟩ h
        exact absurd rfl h
    -- another sign joins the part before the cut, which is the same one in the rest
    · rw [cutAt, if_neg hc, Prod.mk.injEq]
      cases a with
      | nil => simp [hc]
      | cons d a =>
        rw [List.cons.injEq, List.cons_append, List.cons.injEq, List.mem_cons, not_or]
        have h := ih (a := a)
        rw [Prod.ext_iff] at h
        constructor
        · rintro ⟨⟨rfl, h₁⟩, h₂⟩
          obtain ⟨rfl, h₃⟩ := h.mp ⟨h₁, h₂⟩
          exact ⟨⟨rfl, rfl⟩, Ne.symm hc, h₃⟩
        · rintro ⟨⟨rfl, rfl⟩, -, h₃⟩
          obtain ⟨h₁, h₂⟩ := h.mpr ⟨rfl, h₃⟩
          exact ⟨⟨rfl, h₁⟩, h₂⟩

/-- There is no cut exactly when there is no separator. -/
theorem cutAt_eq_none_iff : cutAt sep s = (a, none) ↔ a = s ∧ sep ∉ s := by
  induction s generalizing a with
  | nil => simp [cutAt, eq_comm]
  | cons c s ih =>
    by_cases hc : c = sep
    · simp [cutAt, hc]
    · rw [cutAt, if_neg hc, Prod.mk.injEq, List.mem_cons, not_or]
      have h := ih (a := s)
      rw [Prod.ext_iff] at h
      constructor
      · rintro ⟨rfl, h₂⟩
        -- were there a separator, there would be a cut
        have hs : sep ∉ s := by
          intro hs
          obtain ⟨x, y, hxy, hx⟩ := List.eq_append_cons_of_mem hs
          have hcut := cutAt_eq_some_iff.mpr ⟨hxy, hx⟩
          rw [hcut] at h₂
          exact absurd h₂ (by simp)
        exact ⟨by rw [(h.mpr ⟨rfl, hs⟩).1], Ne.symm hc, hs⟩
      · rintro ⟨rfl, -, hs⟩
        obtain ⟨h₁, h₂⟩ := h.mpr ⟨rfl, hs⟩
        exact ⟨by rw [h₁], h₂⟩

end

/-! ## Blanks -/

def BlankFree (s : List Char) : Prop := ∀ c ∈ s, isBlank c = false

theorem trimEnd_eq_rdropWhile (s : List Char) : trimEnd s = s.rdropWhile isBlank := rfl

/-- What is trimmed at the back still has no blank in front. -/
theorem trimStart_trimEnd (h : trimStart s = s) : trimStart (trimEnd s) = trimEnd s := by
  rw [trimStart, List.dropWhile_eq_self_iff] at h ⊢
  intro hpos
  have hpre : trimEnd s <+: s := List.rdropWhile_prefix isBlank s
  rw [hpre.getElem hpos]
  exact h (Nat.lt_of_lt_of_le hpos hpre.length_le)

/-- Nothing is left to trim. -/
theorem trim_trim (s : List Char) : trim (trim s) = trim s := by
  have hstart : trimStart (trimStart s) = trimStart s := List.dropWhile_idempotent isBlank s
  have hfront : trimStart (trim s) = trim s := trimStart_trimEnd hstart
  rw [trim, hfront, trim, trimEnd_eq_rdropWhile, trimEnd_eq_rdropWhile]
  exact List.rdropWhile_idempotent isBlank _

/-- A text without blanks is trimmed. -/
theorem trim_of_blankFree (h : BlankFree s) : trim s = s := by
  have hstart : trimStart s = s := by
    rw [trimStart, List.dropWhile_eq_self_iff]
    intro hpos
    simp [h _ (List.getElem_mem hpos)]
  rw [trim, hstart, trimEnd_eq_rdropWhile, List.rdropWhile_eq_self_iff]
  intro hne
  simp [h _ (List.getLast_mem hne)]

/-- A word of its own is the one word. -/
theorem words_of_blankFree (hne : w ≠ []) (h : BlankFree w) : words w = [w] := by
  rw [words, pieces_eq_splitOnP, List.splitOnP_eq_singleton h]
  simp [hne]

/-- A blank ends a word. -/
theorem words_append_cons {c : Char} (hc : isBlank c = true) (s t : List Char) :
    words (s ++ c :: t) = words s ++ words t := by
  simp only [words, pieces_eq_splitOnP, List.splitOnP_append_cons s t hc, List.filter_append]

/-- Words joined by a blank are the words of the join, whatever blank ends it. -/
theorem words_joinAt {c : Char} (hc : isBlank c = true) {ws : List (List Char)}
    (h : ∀ w ∈ ws, w ≠ [] ∧ BlankFree w) : words (joinAt c ws) = ws := by
  induction ws with
  | nil => rfl
  | cons w ws ih =>
    have hw := h w (by simp)
    cases ws with
    | nil => exact words_of_blankFree hw.1 hw.2
    | cons v ws =>
      rw [joinAt, words_append_cons hc, words_of_blankFree hw.1 hw.2,
        ih (fun x hx => h x (by simp [hx]))]
      rfl

end Cadence.Text
