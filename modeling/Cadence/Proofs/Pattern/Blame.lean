/-
What a pattern text is blamed for.

A text that is not in the grammar is refused, and the fault names a text. In a list it is
the first part that is wrong, without the blanks around it; where there is no comma it is
the whole text, as it was given (`parse_decides`).

The reader has one fault of another kind, a numeral too long to be converted. It has it on a
text that is `Lengthy`, and on no other (`parse_tooManyDigits_iff`). Such a numeral is a run
of digits in the text, so there is none when the runs are short (`ShortRuns`), and the limit
that the grammar sets to its numerals then excludes nothing.
-/
import Cadence.Proofs.Pattern.Items
import Cadence.Proofs.Pattern.Overlong
import Cadence.Proofs.Text.Words

set_option autoImplicit false

namespace Cadence

open Cadence.Text (isDigit splitAt cutAt trim)

/-! ## Runs of digits -/

/-- Each run of digits in a text is short enough to be converted. -/
def Number.ShortRuns (s : List Char) : Prop :=
  ∀ run, run <:+: s → (∀ c ∈ run, isDigit c = true) → run.length ≤ Number.digitLimit

open Cadence.Number (ShortRuns digitLimit)

/-- A part of a text has no longer runs of digits than the text. -/
theorem Number.ShortRuns.of_isInfix {s t : List Char} (h : ShortRuns s) (ht : t <:+: s) :
    ShortRuns t :=
  fun run hrun => h run (hrun.trans ht)

namespace FieldPattern

variable {p : FieldPattern} {text : String} {s : List Char} {e : Fault} {n : Nat}

/-- A numeral too long is a run of digits that is not short. -/
theorem Overlong.not_shortRuns (h : Overlong s n) : ¬ ShortRuns s := by
  intro hshort
  obtain ⟨run, hrun, hlong⟩ := h.exists_run
  have hlen := hshort run hrun hlong.isDigit
  rw [hlong.length] at hlen
  exact Nat.not_lt.mpr hlen hlong.long

/-! ## Faults of a text -/

/-- The parts of a text: what stands between its commas, without blanks around it. -/
def parts (s : List Char) : List (List Char) := ((trim s).splitOn ',').map trim

/-- The text that is named when a part is wrong: the part itself, or, when it is the only
one, the text as it was given. -/
def blamed (text : String) (part : List Char) : String :=
  if ',' ∈ text.toList then String.ofList part else text

/-- Without a comma there is one part. -/
theorem parts_of_not_mem (h : ',' ∉ trim s) : parts s = [trim s] := by
  rw [parts, List.splitOn_eq_singleton h, List.map_singleton, Text.trim_trim]

/-- The parts are the pieces between commas, trimmed. -/
theorem parts_eq_splitAt (s : List Char) : parts s = (splitAt ',' (trim s)).map trim := by
  rw [parts, Text.splitAt_eq_splitOn]

theorem parts_ne_nil (s : List Char) : parts s ≠ [] := by
  simp [parts, List.splitOn_ne_nil]

/-- The parts of a text have no longer runs of digits. -/
theorem shortRuns_of_mem_parts {part : List Char} (h : ShortRuns s) (hpart : part ∈ parts s) :
    ShortRuns part := by
  rw [parts_eq_splitAt] at hpart
  obtain ⟨w, hw, rfl⟩ := List.mem_map.mp hpart
  have hjoin : w <:+: trim s := by
    rw [← Text.joinAt_splitAt ',' (trim s)]
    exact Text.isInfix_joinAt hw
  exact h.of_isInfix ((Text.trim_isInfix w).trans (hjoin.trans (Text.trim_isInfix s)))

/-- A text is read part by part. -/
theorem parse_eq_ok_iff_parts :
    parse text = .ok p ↔ ∃ ps, List.Forall₂ Item (parts text.toList) ps ∧ p = ofItems ps := by
  rw [parse_eq_ok_iff]
  -- without a comma the whole text is the only part
  by_cases hc : ',' ∈ trim text.toList
  · have hlen := Text.two_le_length_splitAt hc
    simp only [hc, not_true, false_and, false_or, true_and, parts_eq_splitAt,
      List.forall₂_map_left_iff]
    constructor
    · rintro ⟨ps, rfl, hps⟩
      exact ⟨ps, hps, (ofItems_of_two_le (hps.length_eq ▸ hlen)).symm⟩
    · rintro ⟨ps, hps, rfl⟩
      exact ⟨ps, ofItems_of_two_le (hps.length_eq ▸ hlen), hps⟩
  · simp only [hc, not_false_eq_true, true_and, false_and, or_false, parts_of_not_mem hc,
      List.forall₂_cons_left_iff, List.forall₂_nil_left_iff]
    constructor
    · exact fun h => ⟨[p], ⟨p, [], h, rfl, rfl⟩, rfl⟩
    · rintro ⟨_, ⟨q, _, hq, rfl, rfl⟩, rfl⟩
      exact hq

/-- An item is no list. -/
theorem Item.not_list (h : Item s p) : ∀ ps, p ≠ .anyOf ps := by
  cases h <;> simp

/-- **A text is refused for its first part that is refused**, with the fault of that part. -/
theorem parse_eq_error_iff : parse text = .error e ↔ ∃ before part behind,
    parts text.toList = before ++ part :: behind ∧ (∀ w ∈ before, ∃ q, Item w q) ∧
      readItem (blamed text part) part = .error e := by
  have hcomma : ',' ∈ trim text.toList ↔ ',' ∈ text.toList := Text.mem_trim_iff (by decide)
  simp only [parse]
  by_cases hc : ',' ∈ trim text.toList
  · have hread : ∀ part, readPart part = readItem (blamed text (trim part)) (trim part) := by
      intro part
      rw [blamed, if_pos (hcomma.mp hc), readPart]
    rw [if_pos (by simpa using hc), map_eq_error_iff, mapM_eq_error_iff, parts_eq_splitAt]
    simp only [hread, readItem_eq_ok_iff]
    constructor
    · rintro ⟨before, part, behind, hsplit, hbefore, he⟩
      refine ⟨before.map trim, trim part, behind.map trim, by simp [hsplit], ?_, he⟩
      exact List.forall_mem_map.mpr hbefore
    · rintro ⟨_, _, _, hparts, hbefore, he⟩
      obtain ⟨before, _, hsplit, rfl, hrest⟩ := List.map_eq_append_iff.mp hparts
      obtain ⟨part, behind, rfl, rfl, rfl⟩ := List.map_eq_cons_iff.mp hrest
      exact ⟨before, part, behind, hsplit, fun c hc => hbefore _ (List.mem_map_of_mem hc), he⟩
  · have hblamed : blamed text (trim text.toList) = text := by
      rw [blamed, if_neg (fun hmem => hc (hcomma.mpr hmem))]
    rw [if_neg (by simpa using hc), parts_of_not_mem hc]
    constructor
    · intro he
      exact ⟨[], _, [], rfl, by simp, by rwa [hblamed]⟩
    · rintro ⟨before, part, behind, hparts, -, he⟩
      -- there is one part, so it is the first
      cases before with
      | nil =>
        obtain ⟨rfl, -⟩ := List.cons.inj hparts
        rwa [hblamed] at he
      | cons w before => simp at hparts

/-- **A text that is refused is blamed for its first part that is no item.** -/
theorem parse_blames (h : ShortRuns text.toList) (he : parse text = .error e) :
    ∃ before part behind why, parts text.toList = before ++ part :: behind ∧
      (∀ w ∈ before, ∃ q, Item w q) ∧ (∀ q, ¬ Item part q) ∧
      e = .pattern (blamed text part) why := by
  obtain ⟨before, part, behind, hparts, hbefore, hpart⟩ := parse_eq_error_iff.mp he
  have hshort : ShortRuns part := shortRuns_of_mem_parts h (by simp [hparts])
  have hnot : ∀ q, ¬ Item part q := by
    intro q hq
    rw [readItem_eq_ok_iff.mpr hq] at hpart
    cases hpart
  rcases readItem_faults hpart with ⟨why, hwhy⟩ | ⟨n, hlong, -⟩
  · exact ⟨before, part, behind, why, hparts, hbefore, hnot, hwhy⟩
  · exact absurd hshort hlong.not_shortRuns

/-! ## Numerals too long -/

/-- Behind nothing but items comes a part in which the reader comes upon a numeral of `n`
digits, more than are converted. -/
def Lengthy (s : List Char) (n : Nat) : Prop := ∃ before part behind,
  parts s = before ++ part :: behind ∧ (∀ w ∈ before, ∃ q, Item w q) ∧ Overlong part n

/-- **A text has the fault of a numeral too long exactly when it is lengthy.** -/
theorem parse_tooManyDigits_iff :
    parse text = .error (.content (.tooManyDigits n)) ↔ Lengthy text.toList n := by
  rw [parse_eq_error_iff]
  simp only [readItem_tooManyDigits_iff, Lengthy]

/-- A text is refused for its form, or because it is lengthy. -/
theorem parse_faults (he : parse text = .error e) :
    (∃ blame why, e = .pattern blame why) ∨
      ∃ n, Lengthy text.toList n ∧ e = .content (.tooManyDigits n) := by
  obtain ⟨before, part, behind, hparts, hbefore, hpart⟩ := parse_eq_error_iff.mp he
  rcases readItem_faults hpart with ⟨why, hwhy⟩ | ⟨n, hlong, hn⟩
  · exact .inl ⟨_, why, hwhy⟩
  · exact .inr ⟨n, ⟨before, part, behind, hparts, hbefore, hlong⟩, hn⟩

/-- A text with a numeral that is too long has a long run of digits. -/
theorem Lengthy.not_shortRuns (h : Lengthy s n) : ¬ ShortRuns s := by
  obtain ⟨before, part, behind, hparts, -, hlong⟩ := h
  exact fun hshort => hlong.not_shortRuns (shortRuns_of_mem_parts hshort (by simp [hparts]))

/-! ## The whole grammar -/

/-- **The reader of patterns decides its grammar and blames the right text.** A text whose
runs of digits are short is read exactly when each of its parts is an item, as that item or
as the list of the items in their order, which has two or more and no list among them.
Otherwise the fault is one of pattern text, and it names the first part that is no item, or
the whole text as it was given where there is no comma. -/
theorem parse_decides {text : String} (h : ShortRuns text.toList) :
    (∀ p, parse text = .ok p ↔
      p.Flat ∧ ∃ ps, List.Forall₂ Item (parts text.toList) ps ∧ p = ofItems ps) ∧
    ((∀ ps, ¬ List.Forall₂ Item (parts text.toList) ps) → ∃ before part behind why,
      parts text.toList = before ++ part :: behind ∧ (∀ w ∈ before, ∃ q, Item w q) ∧
      (∀ q, ¬ Item part q) ∧ parse text = .error (.pattern (blamed text part) why)) := by
  refine ⟨fun p => ?_, fun hnone => ?_⟩
  · rw [parse_eq_ok_iff_parts, iff_and_self]
    rintro ⟨ps, hps, rfl⟩
    have hne : ps ≠ [] := by
      rintro rfl
      exact parts_ne_nil _ (List.forall₂_nil_right_iff.mp hps)
    -- no item is a list, so that a list of items has depth one
    refine flat_ofItems hne (fun q hq => ?_)
    obtain ⟨part, -, hitem⟩ := exists_of_mem_forall₂ hps hq
    exact hitem.not_list
  · cases hparse : parse text with
    | ok p =>
      obtain ⟨ps, hps, -⟩ := parse_eq_ok_iff_parts.mp hparse
      exact absurd hps (hnone ps)
    | error e =>
      obtain ⟨before, part, behind, why, hparts, hbefore, hpart, rfl⟩ := parse_blames h hparse
      exact ⟨before, part, behind, why, hparts, hbefore, hpart, rfl⟩

/-- A list whose third part has a sign, and what is named of it. -/
theorem parse_decides_signed :
    let text := " 5, 10-20/3 ,-1,*/0"
    ShortRuns text.toList ∧
      (∀ p, parse text = .ok p ↔
        p.Flat ∧ ∃ ps, List.Forall₂ Item (parts text.toList) ps ∧ p = ofItems ps) ∧
      ((∀ ps, ¬ List.Forall₂ Item (parts text.toList) ps) → ∃ before part behind why,
        parts text.toList = before ++ part :: behind ∧ (∀ w ∈ before, ∃ q, Item w q) ∧
        (∀ q, ¬ Item part q) ∧ parse text = .error (.pattern (blamed text part) why)) := by
  intro text
  have hshort : ShortRuns text.toList := by
    intro run hrun _
    exact Nat.le_trans hrun.length_le (by decide)
  exact ⟨hshort, parse_decides hshort⟩

end FieldPattern

end Cadence
