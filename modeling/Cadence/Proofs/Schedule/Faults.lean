/-
Which faults a cron text can have.

A cron text is refused for its form, for a range or for its zone, and each of these faults
says where. The words of its fields are read as pattern texts, so it may also have the one
fault that such a text has besides: a numeral too long to be converted. It has that fault
exactly when it is `Lengthy`, that is when the fields before are fine and the word of the
next one is lengthy, and apart from it there is no other (`ofCron_faults`).

That the range of a field is the only thing left to be wrong with a word that was read is
a matter of its leaves: the checks of a value, a step and a pair of bounds can fail in other
ways on a leaf of another kind, but what is read has integers for leaves.
-/
import Cadence.Proofs.Pattern.Blame
import Cadence.Proofs.Pattern.RoundTrip
import Cadence.Proofs.Schedule.Evaluation
import Cadence.Proofs.Schedule.Format

set_option autoImplicit false

namespace Cadence

/-! ## Checks on integers -/

namespace Field

variable {f : Field} {n a b : Int} {upper : Option Int} {e : Fault}

/-- An integer can only be outside the range. -/
theorem domain_of_checkValue (h : f.checkValue (.int n) = .error e) : ∃ why, e = .domain why := by
  rw [checkValue] at h
  split at h
  · cases h
  · exact ⟨_, (Except.error.inj h).symm⟩

/-- An integer for a step can only be too small or too large. -/
theorem domain_of_checkStep (h : f.checkStep (.int n) upper = .error e) :
    ∃ why, e = .domain why := by
  cases upper with
  | none =>
    simp only [checkStep] at h
    split at h
    · exact ⟨_, (Except.error.inj h).symm⟩
    · cases h
  | some u =>
    simp only [checkStep] at h
    split at h
    · cases h
    · exact ⟨_, (Except.error.inj h).symm⟩

/-- Integers for two ends can only be outside the range or the wrong way round. -/
theorem domain_of_checkBounds (h : f.checkBounds (.int a) (.int b) = .error e) :
    ∃ why, e = .domain why := by
  rw [checkBounds] at h
  simp only [bind_eq_error_iff] at h
  rcases h with h | ⟨low, -, h | ⟨high, -, h⟩⟩
  · exact domain_of_checkValue h
  · exact domain_of_checkValue h
  · split at h
    · exact ⟨_, (Except.error.inj h).symm⟩
    · cases h

end Field

namespace FieldPattern

variable {f : Field} {p : FieldPattern} {e : Fault}

/-- A list is refused for one of its items. -/
theorem exists_of_validateAll {items : List FieldPattern} (h : validateAll f items = .error e) :
    ∃ p ∈ items, validate f p = .error e := by
  induction items with
  | nil => simp [validateAll] at h
  | cons p items ih =>
    rw [validateAll, bind_eq_error_iff] at h
    rcases h with h | ⟨_, -, h⟩
    · exact ⟨p, List.mem_cons_self, h⟩
    · obtain ⟨q, hq, hqe⟩ := ih h
      exact ⟨q, List.mem_cons_of_mem p hq, hqe⟩

/-- **Checked against a field, a pattern over integers fails for a range only.** -/
theorem Integral.domain_of_validate (h : Integral p) (he : validate f p = .error e) :
    ∃ why, e = .domain why := by
  -- whatever is found wrong with integers is that they are out of bounds
  induction h with
  | wildcard =>
    rw [validate] at he
    cases he
  | exact n =>
    rw [validate, map_eq_error_iff] at he
    exact Field.domain_of_checkValue he
  | span a b =>
    rw [validate, map_eq_error_iff] at he
    exact Field.domain_of_checkBounds he
  | every _ =>
    rw [validate, map_eq_error_iff] at he
    exact Field.domain_of_checkStep he
  | based a _ =>
    simp only [validate, bind_eq_error_iff] at he
    rcases he with he | ⟨_, -, he | ⟨_, -, he⟩⟩
    · exact Field.domain_of_checkBounds he
    · exact Field.domain_of_checkStep he
    · cases he
  | stepped a b _ =>
    simp only [validate, bind_eq_error_iff] at he
    rcases he with he | ⟨_, -, he | ⟨_, -, he⟩⟩
    · exact Field.domain_of_checkBounds he
    · exact Field.domain_of_checkStep he
    · cases he
  | anyOf _ ih =>
    rw [validate] at he
    obtain ⟨q, hq, hqe⟩ := exists_of_validateAll he
    exact ih q hq hqe

end FieldPattern

/-! ## A run of digits that is too long -/

/-- A numeral that is too long is made of digits and may stand in an item. -/
theorem Number.TooLong.isItemChar {s : List Char} {n : Nat} {c : Char} (h : Number.TooLong s n)
    (hc : c ∈ s) : FieldPattern.isItemChar c = true := by
  simp only [FieldPattern.isItemChar, h.isDigit c hc, Bool.true_or]

theorem Number.TooLong.blankFree {s : List Char} {n : Nat} (h : Number.TooLong s n) :
    Text.BlankFree s :=
  fun _ hc => (FieldPattern.of_isItemChar (h.isItemChar hc)).1

/-- On its own it makes a lengthy text. -/
theorem FieldPattern.lengthy_of_tooLong {s : List Char} {n : Nat} (h : Number.TooLong s n) :
    FieldPattern.Lengthy s n := by
  have htrim : Text.trim s = s := Text.trim_of_blankFree h.blankFree
  have hcomma : ',' ∉ Text.trim s := by
    rw [htrim]
    exact h.notMem (by decide)
  refine ⟨[], s, [], ?_, by simp, .bare (h.notMem (by decide)) (.number h)⟩
  rw [parts_of_not_mem hcomma, htrim, List.nil_append]

/-! ## Cron texts -/

namespace Schedule

variable {text fallback : String} {n : Nat} {e : Fault}

/-- Behind fields that are fine comes one whose word is lengthy. -/
def Lengthy (text : String) (n : Nat) : Prop := ∃ tokens zone earlier f later,
  LaidOut text.toList tokens zone ∧ tokens.length = 6 ∧ Field.all = earlier ++ f :: later ∧
    (∀ g ∈ earlier, ∃ p, Fits g (tokenOf tokens g) p) ∧
    FieldPattern.Lengthy (tokenOf tokens f).toList n

/-- The first numeral that is too long is the fault of the whole text. -/
theorem ofCron_of_lengthy (h : Lengthy text n) :
    ofCron text fallback = .error (.content (.tooManyDigits n)) := by
  obtain ⟨tokens, zone, earlier, f, later, hlaid, hlen, hall, hfit, hlong⟩ := h
  have hparse := FieldPattern.parse_tooManyDigits_iff.mpr hlong
  exact (Refused.unread hlaid hlen hall hfit hparse).ofCron_eq

/-- **A cron text is refused for its form, for a range or a zone, or because it is
lengthy.** -/
theorem ofCron_faults (he : ofCron text fallback = .error e) :
    (∃ blame why, e = .pattern blame why) ∨ (∃ why, e = .domain why) ∨
      ∃ n, Lengthy text n ∧ e = .content (.tooManyDigits n) := by
  cases refused_of_ofCron he with
  | shape _ => exact .inl ⟨_, _, rfl⟩
  | count _ _ => exact .inl ⟨_, _, rfl⟩
  | unread hlaid hlen hall hfit hparse =>
    rcases FieldPattern.parse_faults hparse with hblame | ⟨n, hlong, rfl⟩
    · exact .inl hblame
    · exact .inr (.inr ⟨n, ⟨_, _, _, _, _, hlaid, hlen, hall, hfit, hlong⟩, rfl⟩)
  | unfit _ _ _ _ hparse hvalidate =>
    exact .inr (.inl ((FieldPattern.integral_of_parse hparse).domain_of_validate hvalidate))
  | zone _ _ _ _ _ => exact .inr (.inl ⟨_, rfl⟩)

/-- And it is only such a numeral that is reported so. -/
theorem ofCron_tooManyDigits_iff :
    ofCron text fallback = .error (.content (.tooManyDigits n)) ↔ Lengthy text n := by
  refine ⟨fun h => ?_, ofCron_of_lengthy⟩
  rcases ofCron_faults h with ⟨blame, why, hwhy⟩ | ⟨why, hwhy⟩ | ⟨m, hm, hmn⟩
  · cases hwhy
  · cases hwhy
  · cases hmn
    exact hm

/-- What is laid out as fields stands in the text. -/
theorem isInfix_of_laidOut {s w : List Char} {tokens : List (List Char)}
    {zone : Option (List Char)} (h : LaidOut s tokens zone) (hw : w ∈ tokens) : w <:+: s := by
  obtain ⟨body, hframed, hsplits⟩ := h
  have hword := hsplits.isInfix hw
  cases hframed with
  | bare _ => exact hword
  | zoned _ _ _ => exact hword.trans (List.prefix_append _ _).isInfix

/-- A lengthy text has a run of digits that is not short. -/
theorem Lengthy.not_shortRuns (h : Lengthy text n) : ¬ Number.ShortRuns text.toList := by
  obtain ⟨tokens, zone, earlier, f, later, hlaid, hlen, -, -, hlong⟩ := h
  have hplace : f.place < tokens.length := by
    rw [hlen]
    cases f <;> decide
  have hmem : tokens.getD f.place [] ∈ tokens := by
    rw [List.getD_eq_getElem?_getD, List.getElem?_eq_getElem hplace, Option.getD_some]
    exact List.getElem_mem hplace
  rw [tokenOf, String.toList_ofList] at hlong
  exact fun hshort => hlong.not_shortRuns (hshort.of_isInfix (isInfix_of_laidOut hlaid hmem))

/-- In the place of the seconds, with every other field left open, it makes a lengthy text. -/
theorem lengthy_of_tooLong {s : List Char} (h : Number.TooLong s n) :
    Lengthy (String.ofList (s ++ " * * * * *".toList)) n := by
  -- the run is the first of six words
  have hwords : Text.words (s ++ " * * * * *".toList) = s :: List.replicate 5 ['*'] := by
    have hopen : " * * * * *".toList = ' ' :: "* * * * *".toList := rfl
    have hrest : Text.words "* * * * *".toList = List.replicate 5 ['*'] := by decide
    rw [hopen, Text.words_append_cons (by decide), Text.words_of_blankFree h.ne_nil h.blankFree,
      hrest, List.singleton_append]
  have hplain : Text.Plain (s ++ " * * * * *".toList) := by
    rw [Text.plain_iff]
    constructor
    · rw [List.mem_append, not_or]
      exact ⟨h.notMem (by decide), by decide⟩
    · rw [List.mem_append, not_or]
      exact ⟨h.notMem (by decide), by decide⟩
  refine ⟨s :: List.replicate 5 ['*'], none, [], .second, _, ?_, rfl, rfl, by simp, ?_⟩
  · rw [String.toList_ofList]
    exact ⟨_, .bare hplain, Text.splits_iff.mpr hwords⟩
  · rw [tokenOf, String.toList_ofList]
    exact FieldPattern.lengthy_of_tooLong h

end Schedule

end Cadence
