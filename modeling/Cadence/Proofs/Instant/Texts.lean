/-
What the text of an instant is read as, and what it is refused for.

A text on the command line is read as a moment with a fixed offset, never as a naive one and
never as one in a zone: without an offset it stands in universal time
(`exists_fixed_of_parse`). Every fault of the reader is one of content (`content_of_parse`),
whichever of its stages refuses: the text as a whole, the offset, a week of the year zero,
or a part of the wall reading out of its range.
-/
import Cadence.Instant.Reader
import Cadence.Proofs.Sequencing

set_option autoImplicit false

namespace Cadence

/-! ## Faults of content -/

namespace Fault

variable {α β : Type} {e : Fault}

/-- The fault is one of content. -/
def OfContent (e : Fault) : Prop := ∃ c, e = .content c

theorem OfContent.isContent (h : e.OfContent) : e.isContent = true := by
  obtain ⟨c, rfl⟩ := h
  rfl

/-- A guard with a fault of content leaves the question to what it guards. -/
theorem content_of_guard {p : Prop} [Decidable p] {c : ContentFault} {y : Except Fault α}
    (h : (if p then .error (.content c) else y) = .error e)
    (hy : y = .error e → e.OfContent) : e.OfContent := by
  split at h
  · exact ⟨c, (Except.error.inj h).symm⟩
  · exact hy h

/-- What may be malformed, and if it is not, fails with a fault of content only. -/
def OnlyContent (x : Option (Except Fault α)) : Prop :=
  ∀ e, x = some (.error e) → e.OfContent

/-- What goes on behind a step that has no fault of its own. -/
theorem OnlyContent.bind {x : Option β} {f : β → Option (Except Fault α)}
    (h : ∀ b, OnlyContent (f b)) : OnlyContent (x >>= f) := by
  intro e he
  obtain ⟨b, -, hb⟩ := Option.bind_eq_some_iff.mp he
  exact h b e hb

end Fault

open Cadence.Fault (OfContent OnlyContent content_of_guard)

variable {e : Fault}

/-- Parts that make no wall are wrong in their content. -/
theorem WallParts.content_of_wall {p : WallParts} (h : p.wall = .error e) : e.OfContent := by
  -- a guard for each part but the fraction of a second
  refine content_of_guard h fun h => content_of_guard h fun h => content_of_guard h fun h =>
    content_of_guard h fun h => content_of_guard h fun h => content_of_guard h fun h => ?_
  cases h

/-! ## Stages of the reader -/

namespace IsoText

variable {s : List Char} {text : String} {m : Moment}

/-- So is an offset of a day or more. -/
theorem content_of_placeOf {o : Option Int} (h : placeOf o = .error e) : e.OfContent := by
  cases o with
  | none => cases h
  | some o =>
    rw [placeOf] at h
    split at h
    · cases h
    · exact ⟨_, (Except.error.inj h).symm⟩

/-- A place that is read is a fixed offset, unless there is none. -/
theorem placeOf_eq_ok {o : Option Int} {place : Place} (h : placeOf o = .ok place) :
    place = .naive ∨ ∃ k, place = .fixed k := by
  cases o with
  | none => exact .inl (Except.ok.inj h).symm
  | some o =>
    rw [placeOf] at h
    split at h
    · exact .inr ⟨o, (Except.ok.inj h).symm⟩
    · cases h

/-- Only a week of the year zero makes a date that is well formed fail. -/
theorem onlyContent_readDate (s : List Char) : OnlyContent (readDate s) := by
  have hweek : ∀ (year : Nat) (n : Int), OnlyContent (if year = 0 then
      some (.error (.content .monthRange)) else some (.ok (Calendar.civil n))) := by
    intro year n e he
    split at he
    · exact ⟨_, (Except.error.inj (Option.some.inj he)).symm⟩
    · cases he
  have hday : ∀ (year month : Nat) (s : List Char), OnlyContent (readDigits 2 s >>= fun x =>
      if x.2.isEmpty then some (.ok ⟨year, month, x.1⟩ : Except Fault Calendar.Date)
      else none) := by
    intro year month s
    refine .bind fun x e he => ?_
    split at he
    · cases he
    · cases he
  rw [readDate]
  refine .bind fun (year, s) => ?_
  simp only
  split
  case h_1 =>
    -- a week date, whose day may be left out
    refine .bind fun (week, s) => ?_
    simp only
    split
    case h_1 => exact .bind fun day => .bind fun n => hweek year n
    case h_2 =>
      split
      · exact .bind fun s => .bind fun day => .bind fun n => hweek year n
      · exact .bind fun s => .bind fun day => .bind fun n => hweek year n
  case h_2 =>
    refine .bind fun (month, s) => ?_
    simp only
    split
    · exact .bind fun s => hday year month s
    · exact .bind fun s => hday year month s

/-- The date of a text is read from its front. -/
theorem exists_readDate {date : Except Fault Calendar.Date} {time : Option (Clock × Option Int)}
    (h : readParts s = some (date, time)) : ∃ n, readDate (s.take n) = some date := by
  obtain ⟨n, -, hn⟩ := Option.bind_eq_some_iff.mp h
  obtain ⟨date', hdate, hrest⟩ := Option.bind_eq_some_iff.mp hn
  refine ⟨n, ?_⟩
  have hsame : date' = date := by
    split at hrest
    case h_1 => exact congrArg Prod.fst (Option.some.inj hrest)
    case h_2 =>
      obtain ⟨t, -, ht⟩ := Option.bind_eq_some_iff.mp hrest
      exact congrArg Prod.fst (Option.some.inj ht)
  rw [hdate, hsame]

/-- What is read has a fixed offset or none. -/
theorem place_of_read (h : read text = .ok m) : m.place = .naive ∨ ∃ o, m.place = .fixed o := by
  rw [read] at h
  split at h
  case h_1 => cases h
  case h_2 date time _ =>
    simp only [bind_eq_ok_iff, pure_eq_ok_iff] at h
    obtain ⟨place, hplace, -, -, -, -, rfl⟩ := h
    exact placeOf_eq_ok hplace

/-- Whatever is wrong with a text, it is wrong in its content. -/
theorem content_of_read (h : read text = .error e) : e.OfContent := by
  rw [read] at h
  split at h
  case h_1 => exact ⟨_, (Except.error.inj h).symm⟩
  case h_2 date time hparts =>
    obtain ⟨n, hread⟩ := exists_readDate hparts
    simp only [bind_eq_error_iff] at h
    rcases h with h | ⟨place, -, h | ⟨d, -, h | ⟨wall, -, h⟩⟩⟩
    · exact content_of_placeOf h
    · exact onlyContent_readDate _ e (h ▸ hread)
    · exact WallParts.content_of_wall h
    · cases h

end IsoText

/-! ## The reader -/

namespace Moment

variable {text : String} {m : Moment}

/-- **A moment that is read has a fixed offset.** -/
theorem exists_fixed_of_parse (h : parse text = .ok m) : ∃ o, m.place = .fixed o := by
  rw [parse, bind_eq_ok_iff] at h
  obtain ⟨m', hread, hm⟩ := h
  rcases IsoText.place_of_read hread with hplace | ⟨o, hplace⟩
  · rw [hplace, pure_eq_ok_iff] at hm
    exact ⟨0, by rw [← hm]⟩
  · rw [hplace, pure_eq_ok_iff] at hm
    exact ⟨o, by rw [← hm, hplace]⟩

/-- **A text that is not read is refused for its content.** -/
theorem content_of_parse (h : parse text = .error e) : e.OfContent := by
  rw [parse, bind_eq_error_iff] at h
  rcases h with h | ⟨m, -, h⟩
  · exact IsoText.content_of_read h
  · split at h
    · cases h
    · cases h

end Moment

end Cadence
