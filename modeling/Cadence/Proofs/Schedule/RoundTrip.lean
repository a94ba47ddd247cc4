/-
Schedules that are built, and their texts.

A schedule is started from the builder's first value, from a cron text or from a
configuration, and changed by any number of setter calls; `Built` says so, one
constructor a way. Whatever was built is `Faithful`: each of its six patterns is
canonical for its field, as each producer of patterns gives canonical ones, and its zone
is the one that is known under its name. That is all the text needs. Six words without
brackets, a blank, and a name in brackets that holds neither blanks nor brackets are taken
apart where they were put together (`CronShape.read_append`), so a built schedule is read
back from its own text.
-/
import Cadence.Config.Model
import Cadence.Proofs.Pattern.RoundTrip
import Cadence.Proofs.Schedule.Making

set_option autoImplicit false

namespace Cadence

open Cadence.Text (BlankFree isBlank joinAt joinWith trim words)
open Cadence.FieldPattern (Canonical)

/-! ## What is built -/

/-- A schedule made by the public ways: a start, then setter calls. Integers that are
handed over have no more digits than are converted. -/
inductive Schedule.Built : Schedule → Prop
  | every : Built .every
  | cron {text fallback : String} {s : Schedule} :
    Schedule.ofCron text fallback = .ok s → Built s
  | config {c : Config.ScheduleConfig} {s : Schedule} :
    (∀ f input, c.inputs.get f = some input → input.value.Moderate) →
      c.toSchedule = .ok s → Built s
  | call {s t : Schedule} {setter : Schedule.Setter} {input : Value} :
    Built s → input.Moderate → s.call setter input = .ok t → Built t

/-- A pattern that is read for a field is canonical for it. -/
theorem Schedule.canonical_of_readField {f : Field} {token : List Char} {p : FieldPattern}
    (h : readField f token = .ok p) : Canonical f p := by
  simp only [readField, FieldPattern.checked, bind_eq_ok_iff, pure_eq_ok_iff] at h
  obtain ⟨q, hq, _, hv, rfl⟩ := h
  exact FieldPattern.canonical_of_parse hq hv

/-- A pattern made from moderate numbers is canonical. -/
theorem FieldPattern.Produced.canonical {f : Field} {p : FieldPattern}
    (h : Produced Value.Moderate f p) : Canonical f p := by
  cases h with
  | wildcard => exact .item .wildcard
  | read h => exact Schedule.canonical_of_readField h
  | compiled hm h => exact canonical_of_compile hm h

namespace Schedule

variable {s : Schedule}

/-- What holds of every built schedule. -/
structure Faithful (s : Schedule) : Prop where
  canonical : ∀ f : Field, Canonical f (s.fields.get f)
  known : Zone.find? s.zone.name = some s.zone

theorem Built.made (h : Built s) : Made Value.Moderate s := by
  induction h with
  | every => exact .every
  | cron h => exact .cron h
  | config hm h => exact .config hm h
  | call _ hm h ih => exact .call ih hm h

/-- **Every way of building is faithful.** -/
theorem Built.faithful (h : Built s) : Faithful s where
  canonical f := (h.made.sourced.produced f).canonical
  known := h.made.sourced.known

end Schedule

/-! ## The text of a schedule -/

/-- The names of zones hold neither blanks nor brackets. -/
theorem Zone.name_plain {z : Zone} (h : Zone.find? z.name = some z) :
    ∀ c ∈ z.name.toList, isBlank c = false ∧ c ≠ '[' ∧ c ≠ ']' := by
  have htable : Zone.table.all (fun z => z.name.toList.all (fun c =>
      !isBlank c && c != '[' && c != ']')) = true := by decide +kernel
  have hplain := List.all_eq_true.mp htable z (List.mem_of_find?_eq_some h)
  intro c hc
  simpa [and_assoc] using List.all_eq_true.mp hplain c hc

/-- A text without brackets, followed by a name in brackets, is taken apart there. -/
theorem CronShape.read_append {body name : List Char} (hbody : ∀ c ∈ body, c ≠ '[' ∧ c ≠ ']')
    (hname : ∀ c ∈ name, c ≠ '[' ∧ c ≠ ']') :
    read (body ++ '[' :: (name ++ [']'])) = some ⟨body, some name⟩ := by
  have hopen : '[' ∉ body := fun h => (hbody _ h).1 rfl
  have hclose : body.contains ']' = false := by
    simpa using fun h => (hbody _ h).2 rfl
  have hopen' : name.contains '[' = false := by
    simpa using fun h => (hname _ h).1 rfl
  have hclose' : ']' ∉ name := fun h => (hname _ h).2 rfl
  rw [read, Text.cutAt_eq_some_iff.mpr ⟨rfl, hopen⟩]
  simp only [hclose, Bool.false_eq_true, if_false, Text.cutAt_eq_some_iff.mpr ⟨rfl, hclose'⟩,
    hopen', List.all_nil, Bool.not_true, Bool.or_self]

namespace Schedule

variable {s p q : Schedule}

def fieldWords (s : Schedule) : List (List Char) :=
  Field.all.map (fun f => (s.fields.get f).written)

/-- The text of a schedule is its words with blanks between them and its zone in brackets. -/
theorem Faithful.cron_eq (hs : Faithful s) : ∃ text, s.cron = .ok text ∧
    text.toList = (joinAt ' ' s.fieldWords ++ [' ']) ++ '[' :: (s.zone.name.toList ++ [']']) := by
  -- every field of such a schedule has a text
  have htexts : s.fieldTexts = .ok (s.fieldWords.map String.ofList) := by
    rw [fieldTexts, mapM_eq_ok_iff, fieldWords, Sextet.toList, List.map_map,
      List.forall₂_map_left_iff, List.forall₂_map_right_iff, List.forall₂_same]
    exact fun f _ => (hs.canonical f).render
  have hjoin : (joinWith " " (s.fieldWords.map String.ofList)).toList
      = joinAt ' ' s.fieldWords := by
    rw [joinWith, String.toList_intercalate, List.map_map, Text.joinAt_eq_intercalate]
    congr 1
    exact (List.map_congr_left (fun w _ => String.toList_ofList)).trans (List.map_id _)
  refine ⟨joinWith " " (s.fieldWords.map String.ofList) ++ " [" ++ s.zone.name ++ "]", ?_, ?_⟩
  · rw [cron, htexts]
    rfl
  · simp only [String.toList_append, hjoin, List.append_assoc]
    rfl

/-- The words are cut apart where they were joined. -/
theorem Faithful.words_join (hs : Faithful s) :
    words (joinAt ' ' s.fieldWords ++ [' ']) = s.fieldWords := by
  have hblank : isBlank ' ' = true := by decide
  have hword : ∀ w ∈ s.fieldWords, w ≠ [] ∧ BlankFree w := by
    intro w hw
    obtain ⟨f, -, rfl⟩ := List.mem_map.mp hw
    exact ⟨(hs.canonical f).written_word.1, (hs.canonical f).blankFree_written⟩
  rw [Text.words_append_cons hblank, Text.words_joinAt hblank hword]
  exact List.append_nil _

/-- Each word is read as the pattern it was written for. -/
theorem Faithful.readFields_words (hs : Faithful s) (text : String) :
    readFields text s.fieldWords = .ok s.fields := by
  refine readFields_eq_ok_iff.mpr ⟨rfl, fun f => ?_⟩
  have hplace : s.fieldWords.getD f.place [] = (s.fields.get f).written := by
    cases f <;> rfl
  rw [hplace, readField, (hs.canonical f).parse_written]
  simp only [FieldPattern.checked, bind_eq_ok_iff, pure_eq_ok_iff]
  exact ⟨_, rfl, (), (hs.canonical f).validate, rfl⟩

/-- **A faithful schedule is read back from its own text**, whatever zone a text
without one would get. -/
theorem Faithful.ofCron_cron (hs : Faithful s) :
    ∃ text, s.cron = .ok text ∧ ∀ fallback, ofCron text fallback = .ok s := by
  obtain ⟨text, hcron, htext⟩ := hs.cron_eq
  have hname := Zone.name_plain hs.known
  -- no field has a bracket, so that the first one opens the zone
  have hbody : ∀ c ∈ joinAt ' ' s.fieldWords ++ [' '], c ≠ '[' ∧ c ≠ ']' := by
    intro c hc
    rw [List.mem_append, List.mem_singleton] at hc
    have hblank : ' ' ≠ '[' ∧ ' ' ≠ ']' := by decide
    rcases hc with hc | rfl
    · rcases Text.eq_or_mem_of_mem_joinAt hc with rfl | ⟨w, hw, hc⟩
      · exact hblank
      · obtain ⟨f, -, rfl⟩ := List.mem_map.mp hw
        exact ((hs.canonical f).written_word.2 c hc).2
    · exact hblank
  have hshape : CronShape.read text.toList
      = some ⟨joinAt ' ' s.fieldWords ++ [' '], some s.zone.name.toList⟩ := by
    rw [htext]
    exact CronShape.read_append hbody (fun c hc => (hname c hc).2)
  have hzone : Zone.find (.str (String.ofList (trim s.zone.name.toList))) = .ok s.zone := by
    rw [Text.trim_of_blankFree (fun c hc => (hname c hc).1), String.ofList_toList, Zone.find,
      hs.known]
  refine ⟨text, hcron, fun fallback => ?_⟩
  rw [ofCron, hshape]
  simp only [bind_eq_ok_iff, pure_eq_ok_iff, hs.words_join, Option.getD_some]
  exact ⟨_, hs.readFields_words text, _, hzone, rfl⟩

/-- Faithful schedules are equal when their parts are. -/
theorem Faithful.eqv_iff (hp : Faithful p) (hq : Faithful q) : p.eqv q = true ↔ p = q := by
  rw [eqv, Bool.and_eq_true, List.all_eq_true, beq_iff_eq]
  constructor
  · rintro ⟨hfields, hzone⟩
    have hget : ∀ f : Field, p.fields.get f = q.fields.get f := fun f =>
      ((hp.canonical f).eqv_iff (hq.canonical f)).mp (hfields f (by cases f <;> decide))
    have hz : some p.zone = some q.zone := by rw [← hp.known, ← hq.known, hzone]
    obtain ⟨fields, zone⟩ := p
    obtain ⟨fields', zone'⟩ := q
    rw [Schedule.mk.injEq]
    exact ⟨Sextet.ext_get hget, Option.some.inj hz⟩
  · rintro rfl
    exact ⟨fun f _ => ((hp.canonical f).eqv_iff (hq.canonical f)).mpr rfl, rfl⟩

/-- **The text of a built schedule stands for it.** It is read back as the same
schedule, and two built schedules are equal exactly when their texts are. -/
theorem Built.cron_roundTrip (hp : Built p) :
    (∃ text, p.cron = .ok text ∧ ∀ fallback, ofCron text fallback = .ok p) ∧
      ∀ q : Schedule, Built q → (p.eqv q = true ↔ p.cron = q.cron) := by
  obtain ⟨text, hcron, hread⟩ := hp.faithful.ofCron_cron
  refine ⟨⟨text, hcron, hread⟩, fun q hq => ?_⟩
  rw [hp.faithful.eqv_iff hq.faithful]
  constructor
  · rintro rfl
    rfl
  · intro htexts
    obtain ⟨text', hcron', hread'⟩ := hq.faithful.ofCron_cron
    rw [hcron, hcron', Except.ok.injEq] at htexts
    -- equal texts are read back as one schedule
    have hsame : Except.ok p = (Except.ok q : Except Fault Schedule) := by
      rw [← hread defaultZone, ← hread' defaultZone, htexts]
    exact Except.ok.inj hsame

/-- A step that is set on a schedule read from a text. -/
theorem Built.cron_roundTrip_setter :
    ∃ s p, ofCron "0 */5 1-9/4 * 1,6 06 [Asia/Kolkata]" defaultZone = .ok s ∧
      s.call (.named "sec") (.mapping [(.str "every", .int 7)]) = .ok p ∧
      (∃ text, p.cron = .ok text ∧ ∀ fallback, ofCron text fallback = .ok p) ∧
      ∀ q : Schedule, Built q → (p.eqv q = true ↔ p.cron = q.cron) := by
  have hmoderate : (Value.mapping [(.str "every", .int 7)]).Moderate := by
    intro n hn
    cases hn with
    | entry hmem hocc =>
      obtain ⟨rfl, rfl⟩ := Prod.mk.injEq .. ▸ List.mem_singleton.mp hmem
      cases hocc with
      | here => decide +kernel
  have hsome : ((ofCron "0 */5 1-9/4 * 1,6 06 [Asia/Kolkata]" defaultZone >>= fun s =>
      s.call (.named "sec") (.mapping [(.str "every", .int 7)])).toOption).isSome = true := by
    decide +kernel
  obtain ⟨p, h⟩ := exists_eq_ok_of_isSome hsome
  obtain ⟨s, hs, hp⟩ := bind_eq_ok_iff.mp h
  exact ⟨s, p, hs, hp, Built.cron_roundTrip (.call (.cron hs) hmoderate hp)⟩

end Schedule

end Cadence
