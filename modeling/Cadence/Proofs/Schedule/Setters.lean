/-
Calls of the builder, and what they leave.

A call writes one part of a schedule: the pattern of one field, or the zone. What it
writes, and whether it fails, depends on its setter and its input alone, so a run of
calls can be read as two lists that the schedule has no part in: the patterns compiled
for a field (`compiledFor`) and the zones found (`zoneFor`). The last entry is what the
field, or the zone, is in the end; where there is none it is what it was. Two runs that
leave the same last entries leave the same schedule, which is why calls for different
parts may change places and a call that is written over leaves no trace.

The builder makes each new schedule from all the seven parts anew and has them checked
again. A schedule made by the public ways passes these checks (`Reachable.rebuilt_eq`).
-/
import Cadence.Proofs.Schedule.Making

set_option autoImplicit false

namespace Cadence.Schedule

variable {s t : Schedule} {setter : Setter} {input : Value}

/-! ## What a call writes -/

/-- The parts of a schedule that are written. -/
inductive Part
  | field (f : Field)
  | zone
deriving DecidableEq

/-- The part that a setter writes, if its name is that of a field. -/
def Setter.part : Setter → Option Part
  | .field name => (Field.find name).toOption.map .field
  | .zone => some .zone

/-- The pattern that a call compiles for a field, if it is for that field and succeeds. -/
def compiledFor (f : Field) : Setter × Value → Option FieldPattern
  | (.field name, input) =>
    if (Field.find name).toOption = some f then (FieldPattern.compile f input).toOption else none
  | (.zone, _) => none

/-- The zone that a call finds, if it is for the zone and succeeds. -/
def zoneFor : Setter × Value → Option Zone
  | (.zone, name) => (Zone.find name).toOption
  | (.field _, _) => none

/-- The schedule after a call, which is the one before if the call fails. -/
def afterCall (s : Schedule) (c : Setter × Value) : Schedule := ((s.call c.1 c.2).toOption).getD s

/-- Calls are made one after the other. -/
theorem callAll_eq_foldl (s : Schedule) (calls : List (Setter × Value)) :
    s.callAll calls = calls.foldl afterCall s := by
  induction calls generalizing s with
  | nil => rfl
  | cons c calls ih =>
    rw [callAll, List.foldl_cons, afterCall]
    cases s.call c.1 c.2 with
    | ok t => exact ih t
    | error e => exact ih s

/-- A call writes one field, or none when it fails or is for the zone. -/
theorem fields_afterCall (s : Schedule) (c : Setter × Value) (f : Field) :
    (s.afterCall c).fields.get f = (compiledFor f c).getD (s.fields.get f) := by
  obtain ⟨setter, input⟩ := c
  cases setter with
  | zone =>
    rw [afterCall, call, withZone, compiledFor]
    cases Zone.find input <;> rfl
  | field name =>
    rw [afterCall, call, compiledFor]
    cases Field.find name with
    | error e => rfl
    | ok g =>
      have hname : (Except.ok g : Except Fault Field).toOption = some g := rfl
      change ((s.withField g input).toOption.getD s).fields.get f = _
      rw [hname, withField]
      -- a setter writes its own field and leaves the others
      by_cases hg : g = f
      · subst hg
        rw [if_pos rfl]
        cases FieldPattern.compile g input with
        | error e => rfl
        | ok p => exact (Sextet.get_set ..).trans (if_pos rfl)
      · rw [if_neg (fun h => hg (Option.some.inj h))]
        cases FieldPattern.compile g input with
        | error e => rfl
        | ok p => exact (Sextet.get_set ..).trans (if_neg (Ne.symm hg))

/-- So it is for the zone. -/
theorem zone_afterCall (s : Schedule) (c : Setter × Value) :
    (s.afterCall c).zone = (zoneFor c).getD s.zone := by
  obtain ⟨setter, input⟩ := c
  cases setter with
  | zone =>
    rw [afterCall, call, withZone, zoneFor]
    cases Zone.find input <;> rfl
  | field name =>
    rw [afterCall, call, zoneFor]
    cases Field.find name with
    | error e => rfl
    | ok g =>
      change ((s.withField g input).toOption.getD s).zone = _
      rw [withField]
      cases FieldPattern.compile g input <;> rfl

/-! ## What a run of calls leaves -/

/-- The last of the entries, or what was there before. -/
theorem getLast?_filterMap_cons {α β : Type} (g : α → Option β) (a : α) (l : List α) (b : β) :
    (((a :: l).filterMap g).getLast?).getD b = ((l.filterMap g).getLast?).getD ((g a).getD b) := by
  cases hg : g a with
  | none => rw [List.filterMap_cons_none hg, Option.getD_none]
  | some c =>
    rw [List.filterMap_cons_some hg, List.getLast?_cons, Option.getD_some, Option.getD_some]

/-- A field is what the last call that compiled for it has made of it. -/
theorem fields_callAll (s : Schedule) (calls : List (Setter × Value)) (f : Field) :
    (s.callAll calls).fields.get f =
      ((calls.filterMap (compiledFor f)).getLast?).getD (s.fields.get f) := by
  rw [callAll_eq_foldl]
  induction calls generalizing s with
  | nil => rfl
  | cons c calls ih =>
    rw [List.foldl_cons, ih, fields_afterCall, getLast?_filterMap_cons]

/-- The zone is that of the last call that found one. -/
theorem zone_callAll (s : Schedule) (calls : List (Setter × Value)) :
    (s.callAll calls).zone = ((calls.filterMap zoneFor).getLast?).getD s.zone := by
  rw [callAll_eq_foldl]
  induction calls generalizing s with
  | nil => rfl
  | cons c calls ih =>
    rw [List.foldl_cons, ih, zone_afterCall, getLast?_filterMap_cons]

/-- Runs that leave the same last entries leave the same schedule. -/
theorem callAll_congr {calls more : List (Setter × Value)}
    (hfields : ∀ f, (calls.filterMap (compiledFor f)).getLast? =
      (more.filterMap (compiledFor f)).getLast?)
    (hzone : (calls.filterMap zoneFor).getLast? = (more.filterMap zoneFor).getLast?) :
    s.callAll calls = s.callAll more := by
  have hget : ∀ f, (s.callAll calls).fields.get f = (s.callAll more).fields.get f := by
    intro f
    rw [fields_callAll, fields_callAll, hfields]
  have hz : (s.callAll calls).zone = (s.callAll more).zone := by
    rw [zone_callAll, zone_callAll, hzone]
  -- a schedule is its six fields and its zone
  have hall := Sextet.ext_get hget
  generalize s.callAll calls = t at hall hz ⊢
  generalize s.callAll more = u at hall hz ⊢
  cases t
  cases u
  exact (Schedule.mk.injEq ..).mpr ⟨hall, hz⟩

/-- Whether a call fails, and with which fault, does not depend on the schedule. -/
theorem call_eq_error_iff (s t : Schedule) {e : Fault} :
    s.call setter input = .error e ↔ t.call setter input = .error e := by
  cases setter with
  | zone =>
    rw [call, call, withZone, withZone]
    cases Zone.find input <;> simp [Except.map]
  | field name =>
    rw [call, call, bind_eq_error_iff, bind_eq_error_iff]
    have hfield : ∀ f, s.withField f input = .error e ↔ t.withField f input = .error e := by
      intro f
      rw [withField, withField]
      cases FieldPattern.compile f input <;> simp [Except.map]
    simp only [hfield]

/-- A call has an entry for a field when it is for that field and succeeds. -/
theorem isSome_compiledFor_iff (s : Schedule) {c : Setter × Value} {f : Field} :
    (compiledFor f c).isSome ↔ c.1.part = some (.field f) ∧ ∃ t, s.call c.1 c.2 = .ok t := by
  obtain ⟨setter, input⟩ := c
  cases setter with
  | zone => simp [compiledFor, Setter.part]
  | field name =>
    simp only [compiledFor, Setter.part, call]
    cases Field.find name with
    | error e => simp [Except.toOption]
    | ok g =>
      simp only [Except.toOption, Option.map_some, Option.some.injEq, Part.field.injEq,
        bind_eq_ok_iff, Except.ok.injEq, exists_eq_left', withField, map_eq_ok_iff]
      by_cases hg : g = f
      · subst hg
        rw [if_pos rfl]
        cases FieldPattern.compile g input <;> simp
      · simp [hg]

/-- A call gives a zone when it is for the zone and does not fail. -/
theorem isSome_zoneFor_iff (s : Schedule) {c : Setter × Value} :
    (zoneFor c).isSome ↔ c.1.part = some .zone ∧ ∃ t, s.call c.1 c.2 = .ok t := by
  obtain ⟨setter, input⟩ := c
  cases setter with
  | zone =>
    simp only [zoneFor, Setter.part, call, withZone, map_eq_ok_iff]
    cases Zone.find input <;> simp [Except.toOption]
  | field name => simp [zoneFor, Setter.part]

/-- A call for something else compiles nothing for the field. -/
theorem compiledFor_eq_none {c : Setter × Value} {f : Field} (h : c.1.part ≠ some (.field f)) :
    compiledFor f c = none := by
  rw [← Option.not_isSome_iff_eq_none, isSome_compiledFor_iff every]
  exact fun hsome => h hsome.1

/-- A call for a field finds no zone. -/
theorem zoneFor_eq_none {c : Setter × Value} (h : c.1.part ≠ some .zone) : zoneFor c = none := by
  rw [← Option.not_isSome_iff_eq_none, isSome_zoneFor_iff every]
  exact fun hsome => h hsome.1

/-- The zone that is found is known under the name that was handed over. -/
theorem str_of_zoneFor {c : Setter × Value} {z : Zone} (h : zoneFor c = some z) :
    c.2 = .str z.name := by
  obtain ⟨setter, name⟩ := c
  cases setter with
  | field _ => simp [zoneFor] at h
  | zone =>
    rw [zoneFor] at h
    cases hfind : Zone.find name with
    | error e => simp [hfind, Except.toOption] at h
    | ok y =>
      rw [hfind] at h
      obtain rfl : y = z := Option.some.inj h
      exact (Zone.find_eq_ok_iff.mp hfind).1

/-! ## Changing the order, and writing over -/

variable {c d : Setter × Value}

/-- Neighbours of which at most one has an entry may change places. -/
theorem filterMap_swap {α β : Type} {g : α → Option β} {a b : α} (h : g a = none ∨ g b = none)
    (before behind : List α) :
    (before ++ a :: b :: behind).filterMap g = (before ++ b :: a :: behind).filterMap g := by
  rw [List.filterMap_append, List.filterMap_append]
  rcases h with h | h
  · rw [List.filterMap_cons_none h, List.filterMap_cons, List.filterMap_cons,
      List.filterMap_cons_none h]
  · rw [List.filterMap_cons, List.filterMap_cons_none h, List.filterMap_cons_none h,
      List.filterMap_cons]

/-- Calls for different parts may change places. -/
theorem callAll_swap (hparts : c.1.part ≠ d.1.part) (before behind : List (Setter × Value)) :
    s.callAll (before ++ c :: d :: behind) = s.callAll (before ++ d :: c :: behind) := by
  have hone : ∀ part : Part, c.1.part ≠ some part ∨ d.1.part ≠ some part := by
    intro part
    by_cases hc : c.1.part = some part
    · exact .inr (fun hd => hparts (hc.trans hd.symm))
    · exact .inl hc
  refine callAll_congr (fun f => ?_) ?_
  · have hnone := (hone (.field f)).imp compiledFor_eq_none compiledFor_eq_none
    rw [filterMap_swap hnone]
  · have hnone := (hone .zone).imp zoneFor_eq_none zoneFor_eq_none
    rw [filterMap_swap hnone]

/-- An entry leaves no trace in the last one when another entry follows. -/
theorem getLast?_filterMap_drop {α β : Type} {g : α → Option β} {a b : α}
    (h : g a = none ∨ (g b).isSome) (before between behind : List α) :
    ((before ++ a :: between ++ b :: behind).filterMap g).getLast? =
      ((before ++ between ++ b :: behind).filterMap g).getLast? := by
  rcases h with h | h
  · simp only [List.filterMap_append, List.filterMap_cons_none h]
  · obtain ⟨e, he⟩ := Option.isSome_iff_exists.mp h
    simp only [List.filterMap_append, List.filterMap_cons_some he, List.getLast?_append_cons]

/-- A call leaves no trace when a later one for its part succeeds. -/
theorem callAll_drop (hparts : c.1.part = d.1.part) (hd : s.call d.1 d.2 = .ok t)
    (before between behind : List (Setter × Value)) :
    s.callAll (before ++ c :: between ++ d :: behind) =
      s.callAll (before ++ between ++ d :: behind) := by
  refine callAll_congr (fun f => getLast?_filterMap_drop ?_ ..) (getLast?_filterMap_drop ?_ ..)
  · by_cases hc : c.1.part = some (.field f)
    · exact .inr ((isSome_compiledFor_iff s).mpr ⟨hparts ▸ hc, t, hd⟩)
    · exact .inl (compiledFor_eq_none hc)
  · by_cases hc : c.1.part = some .zone
    · exact .inr ((isSome_zoneFor_iff s).mpr ⟨hparts ▸ hc, t, hd⟩)
    · exact .inl (zoneFor_eq_none hc)

/-! ## Building anew -/

/-- The six patterns under the names of their fields. -/
def entries (s : Schedule) : List (String × Value) :=
  Field.all.map (fun f => (f.name, .pattern (s.fields.get f)))

/-- A schedule put together again from all its parts. -/
def rebuilt (s : Schedule) : Except Fault Schedule := ofPatterns s.entries (.str s.zone.name)

/-- A call whose result is put together anew. -/
def callAnew (s : Schedule) (setter : Setter) (input : Value) : Except Fault Schedule := do
  (← s.call setter input).rebuilt

/-- A field is found by its name. -/
theorem find_name (f : Field) : Field.find (.str f.name) = .ok f := by
  cases f <;> rfl

/-- Patterns that are given by name are put in the place of the name. -/
theorem placePatterns_fields (g : Field → FieldPattern) (fs : List Field)
    (acc : Sextet FieldPattern) :
    placePatterns acc (fs.map (fun f => (f.name, .pattern (g f)))) =
      .ok (fs.foldl (fun acc f => acc.set f (g f)) acc) := by
  induction fs generalizing acc with
  | nil => rfl
  | cons f fs ih =>
    rw [List.map_cons, placePatterns, find_name, List.foldl_cons]
    exact ih (acc.set f (g f))

/-- Taking a schedule apart into names and patterns and building it again changes nothing. -/
theorem Reachable.rebuilt_eq (hs : s.Reachable) : s.rebuilt = .ok s := by
  have hfields : placePatterns (Sextet.same .wildcard) s.entries = .ok s.fields :=
    placePatterns_fields s.fields.get Field.all _
  have hzone : Zone.find (.str s.zone.name) = .ok s.zone :=
    Zone.find_eq_ok_iff.mpr ⟨rfl, (Made.sourced hs).known⟩
  rw [rebuilt, ofPatterns, hfields, hzone]
  rfl

/-- What calls make of a reachable schedule is reachable. -/
theorem Reachable.callAll (hs : s.Reachable) (calls : List (Setter × Value)) :
    (s.callAll calls).Reachable := by
  rw [callAll_eq_foldl]
  induction calls generalizing s with
  | nil => exact hs
  | cons c calls ih =>
    refine ih ?_
    rw [afterCall]
    cases h : s.call c.1 c.2 with
    | error e => exact hs
    | ok t => exact .call hs trivial h

/-- A call on the schedule built anew is a call on the schedule. -/
theorem Reachable.callAnew_eq (hs : s.Reachable) (setter : Setter) (input : Value) :
    s.callAnew setter input = s.call setter input := by
  rw [callAnew]
  cases h : s.call setter input with
  | error e => rfl
  | ok t => exact Reachable.rebuilt_eq (.call hs trivial h)

/-! ## The last write wins -/

/-- **The last write wins.** On schedules made by the public ways, putting a schedule
together anew never fails, and whether a call fails and with which fault depends on the
call alone. After any run of calls, those that fail being skipped, each field has the
pattern compiled by the last call for it that succeeds, and the zone is the one that the
last such call names; what no call writes is as it was. So calls for different parts may
change places anywhere in a run, and a call leaves no trace when a later one for its part
succeeds. -/
theorem Reachable.last_write_wins (hs : s.Reachable) :
    (∀ t : Schedule, t.Reachable → ∀ (setter : Setter) (input : Value),
      t.callAnew setter input = t.call setter input ∧
        ∀ e, t.callAnew setter input = .error e ↔ s.callAnew setter input = .error e) ∧
    (∀ c : Setter × Value,
      (∀ f, (compiledFor f c).isSome ↔
        c.1.part = some (.field f) ∧ ∃ t, s.call c.1 c.2 = .ok t) ∧
      ((zoneFor c).isSome ↔ c.1.part = some .zone ∧ ∃ t, s.call c.1 c.2 = .ok t) ∧
      ∀ z, zoneFor c = some z → c.2 = .str z.name) ∧
    (∀ calls : List (Setter × Value), (s.callAll calls).Reachable ∧
      (∀ f, (s.callAll calls).fields.get f =
        ((calls.filterMap (compiledFor f)).getLast?).getD (s.fields.get f)) ∧
      (s.callAll calls).zone = ((calls.filterMap zoneFor).getLast?).getD s.zone) ∧
    (∀ before behind : List (Setter × Value), ∀ c d, c.1.part ≠ d.1.part →
      s.callAll (before ++ c :: d :: behind) = s.callAll (before ++ d :: c :: behind)) ∧
    (∀ before between behind : List (Setter × Value), ∀ c d t, c.1.part = d.1.part →
      s.call d.1 d.2 = .ok t →
        s.callAll (before ++ c :: between ++ d :: behind) =
          s.callAll (before ++ between ++ d :: behind)) := by
  refine ⟨fun t ht setter input => ⟨ht.callAnew_eq setter input, fun e => ?_⟩,
    fun c => ⟨fun f => isSome_compiledFor_iff s, isSome_zoneFor_iff s, fun z => str_of_zoneFor⟩,
    fun calls => ⟨hs.callAll calls, fields_callAll s calls, zone_callAll s calls⟩,
    fun before behind c d hparts => callAll_swap hparts before behind,
    fun before between behind c d t hparts hd => callAll_drop hparts hd before between behind⟩
  rw [ht.callAnew_eq, hs.callAnew_eq]
  exact call_eq_error_iff t s

/-- Two of six calls fail, one is written over, and the others are left. -/
theorem Reachable.last_write_wins_skipping :
    let calls : List (Setter × Value) :=
      [(.named "sec", .mapping [(.str "every", .int 7)]), (.named "tz", .str "Asia/Kolkata"),
        (.named "sec", .int 99), (.named "week", .str " MON "), (.named "tz", .str "Mars"),
        (.field (.str "second"), .int 3)]
    Reachable every ∧ (every.callAll calls).fields.get .second = .exact (.int 3) ∧
      (every.callAll calls).fields.get .weekday = .exact (.int 1) ∧
      (every.callAll calls).fields.get .minute = .wildcard ∧
      (every.callAll calls).zone.name = "Asia/Kolkata" := by
  intro calls
  have hstart : Reachable every := .every
  obtain ⟨-, -, hruns, -, -⟩ := hstart.last_write_wins
  obtain ⟨-, hfields, hzone⟩ := hruns calls
  refine ⟨hstart, ?_, ?_, ?_, ?_⟩
  · rw [hfields]
    rfl
  · rw [hfields]
    rfl
  · rw [hfields]
    rfl
  · rw [hzone]
    rfl

end Cadence.Schedule
