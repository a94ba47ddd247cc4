/-
Evaluating a schedule.

Matching works on leaves of any kind, and on most of them it can fail: a comparison or a
remainder of kinds that have none, a division by zero, a pattern that says nothing. On
`Integral` patterns, whose leaves are integers and whose steps are at least one, it answers
for every integer (`Integral.exists_accepts`), however deep the lists are nested and
wherever the items before it stop. Each of the three producers of patterns stays among
these, and a schedule made by the public ways has no others.

What is left is the projection of the moment. A moment with an offset has its fields in a
zone unless universal time or the time there leaves the years, and no other fault arises.
-/
import Cadence.Proofs.Instant.Projection
import Cadence.Proofs.Pattern.Canonical
import Cadence.Proofs.Schedule.Setters

set_option autoImplicit false

namespace Cadence

/-! ## Patterns over integers -/

namespace FieldPattern

variable {f : Field} {p : FieldPattern} {input : Value}

/-- The leaves are integers, and each step is at least one. -/
inductive Integral : FieldPattern → Prop
  | wildcard : Integral .wildcard
  | exact (n : Int) : Integral (.exact (.int n))
  | span (a b : Int) : Integral (.span (.int a) (.int b))
  | every {n : Int} : 1 ≤ n → Integral (.step (.int n) .none .none)
  | based {n : Int} (a : Int) : 1 ≤ n → Integral (.step (.int n) (.int a) .none)
  | stepped {n : Int} (a b : Int) : 1 ≤ n → Integral (.step (.int n) (.int a) (.int b))
  | anyOf {items : List FieldPattern} : (∀ p ∈ items, Integral p) → Integral (.anyOf items)

/-- A list answers when its items do. -/
theorem exists_anyAccepts {items : List FieldPattern} {v : Value}
    (h : ∀ p ∈ items, ∃ b, p.accepts v = .ok b) : ∃ b, anyAccepts items v = .ok b := by
  induction items with
  | nil => exact ⟨false, by rw [anyAccepts]⟩
  | cons p items ih =>
    obtain ⟨hp, hitems⟩ := List.forall_mem_cons.mp h
    obtain ⟨b, hb⟩ := hp
    rw [anyAccepts, hb]
    cases b with
    | true => exact ⟨true, rfl⟩
    | false => exact ih hitems

/-- **A pattern over integers answers for every integer.** -/
theorem Integral.exists_accepts (h : Integral p) (v : Int) : ∃ b, p.accepts (.int v) = .ok b := by
  induction h with
  | wildcard => exact ⟨true, by rw [accepts]⟩
  | exact n => exact ⟨_, accepts_exact n v⟩
  | span a b => exact ⟨_, accepts_span a b v⟩
  | every hn => exact ⟨_, accepts_every (by omega) .none v⟩
  | based a hn => exact ⟨_, accepts_based (by omega) a v⟩
  | stepped a b hn => exact ⟨_, accepts_stepped (by omega) a b v⟩
  | anyOf _ ih =>
    rw [accepts]
    exact exists_anyAccepts ih

/-! ## The producers -/

/-- The numbers of an item are integers. -/
theorem Item.integral {s : List Char} (h : Item s p) : Integral p := by
  cases h with
  | star => exact .wildcard
  | number _ => exact .exact _
  | range _ _ => exact .span _ _
  | every _ hpos => exact .every (by omega)
  | based _ _ hpos => exact .based _ (by omega)
  | stepped _ _ _ hpos => exact .stepped _ _ (by omega)

/-- A text is read as a pattern over integers. -/
theorem integral_of_parse {text : String} (h : parse text = .ok p) : Integral p := by
  rcases parse_eq_ok_iff.mp h with ⟨-, hitem⟩ | ⟨-, items, rfl, hitems⟩
  · exact hitem.integral
  · refine .anyOf (fun q hq => ?_)
    obtain ⟨part, -, hitem⟩ := exists_of_mem_forall₂ hitems hq
    exact hitem.integral

theorem integral_ofValues (ns : List Int) : Integral (ofValues ns) := by
  unfold ofValues
  split
  case h_1 n => exact .exact n
  case h_2 =>
    refine .anyOf (fun q hq => ?_)
    obtain ⟨n, -, rfl⟩ := List.mem_map.mp hq
    exact .exact n

/-- An input is compiled to a pattern over integers. -/
theorem Compiled.integral (h : Compiled f input p) : Integral p := by
  cases h with
  | values _ _ => exact integral_ofValues _
  | every hn _ => exact .every hn
  | span _ _ _ => exact .span _ _
  | stepped _ _ _ hn _ => exact .stepped _ _ hn

/-- So are those of every pattern that reading, compiling or an input produces. -/
theorem Produced.integral {Q : Value → Prop} (h : Produced Q f p) : Integral p := by
  cases h with
  | wildcard => exact .wildcard
  | read h => exact integral_of_parse (Schedule.parse_of_readField h)
  | compiled _ h => exact (compiled_of_compile h).integral

end FieldPattern

/-! ## The projection -/

namespace Moment

variable {m : Moment} {z : Zone}

/-- A moment that is not naive names an instant. -/
theorem exists_utcMicros (h : m.place ≠ .naive) : ∃ u, m.utcMicros? = some u := by
  obtain ⟨o, ho⟩ := exists_offset h
  exact ⟨_, utcMicros_of_offset ho⟩

/-- A moment has no wall in a zone when one of the two leaves the years of the calendar. -/
theorem wallIn_of_outside {u : Int} (hu : m.utcMicros? = some u) (hs : m.standsIn z = false)
    (hyears : ¬(inYears u = true ∧ inYears (z.wallAt u) = true)) :
    m.wallIn z = .error (.overflow .date) := by
  rw [utcMicros?, Option.map_eq_some_iff] at hu
  obtain ⟨o, ho, rfl⟩ := hu
  rw [Zone.wallAt, not_and, Bool.not_eq_true] at hyears
  simp only [wallIn, requireOffset, ho, hs, bind, Except.bind, Bool.false_eq_true, if_false]
  by_cases hutc : inYears (m.wall - o) = true
  · rw [if_pos hutc, hyears hutc]
    rfl
  · rw [if_neg hutc]

/-- **The projection fails exactly where the years end**: away from the zone, when
universal time or the time in the zone leaves them. -/
theorem partsIn_eq_error_iff {u : Int} (hu : m.utcMicros? = some u) {e : Fault} :
    m.partsIn z = .error e ↔ e = .overflow .date ∧ m.standsIn z = false ∧
      ¬(inYears u = true ∧ inYears (z.wallAt u) = true) := by
  cases hs : m.standsIn z with
  | true =>
    rw [utcMicros?, Option.map_eq_some_iff] at hu
    obtain ⟨o, ho, -⟩ := hu
    -- a reading of the zone itself is taken as it stands, without a way over universal time
    have hparts : m.partsIn z = .ok (partsOf m.wall) := by
      simp [partsIn, wallIn, requireOffset, ho, hs, bind, Except.bind, pure, Except.pure,
        Except.map]
    simp [hparts]
  | false =>
    by_cases hyears : inYears u = true ∧ inYears (z.wallAt u) = true
    · have hparts : m.partsIn z = .ok (partsOf (z.wallAt u)) := by
        rw [partsIn, wallIn_of_elsewhere hu hs hyears.1 hyears.2]
        rfl
      simp [hparts, hyears]
    · have hparts : m.partsIn z = .error (.overflow .date) := by
        rw [partsIn, wallIn_of_outside hu hs hyears]
        rfl
      rw [hparts, Except.error.injEq, and_iff_left ⟨rfl, hyears⟩]
      exact eq_comm

end Moment

/-! ## Schedules -/

namespace Schedule

variable {s : Schedule} {m : Moment}

/-- Once the moment has its fields, a schedule over integers answers. -/
theorem exists_acceptsParts (h : ∀ f, (s.fields.get f).Integral) (parts : Sextet Int) :
    ∃ b, s.acceptsParts parts Field.all = .ok b := by
  have hfield : ∀ f, ∃ b, (s.fields.get f).accepts (.int (parts.get f)) = .ok b ∧
      (b = true ↔ (s.fields.get f).accepts (.int (parts.get f)) = .ok true) := by
    intro f
    obtain ⟨b, hb⟩ := (h f).exists_accepts (parts.get f)
    exact ⟨b, hb, by rw [hb, Except.ok.injEq]⟩
  obtain ⟨b, hb, -⟩ := acceptsParts_of_fields hfield Field.all
  exact ⟨b, hb⟩

/-- A schedule over integers fails where the projection does, and with its fault. -/
theorem accepts_eq_error_iff (h : ∀ f, (s.fields.get f).Integral) {e : Fault} :
    s.accepts m = .error e ↔ m.partsIn s.zone = .error e := by
  rw [accepts, bind_eq_error_iff, or_iff_left]
  rintro ⟨parts, -, he⟩
  obtain ⟨b, hb⟩ := exists_acceptsParts h parts
  simp [hb] at he

/-- **Evaluating a schedule fails only where the years end.** The patterns of a schedule
made by the public ways are integral: their leaves are integers and their steps at least
one. On a moment that is not naive such a schedule answers whenever universal time and the
time in its zone stay within the years, and the only fault there is otherwise is the
overflow of the projection. -/
theorem Reachable.accepts_total (hs : s.Reachable) (hm : m.place ≠ .naive) :
    (∀ f, (s.fields.get f).Integral) ∧
    (∃ u, m.utcMicros? = some u ∧
      (inYears u = true → inYears (s.zone.wallAt u) = true → ∃ b, s.accepts m = .ok b) ∧
      ∀ e, s.accepts m = .error e ↔ e = .overflow .date ∧ m.partsIn s.zone = .error e) := by
  have hsourced := Made.sourced hs
  have hintegral : ∀ f, (s.fields.get f).Integral := fun f => (hsourced.produced f).integral
  obtain ⟨u, hu⟩ := Moment.exists_utcMicros hm
  refine ⟨hintegral, u, hu, fun hyears hlocal => ?_, fun e => ?_⟩
  · cases haccepts : s.accepts m with
    | ok b => exact ⟨b, rfl⟩
    | error e =>
      rw [accepts_eq_error_iff hintegral, Moment.partsIn_eq_error_iff hu] at haccepts
      exact absurd ⟨hyears, hlocal⟩ haccepts.2.2
  · rw [accepts_eq_error_iff hintegral]
    exact ⟨fun h => ⟨((Moment.partsIn_eq_error_iff hu).mp h).1, h⟩, fun h => h.2⟩

/-- The last second of universal time is beyond the years in Tokyo; noon of the first day of
2024 is not. -/
theorem Reachable.accepts_total_tokyo :
    let calls : List (Setter × Value) :=
      [(.named "sec", .mapping [(.str "every", .int 7)]), (.named "tz", .str "Asia/Tokyo")]
    let s := every.callAll calls
    let last : Moment := ⟨253402300799 * secondMicros, .fixed 0, false⟩
    let noon : Moment := ⟨1704110400 * secondMicros, .fixed 0, false⟩
    s.Reachable ∧ (∀ f, (s.fields.get f).Integral) ∧
      last.place ≠ .naive ∧ s.accepts last = .error (.overflow .date) ∧
      noon.place ≠ .naive ∧ ∃ b, s.accepts noon = .ok b := by
  intro calls s last noon
  have hs : s.Reachable := Reachable.callAll .every calls
  have hlast : last.place ≠ .naive := by decide
  have hnoon : noon.place ≠ .naive := by decide
  obtain ⟨hintegral, u, hu, -, hfail⟩ := hs.accepts_total hlast
  obtain ⟨-, v, hv, hanswer, -⟩ := hs.accepts_total hnoon
  -- the last second of universal time is nine hours into the year 10000 there
  have hparts : last.partsIn s.zone = .error (.overflow .date) := rfl
  refine ⟨hs, hintegral, hlast, (hfail _).mpr ⟨rfl, hparts⟩, hnoon, ?_⟩
  obtain rfl : 1704110400 * secondMicros = v := Option.some.inj hv
  exact hanswer (by decide +kernel) (by decide +kernel)

end Schedule

end Cadence
