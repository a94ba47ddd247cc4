/-
Regular zones.

A zone is regular when its changes are far apart for the size of its offsets, more than six
times the largest of them, and its rule goes on where the last change left. That asks little:
two days for offsets of eight hours, and the closest changes that zones are known to have,
four days, are those of one whose offsets stay below an hour. Near any reading of a regular
zone's wall its offset then steps at most once (`Zone.Regular.exists_steps`): the list of
changes and the rule behind it are walked together (`reached`), change by change, and at most
one of them is within reach.

So the wall of a regular zone is read right: the offset that is read from it is the one
that holds at the instant it leads to, unless the wall never shows the reading
(`Zone.Regular.offset_iff`).
-/
import Cadence.Proofs.Zone.Season
import Cadence.Zone.Table

set_option autoImplicit false

namespace Cadence

/-! ## Changes and a rule behind them -/

/-- The rule, once all changes are over; until then the offset of the last change. -/
def reached (rule before : Int) : List Change → Int → Int
  | [], _ => rule
  | c :: cs, t => if t < c.time then before else reached rule c.offset cs t

/-- The same, the last change being asked first. -/
def held (rule before : Int) (cs : List Change) (t : Int) : Int :=
  match cs.getLast? with
  | none => rule
  | some c => if c.time < t then rule else settled before cs t

/-- The two agree on changes in order, when the rule takes over with the last offset. -/
theorem held_eq_reached {rule before t : Int} {cs : List Change}
    (hsorted : cs.Pairwise (fun c d => c.time < d.time))
    (hlast : ∀ c, cs.getLast? = some c → t = c.time → rule = c.offset) :
    held rule before cs t = reached rule before cs t := by
  induction cs generalizing before with
  | nil => rfl
  | cons c cs ih =>
    rw [List.pairwise_cons] at hsorted
    cases cs with
    | nil =>
      -- at the last change itself `held` still asks the changes, and `reached` the rule
      have hc := hlast c rfl
      simp only [held, List.getLast?_singleton, settled, reached]
      split
      · rw [if_neg (by omega)]
      · split
        · rfl
        · exact (hc (by omega)).symm
    | cons d cs =>
      obtain ⟨e, he⟩ : ∃ e, (d :: cs).getLast? = some e :=
        ⟨_, List.getLast?_eq_some_getLast (List.cons_ne_nil d cs)⟩
      -- the last change `e` is behind `c`, so ahead of `c` neither asks the rule
      have hce := hsorted.1 e (List.mem_of_getLast? he)
      have hrest : held rule c.offset (d :: cs) t = reached rule c.offset (d :: cs) t :=
        ih hsorted.2 (fun f hf => hlast f (by rw [List.getLast?_cons_cons, hf]))
      simp only [held, he] at hrest
      simp only [held, List.getLast?_cons_cons, he]
      rw [reached, ← hrest, settled]
      by_cases ht : t < c.time
      · rw [if_pos ht, if_pos ht, if_neg (by omega)]
      · rw [if_neg ht, if_neg ht]

/-- On the wall each change is moved by the turn between its offset and the one before. -/
theorem onWall_cons (later : Bool) (before : Int) (c : Change) (cs : List Change) :
    onWall later before (c :: cs) =
      ⟨c.time + turn later before c.offset, c.offset⟩ :: onWall later c.offset cs := rfl

/-! ## Regular changes -/

/-- Changes from `before` on that keep to a reach and are more than two of it apart, the
last of which the rule continues. -/
def Rule.Follows (r : Rule) (reach before : Int) : List Change → Prop
  | [] => True
  | [c] => Modest reach before ∧ Modest reach c.offset ∧ r.Continues reach before c
  | c :: d :: cs =>
    (Modest reach before ∧ Modest reach c.offset ∧ c.time + 2 * reach < d.time) ∧
      r.Follows reach c.offset (d :: cs)

instance Rule.decidableFollows (r : Rule) (reach before : Int) :
    (cs : List Change) → Decidable (r.Follows reach before cs)
  | [] => inferInstanceAs (Decidable True)
  | [c] => inferInstanceAs
      (Decidable (Modest reach before ∧ Modest reach c.offset ∧ r.Continues reach before c))
  | c :: d :: cs =>
    have := Rule.decidableFollows r reach c.offset (d :: cs)
    inferInstanceAs (Decidable ((Modest reach before ∧ Modest reach c.offset ∧
      c.time + 2 * reach < d.time) ∧ r.Follows reach c.offset (d :: cs)))

namespace Rule.Follows

variable {r : Rule} {reach before : Int} {c : Change} {cs : List Change}

/-- Both offsets at a change are modest. -/
theorem small (h : r.Follows reach before (c :: cs)) :
    Modest reach before ∧ Modest reach c.offset := by
  cases cs with
  | nil => exact ⟨h.1, h.2.1⟩
  | cons d cs => exact ⟨h.1.1, h.1.2.1⟩

/-- So is the turn between them. -/
theorem modest_turn (h : r.Follows reach before (c :: cs)) (later : Bool) :
    Modest reach (turn later before c.offset) := h.small.1.turn h.small.2

/-- What follows a change follows its offset. -/
theorem tail (h : r.Follows reach before (c :: cs)) : r.Follows reach c.offset cs := by
  cases cs with
  | nil => exact trivial
  | cons d cs => exact h.2

/-- A change is far ahead of all that follow, because the next one is. -/
theorem apart (h : r.Follows reach before (c :: cs)) :
    ∀ d ∈ cs, c.time + 2 * reach < d.time := by
  induction cs generalizing before c with
  | nil => exact fun d hd => absurd hd (by simp)
  | cons e cs ih =>
    intro d hd
    have hnext := h.1.2.2
    have hreach := h.small.1.reach_nonneg
    rcases List.mem_cons.mp hd with rfl | hd
    · exact hnext
    · have hlater := ih h.tail d hd
      omega

/-- The changes are in the order of time, as each is apart from the next. -/
theorem sorted (h : r.Follows reach before cs) : cs.Pairwise (fun c d => c.time < d.time) := by
  induction cs generalizing before with
  | nil => exact List.Pairwise.nil
  | cons c cs ih =>
    refine List.pairwise_cons.mpr ⟨fun d hd => ?_, ih h.tail⟩
    have hapart := h.apart d hd
    have hreach := h.small.1.reach_nonneg
    omega

/-- On the wall a change is an offset away from its time. -/
theorem exists_of_mem_onWall {later : Bool} (h : r.Follows reach before cs) {e : Change}
    (he : e ∈ onWall later before cs) : ∃ d ∈ cs, d.time - reach ≤ e.time := by
  induction cs generalizing before with
  | nil => exact absurd he (by simp [onWall])
  | cons c cs ih =>
    rw [onWall_cons, List.mem_cons] at he
    rcases he with rfl | he
    · have hturn := h.modest_turn later
      unfold Modest at hturn
      refine ⟨c, List.mem_cons_self, ?_⟩
      simp only
      omega
    · obtain ⟨d, hd, htime⟩ := ih h.tail he
      exact ⟨d, List.mem_cons_of_mem c hd, htime⟩

/-- So they are on the wall, since they are further apart than turns can move them. -/
theorem sorted_onWall (h : r.Follows reach before cs) (later : Bool) :
    (onWall later before cs).Pairwise (fun c d => c.time < d.time) := by
  induction cs generalizing before with
  | nil => exact List.Pairwise.nil
  | cons c cs ih =>
    rw [onWall_cons]
    refine List.pairwise_cons.mpr ⟨fun e he => ?_, ih h.tail⟩
    -- the wall moves a change by an offset, and changes are six offsets apart
    obtain ⟨d, hd, htime⟩ := h.tail.exists_of_mem_onWall he
    have hapart := h.apart d hd
    have hturn := h.modest_turn later
    unfold Modest at hturn
    simp only
    omega

/-- The rule continues the last change. -/
theorem last (h : r.Follows reach before cs) (hc : cs.getLast? = some c) :
    ∃ p, Modest reach p ∧ Modest reach c.offset ∧ r.Continues reach p c := by
  induction cs generalizing before with
  | nil => exact absurd hc (by simp)
  | cons d cs ih =>
    cases cs with
    | nil =>
      rw [List.getLast?_singleton, Option.some.injEq] at hc
      subst hc
      exact ⟨before, h⟩
    | cons e cs => exact ih h.tail (by rwa [List.getLast?_cons_cons] at hc)

/-- On the wall, the last change is the one that the rule continues, moved. -/
theorem last_onWall {later : Bool} (h : r.Follows reach before cs) {e : Change}
    (he : (onWall later before cs).getLast? = some e) :
    ∃ p c, Modest reach p ∧ Modest reach c.offset ∧ r.Continues reach p c ∧
      e.time = c.time + turn later p c.offset ∧ e.offset = c.offset := by
  induction cs generalizing before with
  | nil => exact absurd he (by simp [onWall])
  | cons c cs ih =>
    -- the last change on the wall is the last change, moved
    cases cs with
    | nil =>
      rw [onWall_cons, onWall, List.getLast?_singleton, Option.some.injEq] at he
      subst he
      exact ⟨before, c, h.1, h.2.1, h.2.2, rfl, rfl⟩
    | cons d cs =>
      rw [onWall_cons, onWall_cons, List.getLast?_cons_cons, ← onWall_cons] at he
      exact ih h.tail he

/-- Behind a change its offset holds as far as readings near the change ask. -/
theorem calm (hr : r.Regular reach) (h : r.Follows reach before (c :: cs)) :
    (∀ u, c.time ≤ u → u ≤ c.time + 2 * reach →
      reached (r.offsetAt (yearOfSecond u) u) c.offset cs u = c.offset) ∧
    ∀ w later, c.time + turn later before c.offset ≤ w → w ≤ c.time + reach →
      reached (r.offsetOnWall (yearOfSecond w) w later) c.offset (onWall later c.offset cs) w
        = c.offset := by
  cases cs with
  | nil => exact Rule.Continues.offset hr h.1 h.2.1 h.2.2
  | cons d cs =>
    have hapart := h.apart d List.mem_cons_self
    -- the next change is further than two reaches away, also on the wall
    refine ⟨fun u _ hto => ?_, fun w later _ hto => ?_⟩
    · rw [reached, if_pos (by omega)]
    · have hturn := h.tail.modest_turn later
      unfold Modest at hturn
      rw [onWall_cons, reached, if_pos]
      simp only
      omega

/-- **Changes and the rule behind them step at most once near any reading.** -/
theorem exists_steps (hr : r.Regular reach) (h : r.Follows reach before cs) (w : Int) :
    ∃ t a b, Steps reach (fun u => reached (r.offsetAt (yearOfSecond u) u) before cs u)
      (fun w later => reached (r.offsetOnWall (yearOfSecond w) w later) before
        (onWall later before cs) w) w t a b := by
  induction cs generalizing before with
  | nil => exact Rule.exists_steps hr w
  | cons c cs ih =>
    have hreach := h.small.1.reach_nonneg
    by_cases hbehind : c.time + reach < w
    · -- the change is out of reach of the reading
      obtain ⟨t, a, b, hsteps⟩ := ih h.tail
      refine ⟨t, a, b, hsteps.congr (fun u hlow _ => ?_) (fun later => ?_)⟩
      · simp only [reached]
        rw [if_neg (by omega)]
      · have hturn := h.modest_turn later
        unfold Modest at hturn
        simp only [onWall_cons, reached]
        rw [if_neg (by omega)]
    · -- the change is the one near the reading, or all changes are still to come
      obtain ⟨hnear, hwall⟩ := calm hr h
      refine ⟨c.time, before, c.offset, h.small.1, h.small.2, fun u _ hhigh => ?_,
        fun later => ?_⟩
      · simp only [reached]
        by_cases hu : u < c.time
        · rw [if_pos hu, if_pos hu]
        · rw [if_neg hu, if_neg hu]
          exact hnear u (by omega) (by omega)
      · simp only [onWall_cons, reached]
        by_cases hw : w < c.time + turn later before c.offset
        · rw [if_pos hw, if_pos hw]
        · rw [if_neg hw, if_neg hw]
          exact hwall w later (by omega) (by omega)

end Rule.Follows

/-! ## Regular zones -/

/-- A zone whose rule is regular and follows its changes, all within one reach. -/
def Zone.RegularWithin (reach : Int) (z : Zone) : Prop :=
  z.rule.Regular reach ∧ z.rule.Follows reach z.first z.changes

instance (reach : Int) (z : Zone) : Decidable (z.RegularWithin reach) := by
  unfold Zone.RegularWithin
  infer_instance

/-- A zone that is regular within some reach, for instance three times its largest offset. -/
def Zone.Regular (z : Zone) : Prop := ∃ reach, z.RegularWithin reach

/-- The zones at hand are regular, within two days. -/
theorem Zone.regular_of_find? {name : String} {z : Zone} (h : Zone.find? name = some z) :
    z.Regular := by
  have htable : Zone.table.all (fun z => decide (z.RegularWithin (2 * daySeconds))) = true := by
    decide +kernel
  exact ⟨_, of_decide_eq_true (List.all_eq_true.mp htable z (List.mem_of_find?_eq_some h))⟩

namespace Zone

variable {z : Zone}

/-- What the wall of a zone shows at some second of universal time. -/
def Shows (z : Zone) (w : Int) : Prop := ∃ u, u + z.offsetAt u = w

namespace RegularWithin

variable {reach : Int}

/-- The offset is found by walking the changes from the first on. -/
theorem offsetAt_eq (h : z.RegularWithin reach) (u : Int) :
    z.offsetAt u = reached (z.rule.offsetAt (yearOfSecond u) u) z.first z.changes u := by
  refine held_eq_reached h.2.sorted (fun c hc hu => ?_)
  obtain ⟨p, hp, hsmall, hcontinues⟩ := h.2.last hc
  have hreach := hp.reach_nonneg
  exact (hcontinues.offset h.1 hp hsmall).1 u (by omega) (by omega)

/-- So is the offset on the wall, with the changes moved onto it. -/
theorem offsetOnWall_eq (h : z.RegularWithin reach) (w : Int) (later : Bool) :
    z.offsetOnWall w later = reached (z.rule.offsetOnWall (yearOfSecond w) w later) z.first
      (onWall later z.first z.changes) w := by
  refine held_eq_reached (h.2.sorted_onWall later) (fun e he hw => ?_)
  obtain ⟨p, c, hp, hsmall, hcontinues, htime, hoffset⟩ := h.2.last_onWall he
  have hturn : Modest reach (turn later p c.offset) := hp.turn hsmall
  unfold Modest at hturn
  rw [hoffset]
  exact (hcontinues.offset h.1 hp hsmall).2 w later (by omega) (by omega)

/-- **The offset of a regular zone steps at most once near any reading.** -/
theorem exists_steps (h : z.RegularWithin reach) (w : Int) :
    ∃ t a b, Steps reach z.offsetAt z.offsetOnWall w t a b := by
  obtain ⟨t, a, b, hsteps⟩ := h.2.exists_steps h.1 w
  exact ⟨t, a, b,
    hsteps.congr (fun u _ _ => h.offsetAt_eq u) (fun later => h.offsetOnWall_eq w later)⟩

/-- Every offset of a regular zone is modest. -/
theorem modest_offsetAt (h : z.RegularWithin reach) (u : Int) : Modest reach (z.offsetAt u) := by
  obtain ⟨t, a, b, hsteps⟩ := h.exists_steps u
  exact hsteps.modest

/-- So is every offset that a wall is read with. -/
theorem modest_offsetOnWall (h : z.RegularWithin reach) (w : Int) (later : Bool) :
    Modest reach (z.offsetOnWall w later) := by
  obtain ⟨t, a, b, hsteps⟩ := h.exists_steps w
  exact hsteps.modest_reading later

end RegularWithin

namespace Regular

/-- The two offsets of a zone that meet in a reading are less than a week apart. -/
theorem natAbs_sub_lt (h : z.Regular) (u w : Int) (later : Bool) :
    (z.offsetOnWall w later - z.offsetAt u).natAbs < 7 * daySeconds := by
  obtain ⟨reach, h⟩ := h
  have hreach := h.1.reach_le
  have hread := h.modest_offsetOnWall w later
  have hholds := h.modest_offsetAt u
  have hday : daySeconds = 86400 := rfl
  unfold Modest at hread hholds
  omega

/-- **The wall of a regular zone is read right, except for what it never shows.** -/
theorem offset_iff (h : z.Regular) (w : Int) (later : Bool) :
    z.offsetAt (w - z.offsetOnWall w later) = z.offsetOnWall w later ↔ z.Shows w := by
  obtain ⟨reach, h⟩ := h
  obtain ⟨t, a, b, hsteps⟩ := h.exists_steps w
  exact hsteps.offset_iff h.modest_offsetAt later

/-- The first reading of a time leads to the first instant that shows it. -/
theorem first_le (h : z.Regular) {v w : Int} (hv : v + z.offsetAt v = w) :
    w - z.offsetOnWall w false ≤ v := by
  obtain ⟨reach, h⟩ := h
  obtain ⟨t, a, b, hsteps⟩ := h.exists_steps w
  exact hsteps.first_le (h.modest_offsetAt v) hv

/-- **From a reading that is shown on, first readings keep the order of time.** -/
theorem first_mono (h : z.Regular) {w w' : Int} (hw : z.Shows w) (hle : w ≤ w') :
    w - z.offsetOnWall w false ≤ w' - z.offsetOnWall w' false := by
  have hshown := (h.offset_iff w false).mpr hw
  obtain ⟨reach, h⟩ := h
  obtain ⟨t, a, b, hsteps⟩ := h.exists_steps w
  obtain ⟨t', a', b', hsteps'⟩ := h.exists_steps w'
  exact hsteps.first_mono hsteps' hshown hle

/-- **At most one reading that is never shown leads to an instant.** -/
theorem eq_of_skipped (h : z.Regular) {w w' : Int} {later later' : Bool} (hw : ¬z.Shows w)
    (hw' : ¬z.Shows w') (hmeet : w - z.offsetOnWall w later = w' - z.offsetOnWall w' later') :
    w = w' := by
  have hskipped := mt (h.offset_iff w later).mp hw
  have hskipped' := mt (h.offset_iff w' later').mp hw'
  obtain ⟨reach, h⟩ := h
  obtain ⟨t, a, b, hsteps⟩ := h.exists_steps w
  obtain ⟨t', a', b', hsteps'⟩ := h.exists_steps w'
  exact hsteps.eq_of_skipped hsteps' hskipped hskipped' hmeet

end Regular

end Zone

end Cadence
