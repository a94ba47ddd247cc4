/-
Who is seen is stopped.

A registration on the registry is seen by the call that cancels it and by every shutdown
that reads the registry (`Seen`). Who sees it goes on to stop it, unless somebody else has,
and who stops it goes on to take its job away. So when all calls have come back, the
registrations that are stopped are exactly those that were seen, and exactly from those a
job was taken away (`Sighted.stopped_iff`, `Sighted.untimed_iff`). That is what lets the end of
calls be told from the order of their deeds.

`Crowd.Sighted` is the invariant. A number that a call has still before it was seen, and one
that was seen is stopped or before some call; from one that is stopped the job was taken, or
some call is about to take it. None of this depends on what overtakes what.
-/
import Cadence.Proofs.Session.Interleavings

set_option autoImplicit false

namespace Cadence

/-! ## Sightings -/

/-- A registration came onto the registry, and behind that a cancellation found it there or
a shutdown read the registry. -/
def Seen (key : Nat) (deeds : List Deed) : Prop :=
  [.enrolled key, .looked key].Sublist deeds ∨ [.enrolled key, .surveyed].Sublist deeds

instance (key : Nat) (deeds : List Deed) : Decidable (Seen key deeds) :=
  inferInstanceAs (Decidable (_ ∨ _))

/-- Two deeds come one after the other when they did so before, or when the second is the last. -/
theorem pair_sublist_append_iff {d d' : Deed} {deeds : List Deed} {o : Option Deed} :
    [d, d'].Sublist (deeds ++ o.toList) ↔ [d, d'].Sublist deeds ∨ d ∈ deeds ∧ o = some d' := by
  cases o with
  | none => simp
  | some x =>
    -- from behind: the last deed is the second of the two, or it is neither
    have hbehind : ([d, d'] : List Deed).Sublist deeds ↔ [d', d].Sublist deeds.reverse :=
      List.reverse_sublist.symm
    rw [hbehind, ← List.reverse_sublist, Option.toList_some, List.reverse_append,
      List.reverse_singleton, List.singleton_append, List.reverse_cons, List.reverse_singleton,
      List.singleton_append, List.sublist_cons_iff]
    refine or_congr_right ?_
    constructor
    · rintro ⟨rest, heq, hrest⟩
      obtain ⟨rfl, rfl⟩ := List.cons.inj heq
      exact ⟨by simpa using hrest, rfl⟩
    · rintro ⟨hd, hx⟩
      obtain rfl := Option.some.inj hx
      exact ⟨[d], rfl, by simpa using hd⟩

/-- A number is seen when it was, or when it is on the registry and somebody looks just now. -/
theorem seen_append_iff {k : Nat} {deeds : List Deed} {o : Option Deed} :
    Seen k (deeds ++ o.toList) ↔ Seen k deeds ∨
      .enrolled k ∈ deeds ∧ (o = some (.looked k) ∨ o = some .surveyed) := by
  simp only [Seen, pair_sublist_append_iff, and_or_left]
  tauto

/-- What was seen stays seen. -/
theorem Seen.append {k : Nat} {deeds : List Deed} (h : Seen k deeds) (o : Option Deed) :
    Seen k (deeds ++ o.toList) :=
  seen_append_iff.mpr (.inl h)

/-- What was seen was on the registry. -/
theorem Seen.enrolled {k : Nat} {deeds : List Deed} (h : Seen k deeds) :
    .enrolled k ∈ deeds := by
  rcases h with h | h <;> exact h.subset (by simp)

namespace Task

variable {s : Session} {t : Task} {k : Nat}

/-! ## What calls have before them -/

/-- What the call will still have stopped. -/
def pending : Task → List Nat
  | .stop key rest _ => key :: rest
  | .withdraw _ rest _ | .unschedule _ rest _ => rest
  | _ => []

/-- A shutdown that has read the registry and has not come back. -/
def Surveyed : Task → Prop
  | .stop _ _ closing | .withdraw _ _ closing | .unschedule _ _ closing => closing = true
  | .halt => True
  | _ => False

/-- A shutdown that has closed the engine and has not come back. -/
def Closing (t : Task) : Prop := t = .survey ∨ t.Surveyed

/-- The call is about to take away the job of a registration, or to strike it off first. -/
def Clears (k : Nat) (t : Task) : Prop :=
  ∃ rest closing, t = .withdraw k rest closing ∨ t = .unschedule k rest closing

theorem pending_next (closing : Bool) (rest : List Nat) : (next closing rest).pending = rest := by
  cases rest with
  | nil => cases closing <;> rfl
  | cons key rest => rfl

theorem surveyed_next {closing : Bool} {rest : List Nat} :
    (next closing rest).Surveyed ↔ closing = true := by
  cases rest with
  | nil => cases closing <;> simp [next, Surveyed]
  | cons key rest => rfl

/-- A step gives up the head of what is before the call; a look and a survey give it what
they find. -/
theorem pending_step (s : Session) (t : Task) : (t.step s).2.pending = match t with
    | .look key => if key ∈ s.registry then [key] else []
    | .survey => s.registry
    | .stop _ rest _ | .withdraw _ rest _ | .unschedule _ rest _ => rest
    | _ => [] := by
  -- a call looks one registration up, or reads the registry; then it works off what it found
  cases t with
  | stop key rest closing =>
    simp only [step]
    split
    · rfl
    · exact pending_next closing rest
  | look key =>
    simp only [step]
    split <;> rfl
  | ask | enroll | arm | addJob | launch =>
    simp only [step]
    split <;> rfl
  | unschedule | survey => exact pending_next _ _
  | withdraw | close | halt | ended => rfl

/-- A task has in hand what it had, and what it sees at this step. -/
theorem mem_pending_of_step (hk : k ∈ (t.step s).2.pending) : k ∈ t.pending ∨
    k ∈ s.registry ∧ (t.deed s = some (.looked k) ∨ t.deed s = some .surveyed) := by
  rw [pending_step] at hk
  cases t with
  | stop key rest closing => exact .inl (List.mem_cons_of_mem key hk)
  | withdraw | unschedule => exact .inl hk
  | look key =>
    simp only at hk
    split at hk
    case isTrue hkey =>
      obtain rfl := List.mem_singleton.mp hk
      exact .inr ⟨hkey, .inl (if_pos hkey)⟩
    case isFalse => cases hk
  | survey => exact .inr ⟨hk, .inr rfl⟩
  | ask | enroll | arm | addJob | launch | close | halt | ended => cases hk

/-- What was started and is not live is stopped. -/
theorem stopped_of_not_live (hk : k ∈ s.started) (hlive : s.live k = false) :
    s.stageOf k = some .stopped := by
  obtain ⟨r, hr⟩ := Session.exists_of_mem_started hk
  rw [live_of_some hr] at hlive
  rw [Session.stageOf, hr, Option.map_some]
  simpa using hlive

/-- What a call gives up is stopped. -/
theorem pending_or_stopped (hf : t.Fits s) (hk : k ∈ t.pending) :
    k ∈ (t.step s).2.pending ∨ (t.step s).1.stageOf k = some .stopped := by
  rw [pending_step]
  cases t with
  | stop key rest closing =>
    rcases List.mem_cons.mp hk with rfl | hrest
    · right
      rw [(stroke_step hf).stopped_iff]
      -- the first that is pending is stopped now, or was already
      cases hlive : s.live k with
      | true => exact .inl (deed_stop hlive)
      | false => exact .inr (stopped_of_not_live (hf k (by simp)) hlive)
    · exact .inl hrest
  | withdraw | unschedule => exact .inl hk
  | ask | enroll | arm | addJob | launch | look | close | survey | halt | ended => cases hk

/-- A shutdown that has surveyed the registry did so just now, or before. -/
theorem surveyed_of_step (h : (t.step s).2.Surveyed) : t = .survey ∨ t.Surveyed := by
  cases t with
  | stop key rest closing =>
    simp only [step] at h
    split at h
    · exact .inr h
    · exact .inr (surveyed_next.mp h)
  | unschedule => exact .inr (surveyed_next.mp h)
  | withdraw => exact .inr h
  | survey => exact .inl rfl
  | ask | enroll | arm | addJob | launch | look =>
    simp only [step] at h
    split at h <;> cases h
  | close | halt | ended => cases h

/-- A shutdown goes on until the timer is halted. -/
theorem closing_step (h : t.Closing) : (t.step s).2.Closing ∨ t = .halt := by
  -- a shutdown has closed the engine, or has read the registry already
  rcases h with rfl | hsurveyed
  · exact .inl (.inr (surveyed_next.mpr rfl))
  cases t with
  | stop key rest closing =>
    left
    simp only [step]
    split
    · exact .inr hsurveyed
    · exact .inr (surveyed_next.mpr hsurveyed)
  | withdraw => exact .inl (.inr hsurveyed)
  | unschedule => exact .inl (.inr (surveyed_next.mpr hsurveyed))
  | halt => exact .inr rfl
  | ask | enroll | arm | addJob | launch | look | close | survey | ended => cases hsurveyed

/-- A shutdown that is closing has just closed the engine, or had. -/
theorem closing_of_step (h : (t.step s).2.Closing) : t.Closing ∨ t = .close := by
  rcases h with hsurvey | hsurveyed
  · by_contra hnone
    rw [not_or] at hnone
    exact (step_ne_close hnone.2).2 hsurvey
  · exact .inl (surveyed_of_step hsurveyed)

end Task

namespace Crowd

variable {w : Crowd} {k : Nat}

/-- What is seen is stopped, what is stopped was seen, and the jobs of the stopped ones were
taken away, up to what some call is about to do. Only what closed the engine halts the
timer. -/
structure Sighted (w : Crowd) : Prop where
  pending_seen : ∀ t ∈ w.tasks, ∀ k ∈ t.pending, Seen k w.deeds
  stopped_seen : ∀ k, .stopped k ∈ w.deeds → Seen k w.deeds
  pursued : ∀ k, Seen k w.deeds → .stopped k ∈ w.deeds ∨ ∃ t ∈ w.tasks, k ∈ t.pending
  untimed_stopped : ∀ k, .untimed k ∈ w.deeds → .stopped k ∈ w.deeds
  cleared : ∀ k, .stopped k ∈ w.deeds → .untimed k ∈ w.deeds ∨ ∃ t ∈ w.tasks, t.Clears k
  closing : ∀ t ∈ w.tasks, t.Closing → .closed ∈ w.deeds
  halted : .halted ∈ w.deeds → .closed ∈ w.deeds

/-! ## One step -/

section Step

variable {i : Nat} {t : Task}

/-- A turn adds its deed, if it does one. -/
theorem mem_deeds_stepAt {d : Deed} :
    d ∈ (w.stepAt i t).deeds ↔ d ∈ w.deeds ∨ t.deed w.session = some d := by
  rw [stepAt, List.mem_append, Option.mem_toList]

/-- What a task has in hand was seen, by itself if it took it up just now. -/
theorem Sighted.pending_seen_stepAt (hw : w.Sighted) (hsound : w.Sound) (ht : w.tasks[i]? = some t)
    {x : Task} (hx : x ∈ (w.stepAt i t).tasks) (hk : k ∈ x.pending) :
    Seen k (w.stepAt i t).deeds := by
  rcases List.mem_or_eq_of_mem_set hx with hother | rfl
  · exact (hw.pending_seen x hother k hk).append _
  · rcases Task.mem_pending_of_step hk with hbefore | ⟨hregistry, hdeed⟩
    · exact (hw.pending_seen t (List.mem_of_getElem? ht) k hbefore).append _
    · have hstarted := hsound.ledger.registry_subset k hregistry
      exact seen_append_iff.mpr (.inr ⟨(hsound.ledger.started_iff k).mp hstarted, hdeed⟩)

/-- What is stopped was seen: one cannot stop what one does not have in hand. -/
theorem Sighted.stopped_seen_stepAt (hw : w.Sighted) (ht : w.tasks[i]? = some t)
    (hk : .stopped k ∈ (w.stepAt i t).deeds) : Seen k (w.stepAt i t).deeds := by
  rcases mem_deeds_stepAt.mp hk with hbefore | hnow
  · exact (hw.stopped_seen k hbefore).append _
  · -- who stops it had it before it
    obtain ⟨⟨rest, closing, rfl⟩, -⟩ := Task.of_deed hnow
    exact (hw.pending_seen _ (List.mem_of_getElem? ht) k (by simp [Task.pending])).append _

/-- What was seen is stopped, or somebody still has it in hand. -/
theorem Sighted.pursued_stepAt (hw : w.Sighted) (hsound : w.Sound) (ht : w.tasks[i]? = some t)
    (hk : Seen k (w.stepAt i t).deeds) :
    .stopped k ∈ (w.stepAt i t).deeds ∨ ∃ x ∈ (w.stepAt i t).tasks, k ∈ x.pending := by
  have hledger := (hsound.stepAt ht).ledger
  have hstarted := (hledger.started_iff k).mpr hk.enrolled
  by_cases hstage : (w.stepAt i t).session.stageOf k = some .stopped
  · exact .inl ((hledger.stopped_iff k).mp ⟨hstarted, hstage⟩)
  right
  rcases seen_append_iff.mp hk with hbefore | ⟨henrolled, hdeed⟩
  · -- some call had it before it, and has it still
    have hlive : .stopped k ∉ w.deeds := fun hstopped =>
      hstage ((hledger.stopped_iff k).mpr (mem_deeds_stepAt.mpr (.inl hstopped))).2
    refine exists_mem_set ht ((hw.pursued k hbefore).resolve_left hlive) (fun hmem => ?_)
    exact (Task.pending_or_stopped (hsound.fits t (List.mem_of_getElem? ht)) hmem).resolve_right
      hstage
  · refine ⟨_, mem_tasks_stepAt ht, ?_⟩
    rw [Task.pending_step]
    rcases hdeed with hlooked | hsurveyed
    · obtain ⟨rfl, hregistry⟩ := Task.of_deed hlooked
      simp [hregistry]
    · -- what is not stopped is on the registry
      obtain rfl : t = .survey := Task.of_deed hsurveyed
      refine hsound.ledger.mem_registry k ((hsound.ledger.started_iff k).mpr henrolled) ?_
      exact fun hstopped => hstage ((hsound.stroke ht).stopped_iff.mpr (.inr hstopped))

/-- A job is taken away from what is stopped only. -/
theorem Sighted.untimed_stopped_stepAt (hw : w.Sighted) (hsound : w.Sound)
    (ht : w.tasks[i]? = some t) (hk : .untimed k ∈ (w.stepAt i t).deeds) :
    .stopped k ∈ (w.stepAt i t).deeds := by
  rw [mem_deeds_stepAt] at hk ⊢
  rcases hk with hbefore | hnow
  · exact .inl (hw.untimed_stopped k hbefore)
  · obtain ⟨rest, closing, rfl⟩ := Task.of_deed hnow
    obtain ⟨hstage, hstarted⟩ := hsound.fits _ (List.mem_of_getElem? ht)
    exact .inl ((hsound.ledger.stopped_iff k).mp ⟨hstarted k (by simp), hstage⟩)

/-- And from what is stopped it is taken away, or somebody is about to. -/
theorem Sighted.cleared_stepAt (hw : w.Sighted) (ht : w.tasks[i]? = some t)
    (hk : .stopped k ∈ (w.stepAt i t).deeds) :
    .untimed k ∈ (w.stepAt i t).deeds ∨ ∃ x ∈ (w.stepAt i t).tasks, x.Clears k := by
  rw [mem_deeds_stepAt] at hk ⊢
  rcases hk with hbefore | hnow
  · rcases hw.cleared k hbefore with huntimed | hclears
    · exact .inl (.inl huntimed)
    · by_cases hdeed : t.deed w.session = some (.untimed k)
      · exact .inl (.inr hdeed)
      · refine .inr (exists_mem_set ht hclears ?_)
        -- who was to clear it goes on, unless this very step takes the job away
        rintro ⟨rest, closing, rfl | rfl⟩
        · exact ⟨rest, closing, .inr rfl⟩
        · exact absurd rfl hdeed
  · obtain ⟨rest, closing, h⟩ := Task.withdraws_of_stopped hnow
    exact .inr ⟨_, mem_tasks_stepAt ht, rest, closing, .inl h⟩

/-- A shutdown that goes on has closed the engine. -/
theorem Sighted.closing_stepAt (hw : w.Sighted) (ht : w.tasks[i]? = some t) {x : Task}
    (hx : x ∈ (w.stepAt i t).tasks) (hclosing : x.Closing) : .closed ∈ (w.stepAt i t).deeds := by
  rw [mem_deeds_stepAt]
  rcases List.mem_or_eq_of_mem_set hx with hother | rfl
  · exact .inl (hw.closing x hother hclosing)
  · rcases Task.closing_of_step hclosing with hbefore | rfl
    · exact .inl (hw.closing t (List.mem_of_getElem? ht) hbefore)
    · exact .inr rfl

/-- The timer is halted behind the closing only. -/
theorem Sighted.halted_stepAt (hw : w.Sighted) (ht : w.tasks[i]? = some t)
    (h : .halted ∈ (w.stepAt i t).deeds) : .closed ∈ (w.stepAt i t).deeds := by
  rw [mem_deeds_stepAt] at h ⊢
  rcases h with hbefore | hnow
  · exact .inl (hw.halted hbefore)
  · obtain rfl : t = .halt := Task.of_deed hnow
    exact .inl (hw.closing _ (List.mem_of_getElem? ht) (.inr trivial))

/-- A turn keeps a crowd sighted. -/
theorem Sighted.stepAt (hw : w.Sighted) (hsound : w.Sound) (ht : w.tasks[i]? = some t) :
    (w.stepAt i t).Sighted where
  pending_seen _ hx _ hk := hw.pending_seen_stepAt hsound ht hx hk
  stopped_seen _ hk := hw.stopped_seen_stepAt ht hk
  pursued _ hk := hw.pursued_stepAt hsound ht hk
  untimed_stopped _ hk := hw.untimed_stopped_stepAt hsound ht hk
  cleared _ hk := hw.cleared_stepAt ht hk
  closing _ hx hclosing := hw.closing_stepAt ht hx hclosing
  halted h := hw.halted_stepAt ht h

end Step

/-! ## Runs -/

/-- So does the time that passes. -/
theorem Sighted.atMoment (hw : w.Sighted) (now : Moment) : (w.atMoment now).Sighted :=
  ⟨hw.pending_seen, hw.stopped_seen, hw.pursued, hw.untimed_stopped, hw.cleared, hw.closing,
    hw.halted⟩

theorem Sighted.turn (hw : w.Sighted) (hsound : w.Sound) (u : Turn) : (w.turn u).Sighted := by
  rw [Crowd.turn]
  cases ht : w.tasks[u.index]? with
  | none => exact hw
  | some t => exact (hw.atMoment u.now).stepAt (hsound.atMoment u.now) ht

/-- **Who is seen is pursued, at every turn of a run.** -/
theorem Sighted.run (hw : w.Sighted) (hsound : w.Sound) (turns : List Turn) :
    (w.run turns).Sighted := by
  induction turns generalizing w with
  | nil => exact hw
  | cons u turns ih => exact ih (hw.turn hsound u) (hsound.turn u)

/-- Calls that have not begun have seen nothing. -/
theorem sighted_gather (s : Session) (calls : List Call) : (gather s calls).Sighted := by
  have htask : ∀ t ∈ (gather s calls).tasks, t.pending = [] ∧ ¬ t.Closing := by
    intro t ht
    obtain ⟨call, -, rfl⟩ := List.mem_map.mp ht
    cases call <;> exact ⟨rfl, by simp [Call.task, Task.Closing, Task.Surveyed]⟩
  have hnone : ∀ k, ¬ Seen k (gather s calls).deeds := fun k h => by simpa [gather] using h.enrolled
  refine ⟨fun t ht k hk => ?_, by simp [gather], fun k hk => absurd hk (hnone k), by simp [gather],
    by simp [gather], fun t ht hclosing => absurd hclosing (htask t ht).2, by simp [gather]⟩
  rw [(htask t ht).1] at hk
  cases hk

/-! ## When all calls have come back -/

/-- When all have come back nobody is on the way to anything. -/
theorem Finished.not_exists {P : Task → Prop} (h : w.Finished)
    (hP : ∀ outcome, ¬ P (.ended outcome)) : ¬ ∃ t ∈ w.tasks, P t := by
  rintro ⟨t, ht, hPt⟩
  have hover := h t ht
  cases t with
  | ended outcome => exact hP outcome hPt
  | _ => cases hover

/-- **Exactly what was seen is stopped.** -/
theorem Sighted.stopped_iff (hw : w.Sighted) (hfinished : w.Finished) :
    .stopped k ∈ w.deeds ↔ Seen k w.deeds := by
  refine ⟨hw.stopped_seen k, fun hseen => (hw.pursued k hseen).resolve_right ?_⟩
  exact hfinished.not_exists (fun outcome h => by cases h)

/-- **Exactly from what was seen the job was taken away**, if it was there by then. -/
theorem Sighted.untimed_iff (hw : w.Sighted) (hfinished : w.Finished) :
    .untimed k ∈ w.deeds ↔ Seen k w.deeds := by
  rw [← hw.stopped_iff hfinished]
  refine ⟨hw.untimed_stopped k, fun hstopped => (hw.cleared k hstopped).resolve_right ?_⟩
  refine hfinished.not_exists ?_
  rintro outcome ⟨rest, closing, h | h⟩ <;> cases h

end Crowd

end Cadence
