/-
Starts that nothing overtakes.

Two deeds come too early for a start: that its registration is stopped before the job is
added, and that the engine is closed before the registration is on the registry or the
timer is started. Where neither happens (`Unovertaken`) cancellations and shutdowns may
run into each other as they like. A shutdown that has read the registry has before it all
that is not stopped (`Task.Covers`), since nothing comes onto the registry any more; when
it halts the timer nothing is left that would need it; and the job of what is stopped is
about to be taken away by whoever stopped it. `Crowd.Covered` is the invariant, one lemma
for each of its parts says that a step keeps it, and `Covered.orderly` draws the
conclusion.
-/
import Cadence.Proofs.Session.Settling
import Mathlib.Data.List.Induction

set_option autoImplicit false

namespace Cadence

open Cadence.Config (EngineConfig)

/-! ## What overtakes a start -/

/-- Whether a deed, when it comes before another, comes too early for it: a registration is
stopped before its job is added, the engine is closed before a registration is put on the
registry or the timer is started. -/
def Deed.overtakes : Deed → Deed → Bool
  | .stopped key, .timed key' => key == key'
  | .closed, .enrolled _ => true
  | .closed, .launched => true
  | _, _ => false

/-- No start is overtaken. -/
def Unovertaken (deeds : List Deed) : Prop := deeds.Pairwise (fun d d' => d.overtakes d' = false)

instance (deeds : List Deed) : Decidable (Unovertaken deeds) :=
  inferInstanceAs (Decidable (deeds.Pairwise _))

/-- One more deed overtakes nothing that was done before. -/
theorem Unovertaken.of_append {deeds : List Deed} {o : Option Deed}
    (h : Unovertaken (deeds ++ o.toList)) :
    Unovertaken deeds ∧ ∀ d ∈ deeds, ∀ d', o = some d' → d.overtakes d' = false := by
  obtain ⟨hdeeds, -, hcross⟩ := List.pairwise_append.mp h
  exact ⟨hdeeds, fun d hd d' hd' => hcross d hd d' (Option.mem_toList.mpr hd')⟩

/-- A shutdown that has read the registry has before it all that is not stopped. -/
def Task.Covers (s : Session) (t : Task) : Prop :=
  t.Surveyed → ∀ k ∈ s.started, s.stageOf k ≠ some .stopped → k ∈ t.pending

namespace Crowd

variable {w : Crowd} {s : Session} {c : EngineConfig}

/-- What holds as long as no start is overtaken. A shutdown has before it all that is not
stopped; behind the closing some shutdown is still at work, or nothing is left to it; and
the jobs are those that were added, less those of what is stopped, up to what some call is
about to take away. -/
structure Covered (w : Crowd) : Prop where
  covers : ∀ t ∈ w.tasks, t.Covers w.session
  closing : .closed ∈ w.deeds → (∃ t ∈ w.tasks, t.Closing) ∨ w.session.Over
  clears : ∀ k ∈ w.session.jobKeys, w.session.stageOf k = some .stopped →
    ∃ t ∈ w.tasks, t.Clears k
  keeps : ∀ k, .timed k ∈ w.deeds → w.session.stageOf k ≠ some .stopped → k ∈ w.session.jobKeys

/-! ## One step -/

section Step

variable {i k : Nat} {t x : Task}

/-- Behind the closing nothing more is started. -/
theorem started_of_closed (hsound : w.Sound) (ht : w.tasks[i]? = some t)
    (hdeeds : Unovertaken (w.stepAt i t).deeds) (hclosed : .closed ∈ w.deeds)
    (hk : k ∈ (w.stepAt i t).session.started) : k ∈ w.session.started := by
  refine ((hsound.stroke ht).mem_started_iff.mp hk).resolve_left (fun hnewcomer => ?_)
  cases hdeeds.of_append.2 _ hclosed _ hnewcomer

/-- What is not stopped behind a step was neither so before it. -/
theorem not_stopped_of_stepAt (hsound : w.Sound) (ht : w.tasks[i]? = some t)
    (hstage : (w.stepAt i t).session.stageOf k ≠ some .stopped) :
    w.session.stageOf k ≠ some .stopped :=
  fun hstopped => hstage ((hsound.stroke ht).stopped_iff.mpr (.inr hstopped))

/-- A shutdown that has read the registry still has before it all that is not stopped. -/
theorem Covered.covers_stepAt (hw : w.Covered) (hsound : w.Sound) (hs : w.Sighted)
    (ht : w.tasks[i]? = some t) (hdeeds : Unovertaken (w.stepAt i t).deeds)
    (hx : x ∈ (w.stepAt i t).tasks) : x.Covers (w.stepAt i t).session := by
  have hmem : t ∈ w.tasks := List.mem_of_getElem? ht
  intro hsurveyed k hk hstage
  have hlive := not_stopped_of_stepAt hsound ht hstage
  have hstarted : ∀ y ∈ w.tasks, y.Closing → k ∈ w.session.started := fun y hy hclosing =>
    started_of_closed hsound ht hdeeds (hs.closing y hy hclosing) hk
  rcases List.mem_or_eq_of_mem_set hx with hother | rfl
  · exact hw.covers x hother hsurveyed k (hstarted x hother (.inr hsurveyed)) hlive
  · rcases Task.surveyed_of_step hsurveyed with rfl | hbefore
    · -- the registry is read
      rw [Task.pending_step]
      exact hsound.ledger.mem_registry k (hstarted _ hmem (.inl rfl)) hlive
    · -- what is given up is stopped
      have hpending := hw.covers t hmem hbefore k (hstarted t hmem (.inr hbefore)) hlive
      exact (Task.pending_or_stopped (hsound.fits t hmem) hpending).resolve_right hstage

/-- Behind the closing it is over when all was stopped before, and the timer stands or is
just being halted. -/
theorem over_stepAt (hsound : w.Sound) (ht : w.tasks[i]? = some t)
    (hdeeds : Unovertaken (w.stepAt i t).deeds) (hclosed : .closed ∈ w.deeds)
    (hall : ∀ k ∈ w.session.started, w.session.stageOf k = some .stopped)
    (hhalts : w.session.running = true → t.deed w.session = some .halted) :
    (w.stepAt i t).session.Over := by
  have hstroke := hsound.stroke ht
  obtain ⟨e, he, -⟩ := hsound.ledger.engine
  obtain ⟨e', he', hclosed'⟩ := (hsound.stepAt ht).ledger.engine
  have hrunning : (w.stepAt i t).session.running = false := by
    rw [← Bool.not_eq_true, stepAt, hstroke.running_iff he]
    rintro (hlaunched | ⟨hrunning, hkept⟩)
    -- a start that reaches the timer behind the closing is overtaken by it
    · cases hdeeds.of_append.2 _ hclosed _ hlaunched
    · exact hkept (hhalts hrunning)
  refine ⟨⟨e', he', hclosed'.mpr (List.mem_append_left _ hclosed), ?_⟩, fun k hk => ?_⟩
  · rw [← Session.running_of_engine he', hrunning]
  · have hstarted := started_of_closed hsound ht hdeeds hclosed hk
    exact hstroke.stopped_iff.mpr (.inr (hall k hstarted))

/-- A closed engine is over, or somebody is about to make it so. -/
theorem Covered.closing_stepAt (hw : w.Covered) (hsound : w.Sound) (ht : w.tasks[i]? = some t)
    (hdeeds : Unovertaken (w.stepAt i t).deeds) (hclosed : .closed ∈ (w.stepAt i t).deeds) :
    (∃ x ∈ (w.stepAt i t).tasks, x.Closing) ∨ (w.stepAt i t).session.Over := by
  have hmem : t ∈ w.tasks := List.mem_of_getElem? ht
  rw [stepAt, List.mem_append, Option.mem_toList] at hclosed
  rcases hclosed with hbefore | hnow
  · rcases hw.closing hbefore with hclosing | hover
    · by_cases hhalt : t = .halt
      · -- a shutdown that halts the timer has nothing before it any more
        subst hhalt
        refine .inr (over_stepAt hsound ht hdeeds hbefore (fun k hk => ?_) (fun hrunning => ?_))
        · by_contra hstage
          simpa [Task.pending] using hw.covers _ hmem trivial k hk hstage
        · rw [Task.deed, if_pos hrunning]
      · exact .inl (exists_mem_set ht hclosing
          (fun h => (Task.closing_step h).resolve_right hhalt))
    · obtain ⟨e, he, -, hstands⟩ := hover.closed
      refine .inr (over_stepAt hsound ht hdeeds hbefore hover.stopped (fun hrunning => ?_))
      rw [Session.running_of_engine he, hstands] at hrunning
      cases hrunning
  · have hclose : t = .close := Task.of_deed hnow
    subst hclose
    exact .inl ⟨_, mem_tasks_stepAt ht, .inl rfl⟩

/-- A job of something stopped is about to be taken away. -/
theorem Covered.clears_stepAt (hw : w.Covered) (hsound : w.Sound) (ht : w.tasks[i]? = some t)
    (hdeeds : Unovertaken (w.stepAt i t).deeds) (hk : k ∈ (w.stepAt i t).session.jobKeys)
    (hstopped : (w.stepAt i t).session.stageOf k = some .stopped) :
    ∃ x ∈ (w.stepAt i t).tasks, x.Clears k := by
  have hstroke := hsound.stroke ht
  obtain ⟨e, he, -⟩ := hsound.ledger.engine
  rcases hstroke.stopped_iff.mp hstopped with hstop | hold
  · -- who stops it goes on to strike it off
    obtain ⟨rest, closing, h⟩ := Task.withdraws_of_stopped hstop
    exact ⟨_, mem_tasks_stepAt ht, rest, closing, .inl h⟩
  · rcases (hstroke.mem_jobKeys_iff he).mp hk with hnow | ⟨hbefore, hkept⟩
    · -- a job is not added to what is stopped
      have hdeed := (hsound.ledger.stopped_iff k).mp ⟨hstroke.guarded.timed k hnow, hold⟩
      have hearly := hdeeds.of_append.2 _ hdeed _ hnow
      simp [Deed.overtakes] at hearly
    · refine exists_mem_set ht (hw.clears k hbefore hold) ?_
      rintro ⟨rest, closing, h⟩
      rcases h with rfl | rfl
      · exact ⟨rest, closing, .inr rfl⟩
      · exact absurd (.inl rfl) hkept

/-- What was given a job and is not stopped still has it. -/
theorem Covered.keeps_stepAt (hw : w.Covered) (hsound : w.Sound) (ht : w.tasks[i]? = some t)
    (htimed : .timed k ∈ (w.stepAt i t).deeds)
    (hstage : (w.stepAt i t).session.stageOf k ≠ some .stopped) :
    k ∈ (w.stepAt i t).session.jobKeys := by
  have hmem : t ∈ w.tasks := List.mem_of_getElem? ht
  obtain ⟨e, he, -⟩ := hsound.ledger.engine
  rw [stepAt, (hsound.stroke ht).mem_jobKeys_iff he]
  rw [stepAt, List.mem_append, Option.mem_toList] at htimed
  rcases htimed with hbefore | hnow
  · have hlive := not_stopped_of_stepAt hsound ht hstage
    have hjob := hw.keeps k hbefore hlive
    refine .inr ⟨hjob, ?_⟩
    rintro (huntimed | hhalted)
    · -- only what is stopped loses its job on its own
      obtain ⟨rest, closing, rfl⟩ := Task.of_deed huntimed
      exact hlive (hsound.fits _ hmem).1
    · -- and the timer is halted when nothing is left that is not stopped
      have hhalt : t = .halt := Task.of_deed hhalted
      subst hhalt
      simpa [Task.pending] using
        hw.covers _ hmem trivial k (hsound.ledger.jobKeys_subset k hjob) hlive
  · exact .inl hnow

/-- A turn that overtakes nothing keeps a crowd covered. -/
theorem Covered.stepAt (hw : w.Covered) (hsound : w.Sound) (hs : w.Sighted)
    (ht : w.tasks[i]? = some t) (hdeeds : Unovertaken (w.stepAt i t).deeds) :
    (w.stepAt i t).Covered where
  covers _ hx := hw.covers_stepAt hsound hs ht hdeeds hx
  closing hclosed := hw.closing_stepAt hsound ht hdeeds hclosed
  clears _ hk hstopped := hw.clears_stepAt hsound ht hdeeds hk hstopped
  keeps _ htimed hstage := hw.keeps_stepAt hsound ht htimed hstage

end Step

/-! ## Runs -/

theorem Covered.atMoment (hw : w.Covered) (now : Moment) : (w.atMoment now).Covered where
  covers := hw.covers
  closing h := (hw.closing h).imp_right (fun hover => ⟨hover.closed, hover.stopped⟩)
  clears := hw.clears
  keeps := hw.keeps

theorem Covered.turn (hw : w.Covered) (hsound : w.Sound) (hs : w.Sighted) (u : Turn)
    (hdeeds : Unovertaken (w.turn u).deeds) : (w.turn u).Covered := by
  rw [Crowd.turn] at hdeeds ⊢
  cases ht : w.tasks[u.index]? with
  | none => exact hw
  | some t =>
    simp only [ht] at hdeeds
    exact (hw.atMoment u.now).stepAt (hsound.atMoment u.now) (hs.atMoment u.now) ht hdeeds

/-- When nothing is overtaken in the end nothing was before. -/
theorem unovertaken_of_turn {u : Turn} (h : Unovertaken (w.turn u).deeds) :
    Unovertaken w.deeds := by
  rw [Crowd.turn] at h
  cases ht : w.tasks[u.index]? with
  | none => simpa only [ht] using h
  | some t =>
    simp only [ht] at h
    exact h.of_append.1

/-- A run in which no start is overtaken was so at every turn. -/
theorem Covered.run {turns : List Turn} (hw : w.Covered) (hsound : w.Sound) (hs : w.Sighted)
    (hdeeds : Unovertaken (w.run turns).deeds) : (w.run turns).Covered := by
  induction turns using List.reverseRecOn with
  | nil => exact hw
  | append_singleton turns u ih =>
    rw [Crowd.run, List.foldl_append] at hdeeds ⊢
    exact (ih (unovertaken_of_turn hdeeds)).turn (hsound.run turns) (hs.run hsound turns) u hdeeds

theorem covered_gather (hengine : s.engine = some { config := c }) (calls : List Call) :
    (gather s calls).Covered := by
  have hjobKeys : s.jobKeys = [] := Session.jobKeys_of_engine hengine
  refine ⟨fun t ht hsurveyed => ?_, by simp [gather], by simp [gather, hjobKeys], by simp [gather]⟩
  obtain ⟨call, -, rfl⟩ := List.mem_map.mp ht
  cases call <;> cases hsurveyed

/-- **Where no start is overtaken, and every start gets its job, the deeds are orderly.** -/
theorem Covered.orderly (hw : w.Covered) (hsound : w.Sound) (hfinished : w.Finished)
    (htimed : ∀ k, .enrolled k ∈ w.deeds → .timed k ∈ w.deeds) : Orderly w.deeds := by
  have hledger := hsound.ledger
  refine ⟨fun k henrolled hstopped => ?_, fun k hstopped hjob => ?_, fun hclosed => ?_⟩
  · rw [← hledger.jobKeys_iff]
    refine hw.keeps k (htimed k henrolled) (fun hstage => hstopped ?_)
    exact (hledger.stopped_iff k).mp ⟨(hledger.started_iff k).mpr henrolled, hstage⟩
  · have hstage := ((hledger.stopped_iff k).mpr hstopped).2
    refine absurd (hw.clears k ((hledger.jobKeys_iff k).mpr hjob) hstage)
      (hfinished.not_exists ?_)
    rintro outcome ⟨rest, closing, h | h⟩ <;> cases h
  -- in the end no call is at work that could still make good
  · have hnone : ¬ ∃ t ∈ w.tasks, t.Closing := hfinished.not_exists (by
      rintro outcome (h | h) <;> cases h)
    have hover := (hw.closing hclosed).resolve_left hnone
    refine ⟨fun k henrolled => ?_, fun hlaunched => ?_⟩
    · have hstarted := (hledger.started_iff k).mpr henrolled
      exact (hledger.stopped_iff k).mp ⟨hstarted, hover.stopped k hstarted⟩
    · obtain ⟨e, he, -, hstands⟩ := hover.closed
      rw [← hledger.running_iff, Session.running_of_engine he, hstands] at hlaunched
      cases hlaunched

end Crowd

end Cadence
