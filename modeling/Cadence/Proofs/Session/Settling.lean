/-
What is left when all calls have come back.

Two things hold whatever turns the calls took: everything that was started is armed or
stopped, and the registry is that of the armed registrations (`Sound.registry_perm`). The
jobs and the timer are another matter. They are as they should be (`Settled`) exactly when
what was stopped has no job, what was not stopped has one, and a closed engine has neither
(`Orderly`). By whom a registration was seen decides whether it is stopped, so this is a
matter of the order of the deeds: `Leaks` says which orders leave something behind, and
there are no others (`Sound.settled_iff`).
-/
import Cadence.Proofs.Session.Sightings

set_option autoImplicit false

namespace Cadence

theorem Session.nodup_armed (s : Session) : s.armed.Nodup := (List.nodup_range.filter _).filter _

namespace Crowd

variable {w : Crowd} {s : Session} {calls : List Call} {turns : List Turn}

/-! ## When all calls have come back -/

/-- The registrations that were started and not stopped have their jobs, those that were
stopped have none; and if the engine was closed, then all were stopped, and the timer was
not started again behind its last stop. -/
structure Orderly (deeds : List Deed) : Prop where
  served : ∀ k, .enrolled k ∈ deeds → .stopped k ∉ deeds → Timed k deeds
  cleared : ∀ k, .stopped k ∈ deeds → ¬ Timed k deeds
  final : .closed ∈ deeds → (∀ k, .enrolled k ∈ deeds → .stopped k ∈ deeds) ∧ ¬ Launched deeds

/-- Orders of deeds that leave something behind. -/
inductive Leaks (deeds : List Deed) : Prop
  /-- a start failed behind the registry: nobody saw its registration, which stays armed,
  and its job never came -/
  | jobless {key : Nat} : .enrolled key ∈ deeds → ¬ Seen key deeds → .timed key ∉ deeds →
    Leaks deeds
  /-- a start was overtaken by a cancellation: the job was taken away before it came, and no
  halt swept it out behind that -/
  | stray {key : Nat} : .untimed key ∈ deeds → Timed key deeds → Leaks deeds
  /-- a start was overtaken by a shutdown: the registration came onto the registry of an
  engine that is closed, and no shutdown saw it there -/
  | missed {key : Nat} : .closed ∈ deeds → .enrolled key ∈ deeds → ¬ Seen key deeds → Leaks deeds
  /-- a start was overtaken by a shutdown: the timer of a closed engine was started, and not
  halted behind that -/
  | relaunched : .closed ∈ deeds → Launched deeds → Leaks deeds

/-- The jobs are exactly those of the armed registrations on the registry. If a shutdown
was among the calls there are none, the timer stands, and nothing is armed. -/
structure Settled (calls : List Call) (s : Session) : Prop where
  jobKeys_perm : s.jobKeys.Perm (s.registry.filter (fun key => s.stageOf key == some .armed))
  shut : .shutdown ∈ calls → s.jobKeys = [] ∧ s.running = false ∧ s.armed = []

/-- A shutdown was among the calls when one is about to begin, or has closed the engine. -/
theorem closes_turn (w : Crowd) (u : Turn) :
    (Task.close ∈ (w.turn u).tasks ∨ .closed ∈ (w.turn u).deeds) ↔
      (Task.close ∈ w.tasks ∨ .closed ∈ w.deeds) := by
  rw [Crowd.turn]
  cases ht : w.tasks[u.index]? with
  | none => rfl
  | some t =>
    have hmem : t ∈ w.tasks := List.mem_of_getElem? ht
    simp only [stepAt, atMoment, List.mem_append, Option.mem_toList]
    by_cases hclose : t = .close
    · -- the step that closes the engine
      subst hclose
      exact iff_of_true (.inr (.inr rfl)) (.inl hmem)
    · have hnone : ∀ s, t.deed s ≠ some .closed := fun s h => hclose (Task.of_deed h)
      have htasks : ∀ s, Task.close ∈ w.tasks.set u.index (t.step s).2 ↔ Task.close ∈ w.tasks := by
        intro s
        constructor
        · intro h
          exact (List.mem_or_eq_of_mem_set h).resolve_right
            (fun h => (Task.step_ne_close hclose).1 h.symm)
        · intro h
          obtain ⟨x, hx, rfl⟩ := exists_mem_set (P := (· = .close)) ht ⟨_, h, rfl⟩
            (fun h => absurd h hclose)
          exact hx
      rw [htasks, or_iff_left (hnone _)]

/-- So it is through any turns. -/
theorem closes_run (w : Crowd) (turns : List Turn) :
    (Task.close ∈ (w.run turns).tasks ∨ .closed ∈ (w.run turns).deeds) ↔
      (Task.close ∈ w.tasks ∨ .closed ∈ w.deeds) := by
  induction turns generalizing w with
  | nil => rfl
  | cons u turns ih => exact (ih (w.turn u)).trans (closes_turn w u)

/-- When all have come back the engine is closed exactly if a shutdown was among the calls. -/
theorem shutdown_mem_iff (hfinished : ((gather s calls).run turns).Finished) :
    .shutdown ∈ calls ↔ .closed ∈ ((gather s calls).run turns).deeds := by
  have hcloses := closes_run (gather s calls) turns
  have hover : Task.close ∉ ((gather s calls).run turns).tasks := by
    intro hclose
    cases hfinished _ hclose
  -- the tasks that close are the shutdowns among the calls
  have hbegin : Task.close ∈ (gather s calls).tasks ↔ .shutdown ∈ calls := by
    rw [gather, List.mem_map]
    constructor
    · rintro ⟨call, hcall, hclose⟩
      cases call with
      | shutdown => exact hcall
      | start | cancel => cases hclose
    · exact fun h => ⟨_, h, rfl⟩
  rw [hbegin] at hcloses
  simp only [hover, false_or] at hcloses
  simpa [gather] using hcloses.symm

/-- Once all calls have come back, everything that was started is armed or stopped. -/
theorem Sound.armed_or_stopped (hw : w.Sound) (hfinished : w.Finished) {k : Nat}
    (hk : k ∈ w.session.started) : w.session.stageOf k = some .armed ∨
      w.session.stageOf k = some .stopped := by
  obtain ⟨r, hr⟩ := Session.exists_of_mem_started hk
  have hstage : w.session.stageOf k = some r.stage := by rw [Session.stageOf, hr, Option.map_some]
  cases hidle : r.stage with
  | armed => exact .inl (hidle ▸ hstage)
  | stopped => exact .inr (hidle ▸ hstage)
  | idle =>
    -- what is idle would have somebody about to arm it
    refine absurd (hw.arms k hk (hidle ▸ hstage)) (hfinished.not_exists ?_)
    rintro outcome ⟨c, schedule, h⟩
    cases h

/-- The registry is then that of the armed registrations. -/
theorem Sound.registry_perm (hw : w.Sound) (hfinished : w.Finished) :
    w.session.registry.Perm w.session.armed := by
  rw [List.perm_ext_iff_of_nodup hw.ledger.nodup_registry (Session.nodup_armed _)]
  intro k
  rw [Session.armed, List.mem_filter, beq_iff_eq]
  constructor
  · intro hk
    have hstarted := hw.ledger.registry_subset k hk
    refine ⟨hstarted, (hw.armed_or_stopped hfinished hstarted).resolve_right (fun hstopped => ?_)⟩
    -- what is stopped and still listed would have somebody about to strike it off
    refine absurd (hw.withdraws k hk hstopped) (hfinished.not_exists ?_)
    rintro outcome ⟨rest, closing, h⟩
    cases h
  · rintro ⟨hk, hstage⟩
    exact hw.ledger.mem_registry k hk (by simp [hstage])

/-- In the end those are armed that came onto the registry and were not stopped. -/
theorem Sound.mem_armed_iff (hw : w.Sound) (hfinished : w.Finished) {k : Nat} :
    k ∈ w.session.armed ↔ .enrolled k ∈ w.deeds ∧ .stopped k ∉ w.deeds := by
  rw [Session.armed, List.mem_filter, beq_iff_eq, ← hw.ledger.started_iff,
    ← hw.ledger.stopped_iff]
  constructor
  · rintro ⟨hk, hstage⟩
    exact ⟨hk, fun h => by simp [hstage] at h⟩
  · rintro ⟨hk, hstopped⟩
    exact ⟨hk, (hw.armed_or_stopped hfinished hk).resolve_right (fun h => hstopped ⟨hk, h⟩)⟩

/-- What is armed then is on the registry, which holds nothing else. -/
theorem Sound.filter_armed_perm (hw : w.Sound) (hfinished : w.Finished) :
    (w.session.registry.filter (fun key => w.session.stageOf key == some .armed)).Perm
      w.session.armed := by
  have hperm := (hw.registry_perm hfinished).filter
    (fun key => w.session.stageOf key == some .armed)
  simpa [Session.armed, List.filter_filter] using hperm

/-- The jobs are those of the armed registrations when the deeds say so. -/
theorem Sound.jobKeys_perm_iff (hw : w.Sound) (hfinished : w.Finished) :
    w.session.jobKeys.Perm w.session.armed ↔
      ∀ k, Timed k w.deeds ↔ .enrolled k ∈ w.deeds ∧ .stopped k ∉ w.deeds := by
  rw [List.perm_ext_iff_of_nodup hw.ledger.nodup_jobKeys (Session.nodup_armed _)]
  exact forall_congr' (fun k => by rw [hw.ledger.jobKeys_iff, hw.mem_armed_iff hfinished])

/-- Nothing is armed any more when all that came onto the registry was stopped. -/
theorem Sound.armed_eq_nil_iff (hw : w.Sound) (hfinished : w.Finished) :
    w.session.armed = [] ↔ ∀ k, .enrolled k ∈ w.deeds → .stopped k ∈ w.deeds := by
  rw [List.eq_nil_iff_forall_not_mem]
  refine forall_congr' (fun k => ?_)
  rw [hw.mem_armed_iff hfinished, not_and, not_not]

/-- Whether things are settled in the end can be told from the deeds. -/
theorem Sound.settled_iff_orderly (hw : w.Sound) (hfinished : w.Finished)
    (hcalls : .shutdown ∈ calls ↔ .closed ∈ w.deeds) :
    Settled calls w.session ↔ Orderly w.deeds := by
  have hfilter := hw.filter_armed_perm hfinished
  have hrunning : w.session.running = false ↔ ¬Launched w.deeds := by
    rw [← hw.ledger.running_iff, Bool.not_eq_true]
  constructor
  · rintro ⟨hperm, hshut⟩
    have hexact := (hw.jobKeys_perm_iff hfinished).mp (hperm.trans hfilter)
    refine ⟨fun k henrolled hstopped => (hexact k).mpr ⟨henrolled, hstopped⟩,
      fun k hstopped htimed => ((hexact k).mp htimed).2 hstopped, fun hclosed => ?_⟩
    obtain ⟨-, hstands, harmed⟩ := hshut (hcalls.mpr hclosed)
    exact ⟨(hw.armed_eq_nil_iff hfinished).mp harmed, hrunning.mp hstands⟩
  · rintro ⟨hserved, hcleared, hfinal⟩
    -- a job that stands was added to something on the registry
    have hperm : w.session.jobKeys.Perm w.session.armed := by
      refine (hw.jobKeys_perm_iff hfinished).mpr (fun k => ⟨fun htimed => ?_, ?_⟩)
      · refine ⟨?_, fun hstopped => hcleared k hstopped htimed⟩
        rw [← hw.ledger.started_iff]
        exact hw.ledger.jobKeys_subset k ((hw.ledger.jobKeys_iff k).mpr htimed)
      · rintro ⟨henrolled, hstopped⟩
        exact hserved k henrolled hstopped
    refine ⟨hperm.trans hfilter.symm, fun hshutdown => ?_⟩
    obtain ⟨hall, hlaunched⟩ := hfinal (hcalls.mp hshutdown)
    have harmed := (hw.armed_eq_nil_iff hfinished).mpr hall
    exact ⟨List.perm_nil.mp (harmed ▸ hperm), hrunning.mpr hlaunched, harmed⟩

/-- The job of a registration that nobody saw is there, when it came, unless the engine was
closed. -/
theorem Sighted.timed_of_not_seen (hs : w.Sighted) {k : Nat} (hseen : ¬ Seen k w.deeds)
    (htimed : .timed k ∈ w.deeds) (hopen : .closed ∉ w.deeds) : Timed k w.deeds := by
  obtain ⟨before, behind, heq⟩ := List.append_of_mem htimed
  refine ⟨before, behind, heq, fun d hd => ?_⟩
  have hmem : d ∈ w.deeds := by
    rw [heq]
    exact List.mem_append_right _ (List.mem_cons_of_mem _ hd)
  rintro (rfl | rfl)
  · exact hseen (hs.stopped_seen k (hs.untimed_stopped k hmem))
  · exact hopen (hs.halted hmem)

/-- Deeds are in order when they leave nothing behind. -/
theorem Sighted.orderly_iff (hs : w.Sighted) (hfinished : w.Finished) :
    Orderly w.deeds ↔ ¬ Leaks w.deeds := by
  have hstopped := fun k => hs.stopped_iff hfinished (k := k)
  constructor
  · rintro ⟨hserved, hcleared, hfinal⟩ hleaks
    cases hleaks with
    | jobless henrolled hseen htimed =>
      exact htimed (hserved _ henrolled (fun h => hseen ((hstopped _).mp h))).mem
    | stray huntimed htimed => exact hcleared _ (hs.untimed_stopped _ huntimed) htimed
    | missed hclosed henrolled hseen =>
      exact hseen ((hstopped _).mp ((hfinal hclosed).1 _ henrolled))
    | relaunched hclosed hlaunched => exact (hfinal hclosed).2 hlaunched
  · intro hnone
    refine ⟨fun k henrolled hlive => ?_, fun k hstop htimed => ?_, fun hclosed =>
      ⟨fun k henrolled => ?_, fun hlaunched => hnone (.relaunched hclosed hlaunched)⟩⟩
    -- a start whose registration nobody sees is left alone, so it has its job
    · have hseen : ¬ Seen k w.deeds := fun h => hlive ((hstopped k).mpr h)
      refine hs.timed_of_not_seen hseen ?_ (fun hclosed => hnone (.missed hclosed henrolled hseen))
      by_contra htimed
      exact hnone (.jobless henrolled hseen htimed)
    · have huntimed := (hs.untimed_iff hfinished).mpr ((hstopped k).mp hstop)
      exact hnone (.stray huntimed htimed)
    · by_contra hlive
      exact hnone (.missed hclosed henrolled (fun h => hlive ((hstopped k).mpr h)))

/-- **Exactly the deeds that leak do not settle everything.** -/
theorem Sound.settled_iff (hw : w.Sound) (hs : w.Sighted) (hfinished : w.Finished)
    (hcalls : .shutdown ∈ calls ↔ .closed ∈ w.deeds) :
    Settled calls w.session ↔ ¬ Leaks w.deeds :=
  (hw.settled_iff_orderly hfinished hcalls).trans (hs.orderly_iff hfinished)

end Crowd

end Cadence
