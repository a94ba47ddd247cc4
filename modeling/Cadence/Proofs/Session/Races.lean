/-
What comes of calls from several threads.

Starts, cancellations and shutdowns of any number of threads are made on a new engine, and
their steps come in any order. What is left when all calls have come back is the
`Aftermath`. The registry and the stages of the registrations always agree: what nobody saw
on the registry is armed and there, the rest is stopped and gone. The jobs and the timer need
not, since a start looks at the engine once, at its beginning, and adds its job without
looking at the registration again. There are four ways in which deeds leak (`Leaks`), and
each of them happens (`exists_not_settled`). None does when no start is overtaken and every
start gets its job.
-/
import Cadence.Proofs.Session.Overtaking

set_option autoImplicit false

namespace Cadence

open Cadence.Config (EngineConfig)

namespace Crowd

variable {s : Session} {c : EngineConfig} {calls : List Call} {turns : List Turn}

/-- What is left behind calls that have all come back. -/
structure Aftermath (calls : List Call) (w : Crowd) : Prop where
  /-- the registry is that of the armed registrations, and the others are stopped -/
  registry_perm : w.session.registry.Perm w.session.armed
  armed_or_stopped : ∀ k ∈ w.session.started,
    w.session.stageOf k = some .armed ∨ w.session.stageOf k = some .stopped
  /-- a registration is armed exactly when it came onto the registry and nobody saw it -/
  armed_iff : ∀ k, k ∈ w.session.armed ↔ .enrolled k ∈ w.deeds ∧ ¬ Seen k w.deeds
  /-- the jobs and the timer are as they should be exactly when the deeds do not leak -/
  settled_iff : Settled calls w.session ↔ ¬ Leaks w.deeds
  /-- and so they are when no start is overtaken and none fails for want of a job -/
  settled : Unovertaken w.deeds → (∀ k, .enrolled k ∈ w.deeds → .timed k ∈ w.deeds) →
    Settled calls w.session

/-- **What comes of any calls, whatever turns they take**, once all of them have come
back. -/
theorem aftermath_of_finished (hengine : s.engine = some { config := c })
    (hnone : ∀ r ∈ s.registrations, r.listener ≠ .engine)
    (hfinished : ((gather s calls).run turns).Finished) :
    Aftermath calls ((gather s calls).run turns) := by
  have hsound := (sound_gather hengine hnone calls).run turns
  have hsighted := (sighted_gather s calls).run (sound_gather hengine hnone calls) turns
  have hcalls := shutdown_mem_iff hfinished
  refine ⟨hsound.registry_perm hfinished, fun k hk => hsound.armed_or_stopped hfinished hk,
    fun k => ?_, hsound.settled_iff hsighted hfinished hcalls, fun hdeeds htimed => ?_⟩
  · rw [hsound.mem_armed_iff hfinished, hsighted.stopped_iff hfinished]
  -- without overtaking every obligation is covered, and in the end there are none
  · have hcovered := (covered_gather hengine calls).run (sound_gather hengine hnone calls)
      (sighted_gather s calls) hdeeds
    exact (hsound.settled_iff_orderly hfinished hcalls).mpr
      (hcovered.orderly hsound hfinished htimed)

/-- Two starts step by step in turns, a cancellation of the one and two shutdowns that run
into each other. -/
theorem aftermath_of_finished_crowded :
    let s : Session := Session.openEngine {} { clock := ⟨Moment.epoch2026⟩ }
    let start : Call := .start .every (.script (fun _ => []))
    let calls := [start, start, .cancel 0, .shutdown, .shutdown]
    let turns := takeTurns Moment.epoch2026
      [0, 1, 0, 1, 1, 0, 0, 1, 1, 0, 2, 3, 2, 4, 3, 4, 2, 3, 3, 4, 4, 4, 2, 3, 3, 3]
    s.engine = some { config := {} } ∧ (∀ r ∈ s.registrations, r.listener ≠ .engine) ∧
      ((gather s calls).run turns).Finished ∧ Aftermath calls ((gather s calls).run turns) ∧
      Settled calls ((gather s calls).run turns).session := by
  intro s start calls turns
  have hnone : ∀ r ∈ s.registrations, r.listener ≠ .engine := by
    intro r hr
    cases hr
  have hfinished : ((gather s calls).run turns).Finished := by decide +kernel
  have haftermath := aftermath_of_finished (s := s) (c := {}) rfl hnone hfinished
  -- both starts are done before the first cancellation looks
  have hdeeds : ((gather s calls).run turns).deeds = [.enrolled 0, .enrolled 1, .timed 0, .timed 1,
      .launched, .launched, .looked 0, .closed, .stopped 0, .closed, .surveyed, .surveyed,
      .withdrawn 0, .stopped 1, .halted, .untimed 0, .withdrawn 1, .untimed 1] := by decide +kernel
  have hsettled := haftermath.settled (by rw [hdeeds]; decide) (by rw [hdeeds]; simp)
  exact ⟨rfl, hnone, hfinished, haftermath, hsettled⟩

/-- Four ways in which calls do not leave things settled. A registration is cancelled
between being armed and being given its job, and the job stays; the engine is shut down
between the look of a start at it and the rest of that start, and the registration is
armed and its timer runs; the shutdown comes between the job and the launch, and only the
timer runs; a start fails for want of a job, with nobody else around, and leaves its
registration armed. -/
theorem exists_not_settled :
    let s (c : EngineConfig) : Session := Session.openEngine c { clock := ⟨Moment.epoch2026⟩ }
    let start : Call := .start .every (.script (fun _ => []))
    let run (c : EngineConfig) (calls : List Call) (order : List Nat) : Crowd :=
      (gather (s c) calls).run (takeTurns Moment.epoch2026 order)
    (∃ w, w = run {} [start, .cancel 0] [0, 0, 0, 1, 1, 1, 1, 0, 0] ∧ w.Finished ∧
      w.session.registry = [] ∧ w.session.jobKeys = [0] ∧
      ¬ Settled [start, .cancel 0] w.session) ∧
    (∃ w, w = run {} [start, .shutdown] [0, 1, 1, 1, 0, 0, 0, 0] ∧ w.Finished ∧
      w.session.armed = [0] ∧ w.session.jobKeys = [0] ∧ w.session.running = true ∧
      ¬ Settled [start, .shutdown] w.session) ∧
    (∃ w, w = run {} [start, .shutdown] [0, 0, 0, 0, 1, 1, 1, 1, 1, 1, 0] ∧ w.Finished ∧
      w.session.armed = [] ∧ w.session.jobKeys = [] ∧ w.session.running = true ∧
      ¬ Settled [start, .shutdown] w.session) ∧
    ∃ c w, EngineConfig.check (.mapping [(.str "tick_interval", .int 100000000000000)]) = .ok c ∧
      w = run c [start] [0, 0, 0, 0] ∧ w.Finished ∧
      w.session.armed = [0] ∧ w.session.jobKeys = [] ∧ ¬ Settled [start] w.session := by
  intro s start run
  -- a job added behind a cancellation, a start behind a shutdown, a timer started again, and a
  -- start that fails
  refine ⟨⟨_, rfl, by decide +kernel, by decide +kernel, by decide +kernel, fun h => ?_⟩,
    ⟨_, rfl, by decide +kernel, by decide +kernel, by decide +kernel, by decide +kernel,
      fun h => ?_⟩,
    ⟨_, rfl, by decide +kernel, by decide +kernel, by decide +kernel, by decide +kernel,
      fun h => ?_⟩,
    ⟨_, _, rfl, rfl, by decide +kernel, by decide +kernel, by decide +kernel, fun h => ?_⟩⟩
  · exact absurd h.jobKeys_perm.length_eq (by decide +kernel)
  · exact absurd (h.shut (by simp)).1 (by decide +kernel)
  · exact absurd (h.shut (by simp)).2.1 (by decide +kernel)
  · exact absurd h.jobKeys_perm.length_eq (by decide +kernel)

end Crowd

end Cadence
