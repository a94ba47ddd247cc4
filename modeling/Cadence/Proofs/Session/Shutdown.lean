/-
Shutting an engine down.

A shutdown closes the engine, cancels what is on the registry, and halts the timer. The
registry that is gone through is the one from before the first cancellation, and each
cancellation is an edit, so the books stay balanced all the way; at the end nothing is
armed (`Balanced.shutdown`).
-/
import Cadence.Proofs.Session.Books

set_option autoImplicit false

namespace Cadence

open Cadence.Config (EngineConfig)

namespace Session

variable {s : Session} {c : EngineConfig} {k key : Nat} {r : Registration}

/-- What is cancelled is stopped. -/
theorem stageOf_cancel (hr : s.registration? k = some r) :
    (s.cancel k).stageOf k = some .stopped := by
  unfold cancel
  rw [hr]
  simp only
  by_cases hstage : r.stage = .stopped
  · rw [if_pos hstage, stageOf, hr, Option.map_some, hstage]
  · rw [if_neg hstage, stageOf]
    simp [hr, Registration.stop]

/-- What was started is there. -/
theorem exists_of_mem_started (h : key ∈ s.started) : ∃ r, s.registration? key = some r :=
  ⟨_, List.getElem?_eq_getElem (lt_of_mem_started h)⟩

/-- Each of those that are cancelled one after the other is stopped, and stays so. -/
theorem stageOf_foldl_cancel {keys : List Nat} (hkey : key ∈ keys) (hs : key ∈ s.started) :
    (keys.foldl (fun s key => s.cancel key) s).stageOf key = some .stopped := by
  induction keys generalizing s with
  | nil => simp at hkey
  | cons k keys ih =>
    rw [List.foldl_cons]
    by_cases hk : key = k
    · obtain ⟨r, hr⟩ := exists_of_mem_started hs
      have hstopped : (s.cancel k).stageOf key = some .stopped := hk ▸ stageOf_cancel hr
      exact (edits_foldl (fun s k => edits_cancel k s) keys (s.cancel k)).stopped hstopped
    · refine ih ((List.mem_cons.mp hkey).resolve_left hk) ?_
      rwa [(edits_cancel k s).started_eq]

/-- When all that were started are stopped none is armed. -/
theorem armed_eq_nil (h : ∀ key ∈ s.started, s.stageOf key = some .stopped) : s.armed = [] := by
  rw [armed, List.filter_eq_nil_iff]
  intro key hkey
  rw [h key hkey]
  decide

/-- Closing an engine leaves its books as they are. -/
theorem Balanced.close (hs : Balanced c s) : Balanced c (s.mapEngine Engine.close) := by
  obtain ⟨e, he, hc⟩ := hs.engine_eq_some
  have hengine := engine_mapEngine Engine.close he
  refine hs.of_same ⟨_, hengine, hc⟩ ?_ ?_ rfl (.inl ?_) (fun _ _ => rfl)
  · rw [registry_of_engine hengine, registry_of_engine he]
    rfl
  · rw [jobKeys_of_engine hengine, jobKeys_of_engine he]
    rfl
  · rw [running_of_engine hengine, running_of_engine he]
    rfl

/-- A timer that is stopped when nothing is armed has nothing to lose. -/
theorem Balanced.halt {e : Engine} (hs : Balanced c s) (he : s.engine = some e)
    (hclosed : e.closed = true) (hstopped : ∀ key ∈ s.started, s.stageOf key = some .stopped) :
    Balanced c s.halt ∧ Over s.halt := by
  rw [Session.halt, he, Option.map_some, Option.getD_some]
  cases hrunning : e.running with
  | false => exact ⟨hs, ⟨e, he, hclosed, hrunning⟩, hstopped⟩
  | true =>
    have hengine : ((s.mapEngine Engine.halt).say .info "Engine stopped").engine
        = some e.halt := engine_mapEngine Engine.halt he
    -- what is halted has no jobs any more, as all registrations are stopped
    have hnone : s.jobKeys = [] := by rw [hs.jobKeys_eq, armed_eq_nil hstopped]
    obtain ⟨e', he', hc⟩ := hs.engine_eq_some
    obtain rfl := Option.some.inj (he.symm.trans he')
    refine ⟨hs.of_same ⟨_, hengine, hc⟩ ?_ ?_ rfl (.inr hnone) (fun _ _ => rfl),
      ⟨_, hengine, hclosed, rfl⟩, hstopped⟩
    · rw [if_pos rfl, registry_of_engine hengine, registry_of_engine he]
      rfl
    · rw [if_pos rfl, jobKeys_of_engine hengine, hnone]
      rfl

theorem registrations_halt (s : Session) : s.halt.registrations = s.registrations := by
  unfold Session.halt
  split <;> rfl

/-- The registry is not touched by closing. -/
theorem registry_mapEngine_close (s : Session) :
    (s.mapEngine Engine.close).registry = s.registry := by
  rw [registry, mapEngine, registry]
  cases s.engine <;> rfl

/-- A shutdown closes the engine, cancels, which is editing, and halts the timer. -/
theorem exists_edits_shutdown (s : Session) : ∃ u, Edits (s.mapEngine Engine.close) u ∧
    s.shutdown = u.halt ∧
      ∀ key ∈ s.registry, key ∈ s.started → u.stageOf key = some .stopped := by
  refine ⟨_, edits_foldl (fun s k => edits_cancel k s) _ _, rfl, fun key hkey hs => ?_⟩
  -- the registry that is gone through is the one from before the first cancellation
  rw [registry_mapEngine_close]
  exact stageOf_foldl_cancel hkey hs

/-- **A shutdown leaves balanced books behind, and everything is over.** -/
theorem Balanced.shutdown (hs : Balanced c s) : Balanced c s.shutdown ∧ Over s.shutdown := by
  have hclose := hs.close
  obtain ⟨u, hedits, hu, hcancelled⟩ := exists_edits_shutdown s
  obtain ⟨e, he, -⟩ := hs.engine_eq_some
  obtain ⟨e', he', -, hclosed, -⟩ := hedits.exists_engine (engine_mapEngine Engine.close he)
  rw [hu]
  refine (hclose.edits hedits).halt he' hclosed (fun key hkey => ?_)
  rw [hedits.started_eq] at hkey
  rcases hs.settled key hkey with harmed | hstopped
  · refine hcancelled key ?_ hkey
    rw [hs.registry_eq, armed, List.mem_filter]
    exact ⟨hkey, by simp [harmed]⟩
  · exact hedits.stopped hstopped

end Session

end Cadence
