/-
An engine's books are in order.

An engine keeps three records of what it drives: its registry, the jobs of its timer, and
the stage of each registration. They are written at different times, by starting,
cancelling and shutting down, also from inside callbacks. `Balanced` says that they agree:
the numbers on the registry, those of the jobs and those of the armed registrations are
the same lists, and whatever else was started is stopped. Every edit keeps the books
balanced (`Balanced.edit`), so do a start whose job comes about and a shutdown, and so does
every sequence of orders (`Balanced.obeyAll`). It also says that no job waits while the timer
stands, which is why a start on balanced books cannot fail for want of another's job
(`Balanced.ready`).

Behind a shutdown everything is over (`Over`): the engine is closed, its timer stands, and
all it started is stopped. Nothing that is asked for later changes that.
-/
import Cadence.Proofs.Session.Edits
import Cadence.Proofs.Session.Starting

set_option autoImplicit false

namespace Cadence

open Cadence.Config (EngineConfig)

namespace Session

variable {s t : Session} {c : EngineConfig} {k key : Nat} {r r' : Registration}
  {schedule : Schedule} {script : Script}

/-! ## The three records -/

def listenerOf (key : Nat) (s : Session) : Option Listener :=
  (s.registration? key).map (·.listener)

def stageOf (key : Nat) (s : Session) : Option Stage := (s.registration? key).map (·.stage)

/-- The numbers of the registrations that the engine drives, in the order of their
starts. -/
def started (s : Session) : List Nat :=
  (List.range s.registrations.length).filter (fun key => s.listenerOf key == some .engine)

/-- Those of them that are armed. -/
def armed (s : Session) : List Nat := s.started.filter (fun key => s.stageOf key == some .armed)

/-- The numbers of the jobs that the timer holds. -/
def jobKeys (s : Session) : List Nat := ((s.engine.map (·.jobs)).getD []).map (·.key)

def running (s : Session) : Bool := (s.engine.map (·.running)).getD false

/-- The registry of a session is that of its engine. -/
theorem registry_of_engine {e : Engine} (he : s.engine = some e) : s.registry = e.registry := by
  rw [registry, he]
  rfl

/-- So are the numbers of its jobs. -/
theorem jobKeys_of_engine {e : Engine} (he : s.engine = some e) :
    s.jobKeys = e.jobs.map (·.key) := by
  rw [jobKeys, he]
  rfl

theorem running_of_engine {e : Engine} (he : s.engine = some e) : s.running = e.running := by
  rw [running, he]
  rfl

theorem engine_mapEngine {e : Engine} (f : Engine → Engine) (he : s.engine = some e) :
    (s.mapEngine f).engine = some (f e) := by
  rw [mapEngine, he]
  rfl

/-- The records of an engine agree. -/
structure Balanced (c : EngineConfig) (s : Session) : Prop where
  engine_eq_some : ∃ e, s.engine = some e ∧ e.config = c
  registry_eq : s.registry = s.armed
  jobKeys_eq : s.jobKeys = s.armed
  /-- nothing that was started is idle -/
  settled : ∀ key ∈ s.started, s.stageOf key = some .armed ∨ s.stageOf key = some .stopped
  /-- no job waits -/
  standing : s.running = false → s.jobKeys = []

/-- The engine is closed, its timer stands, and what it started is stopped. -/
structure Over (s : Session) : Prop where
  closed : ∃ e, s.engine = some e ∧ e.closed = true ∧ e.running = false
  stopped : ∀ key ∈ s.started, s.stageOf key = some .stopped

/-! ## One registration is replaced -/

/-- Writing one registration is seen at its number and nowhere else. -/
theorem registration?_of_set (hr : s.registration? k = some r)
    (ht : t.registrations = s.registrations.set k r') :
    t.registration? key = if k = key then some r' else s.registration? key := by
  have hlt : k < s.registrations.length := (List.getElem?_eq_some_iff.mp hr).1
  rw [registration?, ht, List.getElem?_set, if_pos hlt, registration?]

/-- So it is for its stage. -/
theorem stageOf_of_set (hr : s.registration? k = some r)
    (ht : t.registrations = s.registrations.set k r') :
    t.stageOf key = if k = key then some r'.stage else s.stageOf key := by
  rw [stageOf, registration?_of_set hr ht]
  split <;> rfl

/-- A registration that keeps its listener is started before and behind. -/
theorem started_of_set (hr : s.registration? k = some r)
    (ht : t.registrations = s.registrations.set k r') (hl : r'.listener = r.listener) :
    t.started = s.started := by
  have hlistener : ∀ key, t.listenerOf key = s.listenerOf key := by
    intro key
    rw [listenerOf, registration?_of_set hr ht]
    by_cases hk : k = key
    · rw [if_pos hk, ← hk, listenerOf, hr, Option.map_some, Option.map_some, hl]
    · rw [if_neg hk, listenerOf]
  simp only [started, ht, List.length_set, hlistener]

/-- The registrations that were started are those that an engine listens to. -/
theorem mem_started_iff (hr : s.registration? k = some r) :
    k ∈ s.started ↔ r.listener = .engine := by
  have hlt : k < s.registrations.length := (List.getElem?_eq_some_iff.mp hr).1
  simp [started, hlt, listenerOf, hr]

/-- Their numbers are those of registrations that there are. -/
theorem lt_of_mem_started (h : key ∈ s.started) : key < s.registrations.length :=
  List.mem_range.mp (List.mem_filter.mp h).1

theorem started_congr (h : t.registrations = s.registrations) : t.started = s.started := by
  simp only [started, listenerOf, registration?, h]

theorem stageOf_congr (h : t.registrations = s.registrations) : t.stageOf key = s.stageOf key := by
  simp only [stageOf, registration?, h]

/-- The armed ones depend on nothing but the stages of those that were started. -/
theorem armed_congr (hstarted : t.started = s.started)
    (hstage : ∀ key ∈ s.started, t.stageOf key = s.stageOf key) : t.armed = s.armed := by
  rw [armed, hstarted, armed]
  exact List.filter_congr (fun key hkey => by rw [hstage key hkey])

/-! ## Edits -/

/-- No edit starts anything. -/
theorem Edit.started_eq (h : Edit s t) : t.started = s.started := by
  cases h with
  | aside hr _ => exact started_congr hr
  | rise r' hr _ hl _ ht _ => exact started_of_set hr ht hl
  | stop hr _ ht _ => exact started_of_set hr ht rfl
  | turn hr _ => exact started_congr hr

/-- And none brings back what is stopped. -/
theorem Edit.stopped (h : Edit s t) (hs : s.stageOf key = some .stopped) :
    t.stageOf key = some .stopped := by
  cases h with
  | aside hr _ => rwa [stageOf_congr hr]
  | @rise k r r' hr hstage _ _ ht _ =>
    -- only what is not stopped rises
    have hk : k ≠ key := by
      rintro rfl
      rw [stageOf, hr, Option.map_some, Option.some.injEq] at hs
      exact hstage hs
    rwa [stageOf_of_set hr ht, if_neg hk]
  | stop hr _ ht _ =>
    rw [stageOf_of_set hr ht]
    split
    · rfl
    · exact hs
  | turn hr _ => rwa [stageOf_congr hr]

/-- An edit neither opens nor closes an engine, and leaves its timer as it is. -/
theorem Edit.exists_engine (h : Edit s t) {e : Engine} (he : s.engine = some e) :
    ∃ e', t.engine = some e' ∧ e'.config = e.config ∧ e'.closed = e.closed ∧
      e'.running = e.running := by
  cases h with
  | aside _ ht => exact ⟨e, ht.trans he, rfl, rfl, rfl⟩
  | rise _ _ _ _ _ _ ht => exact ⟨e, ht.trans he, rfl, rfl, rfl⟩
  | @stop k r _ _ _ ht =>
    rw [he] at ht
    split at ht
    · exact ⟨_, ht, rfl, rfl, rfl⟩
    · exact ⟨e, ht, rfl, rfl, rfl⟩
  | turn _ ht =>
    rw [he] at ht
    exact ⟨_, ht, rfl, rfl, rfl⟩

/-- A job on its next run keeps its number and its place. -/
theorem map_key_replaceJob (j : Job) (e : Engine) :
    (e.replaceJob j).jobs.map (·.key) = e.jobs.map (·.key) := by
  rw [Engine.replaceJob, List.map_map]
  refine List.map_congr_left (fun i _ => ?_)
  rw [Function.comp_apply]
  split
  case isTrue h => exact h.symm
  case isFalse => rfl

/-- Where there is no engine none comes up. -/
theorem Edit.engine_eq_none (h : Edit s t) (he : s.engine = none) : t.engine = none := by
  cases h with
  | aside _ ht | rise _ _ _ _ _ _ ht => exact ht.trans he
  | stop _ _ _ ht => simpa [he] using ht
  | turn _ ht => simpa [he] using ht

/-- Closing is no edit. -/
theorem Edit.closed_eq (h : Edit s t) : t.engine.map (·.closed) = s.engine.map (·.closed) := by
  cases he : s.engine with
  | none => rw [h.engine_eq_none he]
  | some e =>
    obtain ⟨e', he', -, hclosed, -⟩ := h.exists_engine he
    rw [he', Option.map_some, Option.map_some, hclosed]

/-- Nor is starting or stopping the timer. -/
theorem Edit.running_eq (h : Edit s t) : t.running = s.running := by
  cases he : s.engine with
  | none => rw [running, running, he, h.engine_eq_none he]
  | some e =>
    obtain ⟨e', he', -, -, hrunning⟩ := h.exists_engine he
    rw [running_of_engine he', running_of_engine he, hrunning]

/-- Behind balanced books a timer can always be started, as a timer that stands has no jobs. -/
theorem Balanced.ready {e : Engine} (hs : Balanced c s) (he : s.engine = some e) : e.Ready := by
  intro hstands j hj
  have hnone := hs.standing ((running_of_engine he).trans hstands)
  rw [jobKeys_of_engine he, List.map_eq_nil_iff] at hnone
  rw [hnone] at hj
  cases hj

/-- What leaves registry, jobs and stages leaves the books balanced. -/
theorem Balanced.of_same (hs : Balanced c s) (hengine : ∃ e, t.engine = some e ∧ e.config = c)
    (hregistry : t.registry = s.registry) (hjobs : t.jobKeys = s.jobKeys)
    (hstarted : t.started = s.started) (hrunning : t.running = s.running ∨ s.jobKeys = [])
    (hstage : ∀ key ∈ s.started, t.stageOf key = s.stageOf key) : Balanced c t := by
  have harmed : t.armed = s.armed := armed_congr hstarted hstage
  refine ⟨hengine, ?_, ?_, ?_, fun hstands => ?_⟩
  · rw [hregistry, hs.registry_eq, harmed]
  · rw [hjobs, hs.jobKeys_eq, harmed]
  · intro key hkey
    rw [hstarted] at hkey
    rw [hstage key hkey]
    exact hs.settled key hkey
  · rw [hjobs]
    -- a timer that is stopped by the change had no jobs to keep
    rcases hrunning with hrunning | hnone
    · exact hs.standing (hrunning ▸ hstands)
    · exact hnone

/-- A registration that the engine drives is struck from all three records. -/
theorem Balanced.of_stop (hs : Balanced c s) (hengine : ∃ e, t.engine = some e ∧ e.config = c)
    (hr : s.registration? k = some r) (ht : t.registrations = s.registrations.set k r.stop)
    (he : t.engine = s.engine.map (fun e => (e.withdraw k).dropJob k)) : Balanced c t := by
  have hstarted : t.started = s.started := started_of_set hr ht rfl
  have hstage : ∀ key, t.stageOf key = if k = key then some .stopped else s.stageOf key :=
    fun key => stageOf_of_set hr ht
  -- registry and jobs lose the same number as the armed ones
  have harmed : t.armed = s.armed.filter (· != k) := by
    rw [armed, hstarted, armed, List.filter_filter]
    refine List.filter_congr (fun key _ => ?_)
    rw [hstage]
    by_cases hk : k = key
    · simp [hk]
    · simp [hk, Ne.symm hk]
  obtain ⟨e, hsome, -⟩ := hs.engine_eq_some
  rw [hsome, Option.map_some] at he
  have hjobKeys : t.jobKeys = s.jobKeys.filter (· != k) := by
    rw [jobKeys_of_engine he, jobKeys_of_engine hsome, List.filter_map]
    rfl
  refine ⟨hengine, ?_, ?_, ?_, fun hstands => ?_⟩
  · rw [registry_of_engine he, harmed, ← hs.registry_eq, registry_of_engine hsome]
    rfl
  · rw [hjobKeys, harmed, ← hs.jobKeys_eq]
  · intro key hkey
    rw [hstarted] at hkey
    rw [hstage]
    split
    · exact .inr rfl
    · exact hs.settled key hkey
  · have hbefore : s.running = false := by
      rw [running_of_engine hsome]
      exact (running_of_engine he).symm.trans hstands
    rw [hjobKeys, hs.standing hbefore, List.filter_nil]

/-- **Every edit keeps the books balanced.** -/
theorem Balanced.edit (hs : Balanced c s) (h : Edit s t) : Balanced c t := by
  have hengine : ∃ e, t.engine = some e ∧ e.config = c := by
    obtain ⟨e, he, hc⟩ := hs.engine_eq_some
    obtain ⟨e', he', hconfig, -⟩ := h.exists_engine he
    exact ⟨e', he', hconfig.trans hc⟩
  have hstarted := h.started_eq
  have hrunning := h.running_eq
  cases h with
  | aside hr he =>
    exact hs.of_same hengine (by rw [registry, he, registry]) (by rw [jobKeys, he, jobKeys])
      hstarted (.inl hrunning) (fun key _ => stageOf_congr hr)
  | @rise k r r' hr hstage _ hrise ht he =>
    refine hs.of_same hengine (by rw [registry, he, registry]) (by rw [jobKeys, he, jobKeys])
      hstarted (.inl hrunning) (fun key hkey => ?_)
    rw [stageOf_of_set hr ht]
    split
    case isFalse => rfl
    case isTrue hk =>
      -- what was started and is not stopped is armed already
      subst hk
      have hold : s.stageOf k = some r.stage := by rw [stageOf, hr, Option.map_some]
      rcases hs.settled k hkey with harmed | hstopped
      · rw [harmed, hrise]
      · rw [hold, Option.some.injEq] at hstopped
        exact absurd hstopped hstage
  | @stop k r hr hstage ht he =>
    by_cases hl : r.listener = .engine
    · rw [if_pos hl] at he
      exact hs.of_stop hengine hr ht he
    · rw [if_neg hl] at he
      refine hs.of_same hengine (by rw [registry, he, registry]) (by rw [jobKeys, he, jobKeys])
        hstarted (.inl hrunning) (fun key hkey => ?_)
      have hk : k ≠ key := by
        rintro rfl
        exact hl ((mem_started_iff hr).mp hkey)
      rw [stageOf_of_set hr ht, if_neg hk]
  | @turn j hr he =>
    obtain ⟨e, hsome, -⟩ := hs.engine_eq_some
    rw [hsome, Option.map_some] at he
    refine hs.of_same hengine ?_ ?_ hstarted (.inl hrunning) (fun key _ => stageOf_congr hr)
    · rw [registry_of_engine he, registry_of_engine hsome]
      rfl
    · rw [jobKeys_of_engine he, jobKeys_of_engine hsome, map_key_replaceJob]

/-- Edits one after the other keep the books balanced. -/
theorem Balanced.edits (hs : Balanced c s) (h : Edits s t) : Balanced c t :=
  h.preserve (fun _ _ he hb => hb.edit he) hs

/-- What is stopped stays so through any edits. -/
theorem Edits.stopped (h : Edits s t) (hs : s.stageOf key = some .stopped) :
    t.stageOf key = some .stopped :=
  h.preserve (fun _ _ he hb => he.stopped hb) hs

theorem Edits.started_eq (h : Edits s t) : t.started = s.started :=
  h.preserve (fun _ _ he hb => he.started_eq.trans hb) rfl

/-- No number of edits closes an engine, or opens one. -/
theorem Edits.closed_eq (h : Edits s t) :
    t.engine.map (·.closed) = s.engine.map (·.closed) :=
  h.preserve (fun _ _ he hb => he.closed_eq.trans hb) rfl

/-- An engine stays the engine that it is. -/
theorem Edits.exists_engine (h : Edits s t) {e : Engine} (he : s.engine = some e) :
    ∃ e', t.engine = some e' ∧ e'.config = e.config ∧ e'.closed = e.closed ∧
      e'.running = e.running := by
  induction h with
  | refl => exact ⟨e, he, rfl, rfl, rfl⟩
  | tail _ hedit ih =>
    obtain ⟨e', he', hconfig, hclosed, hrunning⟩ := ih
    obtain ⟨e'', he'', hconfig', hclosed', hrunning'⟩ := hedit.exists_engine he'
    exact ⟨e'', he'', hconfig'.trans hconfig, hclosed'.trans hclosed, hrunning'.trans hrunning⟩

/-! ## Starts -/

/-- Registrations that are there keep their numbers when others come. -/
theorem registration?_of_append {rs : List Registration}
    (ht : t.registrations = s.registrations ++ rs) (hr : s.registration? key = some r) :
    t.registration? key = some r := by
  have hlt : key < s.registrations.length := (List.getElem?_eq_some_iff.mp hr).1
  rw [registration?, ht, List.getElem?_append_left hlt]
  exact hr

/-- A newcomer has the stage it comes with. -/
theorem stageOf_of_append (ht : t.registrations = s.registrations ++ [r]) :
    t.stageOf key = if key = s.registrations.length then some r.stage else s.stageOf key := by
  rw [stageOf, registration?, ht, List.getElem?_append]
  by_cases hlt : key < s.registrations.length
  · rw [if_pos hlt, if_neg (Nat.ne_of_lt hlt), stageOf, registration?]
  · rw [if_neg hlt]
    by_cases hlast : key = s.registrations.length
    · simp [hlast]
    · -- behind the last one there is nothing, with the newcomer or without
      have hnone : s.registrations[key]? = none := List.getElem?_eq_none (by omega)
      rw [if_neg hlast, List.getElem?_eq_none (by simp; omega), stageOf, registration?, hnone]

/-- One more registration, which the engine drives, is the last that was started. -/
theorem started_of_append (hl : r.listener = .engine)
    (ht : t.registrations = s.registrations ++ [r]) :
    t.started = s.started ++ [s.registrations.length] := by
  -- the listeners of the others are read as before, that of the last is the engine
  have hold : ∀ key ∈ List.range s.registrations.length, t.listenerOf key = s.listenerOf key := by
    intro key hkey
    have hlt := List.mem_range.mp hkey
    simp only [listenerOf, registration?, ht, List.getElem?_append_left hlt]
  have hnew : t.listenerOf s.registrations.length = some .engine := by
    simp [listenerOf, registration?, ht, hl]
  rw [started, ht, List.length_append, List.length_singleton, List.range_succ, List.filter_append,
    started]
  congr 1
  · exact List.filter_congr (fun key hkey => by rw [hold key hkey])
  · simp [hnew]

/-- A newcomer that an engine listens to is started last. -/
theorem started_of_newcomer
    (ht : t.registrations = s.registrations ++ [s.newcomer schedule script]) :
    t.started = s.started ++ [s.registrations.length] :=
  started_of_append rfl ht

/-- And it is armed, behind those that were armed before. -/
theorem armed_of_newcomer
    (ht : t.registrations = s.registrations ++ [s.newcomer schedule script]) :
    t.armed = s.armed ++ [s.registrations.length] := by
  have hold : ∀ key ∈ s.started, t.stageOf key = s.stageOf key := by
    intro key hkey
    rw [stageOf_of_append ht, if_neg (Nat.ne_of_lt (lt_of_mem_started hkey))]
  have hnew : t.stageOf s.registrations.length = some .armed := by
    rw [stageOf_of_append ht, if_pos rfl, newcomer]
  rw [armed, started_of_newcomer ht, List.filter_append, armed]
  congr 1
  · exact List.filter_congr (fun key hkey => by rw [hold key hkey])
  · simp [hnew]

/-- A start that succeeds enters the newcomer in all three records. -/
theorem Balanced.of_start {e : Engine} {jobs : List Job} (hs : Balanced c s)
    (he : s.engine = some e)
    (ht : t.registrations = s.registrations ++ [s.newcomer schedule script])
    (hjobs : jobs.map (·.key) = e.jobs.map (·.key) ++ [s.registrations.length])
    (hengine : t.engine = some { e.enroll s.registrations.length with running := true, jobs }) :
    Balanced c t := by
  obtain ⟨e', he', hc⟩ := hs.engine_eq_some
  obtain rfl := Option.some.inj (he.symm.trans he')
  refine ⟨⟨_, hengine, hc⟩, ?_, ?_, ?_, fun hstands => ?_⟩
  · rw [armed_of_newcomer ht, ← hs.registry_eq, registry_of_engine hengine, registry_of_engine he]
    rfl
  · -- the job bears the newcomer's number
    rw [armed_of_newcomer ht, ← hs.jobKeys_eq, jobKeys_of_engine hengine, jobKeys_of_engine he,
      hjobs]
  · intro key hkey
    rw [started_of_newcomer ht, List.mem_append, List.mem_singleton] at hkey
    rcases hkey with hkey | rfl
    · rw [stageOf_of_append ht, if_neg (Nat.ne_of_lt (lt_of_mem_started hkey))]
      exact hs.settled key hkey
    · exact .inl (by rw [stageOf_of_append ht, if_pos rfl, newcomer])
  · rw [running_of_engine hengine] at hstands
    -- a timer that has been started does not stand
    cases hstands

end Session

end Cadence
