/-
What starting a registration does.

A start is refused before anything is done, or it puts a new armed registration on the
registry and then asks the timer for a run of it. There three things can go wrong. The job
does not come about: the interval is no length of time, the first run lies beyond the
years, the schedule has no cron text. The timer runs and cannot set the job's next run. Or
the timer stands and cannot be started, because it cannot set the run of one of the jobs
that wait, the new one among them. `starts_of_open` says what is there behind a start in
each case.

Each of the three leaves the registration behind, armed; the first two without a job, the
last with one that waits. So a start that fails leaves the session as it was exactly when it
was refused (`start_failed_iff`).
-/
import Cadence.Proofs.Sequencing
import Cadence.Session.Drive

set_option autoImplicit false

namespace Cadence

open Cadence.Config (EngineConfig)

/-! ## Jobs -/

namespace Job

/-- The next run of a job can be set. -/
def Settable (j : Job) : Prop := ∃ j', j.schedule = .ok j'

/-- A next run can be set when there is an instant of universal time for it. -/
theorem settable_iff {j : Job} : j.Settable ↔ ∃ utc, firstRun j.zone j.first = .ok utc := by
  simp only [Settable, schedule, map_eq_ok_iff]
  constructor
  · rintro ⟨_, utc, hutc, -⟩
    exact ⟨utc, hutc⟩
  · rintro ⟨utc, hutc⟩
    exact ⟨_, utc, hutc, rfl⟩

theorem key_of_schedule {j j' : Job} (h : j.schedule = .ok j') : j'.key = j.key := by
  rw [schedule, map_eq_ok_iff] at h
  obtain ⟨utc, -, rfl⟩ := h
  rfl

/-- Setting next runs leaves the numbers of the jobs. -/
theorem keys_of_schedule {jobs jobs' : List Job}
    (h : List.Forall₂ (fun j j' => schedule j = .ok j') jobs jobs') :
    jobs'.map (·.key) = jobs.map (·.key) := by
  induction h with
  | nil => rfl
  | cons hjob _ ih => rw [List.map_cons, List.map_cons, key_of_schedule hjob, ih]

end Job

namespace Engine

variable {c : EngineConfig} {now : Moment} {key : Nat} {schedule : Schedule} {job : Job}
  {e e' : Engine}

/-- An engine can time jobs from now on: its interval is a length of time, and the first
run lies within the years, on the wall of its zone and in universal time. -/
def Accepts (c : EngineConfig) (now : Moment) : Prop :=
  ∃ micros zone first, trigger c now = .ok (micros, zone, first) ∧
    ∃ utc, Job.firstRun zone first = .ok utc

/-- The timer runs, or it could set all the jobs that wait. -/
def Ready (e : Engine) : Prop := e.running = false → ∀ j ∈ e.jobs, j.Settable

/-- A job has the number of its registration. -/
theorem key_of_jobFor (h : jobFor c now key schedule = .ok job) : job.key = key := by
  simp only [jobFor, bind_eq_ok_iff, pure_eq_ok_iff] at h
  obtain ⟨_, -, _, -, rfl⟩ := h
  rfl

/-- A job comes about and can be set when the engine can time it and the schedule has a
text. -/
theorem exists_settable_jobFor_iff :
    (∃ job, jobFor c now key schedule = .ok job ∧ job.Settable) ↔
      Accepts c now ∧ ∃ text, schedule.cron = .ok text := by
  simp only [jobFor, bind_eq_ok_iff, pure_eq_ok_iff, Accepts, Job.settable_iff]
  constructor
  · rintro ⟨_, ⟨⟨micros, zone, first⟩, htrigger, text, htext, rfl⟩, hrun⟩
    exact ⟨⟨micros, zone, first, htrigger, hrun⟩, text, htext⟩
  · rintro ⟨⟨micros, zone, first, htrigger, hrun⟩, text, htext⟩
    exact ⟨_, ⟨_, htrigger, text, htext, rfl⟩, hrun⟩

/-- What the timer holds is the job, or the job with its next run. -/
theorem exists_of_addJob (h : e.addJob job = .ok e') :
    ∃ job', job'.key = job.key ∧ e' = { e with jobs := e.jobs ++ [job'] } := by
  rw [addJob] at h
  split at h
  · obtain ⟨job', hjob', h⟩ := bind_eq_ok_iff.mp h
    exact ⟨job', Job.key_of_schedule hjob', (pure_eq_ok_iff.mp h).symm⟩
  · exact ⟨job, rfl, (pure_eq_ok_iff.mp h).symm⟩

/-- A timer that stands takes a job as it is and sets nothing. -/
theorem addJob_of_standing (hstands : e.running = false) (job : Job) :
    e.addJob job = .ok { e with jobs := e.jobs ++ [job] } := by
  simp [addJob, hstands, bind, Except.bind, pure, Except.pure]

/-- One that runs takes a job whose next run can be set. -/
theorem exists_addJob_iff (hruns : e.running = true) :
    (∃ e', e.addJob job = .ok e') ↔ job.Settable := by
  simp only [addJob, hruns, if_true, bind_eq_ok_iff, pure_eq_ok_iff, Job.Settable]
  constructor
  · rintro ⟨_, job', h, -⟩
    exact ⟨job', h⟩
  · rintro ⟨job', h⟩
    exact ⟨_, job', h, rfl⟩

/-- A timer that is started, or ran, holds the same jobs as before. -/
theorem exists_of_launch (h : e.launch = .ok e') :
    ∃ jobs, jobs.map (·.key) = e.jobs.map (·.key) ∧ e' = { e with running := true, jobs } := by
  rw [launch] at h
  split at h
  case isTrue hruns =>
    cases h
    exact ⟨e.jobs, rfl, by rw [← hruns]⟩
  case isFalse =>
    obtain ⟨jobs, hjobs, rfl⟩ := map_eq_ok_iff.mp h
    exact ⟨jobs, Job.keys_of_schedule (mapM_eq_ok_iff.mp hjobs), rfl⟩

/-- A timer that runs is not started again. -/
theorem launch_of_running (hruns : e.running = true) : e.launch = .ok e := by
  rw [launch, if_pos hruns]

/-- A timer can be started when it runs already, or can set the next runs of all its jobs. -/
theorem exists_launch_iff : (∃ e', e.launch = .ok e') ↔ e.Ready := by
  rw [launch, Ready]
  cases e.running with
  | true => simp
  | false =>
    simp only [Bool.false_eq_true, if_false, map_eq_ok_iff, forall_const, Job.Settable]
    rw [← exists_mapM_eq_ok_iff]
    constructor
    · rintro ⟨_, jobs, h, -⟩
      exact ⟨jobs, h⟩
    · rintro ⟨jobs, h⟩
      exact ⟨_, jobs, h, rfl⟩

end Engine

namespace Session

variable {s t : Session} {schedule : Schedule} {callback : Callback} {script : Script}
  {e : Engine} {f : Fault}

/-! ## Starts -/

/-- The registration that a start makes. -/
def newcomer (s : Session) (schedule : Schedule) (script : Script) : Registration :=
  { id := madeId s.registrations.length, schedule, script, listener := .engine, stage := .armed }

/-- The session with the newcomer on the registry, before its job is asked for. -/
def enrolled (s : Session) (schedule : Schedule) (script : Script) : Session :=
  { s with
    registrations := s.registrations ++ [s.newcomer schedule script]
    engine := s.engine.map (Engine.enroll s.registrations.length) }

/-- A start that is refused: there is no open engine, or the callback cannot be called. -/
def Refuses (s : Session) (callback : Callback) : Prop :=
  (∀ e, s.engine = some e → e.closed = true) ∨ ∀ script, callback ≠ .script script

/-- A start that is refused leaves everything, and has a fault. -/
theorem start_of_refuses (schedule : Schedule) (h : s.Refuses callback) :
    ∃ f, s.start schedule callback = (s, .error f) := by
  unfold start
  cases hopen : s.requireOpen with
  | error f => exact ⟨f, rfl⟩
  | ok c =>
    rcases h with h | h
    -- a closed engine is refused first
    · exfalso
      rw [requireOpen] at hopen
      cases he : s.engine with
      | none => simp [he] at hopen
      | some e => simp [he, Engine.requireOpen, h e he, Except.map] at hopen
    · cases callback with
      | script script => exact absurd rfl (h script)
      | value v => exact ⟨_, rfl⟩

/-- Behind the registry and the arming the newcomer stands armed at the end of both lists. -/
theorem arm_enroll_create (s : Session) (schedule : Schedule) (script : Script) :
    (enroll s.registrations.length
      (s.create none schedule (.script script) .engine).1).arm s.registrations.length
      = (s.enrolled schedule script, .ok ()) := by
  simp [create, Callback.require, enroll, mapEngine, arm, registration?, Registration.arm, modify,
    List.modify_eq_set, enrolled, newcomer]

/-- Launching touches the timer and the log, and only when it succeeds. -/
theorem launch_cases (hengine : s.engine = some e) : match e.launch with
    | .error f => s.launch = (s, .error f)
    | .ok e' => ∃ t, s.launch = (t, .ok ()) ∧ t.registrations = s.registrations ∧
      t.engine = some e' ∧ t.present = s.present ∧ t.clock = s.clock := by
  unfold launch
  cases hruns : e.running with
  | true => simp [hengine, hruns, Engine.launch_of_running hruns]
  | false =>
    simp only [hengine, Option.map_some, hruns, Option.getD_some, Bool.false_eq_true, if_false,
      tryEngine]
    cases e.launch with
    | error f => rfl
    | ok e' => exact ⟨_, rfl, rfl, rfl, rfl, rfl⟩

/-- How a start ends that is not refused, on an engine that holds `e`. The newcomer has the
number that is the next. -/
inductive Starts (s : Session) (schedule : Schedule) (script : Script) (e : Engine) :
    Outcome Nat → Prop
  /-- no job comes about -/
  | timeless {f : Fault} :
    Engine.jobFor e.config s.present s.registrations.length schedule = .error f →
    Starts s schedule script e (s.enrolled schedule script, .error f)
  /-- the timer runs and cannot set the job -/
  | unset {job : Job} {f : Fault} :
    Engine.jobFor e.config s.present s.registrations.length schedule = .ok job →
    e.running = true → (e.enroll s.registrations.length).addJob job = .error f →
    Starts s schedule script e (s.enrolled schedule script, .error f)
  /-- the timer cannot be started -/
  | standing {job : Job} {e' : Engine} {f : Fault} :
    Engine.jobFor e.config s.present s.registrations.length schedule = .ok job →
    (e.enroll s.registrations.length).addJob job = .ok e' → e'.launch = .error f →
    Starts s schedule script e ({ s.enrolled schedule script with engine := some e' }, .error f)
  | started {job : Job} {e' e'' : Engine} {t : Session} :
    Engine.jobFor e.config s.present s.registrations.length schedule = .ok job →
    (e.enroll s.registrations.length).addJob job = .ok e' → e'.launch = .ok e'' →
    t.registrations = s.registrations ++ [s.newcomer schedule script] → t.engine = some e'' →
    t.present = s.present → t.clock = s.clock →
    Starts s schedule script e (t, .ok s.registrations.length)

/-- **What becomes of a start that is not refused** hangs on the job and on the timer. -/
theorem starts_of_open (schedule : Schedule) (script : Script) (hengine : s.engine = some e)
    (hopen : e.closed = false) :
    Starts s schedule script e (s.start schedule (.script script)) := by
  have hrequire : s.requireOpen = .ok e.config := by
    simp [requireOpen, hengine, Engine.requireOpen, hopen, Except.map]
  -- up to the job nothing can fail: the newcomer is made, enrolled and armed
  have harm := arm_enroll_create s schedule script
  have hcreate : s.create none schedule (.script script) .engine
      = ((s.create none schedule (.script script) .engine).1, .ok s.registrations.length) := rfl
  have hpresent : (s.enrolled schedule script).present = s.present := rfl
  have hafter : (s.enrolled schedule script).engine = some (e.enroll s.registrations.length) := by
    rw [enrolled, hengine, Option.map_some]
  rw [start, hrequire]
  simp only
  rw [hcreate]
  simp only [harm]
  rw [addJob, hpresent]
  cases hjob : Engine.jobFor e.config s.present s.registrations.length schedule with
  | error f => exact .timeless hjob
  | ok job =>
    simp only [tryEngine, hafter]
    cases hadd : (e.enroll s.registrations.length).addJob job with
    | error f =>
      refine .unset hjob ?_ hadd
      by_contra hstands
      rw [Bool.not_eq_true] at hstands
      rw [Engine.addJob_of_standing (e := e.enroll _) hstands] at hadd
      cases hadd
    | ok e' =>
      have hlaunch := launch_cases (s := { s.enrolled schedule script with engine := some e' }) rfl
      cases hl : e'.launch with
      | error f =>
        rw [hl] at hlaunch
        simp only [hlaunch]
        exact .standing hjob hadd hl
      | ok e'' =>
        rw [hl] at hlaunch
        obtain ⟨t, ht, hregistrations, hengine', hpresent', hclock⟩ := hlaunch
        simp only [ht]
        exact .started hjob hadd hl hregistrations hengine' hpresent' hclock

/-- A start that is not refused finds an open engine and has something to call. -/
theorem exists_of_not_refuses (h : ¬ s.Refuses callback) :
    ∃ e script, s.engine = some e ∧ e.closed = false ∧ callback = .script script := by
  rw [Refuses, not_or] at h
  push Not at h
  obtain ⟨⟨e, hengine, hopen⟩, script, hscript⟩ := h
  exact ⟨e, script, hengine, Bool.eq_false_iff.mpr hopen, hscript⟩

/-- The job of a newcomer can be added and the timer started when the job can be set and the
timer runs, or could be started without it. -/
theorem exists_launch_addJob_iff {job : Job} {n : Nat} :
    (∃ e' e'', (e.enroll n).addJob job = .ok e' ∧ e'.launch = .ok e'') ↔
      job.Settable ∧ e.Ready := by
  cases hruns : e.running with
  | true =>
    have hready : e.Ready := fun hstands => by simp [hruns] at hstands
    have hadd : (∃ e', (e.enroll n).addJob job = .ok e') ↔ job.Settable :=
      Engine.exists_addJob_iff hruns
    simp only [hready, and_true, ← hadd]
    constructor
    · rintro ⟨e', e'', h, -⟩
      exact ⟨e', h⟩
    · rintro ⟨e', h⟩
      obtain ⟨job', -, rfl⟩ := Engine.exists_of_addJob h
      exact ⟨_, _, h, Engine.launch_of_running hruns⟩
  | false =>
    have hadd := Engine.addJob_of_standing (e := e.enroll n) hruns job
    -- the new job waits with the others
    have hready : ({ e.enroll n with jobs := e.jobs ++ [job] } : Engine).Ready ↔
        job.Settable ∧ e.Ready := by
      simp only [Engine.Ready, Engine.enroll, hruns, forall_const, List.forall_mem_append,
        List.forall_mem_singleton, and_comm]
    rw [← hready, ← Engine.exists_launch_iff]
    constructor
    · rintro ⟨e', e'', h, hlaunch⟩
      cases hadd.symm.trans h
      exact ⟨e'', hlaunch⟩
    · rintro ⟨e'', hlaunch⟩
      exact ⟨_, e'', hadd, hlaunch⟩

/-- **When a start succeeds**: the engine is open and can time the job, its timer runs or can
be started, the callback can be called, and the schedule has a text. -/
theorem start_succeeds_iff : (∃ t key, s.start schedule callback = (t, .ok key)) ↔
    ¬ s.Refuses callback ∧
      (∃ e, s.engine = some e ∧ Engine.Accepts e.config s.present ∧ e.Ready) ∧
      ∃ text, schedule.cron = .ok text := by
  by_cases hrefuses : s.Refuses callback
  · obtain ⟨f, hf⟩ := start_of_refuses schedule hrefuses
    simp [hf, hrefuses]
  · obtain ⟨e, script, hengine, hopen, rfl⟩ := exists_of_not_refuses hrefuses
    have hjob : (∃ job, Engine.jobFor e.config s.present s.registrations.length schedule = .ok job ∧
        job.Settable) ↔ _ := Engine.exists_settable_jobFor_iff
    have hlaunch : ∀ job, (∃ e' e'', (e.enroll s.registrations.length).addJob job = .ok e' ∧
        e'.launch = .ok e'') ↔ job.Settable ∧ e.Ready := fun job => exists_launch_addJob_iff
    -- that there is a job, that it can be set and that the timer can go on are conditions on the
    -- state
    have hright : (¬ s.Refuses (.script script) ∧
        (∃ e, s.engine = some e ∧ Engine.Accepts e.config s.present ∧ e.Ready) ∧
        ∃ text, schedule.cron = .ok text) ↔
        ∃ job, Engine.jobFor e.config s.present s.registrations.length schedule = .ok job ∧
          ∃ e' e'', (e.enroll s.registrations.length).addJob job = .ok e' ∧
            e'.launch = .ok e'' := by
      simp only [hlaunch, ← and_assoc, exists_and_right, hjob]
      constructor
      · rintro ⟨⟨-, e', ⟨he', haccepts⟩, hready⟩, htext⟩
        obtain rfl := Option.some.inj (hengine.symm.trans he')
        exact ⟨⟨haccepts, htext⟩, hready⟩
      · rintro ⟨⟨haccepts, htext⟩, hready⟩
        exact ⟨⟨hrefuses, e, ⟨hengine, haccepts⟩, hready⟩, htext⟩
    rw [hright]
    have hstart := starts_of_open schedule script hengine hopen
    generalize s.start schedule (.script script) = outcome at hstart
    cases hstart with
    | timeless hj => simp [hj]
    | unset hj _ hadd => simp [hj, hadd]
    | standing hj hadd hl => simp [hj, hadd, hl]
    | started hj hadd hl => simp [hj, hadd, hl]

/-- Without a job the newcomer is left where the arming has put it. -/
theorem start_of_jobFor_error (hengine : s.engine = some e) (hopen : e.closed = false)
    (hjob : Engine.jobFor e.config s.present s.registrations.length schedule = .error f) :
    s.start schedule (.script script) = (s.enrolled schedule script, .error f) := by
  have hstart := starts_of_open schedule script hengine hopen
  generalize s.start schedule (.script script) = outcome at hstart ⊢
  cases hstart with
  | timeless hj =>
    rw [hjob] at hj
    cases hj
    rfl
  | unset hj | standing hj | started hj =>
    rw [hjob] at hj
    cases hj

/-- A closed engine says that it was shut down. -/
theorem start_of_closed {e : Engine} (hengine : s.engine = some e) (hclosed : e.closed = true) :
    s.start schedule callback = (s, .error (.state .shutDown)) := by
  have hrequire : s.requireOpen = .error (.state .shutDown) := by
    simp [requireOpen, hengine, Engine.requireOpen, hclosed, Except.map]
  rw [start, hrequire]

/-- Whatever comes of a start, it neither opens nor closes an engine. -/
theorem closed_start (s : Session) (schedule : Schedule) (callback : Callback) :
    (s.start schedule callback).1.engine.map (·.closed) = s.engine.map (·.closed) := by
  by_cases hrefuses : s.Refuses callback
  · obtain ⟨f, hf⟩ := start_of_refuses schedule hrefuses
    rw [hf]
  · obtain ⟨e, script, hengine, hopen, rfl⟩ := exists_of_not_refuses hrefuses
    have hstart := starts_of_open schedule script hengine hopen
    have henrolled : (s.enrolled schedule script).engine.map (·.closed)
        = s.engine.map (·.closed) := by
      rw [enrolled, Option.map_map]
      rfl
    generalize s.start schedule (.script script) = outcome at hstart
    cases hstart with
    | timeless | unset => exact henrolled
    | standing _ hadd =>
      obtain ⟨job', -, rfl⟩ := Engine.exists_of_addJob hadd
      rw [hengine]
      rfl
    | started _ hadd hlaunch _ hengine' =>
      obtain ⟨job', -, rfl⟩ := Engine.exists_of_addJob hadd
      obtain ⟨jobs, -, rfl⟩ := Engine.exists_of_launch hlaunch
      rw [hengine', hengine]
      rfl

/-- Whatever comes of a start, the registrations that are there stay as they are. -/
theorem exists_registrations_start (s : Session) (schedule : Schedule) (callback : Callback) :
    ∃ rs, (s.start schedule callback).1.registrations = s.registrations ++ rs := by
  by_cases hrefuses : s.Refuses callback
  · obtain ⟨f, hf⟩ := start_of_refuses schedule hrefuses
    exact ⟨[], by rw [hf, List.append_nil]⟩
  · obtain ⟨e, script, hengine, hopen, rfl⟩ := exists_of_not_refuses hrefuses
    refine ⟨[s.newcomer schedule script], ?_⟩
    have hstart := starts_of_open schedule script hengine hopen
    generalize s.start schedule (.script script) = outcome at hstart
    cases hstart with
    | timeless | unset | standing => rfl
    | started _ _ _ hregistrations => exact hregistrations

/-- A start that can be met, on an open engine that is ready, gives out the next number; the
newcomer has its job, and the timer runs. -/
theorem start_of_accepts (script : Script) (hengine : s.engine = some e)
    (hopen : e.closed = false) (haccepts : Engine.Accepts e.config s.present) (hready : e.Ready)
    (htext : ∃ text, schedule.cron = .ok text) :
    ∃ t jobs, s.start schedule (.script script) = (t, .ok s.registrations.length) ∧
      t.registrations = s.registrations ++ [s.newcomer schedule script] ∧
      jobs.map (·.key) = e.jobs.map (·.key) ++ [s.registrations.length] ∧
      t.engine = some { e.enroll s.registrations.length with running := true, jobs } := by
  have hnone : ¬ s.Refuses (.script script) := by
    rintro (hclosed | hscript)
    · simp [hclosed e hengine] at hopen
    · exact hscript script rfl
  obtain ⟨t, key, ht⟩ := start_succeeds_iff.mpr ⟨hnone, ⟨e, hengine, haccepts, hready⟩, htext⟩
  have hstart := starts_of_open schedule script hengine hopen
  rw [ht] at hstart
  -- a start that succeeds has gone all the way
  cases hstart with
  | started hjob hadd hlaunch hregistrations hengine' =>
    obtain ⟨job', hkey, rfl⟩ := Engine.exists_of_addJob hadd
    obtain ⟨jobs, hkeys, rfl⟩ := Engine.exists_of_launch hlaunch
    refine ⟨t, jobs, ht, hregistrations, ?_, hengine'⟩
    rw [hkeys, List.map_append, List.map_singleton, hkey, Engine.key_of_jobFor hjob]
    rfl

/-! ## Starts that fail -/

/-- Behind a failed operation an engine is as it was: the same numbers on the registry,
the same jobs, its timer running or not as before; and no registration that the operation
made is left armed. -/
structure Unscathed (s t : Session) : Prop where
  registry : t.registry = s.registry
  jobs : t.engine.map (·.jobs) = s.engine.map (·.jobs)
  running : t.engine.map (·.running) = s.engine.map (·.running)
  unarmed : ∀ key r, s.registration? key = none → t.registration? key = some r →
    r.stage ≠ .armed

/-- Nothing has changed where nothing was done. -/
theorem Unscathed.refl (s : Session) : Unscathed s s where
  registry := rfl
  jobs := rfl
  running := rfl
  unarmed key r hnone hr := by
    rw [hnone] at hr
    cases hr

/-- What a start that was not refused leaves behind when it fails. The newcomer is on the
registry, armed. Its job is there, waiting, if it came about and the timer stands; the other
jobs stay. -/
inductive Leaves (s : Session) (schedule : Schedule) (script : Script) : Session → Prop
  | jobless : (∀ e job, s.engine = some e →
      Engine.jobFor e.config s.present s.registrations.length schedule = .ok job →
      e.running = true) → Leaves s schedule script (s.enrolled schedule script)
  | waiting {e : Engine} {job : Job} : s.engine = some e → e.running = false →
    Engine.jobFor e.config s.present s.registrations.length schedule = .ok job →
    Leaves s schedule script { s.enrolled schedule script with
      engine := some { e.enroll s.registrations.length with jobs := e.jobs ++ [job] } }

/-- Whatever a failed start leaves, the newcomer is in it. -/
theorem Leaves.registrations (h : Leaves s schedule script t) :
    t.registrations = s.registrations ++ [s.newcomer schedule script] := by
  cases h with
  | jobless | waiting => rfl

/-- It is on the registry too, behind those that were there. -/
theorem Leaves.registry (h : Leaves s schedule script t) (hengine : s.engine = some e) :
    t.registry = s.registry ++ [s.registrations.length] := by
  cases h with
  | jobless => simp [Session.registry, enrolled, hengine, Engine.enroll]
  | waiting he =>
    obtain rfl := Option.some.inj (hengine.symm.trans he)
    simp [Session.registry, hengine, Engine.enroll]

/-- The timer is as it was, since it is started last. -/
theorem Leaves.running (h : Leaves s schedule script t) :
    t.engine.map (·.running) = s.engine.map (·.running) := by
  cases h with
  | jobless =>
    rw [enrolled, Option.map_map]
    rfl
  | waiting hengine =>
    rw [hengine]
    rfl

/-- The newcomer on the registry is a change. -/
theorem Leaves.not_unscathed (h : Leaves s schedule script t) : ¬ Unscathed s t := by
  intro hsame
  have hr : t.registration? s.registrations.length = some (s.newcomer schedule script) := by
    rw [registration?, h.registrations]
    exact List.getElem?_concat_length
  exact hsame.unarmed _ _ (List.getElem?_eq_none (Nat.le_refl _)) hr rfl

/-- A start that fails ends in one of the two ways. -/
theorem leaves_of_starts (hengine : s.engine = some e)
    (h : Starts s schedule script e (t, .error f)) : Leaves s schedule script t := by
  cases h with
  | timeless hjob =>
    refine .jobless (fun e' job he' hjob' => ?_)
    obtain rfl := Option.some.inj (hengine.symm.trans he')
    rw [hjob] at hjob'
    cases hjob'
  | unset hjob hruns hadd =>
    refine .jobless (fun e' job he' hjob' => ?_)
    obtain rfl := Option.some.inj (hengine.symm.trans he')
    exact hruns
  | @standing job e' f hjob hadd hlaunch =>
    cases hruns : e.running with
    | true =>
      -- a timer that runs need not be started
      obtain ⟨job', -, rfl⟩ := Engine.exists_of_addJob hadd
      rw [Engine.launch_of_running (by exact hruns)] at hlaunch
      cases hlaunch
    | false =>
      rw [Engine.addJob_of_standing (e := e.enroll _) hruns] at hadd
      cases hadd
      exact .waiting hengine hruns hjob

/-- **A start that fails leaves everything as it was exactly when it was refused.** The timer
runs or stands as before. When the job is what fails, the registration stays behind: its
number is the last on the registry, it is armed, and its job waits if there is one. -/
theorem start_failed_iff (h : s.start schedule callback = (t, .error f)) :
    t.engine.map (·.running) = s.engine.map (·.running) ∧
      (Unscathed s t ↔ s.Refuses callback) ∧
      (s.Refuses callback → t = s) ∧
      (¬ s.Refuses callback → ∃ script, callback = .script script ∧
        t.registry = s.registry ++ [s.registrations.length] ∧ Leaves s schedule script t) := by
  by_cases hrefuses : s.Refuses callback
  · -- refused ahead of any change
    obtain ⟨f', hf⟩ := start_of_refuses schedule hrefuses
    rw [hf] at h
    cases h
    exact ⟨rfl, iff_of_true (.refl s) hrefuses, fun _ => rfl, fun hnone => absurd hrefuses hnone⟩
  · obtain ⟨e, script, hengine, hopen, rfl⟩ := exists_of_not_refuses hrefuses
    have hstart := starts_of_open schedule script hengine hopen
    rw [h] at hstart
    have hleaves := leaves_of_starts hengine hstart
    exact ⟨hleaves.running, iff_of_false hleaves.not_unscathed hrefuses,
      fun hyes => absurd hyes hrefuses, fun _ => ⟨script, rfl, hleaves.registry hengine, hleaves⟩⟩

/-- The timer stands and cannot be started, half a second before the years end: there is a
wall reading for the first run, west of Greenwich, but no instant. The job waits. -/
example :
    let s : Session := { openEngine { timezone := "America/New_York" }
      { clock := ⟨Moment.epoch2026⟩ } with present := ⟨253402300799500000, .fixed 0, false⟩ }
    (s.start .every (.script (fun _ => []))).2.toOption = none ∧
      (s.start .every (.script (fun _ => []))).1.engine.map (fun e => (e.running, e.jobs.length))
        = some (false, 1) := by
  decide +kernel

/-- A tick interval that a configuration may have and that is no length of time: the
start fails, and its registration is left on the registry, armed. -/
theorem start_leaves_newcomer :
    ∃ c t f, EngineConfig.check (.mapping [(.str "tick_interval", .int 100000000000000)]) = .ok c ∧
      let s : Session := openEngine c { clock := ⟨Moment.epoch2026⟩ }
      s.start .every (.script (fun _ => [])) = (t, .error f) ∧ s.registry = [] ∧
        t.registry = [0] ∧ (t.registration? 0).map (·.stage) = some .armed ∧
        ¬ Unscathed s t := by
  have hcheck : EngineConfig.check (.mapping [(.str "tick_interval", .int 100000000000000)])
      = .ok { tickInterval := .ofSigned 100000000000000 1 } := rfl
  -- a tick of that length in days is more than an interval can hold
  have hnone : (Engine.jobFor { tickInterval := .ofSigned 100000000000000 1 } Moment.epoch2026 0
      .every).toOption.isNone = true := by decide +kernel
  obtain ⟨f, hjob⟩ := exists_eq_error_of_isNone hnone
  let s : Session := openEngine { tickInterval := .ofSigned 100000000000000 1 }
    { clock := ⟨Moment.epoch2026⟩ }
  have hstart : s.start .every (.script (fun _ => []))
      = (s.enrolled .every (fun _ => []), .error f) := start_of_jobFor_error rfl rfl hjob
  have hleaves : Leaves s .every (fun _ => []) _ :=
    leaves_of_starts rfl (hstart ▸ starts_of_open .every (fun _ => []) rfl rfl)
  exact ⟨_, _, f, hcheck, hstart, rfl, rfl, rfl, hleaves.not_unscathed⟩

/-- A field that has no text of its own: the schedule cannot be started, on an engine
that is open and with a callback that can be called. -/
theorem start_failed_iff_unspecified :
    let s : Session := openEngine {} { clock := ⟨Moment.epoch2026⟩ }
    let schedule : Schedule := ⟨Sextet.same .unspecified, Zone.utc⟩
    let callback : Callback := .script (fun _ => [])
    ∃ t f, s.start schedule callback = (t, .error f) ∧
      t.engine.map (·.running) = s.engine.map (·.running) ∧
      (Unscathed s t ↔ s.Refuses callback) ∧
      (s.Refuses callback → t = s) ∧
      (¬ s.Refuses callback → ∃ script, callback = .script script ∧
        t.registry = s.registry ++ [s.registrations.length] ∧ Leaves s schedule script t) := by
  intro s schedule callback
  -- a schedule of unspecified fields has no text to name the job by
  have hnone : (Engine.jobFor {} Moment.epoch2026 0 schedule).toOption.isNone = true := by
    decide +kernel
  obtain ⟨f, hjob⟩ := exists_eq_error_of_isNone hnone
  have hstart : s.start schedule callback = (s.enrolled schedule (fun _ => []), .error f) :=
    start_of_jobFor_error rfl rfl hjob
  exact ⟨_, f, hstart, start_failed_iff hstart⟩

end Session

end Cadence
