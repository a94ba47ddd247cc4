/-
What one step of a call does to the books.

The steps that calls are made of do one small thing each (`Stroke`): a registration is
put on the registry, armed, stopped, struck off; a job comes or goes; the timer starts
or stops; the engine closes; the registry is read. For each record of the books there is
one lemma that says what a stroke makes of it, and in terms of the stroke's deed: what
is started, stopped, timed, running or closed behind a stroke was so before, or it is
the deed that made it so.

Hence the records can be read off the deeds (`Ledger`), whoever did them and in
whatever order: a job is there when the deed that added it stands (`Stands`), which is to
say that nothing behind it took the job away.
-/
import Cadence.Proofs.Session.Threads
import Mathlib.Data.List.Nodup

set_option autoImplicit false

namespace Cadence

/-! ## Deeds that stand -/

/-- The deed was done, and nothing that undoes it was done behind it. -/
def Stands (d : Deed) (undoes : Deed → Prop) (deeds : List Deed) : Prop :=
  ∃ before behind, deeds = before ++ d :: behind ∧ ∀ x ∈ behind, ¬ undoes x

/-- A deed stands when it was the last, or stood before and was not undone by the last. -/
theorem stands_append_iff {d : Deed} {undoes : Deed → Prop} {deeds : List Deed} {o : Option Deed} :
    Stands d undoes (deeds ++ o.toList) ↔
      o = some d ∨ Stands d undoes deeds ∧ ∀ x ∈ o, ¬ undoes x := by
  cases o with
  | none => simp
  | some y =>
    simp only [Option.toList_some, Option.some.injEq, Option.mem_def, forall_eq']
    constructor
    · rintro ⟨before, behind, heq, hbehind⟩
      -- the new deed is the last one behind, or it is the one that stands
      rcases List.eq_nil_or_concat behind with rfl | ⟨behind, z, rfl⟩
      · exact .inl (List.singleton_inj.mp (List.append_inj' heq rfl).2)
      · rw [List.concat_eq_append, ← List.cons_append, ← List.append_assoc] at heq
        obtain ⟨rfl, hz⟩ := List.append_inj' heq rfl
        obtain rfl : y = z := List.singleton_inj.mp hz
        rw [List.concat_eq_append, List.forall_mem_append] at hbehind
        exact .inr ⟨⟨before, behind, rfl, hbehind.1⟩, hbehind.2 y (by simp)⟩
    · rintro (rfl | ⟨⟨before, behind, rfl, hbehind⟩, hy⟩)
      · exact ⟨deeds, [], rfl, by simp⟩
      · refine ⟨before, behind ++ [y], by simp, ?_⟩
        rw [List.forall_mem_append]
        exact ⟨hbehind, by simpa using hy⟩

/-- What stands was done. -/
theorem Stands.mem {d : Deed} {undoes : Deed → Prop} {deeds : List Deed}
    (h : Stands d undoes deeds) : d ∈ deeds := by
  obtain ⟨before, behind, rfl, -⟩ := h
  simp

/-- The job of a registration was added, and neither taken away behind that nor lost with
the others. -/
def Timed (key : Nat) (deeds : List Deed) : Prop :=
  Stands (.timed key) (fun d => d = .untimed key ∨ d = .halted) deeds

/-- The timer was started, and not stopped behind that. -/
def Launched (deeds : List Deed) : Prop := Stands .launched (· = .halted) deeds

/-! ## Strokes -/

namespace Session

variable {s t : Session} {d : Option Deed} {k key : Nat} {e : Engine} {r : Registration}
  {deeds : List Deed}

/-- One atomic change of the books, with its deed. -/
inductive Stroke (s t : Session) : Option Deed → Prop
  | aside : t.registrations = s.registrations → t.engine = s.engine → Stroke s t none
  | enroll {r : Registration} : r.listener = .engine → r.stage = .idle →
    t.registrations = s.registrations ++ [r] →
    t.engine = s.engine.map (Engine.enroll s.registrations.length) →
    Stroke s t (some (.enrolled s.registrations.length))
  | arm {k : Nat} {r : Registration} : s.registration? k = some r → r.stage ≠ .stopped →
    t.registrations = s.registrations.set k { r with stage := .armed } → t.engine = s.engine →
    Stroke s t none
  | addJob {job : Job} : job.key ∈ s.started → job.key ∉ s.jobKeys →
    t.registrations = s.registrations →
    t.engine = s.engine.map (fun e => { e with jobs := e.jobs ++ [job] }) →
    Stroke s t (some (.timed job.key))
  /-- the jobs stay, with their next runs -/
  | launch {f : Engine → List Job} : (∀ e, s.engine = some e →
    (f e).map (·.key) = e.jobs.map (·.key)) → t.registrations = s.registrations →
    t.engine = s.engine.map (fun e => { e with running := true, jobs := f e }) →
    Stroke s t (some .launched)
  | look {k : Nat} : t.registrations = s.registrations → t.engine = s.engine →
    Stroke s t (some (.looked k))
  | stop {k : Nat} {r : Registration} : s.registration? k = some r → r.listener = .engine →
    t.registrations = s.registrations.set k r.stop → t.engine = s.engine →
    Stroke s t (some (.stopped k))
  | withdraw {k : Nat} : s.stageOf k = some .stopped → t.registrations = s.registrations →
    t.engine = s.engine.map (Engine.withdraw k) → Stroke s t (some (.withdrawn k))
  | unschedule {k : Nat} : t.registrations = s.registrations →
    t.engine = s.engine.map (Engine.dropJob k) → Stroke s t (some (.untimed k))
  | close : t.registrations = s.registrations → t.engine = s.engine.map Engine.close →
    Stroke s t (some .closed)
  | survey : t.registrations = s.registrations → t.engine = s.engine →
    Stroke s t (some .surveyed)
  | halt : t.registrations = s.registrations → t.engine = s.engine.map Engine.halt →
    Stroke s t (some .halted)

/-- What is said is no part of the books. -/
theorem Stroke.say {level : Config.Level} {text : String} (h : Stroke s t d) :
    Stroke s (t.say level text) d := by
  cases h with
  | aside hr he => exact .aside hr he
  | enroll hl hidle ht he => exact .enroll hl hidle ht he
  | arm hr hstage ht he => exact .arm hr hstage ht he
  | addJob hstarted hnone hr he => exact .addJob hstarted hnone hr he
  | launch hkeys hr he => exact .launch hkeys hr he
  | look hr he => exact .look hr he
  | stop hr hl ht he => exact .stop hr hl ht he
  | withdraw hstopped hr he => exact .withdraw hstopped hr he
  | unschedule hr he => exact .unschedule hr he
  | close hr he => exact .close hr he
  | survey hr he => exact .survey hr he
  | halt hr he => exact .halt hr he

/-! ## Records behind a stroke -/

theorem engine_eq_of_map {f : Engine → Engine} (ht : t.engine = s.engine.map f)
    (he : s.engine = some e) : t.engine = some (f e) := by
  rw [ht, he, Option.map_some]

/-- The records of an engine behind a deed: what is in them was there before and is not
what the deed takes away, or it is what the deed brings. -/
structure Recorded (e e' : Engine) (d : Option Deed) : Prop where
  closed_iff : e'.closed = true ↔ d = some .closed ∨ e.closed = true
  running_iff : e'.running = true ↔ d = some .launched ∨ e.running = true ∧ d ≠ some .halted
  mem_registry_iff : ∀ k, k ∈ e'.registry ↔
    d = some (.enrolled k) ∨ k ∈ e.registry ∧ d ≠ some (.withdrawn k)
  mem_jobs_iff : ∀ k, k ∈ e'.jobs.map (·.key) ↔
    d = some (.timed k) ∨
      k ∈ e.jobs.map (·.key) ∧ ¬ (d = some (.untimed k) ∨ d = some .halted)

/-- Where no deed was done the record says nothing. -/
theorem Recorded.refl (e : Engine) : Recorded e e none := by
  constructor <;> simp

/-- Behind a stroke the engine is what the deed has made of it. -/
theorem Stroke.exists_recorded (h : Stroke s t d) (he : s.engine = some e) :
    ∃ e', t.engine = some e' ∧ Recorded e e' d := by
  cases h with
  | aside _ ht | arm _ _ _ ht => exact ⟨e, ht.trans he, .refl e⟩
  | stop _ _ _ ht | look _ ht | survey _ ht => exact ⟨e, ht.trans he, by constructor <;> simp⟩
  | enroll _ _ _ ht =>
    refine ⟨_, engine_eq_of_map ht he, ?_⟩
    constructor
    case mem_registry_iff => intro k; simp [Engine.enroll, or_comm, @eq_comm _ k]
    all_goals simp [Engine.enroll]
  | addJob _ _ _ ht =>
    refine ⟨_, engine_eq_of_map ht he, ?_⟩
    constructor
    case mem_jobs_iff => intro k; simp [or_comm, @eq_comm _ k]
    all_goals simp
  | withdraw _ _ ht =>
    refine ⟨_, engine_eq_of_map ht he, ?_⟩
    constructor
    case mem_registry_iff => intro k; simp [Engine.withdraw, @eq_comm _ k]
    all_goals simp [Engine.withdraw]
  | @unschedule j _ ht =>
    refine ⟨_, engine_eq_of_map ht he, ?_⟩
    constructor
    -- a job that is dropped goes with its number
    case mem_jobs_iff =>
      intro k
      have hfilter : (e.dropJob j).jobs.map (·.key) = (e.jobs.map (·.key)).filter (· != j) := by
        rw [List.filter_map]
        rfl
      simp [hfilter, List.mem_filter, -List.mem_map, @eq_comm _ k]
    all_goals simp [Engine.dropJob]
  | launch hkeys _ ht =>
    refine ⟨_, engine_eq_of_map ht he, ?_⟩
    constructor
    case mem_jobs_iff => intro k; simp [hkeys e he, -List.mem_map]
    all_goals simp
  | close _ ht => exact ⟨_, engine_eq_of_map ht he, by constructor <;> simp [Engine.close]⟩
  | halt _ ht => exact ⟨_, engine_eq_of_map ht he, by constructor <;> simp [Engine.halt]⟩

/-- The timer runs when it was launched just now, or ran and was not halted. -/
theorem Stroke.running_iff (h : Stroke s t d) (he : s.engine = some e) :
    t.running = true ↔ d = some .launched ∨ s.running = true ∧ d ≠ some .halted := by
  obtain ⟨e', he', hrecorded⟩ := h.exists_recorded he
  rw [running_of_engine he', running_of_engine he]
  exact hrecorded.running_iff

/-- A number is on the registry when it came there just now, or was there and was not taken away. -/
theorem Stroke.mem_registry_iff (h : Stroke s t d) (he : s.engine = some e) :
    k ∈ t.registry ↔ d = some (.enrolled k) ∨ k ∈ s.registry ∧ d ≠ some (.withdrawn k) := by
  obtain ⟨e', he', hrecorded⟩ := h.exists_recorded he
  rw [registry_of_engine he', registry_of_engine he]
  exact hrecorded.mem_registry_iff k

/-- A number has a job when it was given one just now, or had one and was not robbed of it. -/
theorem Stroke.mem_jobKeys_iff (h : Stroke s t d) (he : s.engine = some e) :
    k ∈ t.jobKeys ↔ d = some (.timed k) ∨
      k ∈ s.jobKeys ∧ ¬ (d = some (.untimed k) ∨ d = some .halted) := by
  obtain ⟨e', he', hrecorded⟩ := h.exists_recorded he
  rw [jobKeys_of_engine he', jobKeys_of_engine he]
  exact hrecorded.mem_jobs_iff k

/-! ## Registrations behind a stroke -/

/-- What was started stays so. -/
theorem Stroke.mem_started_iff (h : Stroke s t d) :
    k ∈ t.started ↔ d = some (.enrolled k) ∨ k ∈ s.started := by
  cases h with
  | aside hr _ | addJob _ _ hr _ | launch _ hr _ | look hr _ | withdraw _ hr _ | unschedule hr _
  | close hr _ | survey hr _ | halt hr _ => simp [started_congr hr]
  | arm hr _ ht _ | stop hr _ ht _ => simp [started_of_set hr ht rfl]
  | enroll hl _ ht _ => simp [started_of_append hl ht, or_comm, @eq_comm _ k]

/-- What is stopped behind a stroke was so before, unless it is the stroke's deed. -/
theorem Stroke.stopped_iff (h : Stroke s t d) :
    t.stageOf k = some .stopped ↔ d = some (.stopped k) ∨ s.stageOf k = some .stopped := by
  cases h with
  | aside hr _ | addJob _ _ hr _ | launch _ hr _ | look hr _ | withdraw _ hr _ | unschedule hr _
  | close hr _ | survey hr _ | halt hr _ => simp [stageOf_congr hr]
  | enroll _ hidle ht _ =>
    rw [stageOf_of_append ht]
    by_cases hlast : k = s.registrations.length
    · simp [hlast, hidle, stageOf, registration?]
    · simp [hlast]
  | @arm j r hr hstage ht _ =>
    rw [stageOf_of_set hr ht]
    by_cases hj : j = k
    · subst hj
      simp [stageOf, hr, hstage]
    · simp [hj]
  | @stop j r hr _ ht _ =>
    rw [stageOf_of_set hr ht]
    by_cases hj : j = k
    · simp [hj, Registration.stop]
    · simp [hj]

/-- A stroke makes nothing idle but what it puts on the registry. -/
theorem Stroke.idle (h : Stroke s t d) (hk : t.stageOf k = some .idle) :
    d = some (.enrolled k) ∨ s.stageOf k = some .idle := by
  cases h with
  | aside hr _ | addJob _ _ hr _ | launch _ hr _ | look hr _ | withdraw _ hr _ | unschedule hr _
  | close hr _ | survey hr _ | halt hr _ => exact .inr (by rwa [stageOf_congr hr] at hk)
  | enroll _ _ ht _ =>
    rw [stageOf_of_append ht] at hk
    by_cases hlast : k = s.registrations.length
    · simp [hlast]
    · exact .inr (by rwa [if_neg hlast] at hk)
  | @arm j r hr hstage ht _ =>
    rw [stageOf_of_set hr ht] at hk
    split at hk
    case isTrue => simp at hk
    case isFalse => exact .inr hk
  | @stop j r hr _ ht _ =>
    rw [stageOf_of_set hr ht] at hk
    split at hk
    case isTrue => simp [Registration.stop] at hk
    case isFalse => exact .inr hk

/-! ## The ledger -/

/-- The books are what the deeds say: what is started, stopped and timed, and whether the
timer runs. What is started and not stopped is on the registry. -/
structure Ledger (s : Session) (deeds : List Deed) : Prop where
  engine : ∃ e, s.engine = some e ∧ (e.closed = true ↔ .closed ∈ deeds)
  started_iff : ∀ k, k ∈ s.started ↔ .enrolled k ∈ deeds
  stopped_iff : ∀ k, (k ∈ s.started ∧ s.stageOf k = some .stopped) ↔ .stopped k ∈ deeds
  jobKeys_iff : ∀ k, k ∈ s.jobKeys ↔ Timed k deeds
  running_iff : s.running = true ↔ Launched deeds
  registry_subset : ∀ k ∈ s.registry, k ∈ s.started
  mem_registry : ∀ k ∈ s.started, s.stageOf k ≠ some .stopped → k ∈ s.registry
  jobKeys_subset : ∀ k ∈ s.jobKeys, k ∈ s.started
  nodup_registry : s.registry.Nodup
  nodup_jobKeys : s.jobKeys.Nodup

/-- No number comes twice onto the registry, or among the jobs. -/
theorem Stroke.nodup (h : Stroke s t d) (hs : Ledger s deeds) :
    t.registry.Nodup ∧ t.jobKeys.Nodup := by
  obtain ⟨e, he, -⟩ := hs.engine
  have hregistry : e.registry.Nodup := registry_of_engine he ▸ hs.nodup_registry
  have hjobs : (e.jobs.map (·.key)).Nodup := jobKeys_of_engine he ▸ hs.nodup_jobKeys
  suffices hsuff : ∃ e', t.engine = some e' ∧ e'.registry.Nodup ∧ (e'.jobs.map (·.key)).Nodup by
    obtain ⟨e', he', hregistry', hjobs'⟩ := hsuff
    rw [registry_of_engine he', jobKeys_of_engine he']
    exact ⟨hregistry', hjobs'⟩
  cases h with
  | aside _ ht | arm _ _ _ ht | stop _ _ _ ht | look _ ht | survey _ ht =>
    exact ⟨e, ht.trans he, hregistry, hjobs⟩
  | enroll _ _ _ ht =>
    refine ⟨_, engine_eq_of_map ht he, ?_, hjobs⟩
    rw [Engine.enroll, ← List.concat_eq_append]
    refine hregistry.concat (fun hmem => ?_)
    -- the number of a newcomer is that of nothing on the registry
    have hstarted := hs.registry_subset _ (registry_of_engine he ▸ hmem)
    exact absurd (lt_of_mem_started hstarted) (Nat.lt_irrefl _)
  | addJob _ hnone _ ht =>
    refine ⟨_, engine_eq_of_map ht he, hregistry, ?_⟩
    rw [jobKeys_of_engine he] at hnone
    rw [List.map_append, List.map_singleton, ← List.concat_eq_append]
    exact hjobs.concat hnone
  | launch hkeys _ ht =>
    exact ⟨_, engine_eq_of_map ht he, hregistry, (hkeys e he).symm ▸ hjobs⟩
  | close _ ht => exact ⟨_, engine_eq_of_map ht he, hregistry, hjobs⟩
  | withdraw _ _ ht => exact ⟨_, engine_eq_of_map ht he, hregistry.filter _, hjobs⟩
  | unschedule _ ht =>
    exact ⟨_, engine_eq_of_map ht he, hregistry, hjobs.sublist (List.filter_sublist.map _)⟩
  | halt _ ht => exact ⟨_, engine_eq_of_map ht he, hregistry, List.nodup_nil⟩

/-- What deeds are done to: a newcomer is idle, what is timed or stopped was started, and
only what is stopped is struck off the registry. -/
structure Guarded (s t : Session) (d : Option Deed) : Prop where
  newcomer : ∀ k, d = some (.enrolled k) → t.stageOf k = some .idle
  timed : ∀ k, d = some (.timed k) → k ∈ s.started
  stopped : ∀ k, d = some (.stopped k) → k ∈ s.started
  withdrawn : ∀ k, d = some (.withdrawn k) → s.stageOf k = some .stopped

/-- A deed is done only where it can be. -/
theorem Stroke.guarded (h : Stroke s t d) : Guarded s t d := by
  cases h with
  | enroll _ hidle ht _ => constructor <;> simp [stageOf_of_append ht, hidle]
  | stop hr hl _ _ => constructor <;> simp [(Session.mem_started_iff hr).mpr hl]
  | addJob hstarted _ _ _ => constructor <;> simp [hstarted]
  | withdraw hstopped _ _ => constructor <;> simp [hstopped]
  | aside | arm | launch | look | unschedule | close | survey | halt => constructor <;> simp

/-- **Every stroke goes into the ledger.** -/
theorem Ledger.stroke (hs : Ledger s deeds) (h : Stroke s t d) :
    Ledger t (deeds ++ d.toList) := by
  obtain ⟨e, he, hclosed⟩ := hs.engine
  obtain ⟨e', he', hrecorded⟩ := h.exists_recorded he
  -- what the stroke is guarded by rules out that it undoes the past
  have hguarded := h.guarded
  obtain ⟨hregistry, hjobKeys⟩ := h.nodup hs
  have hdeeds : ∀ x, x ∈ deeds ++ d.toList ↔ d = some x ∨ x ∈ deeds := fun x => by
    rw [List.mem_append, Option.mem_toList, or_comm]
  refine ⟨⟨e', he', ?_⟩, fun k => ?_, fun k => ?_, fun k => ?_, ?_, fun k hk => ?_,
    fun k hk hlive => ?_, fun k hk => ?_, hregistry, hjobKeys⟩
  · rw [hrecorded.closed_iff, hclosed, hdeeds]
  · rw [h.mem_started_iff, hs.started_iff, hdeeds]
  · rw [hdeeds, ← hs.stopped_iff, h.mem_started_iff]
    constructor
    · rintro ⟨hnew | hk, hstage⟩
      · exact absurd (hguarded.newcomer k hnew) (by rw [hstage]; simp)
      · rw [h.stopped_iff] at hstage
        exact hstage.imp_right (fun hold => ⟨hk, hold⟩)
    · rintro (hnew | ⟨hk, hold⟩)
      · have hk := hguarded.stopped k hnew
        exact ⟨.inr hk, h.stopped_iff.mpr (.inl hnew)⟩
      · exact ⟨.inr hk, h.stopped_iff.mpr (.inr hold)⟩
  · rw [h.mem_jobKeys_iff he, hs.jobKeys_iff, Timed, Timed, stands_append_iff]
    cases d <;> simp
  · rw [h.running_iff he, hs.running_iff, Launched, Launched, stands_append_iff]
    cases d <;> simp
  · rw [h.mem_started_iff]
    exact ((h.mem_registry_iff he).mp hk).imp_right (fun hold => hs.registry_subset k hold.1)
  · rw [h.mem_registry_iff he]
    refine (h.mem_started_iff.mp hk).imp_right (fun hold => ?_)
    have hstage : s.stageOf k ≠ some .stopped := fun hstage =>
      hlive (h.stopped_iff.mpr (.inr hstage))
    exact ⟨hs.mem_registry k hold hstage, fun hnew => hstage (hguarded.withdrawn k hnew)⟩
  · rw [h.mem_started_iff]
    rcases (h.mem_jobKeys_iff he).mp hk with hnew | ⟨hold, -⟩
    · exact .inr (hguarded.timed k hnew)
    · exact .inr (hs.jobKeys_subset k hold)

end Session

end Cadence
