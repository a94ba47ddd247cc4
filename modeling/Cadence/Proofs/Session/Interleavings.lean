/-
Calls that take turns.

A step of a call is one stroke on the books, given what the call relies on (`Task.Fits`,
`stroke_step`), and behind the step the call has what it relies on next (`fits_step`).
Another call's step does not take that away (`fits_stroke`), unless it adds the very job
that the call is about to add; that cannot happen, because a registration is started by
one call only.

Together that is an invariant of the whole crowd (`Crowd.Sound`), which every turn keeps
(`Sound.turn`) and so every run (`Sound.run`). Besides the ledger it says what is still
owed: an idle registration is about to be armed by some call, and one that is stopped and
still on the registry is about to be struck off.
-/
import Cadence.Proofs.Session.Orders
import Cadence.Proofs.Session.Strokes

set_option autoImplicit false

namespace Cadence

open Cadence.Config (EngineConfig)

namespace Task

variable {s s' : Session} {t : Task} {d : Option Deed} {deeds : List Deed} {k : Nat}
  {closing : Bool} {rest : List Nat}

/-! ## Steps are strokes -/

/-- What a call relies on: the registrations that it is about were started, the one that
it is starting has no job yet, and the one that it strikes off the registry is stopped. -/
def Fits (s : Session) : Task → Prop
  | .arm _ key _ | .addJob _ key _ => key ∈ s.started ∧ key ∉ s.jobKeys
  | .stop key rest _ => ∀ k ∈ key :: rest, k ∈ s.started
  | .withdraw key rest _ | .unschedule key rest _ =>
    s.stageOf key = some .stopped ∧ ∀ k ∈ key :: rest, k ∈ s.started
  | _ => True

/-- The registration whose job the call still has to add. -/
def due : Task → Option Nat
  | .arm _ key _ | .addJob _ key _ => some key
  | _ => none

/-- The call is about to arm a registration. -/
def Arms (k : Nat) (t : Task) : Prop := ∃ c schedule, t = .arm c k schedule

/-- The call is about to strike a registration off the registry. -/
def Withdraws (k : Nat) (t : Task) : Prop := ∃ rest closing, t = .withdraw k rest closing

/-- The rest of a shutdown fits when all that it has yet to cancel were started. -/
theorem fits_next_iff : (next closing rest).Fits s ↔ ∀ k ∈ rest, k ∈ s.started := by
  cases rest with
  | nil => cases closing <;> simp [next, Fits]
  | cons key rest => rfl

/-- The rest of a shutdown gives nobody a job. -/
theorem due_next : (next closing rest).due = none := by
  cases rest with
  | nil => cases closing <;> rfl
  | cons key rest => rfl

theorem next_ne_close : next closing rest ≠ .close ∧ next closing rest ≠ .survey := by
  cases rest with
  | nil => cases closing <;> simp [next]
  | cons key rest => simp [next]

/-- Stopping something live is a deed. -/
theorem deed_stop (h : s.live k = true) :
    (Task.stop k rest closing).deed s = some (.stopped k) := by
  rw [deed, h, if_pos rfl]

/-- What is live is there and is not stopped. -/
theorem exists_of_live (h : s.live k = true) :
    ∃ r, s.registration? k = some r ∧ r.stage ≠ .stopped := by
  rw [Session.live] at h
  cases hr : s.registration? k with
  | none => simp [hr] at h
  | some r => exact ⟨r, rfl, by simpa [hr, Registration.active] using h⟩

/-- A timer that cannot be started is as it was. -/
theorem stroke_launch (s : Session) : match s.launch with
    | (t, .ok ()) => Session.Stroke s t (some .launched)
    | (t, .error _) => t = s := by
  cases hengine : s.engine with
  | none =>
    have hlaunch : s.launch = (s, .ok ()) := by simp [Session.launch, hengine]
    rw [hlaunch]
    exact .launch (f := Engine.jobs) (fun e he => rfl) rfl (by rw [hengine, Option.map_none])
  | some e =>
    have hcases := Session.launch_cases hengine
    cases hl : e.launch with
    | error f =>
      rw [hl] at hcases
      rw [hcases]
    | ok e' =>
      rw [hl] at hcases
      obtain ⟨t, ht, hregistrations, hengine', -⟩ := hcases
      obtain ⟨jobs, hkeys, rfl⟩ := Engine.exists_of_launch hl
      rw [ht]
      refine .launch (f := fun _ => jobs) (fun e' he' => ?_) hregistrations ?_
      · rwa [← Option.some.inj (hengine.symm.trans he')]
      · rw [hengine', hengine, Option.map_some]

/-- What the timer is given is a job with the number of the registration. -/
theorem stroke_addJob (c : EngineConfig) (schedule : Schedule) (hstarted : k ∈ s.started)
    (hnone : k ∉ s.jobKeys) : match s.addJob c k schedule with
    | (t, .ok _) => Session.Stroke s t (some (.timed k))
    | (t, .error _) => t = s := by
  unfold Session.addJob
  cases hjob : Engine.jobFor c s.present k schedule with
  | error f => rfl
  | ok job =>
    obtain rfl := Engine.key_of_jobFor hjob
    simp only [Session.tryEngine]
    cases hengine : s.engine with
    | none => exact .addJob hstarted hnone rfl (by rw [hengine, Option.map_none])
    | some e =>
      simp only
      -- a job that the timer refuses leaves nothing behind
      cases hadd : e.addJob job with
      | error f => rfl
      | ok e' =>
        obtain ⟨job', hkey, rfl⟩ := Engine.exists_of_addJob hadd
        have hstroke : Session.Stroke s { s with engine := some { e with
            jobs := e.jobs ++ [job'] } } (some (.timed job'.key)) :=
          .addJob (hkey ▸ hstarted) (hkey ▸ hnone) rfl (by rw [hengine, Option.map_some])
        rwa [hkey] at hstroke

/-- **The step of a call is one stroke.** -/
theorem stroke_step (hf : t.Fits s) : Session.Stroke s (t.step s).1 (t.deed s) := by
  -- one stroke for each step, or none where it finds nothing to do
  cases t with
  | ask schedule callback =>
    simp only [step, deed]
    split <;> exact .aside rfl rfl
  | enroll c schedule callback =>
    cases callback with
    | value v => exact .aside rfl rfl
    | script body => exact .enroll rfl rfl rfl rfl
  | arm c key schedule =>
    simp only [step, deed, Session.arm]
    cases hr : s.registration? key with
    | none => exact .aside rfl rfl
    | some r =>
      simp only [Registration.arm]
      by_cases hstage : r.stage = .stopped
      · simp only [hstage, if_true]
        exact .aside rfl rfl
      · simp only [hstage, if_false]
        exact .arm hr hstage (Session.registrations_modify hr _) rfl
  | addJob c key schedule =>
    have hstroke := stroke_addJob c schedule hf.1 hf.2
    simp only [step, deed]
    rcases hadd : s.addJob c key schedule with ⟨s', f | job⟩
    · rw [hadd] at hstroke
      exact hstroke ▸ .aside rfl rfl
    · rwa [hadd] at hstroke
  | launch key job =>
    have hstroke := stroke_launch s
    simp only [step, deed]
    rcases hlaunch : s.launch with ⟨s', f | _⟩
    · rw [hlaunch] at hstroke
      exact hstroke ▸ .aside rfl rfl
    · rw [hlaunch] at hstroke
      exact hstroke.say
  | look key =>
    simp only [step, deed]
    split
    · exact .look rfl rfl
    · exact .aside rfl rfl
  | stop key rest closing =>
    simp only [step, deed]
    cases hlive : s.live key with
    | false => exact .aside rfl rfl
    | true =>
      obtain ⟨r, hr, -⟩ := exists_of_live hlive
      have hl := (Session.mem_started_iff hr).mp (hf key (by simp))
      exact .stop hr hl (Session.registrations_modify hr _) rfl
  | withdraw key rest closing => exact .withdraw hf.1 rfl rfl
  | unschedule key rest closing =>
    exact .unschedule (Session.registrations_unschedule key s) (Session.engine_unschedule key s)
  | close => exact .close rfl rfl
  | survey => exact .survey rfl rfl
  | halt =>
    have hrunning : (s.engine.map (·.running)).getD false = s.running := rfl
    simp only [step, deed, Session.halt, hrunning]
    cases s.running with
    | true => exact .halt rfl rfl
    | false => exact .aside rfl rfl
  | ended outcome => exact .aside rfl rfl

/-- What a call relies on stays so when another call takes a step, unless that step adds
the very job that this one is about to add. -/
theorem fits_stroke {e : Engine} (hf : t.Fits s) (h : Session.Stroke s s' d)
    (he : s.engine = some e) (hdue : ∀ k, t.due = some k → d ≠ some (.timed k)) : t.Fits s' := by
  have hstarted : ∀ keys : List Nat, (∀ k ∈ keys, k ∈ s.started) → ∀ k ∈ keys, k ∈ s'.started :=
    fun keys hkeys k hk => h.mem_started_iff.mpr (.inr (hkeys k hk))
  cases t with
  | arm c key schedule | addJob c key schedule =>
    refine ⟨h.mem_started_iff.mpr (.inr hf.1), fun hjob => ?_⟩
    -- nobody else adds the job that this start still owes
    rcases (h.mem_jobKeys_iff he).mp hjob with hnew | ⟨hold, -⟩
    · exact hdue key rfl hnew
    · exact hf.2 hold
  | stop key rest closing => exact hstarted _ hf
  | withdraw key rest closing | unschedule key rest closing =>
    exact ⟨h.stopped_iff.mpr (.inr hf.1), hstarted _ hf.2⟩
  | ask | enroll | launch | look | close | survey | halt | ended => trivial

/-- A task that has yet to give a job has started its registration. -/
theorem started_of_due (hf : t.Fits s) (hk : t.due = some k) : k ∈ s.started := by
  cases t with
  | arm c key schedule | addJob c key schedule =>
    obtain rfl := Option.some.inj hk
    exact hf.1
  | ask | enroll | launch | look | stop | withdraw | unschedule | close | survey | halt | ended =>
    cases hk

/-- A step leaves the call with what it relies on next. -/
theorem fits_step (hs : s.Ledger deeds) (hf : t.Fits s) : (t.step s).2.Fits (t.step s).1 := by
  obtain ⟨e, he, -⟩ := hs.engine
  have hstroke := stroke_step hf
  have hstarted : ∀ keys : List Nat, (∀ k ∈ keys, k ∈ s.started) →
      ∀ k ∈ keys, k ∈ (t.step s).1.started :=
    fun keys hkeys k hk => hstroke.mem_started_iff.mpr (.inr (hkeys k hk))
  cases t with
  | ask schedule callback =>
    simp only [step]
    split <;> trivial
  | enroll c schedule callback =>
    cases callback with
    | value v => trivial
    | script body =>
      -- a newcomer has a number that nothing bears
      refine ⟨hstroke.mem_started_iff.mpr (.inl rfl), fun hjob => ?_⟩
      have hold : s.registrations.length ∈ s.jobKeys := by
        simpa [deed] using (hstroke.mem_jobKeys_iff he).mp hjob
      have hmem := hs.jobKeys_subset _ hold
      exact absurd (Session.lt_of_mem_started hmem) (Nat.lt_irrefl _)
  | arm c key schedule =>
    -- the next step relies on the same
    have hnext : (Task.addJob c key schedule).Fits s := hf
    have hbehind := fits_stroke hnext hstroke he (by simp [deed])
    simp only [step] at hbehind ⊢
    rcases harm : s.arm key with ⟨s', e | _⟩
    · trivial
    · rwa [harm] at hbehind
  | addJob c key schedule =>
    simp only [step]
    split <;> trivial
  | launch key job =>
    simp only [step]
    split <;> trivial
  | look key =>
    simp only [step]
    split
    case isTrue hkey =>
      intro k hk
      obtain rfl := List.mem_singleton.mp hk
      exact hs.registry_subset k hkey
    case isFalse => trivial
  | stop key rest closing =>
    cases hlive : s.live key with
    | false =>
      simp only [step, hlive, Bool.false_eq_true, if_false]
      exact fits_next_iff.mpr (fun k hk => hf k (List.mem_cons_of_mem key hk))
    | true =>
      have hstopped := hstroke.stopped_iff.mpr (.inl (deed_stop hlive))
      have hall := hstarted _ hf
      simp only [step, hlive, if_true] at hstopped hall ⊢
      exact ⟨hstopped, hall⟩
  | withdraw key rest closing =>
    have hnext : (Task.unschedule key rest closing).Fits s := hf
    exact fits_stroke hnext hstroke he (fun k hk => by cases hk)
  | unschedule key rest closing =>
    exact fits_next_iff.mpr (fun k hk => hstarted _ hf.2 k (List.mem_cons_of_mem key hk))
  | close => trivial
  | survey => exact fits_next_iff.mpr hs.registry_subset
  | halt => trivial
  | ended outcome => trivial

/-- A call is to add the job that it was to add before, or that of its newcomer. -/
theorem due_step (h : (t.step s).2.due = some k) :
    t.due = some k ∨ t.deed s = some (.enrolled k) := by
  -- a job is owed from the entry on the registry until it is added
  cases t with
  | enroll c schedule callback =>
    cases callback with
    | value v => cases h
    | script body =>
      right
      simpa [step, Session.create, Callback.require, due, deed] using h
  | arm c key schedule =>
    simp only [step] at h
    rcases harm : s.arm key with ⟨s', e | _⟩
    · rw [harm] at h
      cases h
    · rw [harm] at h
      exact .inl h
  | ask | addJob | launch | look =>
    simp only [step] at h
    split at h <;> cases h
  | stop key rest closing =>
    simp only [step] at h
    split at h
    · cases h
    · rw [due_next] at h
      cases h
  | unschedule | survey =>
    rw [step, due_next] at h
    cases h
  | withdraw | close | halt | ended => cases h

/-- Which step does a deed. -/
theorem of_deed {d : Deed} (h : t.deed s = some d) : match d with
    | .enrolled k => (∃ c schedule body, t = .enroll c schedule (.script body)) ∧
      k = s.registrations.length
    | .timed k => ∃ c schedule, t = .addJob c k schedule
    | .launched => ∃ key job, t = .launch key job
    | .looked k => t = .look k ∧ k ∈ s.registry
    | .stopped k => (∃ rest closing, t = .stop k rest closing) ∧ s.live k = true
    | .withdrawn k => ∃ rest closing, t = .withdraw k rest closing
    | .untimed k => ∃ rest closing, t = .unschedule k rest closing
    | .closed => t = .close
    | .surveyed => t = .survey
    | .halted => t = .halt := by
  cases t with
  | enroll c schedule callback =>
    cases callback with
    | value v => cases h
    | script body =>
      obtain rfl := Option.some.inj h
      exact ⟨⟨c, schedule, body, rfl⟩, rfl⟩
  | addJob c key schedule =>
    simp only [deed] at h
    split at h
    · obtain rfl := Option.some.inj h
      exact ⟨c, schedule, rfl⟩
    · cases h
  | stop key rest closing =>
    simp only [deed] at h
    split at h
    case isTrue hlive =>
      obtain rfl := Option.some.inj h
      exact ⟨⟨rest, closing, rfl⟩, hlive⟩
    case isFalse => cases h
  | halt =>
    simp only [deed] at h
    split at h
    · obtain rfl := Option.some.inj h
      rfl
    · cases h
  | launch key job =>
    simp only [deed] at h
    split at h
    · obtain rfl := Option.some.inj h
      exact ⟨key, job, rfl⟩
    · cases h
  | look key =>
    simp only [deed] at h
    split at h
    case isTrue hkey =>
      obtain rfl := Option.some.inj h
      exact ⟨rfl, hkey⟩
    case isFalse => cases h
  | withdraw key rest closing | unschedule key rest closing =>
    obtain rfl := Option.some.inj h
    exact ⟨rest, closing, rfl⟩
  | close | survey =>
    obtain rfl := Option.some.inj h
    rfl
  | ask | arm | ended => cases h

/-- What a call puts on the registry it arms next. -/
theorem arms_of_enrolled (h : t.deed s = some (.enrolled k)) : (t.step s).2.Arms k := by
  obtain ⟨⟨c, schedule, body, rfl⟩, rfl⟩ := of_deed h
  exact ⟨c, schedule, rfl⟩

/-- What is armed is not idle. -/
theorem not_idle_of_arms (h : t.Arms k) : (t.step s).1.stageOf k ≠ some .idle := by
  obtain ⟨c, schedule, rfl⟩ := h
  simp only [step, Session.arm]
  cases hr : s.registration? k with
  | none => simp [Session.stageOf, hr]
  | some r =>
    simp only [Registration.arm]
    by_cases hstage : r.stage = .stopped
    · simp [hstage, Session.stageOf, hr]
    · simp [hstage, Session.stageOf, hr]

/-- What a call stops it strikes off the registry next. -/
theorem withdraws_of_stopped (h : t.deed s = some (.stopped k)) : (t.step s).2.Withdraws k := by
  obtain ⟨⟨rest, closing, rfl⟩, hlive⟩ := of_deed h
  rw [step, if_pos hlive]
  exact ⟨rest, closing, rfl⟩

/-- Nothing but its own beginning brings a call to the beginning of a shutdown. -/
theorem step_ne_close (h : t ≠ .close) : (t.step s).2 ≠ .close ∧ (t.step s).2 ≠ .survey := by
  cases t with
  | ask | enroll | arm | addJob | launch | look =>
    simp only [step]
    split <;> simp
  | stop key rest closing =>
    simp only [step]
    split
    · simp
    · exact next_ne_close
  | unschedule | survey => exact next_ne_close
  | close => exact absurd rfl h
  | withdraw | halt | ended => simp [step]

end Task

/-! ## Turns -/

namespace Crowd

variable {w : Crowd} {s : Session} {c : EngineConfig}

/-- What holds at any time, whoever's turn it was. The ledger of the deeds is right, the
calls have what they rely on, no two of them are to add one job, and what a registration
still lacks is some call's next step: an idle one is armed, a stopped one is struck off. -/
structure Sound (w : Crowd) : Prop where
  ledger : w.session.Ledger w.deeds
  fits : ∀ t ∈ w.tasks, t.Fits w.session
  due_inj : ∀ (i j : Nat) (t t' : Task) (k : Nat), w.tasks[i]? = some t →
    w.tasks[j]? = some t' → t.due = some k → t'.due = some k → i = j
  arms : ∀ k ∈ w.session.started, w.session.stageOf k = some .idle → ∃ t ∈ w.tasks, t.Arms k
  withdraws : ∀ k ∈ w.session.registry, w.session.stageOf k = some .stopped →
    ∃ t ∈ w.tasks, t.Withdraws k

/-- What some call is about to do, some call is about to do behind the turn of another. -/
theorem exists_mem_set {P : Task → Prop} {tasks : List Task} {i : Nat} {t t' : Task}
    (ht : tasks[i]? = some t) (h : ∃ x ∈ tasks, P x) (hP : P t → P t') :
    ∃ x ∈ tasks.set i t', P x := by
  obtain ⟨x, hx, hPx⟩ := h
  obtain ⟨j, hj⟩ := List.mem_iff_getElem?.mp hx
  have hlt : i < tasks.length := (List.getElem?_eq_some_iff.mp ht).1
  by_cases hij : i = j
  · subst hij
    obtain rfl := Option.some.inj (ht.symm.trans hj)
    exact ⟨t', List.mem_set hlt t', hP hPx⟩
  · exact ⟨x, List.mem_iff_getElem?.mpr ⟨j, by rw [List.getElem?_set_ne hij, hj]⟩, hPx⟩

/-- A task of the crowd behind a turn is the one whose turn it was, or one of the others. -/
theorem getElem?_set_cases {tasks : List Task} {i j : Nat} {t' x : Task} (hlt : i < tasks.length)
    (hx : (tasks.set i t')[j]? = some x) : (j = i ∧ x = t') ∨ (j ≠ i ∧ tasks[j]? = some x) := by
  by_cases hj : j = i
  · rw [hj, List.getElem?_set_self hlt] at hx
    exact .inl ⟨hj, (Option.some.inj hx).symm⟩
  · rw [List.getElem?_set_ne (Ne.symm hj)] at hx
    exact .inr ⟨hj, hx⟩

/-! ## One step -/

section Step

variable {i : Nat} {t : Task}

/-- A turn is a stroke of the session. -/
theorem Sound.stroke (hw : w.Sound) (ht : w.tasks[i]? = some t) :
    Session.Stroke w.session (t.step w.session).1 (t.deed w.session) :=
  Task.stroke_step (hw.fits t (List.mem_of_getElem? ht))

theorem mem_tasks_stepAt (ht : w.tasks[i]? = some t) :
    (t.step w.session).2 ∈ (w.stepAt i t).tasks :=
  List.mem_set (List.getElem?_eq_some_iff.mp ht).1 _

/-- Every task still fits: its own turn keeps it so, and those of others only add what was started.
-/
theorem Sound.fits_stepAt (hw : w.Sound) (ht : w.tasks[i]? = some t) :
    ∀ x ∈ (w.stepAt i t).tasks, x.Fits (w.stepAt i t).session := by
  obtain ⟨e, he, -⟩ := hw.ledger.engine
  intro x hx
  obtain ⟨j, hj⟩ := List.mem_iff_getElem?.mp hx
  rcases getElem?_set_cases (List.getElem?_eq_some_iff.mp ht).1 hj with ⟨-, rfl⟩ | ⟨hne, hold⟩
  · exact Task.fits_step hw.ledger (hw.fits t (List.mem_of_getElem? ht))
  · refine Task.fits_stroke (hw.fits x (List.mem_of_getElem? hold)) (hw.stroke ht) he
      (fun k hdue htimed => hne ?_)
    -- a job that is added is added by the call that is due to
    obtain ⟨c, schedule, rfl⟩ := Task.of_deed htimed
    exact hw.due_inj j i x _ k hold ht hdue rfl

/-- The number of a newcomer is not that of a registration whose job is still to be added. -/
theorem Sound.not_enrolled_of_due {j k : Nat} {x : Task} (hw : w.Sound) (hx : w.tasks[j]? = some x)
    (hdue : x.due = some k) : t.deed w.session ≠ some (.enrolled k) := by
  intro hnewcomer
  obtain ⟨-, rfl⟩ := Task.of_deed hnewcomer
  have hstarted := Task.started_of_due (hw.fits x (List.mem_of_getElem? hx)) hdue
  exact absurd (Session.lt_of_mem_started hstarted) (Nat.lt_irrefl _)

/-- No two tasks are to give a job to one registration, as each start has its own. -/
theorem Sound.due_inj_stepAt (hw : w.Sound) (ht : w.tasks[i]? = some t) {j j' k : Nat} {x x' : Task}
    (hx : (w.stepAt i t).tasks[j]? = some x) (hx' : (w.stepAt i t).tasks[j']? = some x')
    (hk : x.due = some k) (hk' : x'.due = some k) : j = j' := by
  have hlt : i < w.tasks.length := (List.getElem?_eq_some_iff.mp ht).1
  -- of the call that took the step, and of another one
  have hcross : ∀ (m : Nat) (y : Task), w.tasks[m]? = some y → y.due = some k →
      (t.step w.session).2.due = some k → i = m := by
    intro m y hy hduey hdue
    rcases Task.due_step hdue with hbefore | hnewcomer
    · exact hw.due_inj i m t y k ht hy hbefore hduey
    · exact absurd hnewcomer (hw.not_enrolled_of_due hy hduey)
  rcases getElem?_set_cases hlt hx with ⟨rfl, rfl⟩ | ⟨-, hold⟩ <;>
    rcases getElem?_set_cases hlt hx' with ⟨rfl, rfl⟩ | ⟨-, hold'⟩
  · rfl
  · exact hcross j' x' hold' hk' hk
  · exact (hcross j x hold hk hk').symm
  · exact hw.due_inj j j' x x' k hold hold' hk hk'

/-- What is idle is on the way to being armed. -/
theorem Sound.arms_stepAt {k : Nat} (hw : w.Sound) (ht : w.tasks[i]? = some t)
    (hk : k ∈ (w.stepAt i t).session.started)
    (hidle : (w.stepAt i t).session.stageOf k = some .idle) :
    ∃ x ∈ (w.stepAt i t).tasks, x.Arms k := by
  have hstroke := hw.stroke ht
  by_cases hnewcomer : t.deed w.session = some (.enrolled k)
  · exact ⟨_, mem_tasks_stepAt ht, Task.arms_of_enrolled hnewcomer⟩
  · have hstarted := (hstroke.mem_started_iff.mp hk).resolve_left hnewcomer
    have hbefore := (hstroke.idle hidle).resolve_left hnewcomer
    exact exists_mem_set ht (hw.arms k hstarted hbefore)
      (fun harms => absurd hidle (Task.not_idle_of_arms harms))

/-- What is stopped and still on the registry is on the way off it. -/
theorem Sound.withdraws_stepAt {k : Nat} (hw : w.Sound) (ht : w.tasks[i]? = some t)
    (hk : k ∈ (w.stepAt i t).session.registry)
    (hstopped : (w.stepAt i t).session.stageOf k = some .stopped) :
    ∃ x ∈ (w.stepAt i t).tasks, x.Withdraws k := by
  have hstroke := hw.stroke ht
  obtain ⟨e, he, -⟩ := hw.ledger.engine
  rcases (hstroke.mem_registry_iff he).mp hk with hnewcomer | ⟨hregistry, hkept⟩
  · have hidle : (w.stepAt i t).session.stageOf k = some .idle :=
      hstroke.guarded.newcomer k hnewcomer
    rw [hidle] at hstopped
    cases hstopped
  · rcases hstroke.stopped_iff.mp hstopped with hstop | hold
    · exact ⟨_, mem_tasks_stepAt ht, Task.withdraws_of_stopped hstop⟩
    · -- the call that was about to strike it off has not done so, since it is still there
      refine exists_mem_set ht (hw.withdraws k hregistry hold) ?_
      rintro ⟨rest, closing, rfl⟩
      exact absurd rfl hkept

/-- A turn keeps a crowd sound. -/
theorem Sound.stepAt (hw : w.Sound) (ht : w.tasks[i]? = some t) : (w.stepAt i t).Sound where
  ledger := hw.ledger.stroke (hw.stroke ht)
  fits := hw.fits_stepAt ht
  due_inj _ _ _ _ _ hx hx' hk hk' := hw.due_inj_stepAt ht hx hx' hk hk'
  arms _ hk hidle := hw.arms_stepAt ht hk hidle
  withdraws _ hk hstopped := hw.withdraws_stepAt ht hk hstopped

end Step

/-! ## Runs -/

/-- That time passes is no deed. -/
theorem Sound.atMoment (hw : w.Sound) (now : Moment) : (w.atMoment now).Sound := by
  refine ⟨?_, hw.fits, hw.due_inj, hw.arms, hw.withdraws⟩
  have haside := hw.ledger.stroke (t := { w.session with present := now }) (.aside rfl rfl)
  rwa [Option.toList_none, List.append_nil] at haside

/-- **Every turn keeps a crowd sound.** -/
theorem Sound.turn (hw : w.Sound) (u : Turn) : (w.turn u).Sound := by
  rw [Crowd.turn]
  cases ht : w.tasks[u.index]? with
  | none => exact hw
  | some t => exact (hw.atMoment u.now).stepAt ht

/-- So do turns one after the other. -/
theorem Sound.run (hw : w.Sound) (turns : List Turn) : (w.run turns).Sound := by
  induction turns generalizing w with
  | nil => exact hw
  | cons u turns ih => exact ih (hw.turn u)

/-- Calls that have not begun are sound on a new engine. -/
theorem sound_gather (hengine : s.engine = some { config := c })
    (hnone : ∀ r ∈ s.registrations, r.listener ≠ .engine) (calls : List Call) :
    (gather s calls).Sound := by
  obtain ⟨-, hstarted⟩ := Session.balanced_of_new hengine hnone
  have hregistry : s.registry = [] := Session.registry_of_engine hengine
  have hjobKeys : s.jobKeys = [] := Session.jobKeys_of_engine hengine
  have hrunning : s.running = false := Session.running_of_engine hengine
  -- before the first step nothing is done, and nobody is owed anything
  have hnothing : ∀ d undoes, ¬ Stands d undoes [] := fun d undoes h => by cases h.mem
  have htask : ∀ t ∈ (gather s calls).tasks, t.Fits s ∧ t.due = none := by
    intro t ht
    obtain ⟨call, -, rfl⟩ := List.mem_map.mp ht
    cases call <;> exact ⟨trivial, rfl⟩
  refine ⟨⟨⟨_, hengine, by simp [gather]⟩, ?_, ?_, ?_, ?_, ?_, ?_, ?_, ?_, ?_⟩,
    fun t ht => (htask t ht).1, fun i j t t' k ht _ hk _ => ?_, ?_, ?_⟩
  · simp [gather, hstarted]
  · simp [gather, hstarted]
  · simp [gather, hjobKeys, Timed, hnothing]
  · simp [gather, hrunning, Launched, hnothing]
  · simp [gather, hregistry]
  · simp [gather, hstarted]
  · simp [gather, hjobKeys]
  · simp [gather, hregistry]
  · simp [gather, hjobKeys]
  · rw [(htask t (List.mem_of_getElem? ht)).2] at hk
    cases hk
  · simp [gather, hstarted]
  · simp [gather, hregistry]

end Crowd

end Cadence
