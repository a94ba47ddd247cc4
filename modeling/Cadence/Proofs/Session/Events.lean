/-
What happens in a run of an engine.

In a run registrations are started and cancelled, the timer runs their jobs in any order,
the clock is moved, and the engine shuts down. The registrations have the clock, the
engine's registry and the shutdown in common; callbacks are inert.

What an event asks of a registration can be read off the event and the clock
(`Event.requests`), and an event changes each registration as these requests do, and no
other way (`Tended.registration?_happen`). That a shutdown reaches whatever is not stopped
hangs on the registry, which has the numbers of all such registrations (`Listed`); every
edit keeps this.
-/
import Cadence.Proofs.Session.Inert
import Cadence.Proofs.Session.Shutdown

set_option autoImplicit false

namespace Cadence

open Cadence.Config (EngineConfig)

/-! ## Events -/

/-- What happens in a run of an engine. -/
inductive Event
  /-- a registration is started at a moment -/
  | start (now : Moment) (schedule : Schedule) (callback : Callback)
  /-- a job is run, so many microseconds late -/
  | tick (job : Job) (late : Int)
  | cancel (key : Nat)
  | setClock (now : Moment)
  | advance (seconds : Value)
  | shutdown

/-- Dropping a job keeps the others. -/
theorem Engine.job?_dropJob_of_ne {k key : Nat} (hne : k ≠ key) (e : Engine) :
    (e.dropJob k).job? key = e.job? key := by
  rw [Engine.job?, Engine.job?, Engine.dropJob, List.find?_filter]
  congr 1
  funext j
  by_cases hj : j.key = key
  · simp [hj, Ne.symm hne]
  · simp [hj]

/-- Whether a job that comes late by so many microseconds is run at all. -/
def Job.runs (j : Job) (late : Int) : Bool :=
  match j.missed late with
  | .ok false => true
  | _ => false

namespace Event

/-- An event brings no callback but inert ones. -/
def Inert : Event → Prop
  | .start _ _ (.script script) => Cadence.Inert script
  | _ => True

/-- What the clock shows behind an event. -/
def clock (c : ManualClock) : Event → ManualClock
  | .setClock now => ((c.set now).toOption).getD c
  | .advance seconds => ((c.advance seconds).toOption).getD c
  | _ => c

/-- What an event asks of the registration `key`, the clock showing a moment. -/
def requests (key : Nat) (c : ManualClock) : Event → List Request
  | .tick job late => if job.key = key ∧ job.runs late then [.tick c.now] else []
  | .cancel k => if k = key then [.cancel] else []
  | .shutdown => [.cancel]
  | _ => []

/-- What events ask of the registration `key`. -/
def requestsAll (key : Nat) : ManualClock → List Event → List Request
  | _, [] => []
  | c, e :: events => e.requests key c ++ requestsAll key (e.clock c) events

end Event

namespace Session

def happen (s : Session) : Event → Session
  | .start now schedule callback => ({ s with present := now }.start schedule callback).1
  | .tick job late => (s.runJob job late).1
  | .cancel key => s.cancel key
  | .setClock now => (s.setClock now).1
  | .advance seconds => (s.advance seconds).1
  | .shutdown => s.shutdown

def happenAll (s : Session) (events : List Event) : Session := events.foldl happen s

/-- What the evaluation of a registration in an event comes to, if there is one. -/
def resultOf (key : Nat) (s : Session) : Event → List (Except Fault Bool)
  | .tick job late => if job.key = key ∧ job.runs late then [(s.tick key).2] else []
  | _ => []

/-- What the evaluations of a registration in some events come to. -/
def resultsOf (key : Nat) (s : Session) : List Event → List (Except Fault Bool)
  | [] => []
  | e :: events => s.resultOf key e ++ (s.happen e).resultsOf key events

variable {s t : Session} {c : EngineConfig} {k key : Nat} {r : Registration} {e : Event}
  {events : List Event} {schedule : Schedule} {script : Script}

/-- Events happen one after the other. -/
theorem happenAll_append (s : Session) (events more : List Event) :
    s.happenAll (events ++ more) = (s.happenAll events).happenAll more :=
  List.foldl_append

/-! ## The registry -/

/-- Whatever the engine drives and is not stopped is on its registry. -/
def Listed (s : Session) : Prop :=
  ∀ key r, s.registration? key = some r → r.listener = .engine → r.stage ≠ .stopped →
    key ∈ s.registry

/-- Withdrawing takes a number off the registry, and its job away. -/
theorem registry_mapEngine_withdraw (s : Session) (k : Nat) :
    ((s.engine.map (fun e => (e.withdraw k).dropJob k)).map (·.registry)).getD []
      = s.registry.filter (· != k) := by
  rw [registry]
  cases s.engine <;> rfl

/-- **Every edit keeps the registry complete.** -/
theorem Edit.listed (h : Edit s t) (hs : Listed s) : Listed t := by
  intro key q hq hlistener hstage
  cases h with
  | aside hregistrations hengine =>
    rw [registration?, hregistrations] at hq
    rw [registry, hengine]
    exact hs key q hq hlistener hstage
  | @rise k r r' hr hrstage hl _ ht hengine =>
    rw [registration?_of_set hr ht] at hq
    rw [registry, hengine]
    split at hq
    case isTrue hk =>
      obtain rfl := Option.some.inj hq
      exact hk ▸ hs k r hr (hl ▸ hlistener) hrstage
    case isFalse => exact hs key q hq hlistener hstage
  | @stop k r hr _ ht hengine =>
    rw [registration?_of_set hr ht] at hq
    split at hq
    case isTrue =>
      -- what is stopped need not be listed
      obtain rfl := Option.some.inj hq
      exact absurd rfl hstage
    case isFalse hk =>
      have hkey := hs key q hq hlistener hstage
      rw [registry, hengine]
      split
      · rw [registry_mapEngine_withdraw, List.mem_filter]
        exact ⟨hkey, by simpa using Ne.symm hk⟩
      · exact hkey
  | @turn j hregistrations hengine =>
    rw [registration?, hregistrations] at hq
    have hkey := hs key q hq hlistener hstage
    rw [registry] at hkey
    rw [registry, hengine]
    cases he : s.engine with
    | none =>
      rw [he] at hkey
      exact hkey
    | some e =>
      rw [he] at hkey
      exact hkey

/-- Edits one after the other keep the registry to those that there are. -/
theorem Edits.listed (h : Edits s t) (hs : Listed s) : Listed t :=
  h.preserve (fun _ _ he hb => he.listed hb) hs

/-- No edit adds a registration. -/
theorem Edit.length_eq (h : Edit s t) : t.registrations.length = s.registrations.length := by
  cases h with
  | aside hr _ => rw [hr]
  | rise _ _ _ _ _ ht _ => rw [ht, List.length_set]
  | stop _ _ ht _ => rw [ht, List.length_set]
  | turn hr _ => rw [hr]

theorem Edits.length_eq (h : Edits s t) : t.registrations.length = s.registrations.length :=
  h.preserve (fun _ _ he hb => he.length_eq.trans hb) rfl

/-- Nothing can be started: there is no engine, or it is closed. -/
def isClosed (s : Session) : Bool := (s.engine.map (·.closed)).getD true

/-- Whether an engine is closed is one of its fields. -/
theorem isClosed_congr (h : t.engine.map (·.closed) = s.engine.map (·.closed)) :
    t.isClosed = s.isClosed := by
  rw [isClosed, h, isClosed]

theorem Edits.isClosed_eq (h : Edits s t) : t.isClosed = s.isClosed := isClosed_congr h.closed_eq

/-! ## One event -/

/-- A session of an engine whose callbacks are inert: it drives all registrations, and its
registry has what is not stopped. -/
structure Tended (s : Session) : Prop where
  inert : ∀ key r, s.registration? key = some r → Inert r.script
  driven : ∀ key r, s.registration? key = some r → r.listener = .engine
  listed : Listed s

/-- What a start leaves: nothing new when it is refused, else the newcomer, armed and on
the registry, whether its job comes about or not. -/
theorem start_cases (s : Session) (schedule : Schedule) (callback : Callback) :
    ((s.start schedule callback).1 = s ∧ ∀ script, callback = .script script → s.isClosed = true) ∨
      ∃ script, callback = .script script ∧ s.isClosed = false ∧
        (s.start schedule callback).1.registrations
          = s.registrations ++ [s.newcomer schedule script] ∧
        (s.start schedule callback).1.clock = s.clock ∧
        (s.start schedule callback).1.isClosed = false ∧
        (s.start schedule callback).1.registry = s.registry ++ [s.registrations.length] := by
  by_cases hrefuses : s.Refuses callback
  · obtain ⟨f, hf⟩ := start_of_refuses schedule hrefuses
    rw [hf]
    refine .inl ⟨rfl, fun script hscript => ?_⟩
    rcases hrefuses with hclosed | hno
    · rw [isClosed]
      cases he : s.engine with
      | none => rfl
      | some e => exact hclosed e he
    · exact absurd hscript (hno script)
  · obtain ⟨e, script, hengine, hopen, rfl⟩ := exists_of_not_refuses hrefuses
    have hbefore : s.isClosed = false := by rw [isClosed, hengine]; exact hopen
    have hclosed := (isClosed_congr (closed_start s schedule (.script script))).trans hbefore
    have hstart := starts_of_open schedule script hengine hopen
    generalize s.start schedule (.script script) = outcome at hstart hclosed ⊢
    rw [registry_of_engine hengine]
    refine .inr ⟨script, rfl, hbefore, ?_⟩
    -- however a start ends behind the arming, the newcomer has been enrolled
    cases hstart with
    | timeless | unset =>
      have hafter : (s.enrolled schedule script).engine
          = some (e.enroll s.registrations.length) := by
        rw [enrolled, hengine, Option.map_some]
      exact ⟨rfl, rfl, hclosed, registry_of_engine hafter⟩
    | standing _ hadd =>
      obtain ⟨job', -, rfl⟩ := Engine.exists_of_addJob hadd
      exact ⟨rfl, rfl, hclosed, rfl⟩
    | started _ hadd hlaunch hregistrations hafter _ hclock =>
      obtain ⟨job', -, rfl⟩ := Engine.exists_of_addJob hadd
      obtain ⟨jobs, -, rfl⟩ := Engine.exists_of_launch hlaunch
      exact ⟨hregistrations, hclock, hclosed, registry_of_engine hafter⟩

/-- A run of a job is an evaluation, or nothing. -/
theorem runJob_eq (job : Job) (late : Int) (s : Session) :
    (s.runJob job late).1.registrations
        = (if job.runs late then (s.tick job.key).1 else s).registrations ∧
      (s.runJob job late).1.engine = (if job.runs late then (s.tick job.key).1 else s).engine ∧
      (s.runJob job late).1.clock = (if job.runs late then (s.tick job.key).1 else s).clock := by
  rw [runJob, Job.runs]
  cases job.missed late with
  | error f => exact ⟨rfl, rfl, rfl⟩
  | ok b =>
    cases b with
    | true => exact ⟨rfl, rfl, rfl⟩
    | false =>
      obtain ⟨t, f | b⟩ := s.tick job.key <;> exact ⟨rfl, rfl, rfl⟩

/-- A run of a job in a session whose callbacks are inert changes one registration. -/
theorem Tended.runJob (hs : Tended s) (job : Job) (late : Int) :
    (s.happen (.tick job late)).engine = s.engine ∧
      (s.happen (.tick job late)).clock = s.clock ∧
      (s.happen (.tick job late)).registrations
        = match s.registration? job.key with
          | some r => s.registrations.set job.key
              (((Event.tick job late).requests job.key s.clock).foldl Registration.asked r)
          | none => s.registrations := by
  obtain ⟨hregistrations, hengine, hclock⟩ := runJob_eq job late s
  rw [happen, hregistrations, hengine, hclock]
  cases hr : s.registration? job.key with
  | none =>
    have htick : s.tick job.key = (s, .ok false) := by rw [tick, tickWith, hr]
    rw [htick]
    split <;> exact ⟨rfl, rfl, rfl⟩
  | some r =>
    obtain ⟨hset, hengine', hclock', -⟩ := tickWith_of_inert hr (hs.inert _ r hr) 299
    -- a job that comes too late only leaves a line in the log
    by_cases hruns : job.runs late = true
    · simp only [Event.requests, hruns, if_true, and_self]
      exact ⟨hengine', hclock', hset⟩
    · obtain ⟨hlt, hget⟩ := List.getElem?_eq_some_iff.mp hr
      simp only [Event.requests, hruns]
      refine ⟨rfl, rfl, ?_⟩
      simp [← hget]

/-- Cancelling a registration takes its own entries from the engine, if any. -/
theorem engine_cancel (k : Nat) (s : Session) :
    (s.cancel k).engine = s.engine ∨
      (s.cancel k).engine = s.engine.map (fun e => (e.withdraw k).dropJob k) := by
  unfold cancel
  split
  · exact .inl rfl
  case _ r _ =>
    split
    · exact .inl rfl
    · have htell := engine_tell k (s.modify k Registration.stop) r.listener
      split at htell
      · exact .inr htell
      · exact .inl htell

/-- Cancelling a registration keeps the entries of the others. -/
theorem entry_cancel (hne : k ≠ key) :
    (key ∈ (s.cancel k).registry ↔ key ∈ s.registry) ∧ (s.cancel k).job? key = s.job? key := by
  rcases engine_cancel k s with hsame | hless
  · rw [registry, registry, job?, job?, hsame]
    exact ⟨.rfl, rfl⟩
  · rw [registry, registry, job?, job?, hless]
    cases he : s.engine with
    | none => exact ⟨.rfl, rfl⟩
    | some e =>
      refine ⟨?_, (e.withdraw k).job?_dropJob_of_ne hne⟩
      simp [Engine.withdraw, Engine.dropJob, Ne.symm hne]

/-- Cancelling moves no clock. -/
theorem clock_cancel (k : Nat) (s : Session) : (s.cancel k).clock = s.clock := by
  unfold cancel
  split
  · rfl
  · split
    · rfl
    case _ r _ _ =>
      cases hl : r.listener with
      | nobody => rfl
      | caller => rfl
      | engine =>
        rw [tell, unschedule]
        split <;> rfl

/-- A shutdown takes no time. -/
theorem clock_shutdown (s : Session) : s.shutdown.clock = s.clock := by
  have hfold : ∀ (keys : List Nat) (s : Session),
      (keys.foldl (fun s k => s.cancel k) s).clock = s.clock := by
    intro keys
    induction keys with
    | nil => exact fun s => rfl
    | cons k keys ih => exact fun s => (ih (s.cancel k)).trans (clock_cancel k s)
  rw [shutdown, halt]
  split
  · exact hfold _ _
  · exact hfold _ _

/-- The clock moves by the events that move it. -/
theorem Tended.clock_happen (hs : Tended s) (e : Event) : (s.happen e).clock = e.clock s.clock := by
  cases e with
  | start now schedule callback =>
    rcases start_cases { s with present := now } schedule callback with
      ⟨hsame, -⟩ | ⟨_, -, -, -, hclock, -⟩
    · rw [happen, hsame]
      rfl
    · exact hclock
  | tick job late => exact (hs.runJob job late).2.1
  | cancel k => exact clock_cancel k s
  | setClock now =>
    rw [happen, setClock, Event.clock]
    cases s.clock.set now <;> rfl
  | advance seconds =>
    rw [happen, advance, Event.clock]
    cases s.clock.advance seconds <;> rfl
  | shutdown => exact clock_shutdown s

/-- **A shutdown stops whatever the engine drives.** -/
theorem registration?_shutdown (hs : Listed s) (hr : s.registration? key = some r)
    (hl : r.listener = .engine) : s.shutdown.registration? key = some r.stop := by
  have hclosed : (s.mapEngine Engine.close).registration? key = some r := hr
  have hfold := registration?_foldl_cancel hclosed s.registry
  rw [registration?] at hfold
  rw [shutdown, registry_mapEngine_close, registration?, registrations_halt, hfold]
  split
  case isTrue => rfl
  case isFalse hkey =>
    -- what is not on the registry is stopped already
    have hstage : r.stage = .stopped := by
      by_contra hstage
      exact hkey (hs key r hr hl hstage)
    rw [Registration.stop, ← hstage]

/-- **An event changes a registration as its own requests do, and no other way.** -/
theorem Tended.registration?_happen (hs : Tended s) (hr : s.registration? key = some r)
    (e : Event) :
    (s.happen e).registration? key
      = some ((e.requests key s.clock).foldl Registration.asked r) := by
  have hlt := (List.getElem?_eq_some_iff.mp hr).1
  cases e with
  | start now schedule callback =>
    obtain ⟨rs, hrs⟩ := exists_registrations_start { s with present := now } schedule callback
    exact registration?_of_append (s := s) hrs hr
  | tick job late =>
    obtain ⟨-, -, hset⟩ := hs.runJob job late
    -- what comes to another registration is no request to this one
    by_cases hk : job.key = key
    · subst hk
      rw [hr] at hset
      rw [registration?, hset, List.getElem?_set_self hlt]
    · have hnone : (Event.tick job late).requests key s.clock = [] := by
        rw [Event.requests, if_neg (fun h => hk h.1)]
      rw [hnone, List.foldl_nil, registration?, hset]
      cases s.registration? job.key with
      | none => exact hr
      | some q => rw [List.getElem?_set_ne hk]; exact hr
  | cancel k =>
    rw [happen, Event.requests]
    by_cases hk : k = key
    · subst hk
      rw [if_pos rfl]
      exact (registration?_cancel hr).1
    · rw [if_neg hk, registration?_cancel_of_ne hk]
      exact hr
  | setClock now =>
    rw [happen, setClock]
    split <;> exact hr
  | advance seconds =>
    rw [happen, advance]
    split <;> exact hr
  | shutdown => exact registration?_shutdown hs.listed hr (hs.driven key r hr)

/-- Nothing but a start brings a registration, and nothing but a shutdown closes. -/
theorem happen_of_not_start (s : Session) (e : Event) :
    (∃ now schedule callback, e = .start now schedule callback) ∨ e = .shutdown ∨
      e ≠ .shutdown ∧ Edits s (s.happen e) := by
  -- setting or advancing the clock is aside from registrations and engine
  have hedits : e = .shutdown ∨ (∃ now schedule callback, e = .start now schedule callback) ∨
      Edits s (s.happen e) := by
    cases e with
    | start now schedule callback => exact .inr (.inl ⟨now, schedule, callback, rfl⟩)
    | tick job late => exact .inr (.inr (edits_runJob job late s))
    | cancel k => exact .inr (.inr (edits_cancel k s))
    | setClock now =>
      refine .inr (.inr ?_)
      rw [happen, setClock]
      split <;> exact edits_aside rfl rfl
    | advance seconds =>
      refine .inr (.inr ?_)
      rw [happen, advance]
      split <;> exact edits_aside rfl rfl
    | shutdown => exact .inl rfl
  by_cases hshutdown : e = .shutdown
  · exact .inr (.inl hshutdown)
  · exact (hedits.resolve_left hshutdown).imp_right (fun h => .inr ⟨hshutdown, h⟩)

/-- A shutdown adds nothing, and closes the engine. -/
theorem shutdown_length_isClosed (s : Session) :
    s.shutdown.registrations.length = s.registrations.length ∧ s.shutdown.isClosed = true := by
  obtain ⟨u, hedits, hu, -⟩ := exists_edits_shutdown s
  rw [hu, registrations_halt, hedits.length_eq]
  refine ⟨rfl, ?_⟩
  have hclosed : (s.mapEngine Engine.close).isClosed = true := by
    rw [isClosed, mapEngine]
    cases s.engine <;> rfl
  -- closing comes first, and the cancellations behind it do not open again
  rw [← hedits.isClosed_eq] at hclosed
  rw [halt]
  split
  · have hsame : ((u.mapEngine Engine.halt).say .info "Engine stopped").isClosed = u.isClosed := by
      refine isClosed_congr ?_
      rw [say, mapEngine, Option.map_map]
      rfl
    rw [hsame, hclosed]
  · exact hclosed

/-- A registration behind an event was there before it, or is the newcomer of a start. -/
theorem Tended.exists_of_happen (hs : Tended s) {q : Registration}
    (hq : (s.happen e).registration? key = some q) :
    (∃ r, s.registration? key = some r ∧
        q = (e.requests key s.clock).foldl Registration.asked r) ∨
      ∃ now schedule script, e = .start now schedule (.script script) ∧ s.isClosed = false ∧
        key = s.registrations.length ∧ q = s.newcomer schedule script := by
  cases hr : s.registration? key with
  | some r =>
    rw [hs.registration?_happen hr, Option.some.injEq] at hq
    exact .inl ⟨r, rfl, hq.symm⟩
  | none =>
    refine .inr ?_
    have hout : s.registrations.length ≤ key := List.getElem?_eq_none_iff.mp hr
    -- a registration that was not there: only a start adds one
    have hgrown := Nat.lt_of_le_of_lt hout (List.getElem?_eq_some_iff.mp hq).1
    rcases happen_of_not_start s e with ⟨now, schedule, callback, rfl⟩ | rfl | ⟨hopen, hedits⟩
    · rcases start_cases { s with present := now } schedule callback with
        ⟨hsame, -⟩ | ⟨script, rfl, hopen, hregistrations, -⟩
      · rw [happen, hsame] at hgrown
        exact absurd hgrown (Nat.lt_irrefl _)
      · rw [happen, registration?, hregistrations] at hq
        have hkey : key = s.registrations.length := by
          have hlength := (List.getElem?_eq_some_iff.mp hq).1
          rw [List.length_append, List.length_singleton] at hlength
          exact Nat.le_antisymm (Nat.le_of_lt_succ hlength) hout
        subst hkey
        rw [List.getElem?_concat_length, Option.some.injEq] at hq
        exact ⟨now, schedule, script, rfl, hopen, rfl, hq.symm⟩
    · rw [happen, (shutdown_length_isClosed s).1] at hgrown
      exact absurd hgrown (Nat.lt_irrefl _)
    · rw [hedits.length_eq] at hgrown
      exact absurd hgrown (Nat.lt_irrefl _)

/-- **Every event leaves such a session behind**, as long as it brings no callback but inert
ones. -/
theorem Tended.happen (hs : Tended s) (he : e.Inert) : Tended (s.happen e) := by
  have hfixed : ∀ key q, (s.happen e).registration? key = some q →
      Cadence.Inert q.script ∧ q.listener = .engine := by
    intro key q hq
    rcases hs.exists_of_happen hq with ⟨r, hr, rfl⟩ | ⟨now, schedule, script, rfl, -, -, rfl⟩
    · obtain ⟨hscript, hlistener⟩ := r.foldl_asked_fixed (e.requests key s.clock)
      rw [hscript, hlistener]
      exact ⟨hs.inert key r hr, hs.driven key r hr⟩
    · exact ⟨he, rfl⟩
  refine ⟨fun key q hq => (hfixed key q hq).1, fun key q hq => (hfixed key q hq).2, ?_⟩
  rcases happen_of_not_start s e with ⟨now, schedule, callback, rfl⟩ | rfl | ⟨hopen, hedits⟩
  · rcases start_cases { s with present := now } schedule callback with
      ⟨hsame, -⟩ | ⟨script, rfl, -, hregistrations, -, -, hregistry⟩
    · rw [Session.happen, hsame]
      exact hs.listed
    · intro key q hq hlistener hstage
      rw [Session.happen, hregistry, List.mem_append, List.mem_singleton]
      rcases hs.exists_of_happen hq with ⟨r, hr, hrq⟩ | ⟨_, _, _, -, -, rfl, -⟩
      · obtain rfl : q = r := hrq
        exact .inl (hs.listed key q hr hlistener hstage)
      · exact .inr rfl
  · -- behind a shutdown there is nothing left to list
    intro key q hq hlistener hstage
    rcases hs.exists_of_happen hq with ⟨r, hr, hrq⟩ | ⟨_, _, _, hstart, -⟩
    · exact absurd (congrArg Registration.stage hrq) hstage
    · cases hstart
  · exact hedits.listed hs.listed

/-- Only a shutdown closes an engine, and nothing opens it again. -/
theorem isClosed_happen (s : Session) (e : Event) :
    (s.happen e).isClosed = true ↔ s.isClosed = true ∨ e = .shutdown := by
  rcases happen_of_not_start s e with ⟨now, schedule, callback, rfl⟩ | rfl | ⟨hopen, hedits⟩
  · rcases start_cases { s with present := now } schedule callback with
      ⟨hsame, -⟩ | ⟨script, rfl, hopen, -, -, hafter, -⟩
    · rw [happen, hsame]
      simp [isClosed]
    · have hbefore : s.isClosed = false := hopen
      rw [happen, hafter, hbefore]
      simp
  · simp [happen, (shutdown_length_isClosed s).2]
  · rw [hedits.isClosed_eq]
    exact ⟨.inl, fun h => h.resolve_right hopen⟩

end Session

end Cadence
