/-
Registrations do not interfere.

In a run of an engine whose callbacks are inert every registration is where it would be on
its own: armed in a session with nothing else in it, and asked for what the run's events ask
of it, at the moments that the clock showed then. Its evaluations come to the same results
there. A shutdown counts as a cancellation (`Event.requests`).

One event changes a registration as its own requests do; so do the events of a run, one
after the other (`Tended.registration?_happenAll`), and what the run makes of a registration
is what the requests make of it in any session, that session included in which it is alone.
That evaluations of two registrations may change places is read off the same lemma for one
event.
-/
import Cadence.Proofs.Session.Events

set_option autoImplicit false

namespace Cadence

open Cadence.Config (EngineConfig)

namespace Session

variable {s t : Session} {c : EngineConfig} {k key : Nat} {r q : Registration} {e : Event}
  {events : List Event}

/-! ## Runs -/

/-- Events one after the other keep a session tended. -/
theorem Tended.happenAll (hs : Tended s) (h : ∀ e ∈ events, e.Inert) :
    Tended (s.happenAll events) := by
  induction events generalizing s with
  | nil => exact hs
  | cons e events ih =>
    rw [List.forall_mem_cons] at h
    exact ih (hs.happen h.1) h.2

/-- **A run changes a registration as its own requests do, and no other way.** -/
theorem Tended.registration?_happenAll (hs : Tended s) (h : ∀ e ∈ events, e.Inert)
    (hr : s.registration? key = some r) :
    (s.happenAll events).registration? key
      = some ((Event.requestsAll key s.clock events).foldl Registration.asked r) := by
  induction events generalizing s r with
  | nil => exact hr
  | cons e events ih =>
    rw [List.forall_mem_cons] at h
    rw [Event.requestsAll, List.foldl_append, ← hs.clock_happen e]
    exact ih (hs.happen h.1) h.2 (hs.registration?_happen hr e)

/-- What an event shows of a registration is what the registration replies by itself. -/
theorem Tended.resultOf_eq (hs : Tended s) (hr : s.registration? key = some r) (e : Event) :
    s.resultOf key e = r.replies (e.requests key s.clock) := by
  cases e with
  | tick job late =>
    have hreply : (s.tick key).2 = r.reply s.clock.now :=
      (tickWith_of_inert hr (hs.inert key r hr) 299).2.2.2
    rw [resultOf, Event.requests, hreply]
    split <;> rfl
  | cancel k =>
    have hnone : r.replies (if k = key then [.cancel] else []) = [] := by split <;> rfl
    rw [Event.requests, hnone]
    rfl
  | _ => rfl

/-- What an evaluation comes to hangs on the registration and the clock alone. -/
theorem Tended.resultOf_congr (hs : Tended s) (ht : Tended t)
    (hr : t.registration? key = s.registration? key) (hclock : t.clock = s.clock) (e : Event) :
    t.resultOf key e = s.resultOf key e := by
  cases hsr : s.registration? key with
  | some r => rw [ht.resultOf_eq (hr.trans hsr), hs.resultOf_eq hsr, hclock]
  | none =>
    have htr := hr.trans hsr
    cases e with
    | tick job late => simp only [resultOf, tick, tickWith, hsr, htr]
    | _ => rfl

/-- The evaluations in a run come to what the requests alone make them come to. -/
theorem Tended.resultsOf_eq (hs : Tended s) (h : ∀ e ∈ events, e.Inert)
    (hr : s.registration? key = some r) :
    s.resultsOf key events = r.replies (Event.requestsAll key s.clock events) := by
  induction events generalizing s r with
  | nil => rfl
  | cons e events ih =>
    rw [List.forall_mem_cons] at h
    have hrest := ih (hs.happen h.1) h.2 (hs.registration?_happen hr e)
    rw [resultsOf, Event.requestsAll, Registration.replies_append, hs.resultOf_eq hr e, hrest,
      hs.clock_happen e]

/-- An engine is closed when it was, or when a shutdown is among the events. -/
theorem isClosed_happenAll (s : Session) (events : List Event) :
    (s.happenAll events).isClosed = true ↔ s.isClosed = true ∨ .shutdown ∈ events := by
  induction events generalizing s with
  | nil => simp [Session.happenAll]
  | cons e events ih =>
    have hrest := ih (s.happen e)
    rw [isClosed_happen, or_assoc] at hrest
    rw [List.mem_cons, eq_comm (a := Event.shutdown)]
    exact hrest

/-! ## Starts -/

/-- In an open engine the start of an inert callback registers it, armed. -/
theorem registration?_happen_start (now : Moment) (schedule : Schedule) (script : Script)
    (hopen : s.isClosed = false) :
    (s.happen (.start now schedule (.script script))).registration? s.registrations.length
      = some (s.newcomer schedule script) := by
  rcases start_cases { s with present := now } schedule (.script script) with
    ⟨-, hclosed⟩ | ⟨_, hscript, -, hregistrations, -⟩
  · have hbefore : s.isClosed = true := hclosed script rfl
    rw [hbefore] at hopen
    exact Bool.noConfusion hopen
  · cases hscript
    rw [happen, registration?, hregistrations]
    exact List.getElem?_concat_length

/-- Whatever is registered behind a run was there before it, or was started in it. -/
theorem Tended.exists_start_of_happenAll (hs : Tended s) (h : ∀ e ∈ events, e.Inert)
    (hq : (s.happenAll events).registration? key = some q) :
    (∃ r, s.registration? key = some r) ∨
      ∃ before now schedule script behind,
        events = before ++ .start now schedule (.script script) :: behind ∧
        (s.happenAll before).isClosed = false ∧
        key = (s.happenAll before).registrations.length := by
  induction events generalizing s with
  | nil => exact .inl ⟨q, hq⟩
  | cons e events ih =>
    rw [List.forall_mem_cons] at h
    rcases ih (hs.happen h.1) h.2 hq with
      ⟨r, hr⟩ | ⟨before, now, schedule, script, behind, rfl, hopen, hkey⟩
    -- either it was there or the first event started it
    · rcases hs.exists_of_happen hr with
        ⟨r, hr, -⟩ | ⟨now, schedule, script, rfl, hopen, hkey, -⟩
      · exact .inl ⟨r, hr⟩
      · exact .inr ⟨[], now, schedule, script, events, rfl, hopen, hkey⟩
    · exact .inr ⟨e :: before, now, schedule, script, behind, rfl, hopen, hkey⟩

/-! ## Independence -/

/-- The registrations of an engine do not interfere in a run. -/
structure Independent (s : Session) (events : List Event) : Prop where
  /-- whatever is registered was started, before any shutdown -/
  started : ∀ key r, (s.happenAll events).registration? key = some r →
    ∃ before now schedule script behind,
      events = before ++ .start now schedule (.script script) :: behind ∧
      .shutdown ∉ before ∧ key = (s.happenAll before).registrations.length
  /-- whatever is started before a shutdown is registered, and stands where it would stand
  alone; its evaluations come to the same -/
  alone : ∀ before now schedule script behind,
    events = before ++ .start now schedule (.script script) :: behind → .shutdown ∉ before →
    let key := (s.happenAll before).registrations.length
    let requests := Event.requestsAll key (s.happenAll before).clock behind
    let started := (s.happenAll before).happen (.start now schedule (.script script))
    ∃ r q, (s.happenAll events).registration? key = some r ∧
      ((Session.alone schedule script).serveAll (callWithin maxDepth) 0 requests).registration? 0
        = some q ∧
      r.Alike q ∧
      started.resultsOf key behind
        = (Session.alone schedule script).replies (callWithin maxDepth) 0 requests
  /-- runs of the jobs of two registrations can change places -/
  commute : ∀ (job other : Job) (late later : Int), job.key ≠ other.key →
    let t := s.happenAll events
    let first := (t.happen (.tick job late)).happen (.tick other later)
    let second := (t.happen (.tick other later)).happen (.tick job late)
    first.registrations = second.registrations ∧ first.engine = second.engine ∧
      first.clock = second.clock ∧
      (t.happen (.tick other later)).resultOf job.key (.tick job late)
        = t.resultOf job.key (.tick job late)
  /-- a run of another's job, and the cancellation of another, leave a registration, its
  entry on the registry and its job alone -/
  apart : ∀ key e, (∃ job late, e = .tick job late ∧ job.key ≠ key) ∨
      (∃ k, e = .cancel k ∧ k ≠ key) →
    let t := s.happenAll events
    (t.happen e).registration? key = t.registration? key ∧
      (key ∈ (t.happen e).registry ↔ key ∈ t.registry) ∧ (t.happen e).job? key = t.job? key

/-- What a start leaves behind stands at the same point as a registration alone. -/
theorem newcomer_alike (s : Session) (schedule : Schedule) (script : Script) :
    (s.newcomer schedule script).Alike { id := madeId 0, schedule, script, stage := .armed } :=
  ⟨rfl, rfl, rfl, rfl, rfl, rfl⟩

/-- What is started in an open engine stands, whatever happens behind, where it would stand
alone. -/
theorem Tended.alike_alone (hs : Tended s) (hopen : s.isClosed = false) (now : Moment)
    (schedule : Schedule) {script : Script} (hscript : Inert script)
    (h : ∀ e ∈ events, e.Inert) :
    let key := s.registrations.length
    let requests := Event.requestsAll key s.clock events
    let started := s.happen (.start now schedule (.script script))
    ∃ r q, (started.happenAll events).registration? key = some r ∧
      ((Session.alone schedule script).serveAll (callWithin maxDepth) 0 requests).registration? 0
        = some q ∧
      r.Alike q ∧
      started.resultsOf key events
        = (Session.alone schedule script).replies (callWithin maxDepth) 0 requests := by
  intro key requests started
  have hstarted : Tended started := hs.happen hscript
  have hclock : started.clock = s.clock := hs.clock_happen _
  have hnew := registration?_happen_start now schedule script hopen
  -- both are driven by the same requests, one behind the start and one from the beginning
  have hafter := hstarted.registration?_happenAll h hnew
  have hresults := hstarted.resultsOf_eq h hnew
  rw [hclock] at hafter hresults
  have halone := registration?_alone schedule script
  have halike := newcomer_alike s schedule script
  have hreplies : (Session.alone schedule script).replies (callWithin maxDepth) 0 requests
      = _ := replies_of_inert halone hscript requests
  refine ⟨_, _, hafter, registration?_serveAll_of_inert halone hscript requests,
    halike.foldl_asked requests, ?_⟩
  rw [hreplies, ← halike.replies requests]
  exact hresults

/-- Runs of the jobs of two registrations leave the same behind in both orders. -/
theorem Tended.commute (hs : Tended s) {job other : Job} (late later : Int)
    (hne : job.key ≠ other.key) :
    ((s.happen (.tick job late)).happen (.tick other later)).registrations
      = ((s.happen (.tick other later)).happen (.tick job late)).registrations := by
  have hfirst : Tended (s.happen (.tick job late)) := hs.happen trivial
  have hsecond : Tended (s.happen (.tick other later)) := hs.happen trivial
  refine List.ext_getElem? (fun key => ?_)
  cases hr : s.registration? key with
  | none =>
    have hlength : ∀ {t : Session}, Edits s t → t.registrations[key]? = none := by
      intro t h
      rw [List.getElem?_eq_none_iff, h.length_eq]
      exact List.getElem?_eq_none_iff.mp hr
    exact (hlength ((edits_runJob job late s).trans (edits_runJob other later _))).trans
      (hlength ((edits_runJob other later s).trans (edits_runJob job late _))).symm
  | some r =>
    have hthis := hfirst.registration?_happen (hs.registration?_happen hr (.tick job late))
      (.tick other later)
    have hthat := hsecond.registration?_happen (hs.registration?_happen hr (.tick other later))
      (.tick job late)
    rw [(hs.runJob job late).2.1] at hthis
    rw [(hs.runJob other later).2.1] at hthat
    refine hthis.trans (Eq.trans ?_ hthat.symm)
    -- one of the two asks nothing of this registration
    by_cases hkey : job.key = key
    · have hnone : (Event.tick other later).requests key s.clock = [] := by
        rw [Event.requests, if_neg (fun h => hne (hkey.trans h.1.symm))]
      rw [hnone]
      rfl
    · have hnone : (Event.tick job late).requests key s.clock = [] := by
        rw [Event.requests, if_neg (fun h => hkey h.1)]
      rw [hnone]
      rfl

/-- An event that asks nothing of a registration leaves it alone. -/
theorem Tended.registration?_of_requests_eq_nil (hs : Tended s) (e : Event)
    (hnone : e.requests key s.clock = []) (hsame : Edits s (s.happen e)) :
    (s.happen e).registration? key = s.registration? key := by
  cases hr : s.registration? key with
  | some r => rw [hs.registration?_happen hr e, hnone, List.foldl_nil]
  | none =>
    rw [registration?, List.getElem?_eq_none_iff, hsame.length_eq]
    exact List.getElem?_eq_none_iff.mp hr

/-- A session with an engine that nothing has been started in. -/
theorem tended_of_new (hnone : s.registrations = []) : Tended s := by
  have hno : ∀ key r, s.registration? key = some r → False := by
    intro key r hr
    rw [registration?, hnone] at hr
    cases hr
  exact ⟨fun key r hr => (hno key r hr).elim, fun key r hr => (hno key r hr).elim,
    fun key r hr => (hno key r hr).elim⟩

/-- **Registrations do not interfere.** In every run of an engine whose callbacks are inert
a registration stands where its own events lead it when it is alone, and the others' runs
and cancellations leave it alone. -/
theorem independent_of_inert (hengine : s.engine = some { config := c })
    (hnone : s.registrations = []) (h : ∀ e ∈ events, e.Inert) : Independent s events := by
  have hs := tended_of_new hnone
  have hopen : s.isClosed = false := by rw [isClosed, hengine]; rfl
  have hclosed : ∀ before, (s.happenAll before).isClosed = true ↔ .shutdown ∈ before := by
    intro before
    rw [isClosed_happenAll, hopen]
    simp
  have ht := hs.happenAll h
  refine ⟨?_, ?_, ?_, ?_⟩
  · intro key q hq
    rcases hs.exists_start_of_happenAll h hq with
      ⟨r, hr⟩ | ⟨before, now, schedule, script, behind, hevents, hbefore, hkey⟩
    · rw [registration?, hnone] at hr
      cases hr
    · refine ⟨before, now, schedule, script, behind, hevents, fun hmem => ?_, hkey⟩
      rw [(hclosed before).mpr hmem] at hbefore
      exact Bool.noConfusion hbefore
  · rintro before now schedule script behind rfl hbefore key requests started
    simp only [List.forall_mem_append, List.forall_mem_cons] at h
    obtain ⟨hinert, hscript, hbehind⟩ := h
    have hstill : (s.happenAll before).isClosed = false := by
      rw [Bool.eq_false_iff, ne_eq, hclosed]
      exact hbefore
    rw [happenAll_append]
    exact (hs.happenAll hinert).alike_alone hstill now schedule hscript hbehind
  · intro job other late later hne t first second
    have hjob : Tended (t.happen (.tick job late)) := ht.happen trivial
    have hother : Tended (t.happen (.tick other later)) := ht.happen trivial
    obtain ⟨hengine₁, hclock₁, -⟩ := ht.runJob job late
    obtain ⟨hengine₂, hclock₂, -⟩ := ht.runJob other later
    obtain ⟨hengine₁₂, hclock₁₂, -⟩ := hjob.runJob other later
    obtain ⟨hengine₂₁, hclock₂₁, -⟩ := hother.runJob job late
    refine ⟨ht.commute late later hne, ?_, ?_, ?_⟩
    · rw [hengine₁₂, hengine₁, hengine₂₁, hengine₂]
    · rw [hclock₁₂, hclock₁, hclock₂₁, hclock₂]
    · have hnothing : (Event.tick other later).requests job.key t.clock = [] := by
        rw [Event.requests, if_neg (fun h => hne h.1.symm)]
      -- a tick of another job is no request to this registration
      have hsame := ht.registration?_of_requests_eq_nil _ hnothing (edits_runJob other later t)
      exact ht.resultOf_congr hother hsame hclock₂ _
  · rintro key e (⟨job, late, rfl, hne⟩ | ⟨k, rfl, hne⟩) t
    · have hnothing : (Event.tick job late).requests key t.clock = [] := by
        rw [Event.requests, if_neg (fun h => hne h.1)]
      refine ⟨ht.registration?_of_requests_eq_nil _ hnothing (edits_runJob job late t), ?_, ?_⟩
      · rw [registry, registry, (ht.runJob job late).1]
      · rw [job?, job?, (ht.runJob job late).1]
    · exact ⟨registration?_cancel_of_ne hne, entry_cancel hne⟩

/-- Two registrations, of which the first fails whenever it is called; runs of both in one
second and in the next, a cancellation of the first, a run of the second behind it, and a
shutdown. -/
theorem independent_of_inert_failing :
    let s : Session := openEngine {} { clock := ⟨Moment.epoch2026⟩ }
    let job (key : Nat) : Job :=
      { key, name := "", interval := 1, zone := Zone.utc, first := 0, grace := 1 }
    let events : List Event := [
      .start Moment.epoch2026 .every (.script (fun _ => [.fail (.kind (.raised "down"))])),
      .start Moment.epoch2026 .every (.script (fun n => [.say "app" (toString n)])),
      .tick (job 0) 0, .tick (job 1) 0, .advance (.int 1), .tick (job 1) 0, .tick (job 0) 0,
      .cancel 0, .tick (job 1) 0, .shutdown]
    s.engine = some { config := {} } ∧ s.registrations = [] ∧ (∀ e ∈ events, e.Inert) ∧
      Independent s events := by
  intro s job events
  have hengine : s.engine = some { config := {} } := rfl
  have hfails : Inert (fun _ => [.fail (.kind (.raised "down"))]) := by
    intro n a ha
    obtain rfl := List.mem_singleton.mp ha
    rfl
  have htalks : Inert (fun n => [.say "app" (toString n)]) := by
    intro n a ha
    obtain rfl := List.mem_singleton.mp ha
    rfl
  have hinert : ∀ e ∈ events, e.Inert := by
    simp only [events, List.forall_mem_cons]
    exact ⟨hfails, htalks, trivial, trivial, trivial, trivial, trivial, trivial, trivial, trivial,
      by simp⟩
  exact ⟨hengine, rfl, hinert, independent_of_inert hengine rfl hinert⟩

end Session

end Cadence
