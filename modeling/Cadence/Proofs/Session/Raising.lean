/-
What an evaluation that raises leaves behind.

An evaluation may raise at three places: where it reads the clock, where it asks the schedule,
and where it calls the callback. The clock of a session can always be read, so evaluation is
taken here over what the reading came to (`tickReading`), which on the session's own clock is
the evaluation of the session (`tickReading_clock`).

The note that a registration fires is made as a whole, between asking the schedule and the
call. So before the note nothing has changed, and from it on everything has: an evaluation
that raises in the call leaves what the call left, the same as if the call had returned. The
second is then spent (`Spent`). The same moment does not lead to a call again, and a match in
another second does, as long as the registration is armed.
-/
import Cadence.Proofs.Sequencing
import Cadence.Proofs.Session.Inert

set_option autoImplicit false

namespace Cadence

namespace Registration

variable {r : Registration} {now : Moment} {e : Fault}

/-- A judgement fails when the registration is armed and the schedule cannot be evaluated. -/
theorem judge_eq_failed_iff :
    r.judge now = .failed e ↔ r.stage = .armed ∧ r.schedule.accepts now = .error e := by
  unfold judge
  by_cases hstage : r.stage = .armed
  · rw [if_pos hstage, and_iff_right hstage]
    rcases r.schedule.accepts now with e' | b
    · simp
    · cases b with
      | false => simp
      | true => by_cases hlast : r.lastFired = some now.epochSecond <;> simp [hlast]
  · simp [hstage]

/-- Moves leave the schedule of a registration alone. -/
theorem schedule_of_evolves {key : Nat} {r r' : Registration} {os : List Occurrence}
    (h : Evolves key r r' os) : r'.schedule = r.schedule := by
  induction h with
  | refl => rfl
  | step _ hm ih =>
    rw [← ih]
    cases hm with
    | arm ha =>
      rw [Registration.arm, ite_error_eq_ok_iff] at ha
      rw [← Except.ok.inj ha.2]
    | stop _ => rfl
    | fire _ => rfl
    | pass _ => rfl

end Registration

namespace Session

variable {key : Nat} {s t : Session} {call : Caller} {r q : Registration} {now : Moment}
  {reading : Except Fault Moment} {e : Fault}

/-! ## A clock that may fail -/

/-- An evaluation on what reading the clock came to; only an armed registration reads it. -/
def tickReading (call : Caller) (key : Nat) (reading : Except Fault Moment) (s : Session) :
    Outcome Bool :=
  match s.registration? key with
  | none => (s, .ok false)
  | some r =>
    if r.stage = .armed then
      match reading with
      | .ok now => s.tickAt call key now
      | .error e => (s, .error e)
    else (s, .ok false)

/-- On the session's own clock it is the evaluation of the session. -/
theorem tickReading_clock (call : Caller) (key : Nat) (s : Session) :
    s.tickReading call key (.ok s.clock.now) = s.tickWith call key := by
  rw [tickReading]
  cases hr : s.registration? key with
  | none => rw [tickWith, hr]
  | some r =>
    by_cases hstage : r.stage = .armed
    · simp only [hstage, if_true]
      rfl
    · simp only [hstage, if_false, tickWith, hr, Registration.judge]

/-- An armed registration asks the clock, and goes on with what it shows. -/
theorem tickReading_of_armed (hr : s.registration? key = some r) (hstage : r.stage = .armed)
    (now : Moment) : s.tickReading call key (.ok now) = s.tickAt call key now := by
  simp only [tickReading, hr, hstage, if_true]

/-! ## Before the call -/

/-- A schedule that cannot be evaluated leaves nothing behind but the fault. -/
theorem tickAt_of_failed (hr : s.registration? key = some r) (hfailed : r.judge now = .failed e) :
    s.tickAt call key now = ({ s with clock := ⟨now⟩ }, .error e) := by
  have hr' : { s with clock := ⟨now⟩ }.registration? key = some r := hr
  simp only [tickAt, tickWith, hr', hfailed]

/-- An evaluation raises because the schedule cannot be asked, or because the call does. -/
theorem tickAt_eq_error_iff (hr : s.registration? key = some r) :
    (s.tickAt call key now).2 = .error e ↔ r.judge now = .failed e ∨
      r.judge now = .due now.epochSecond ∧ (call key (s.callAt key now)).2 = .error e := by
  have hr' : { s with clock := ⟨now⟩ }.registration? key = some r := hr
  cases hj : r.judge now with
  | due second =>
    obtain ⟨-, -, -, rfl⟩ := Registration.judge_eq_due_iff.mp hj
    rw [tickAt_of_due hr hj, map_eq_error_iff]
    simp
  | _ => simp [tickAt, tickWith, hr', hj]

/-- What an evaluation may raise. -/
theorem tickReading_eq_error_iff (hr : s.registration? key = some r) :
    (s.tickReading call key reading).2 = .error e ↔
      (r.stage = .armed ∧ (reading = .error e ∨
        ∃ now, reading = .ok now ∧ r.schedule.accepts now = .error e)) ∨
      ∃ now, reading = .ok now ∧ r.judge now = .due now.epochSecond ∧
        (call key (s.callAt key now)).2 = .error e := by
  by_cases hstage : r.stage = .armed
  · cases reading with
    | error e' => simp [tickReading, hr, hstage]
    | ok now =>
      rw [tickReading_of_armed hr hstage, tickAt_eq_error_iff hr,
        Registration.judge_eq_failed_iff]
      simp [hstage]
  -- what is not armed reads no clock and is never due
  · have hdue : ∀ now, r.judge now ≠ .due now.epochSecond := fun now hdue =>
      hstage (Registration.judge_eq_due_iff.mp hdue).1
    simp [tickReading, hr, hstage, hdue]

/-- Where the evaluation does not come to a call, it leaves registration and story alone. -/
theorem tickReading_of_unasked (hr : s.registration? key = some r) (hstage : r.stage = .armed)
    (h : reading = .error e ∨ ∃ now, reading = .ok now ∧ r.schedule.accepts now = .error e) :
    (s.tickReading call key reading).2 = .error e ∧
      (s.tickReading call key reading).1.registration? key = some r ∧
      (s.tickReading call key reading).1.story key = s.story key := by
  rcases h with rfl | ⟨now, rfl, hfails⟩
  · simp only [tickReading, hr, hstage, if_true]
    exact ⟨trivial, trivial, trivial⟩
  · have hfailed := Registration.judge_eq_failed_iff.mpr ⟨hstage, hfails⟩
    rw [tickReading_of_armed hr hstage, tickAt_of_failed hr hfailed]
    exact ⟨rfl, hr, rfl⟩

/-! ## Behind the call -/

/-- One that is due calls its callback, and what comes of that comes of the evaluation. -/
theorem tickReading_of_due (hr : s.registration? key = some r)
    (hdue : r.judge now = .due now.epochSecond) :
    s.tickReading call key (.ok now) = ((call key (s.callAt key now)).1,
      (call key (s.callAt key now)).2.map (fun _ => true)) := by
  rw [tickReading_of_armed hr (Registration.judge_eq_due_iff.mp hdue).1, tickAt_of_due hr hdue]

/-- The same calls, each of which returns instead of raising. -/
def returning (call : Caller) : Caller := fun k s => ((call k s).1, .ok ())

/-- The second of a moment is spent for a registration: at that moment there is no call
again, and at a match in another second there is, as long as it is armed. -/
structure Spent (call : Caller) (key : Nat) (now : Moment) (q : Registration) (t : Session) :
    Prop where
  again : (t.tickReading call key (.ok now)).2 = .ok false
  silent : (t.tickReading call key (.ok now)).1.calls key = t.calls key
  kept : (t.tickReading call key (.ok now)).1.registration? key = some q
  other : ∀ next, q.stage = .armed → q.schedule.accepts next = .ok true →
    next.epochSecond ≠ now.epochSecond →
      (t.callAt key next).calls key = t.calls key ++ [next] ∧
      t.tickReading call key (.ok next) = ((call key (t.callAt key next)).1,
        (call key (t.callAt key next)).2.map (fun _ => true))

/-- A second that a registration fired for last is spent. -/
theorem spent_of_lastFired (hq : t.registration? key = some q)
    (hmatch : q.schedule.accepts now = .ok true) (hlast : q.lastFired = some now.epochSecond) :
    Spent call key now q t := by
  -- another second is due as ever
  have hother : ∀ next, q.stage = .armed → q.schedule.accepts next = .ok true →
      next.epochSecond ≠ now.epochSecond →
        (t.callAt key next).calls key = t.calls key ++ [next] ∧
        t.tickReading call key (.ok next) = ((call key (t.callAt key next)).1,
          (call key (t.callAt key next)).2.map (fun _ => true)) := by
    intro next hstage hnext hne
    have hnew : q.lastFired ≠ some next.epochSecond := by
      rw [hlast, Ne, Option.some.injEq]
      exact hne.symm
    exact ⟨calls_of_story (story_callAt key next t), tickReading_of_due hq
      (Registration.judge_eq_due_iff.mpr ⟨hstage, hnext, hnew, rfl⟩)⟩
  by_cases hstage : q.stage = .armed
  · -- it looks, and finds the second it fired for last
    have hrepeated : q.judge now = .repeated now.epochSecond :=
      Registration.judge_eq_repeated_iff.mpr ⟨hstage, hmatch, hlast, rfl⟩
    have hq' : { t with clock := ⟨now⟩ }.registration? key = some q := hq
    have htick : t.tickReading call key (.ok now) = _ := tickReading_of_armed hq hstage now
    simp only [tickAt, tickWith, hq', hrepeated] at htick
    refine ⟨by rw [htick], ?_, ?_, hother⟩
    · rw [htick, calls, story_witness, story_say]
      simp [Occurrence.isOf, Occurrence.call?, calls, story]
    · rw [htick]
      exact hq
  · have htick : t.tickReading call key (.ok now) = (t, .ok false) := by
      simp only [tickReading, hq, hstage, if_false]
    exact ⟨by rw [htick], by rw [htick], by rw [htick]; exact hq, hother⟩

/-- **What an evaluation that raises leaves behind.** It raises when it is armed and the clock
cannot be read or the schedule not be asked, and when it calls and the call raises; in each
case with that very fault. In the first two, registration and story are as they were. A call
finds the note of it made, in all its parts. What the evaluation leaves is what the call left,
and had the call returned it would have been the same. As long as the call has not changed
what was noted, the second is spent; and calls that only make moves keep the schedule. -/
theorem raising_decides (hr : s.registration? key = some r) (call : Caller)
    (reading : Except Fault Moment) :
    (∀ e, (s.tickReading call key reading).2 = .error e ↔
      (r.stage = .armed ∧ (reading = .error e ∨
        ∃ now, reading = .ok now ∧ r.schedule.accepts now = .error e)) ∨
      ∃ now, reading = .ok now ∧ r.judge now = .due now.epochSecond ∧
        (call key (s.callAt key now)).2 = .error e) ∧
    (∀ e, r.stage = .armed → (reading = .error e ∨
        ∃ now, reading = .ok now ∧ r.schedule.accepts now = .error e) →
      (s.tickReading call key reading).1.registration? key = some r ∧
        (s.tickReading call key reading).1.story key = s.story key) ∧
    ∀ now e t, reading = .ok now → r.judge now = .due now.epochSecond →
      call key (s.callAt key now) = (t, .error e) →
        (s.callAt key now).registration? key = some (r.fired now.epochSecond now) ∧
        s.tickReading call key reading = (t, .error e) ∧
        s.tickReading (returning call) key reading = (t, .ok true) ∧
        (∀ q, t.registration? key = some q → q.schedule = r.schedule →
          q.lastFired = some now.epochSecond → Spent call key now q t) ∧
        (Moves key call → ∃ q, t.registration? key = some q ∧ q.schedule = r.schedule) := by
  refine ⟨fun e => tickReading_eq_error_iff hr, fun e hstage h =>
    (tickReading_of_unasked hr hstage h).2, ?_⟩
  rintro now e t rfl hdue hcall
  have hnoted := registration?_callAt hr now
  refine ⟨hnoted, ?_, ?_, fun q hq hschedule hlast => ?_, fun hmoves => ?_⟩
  · rw [tickReading_of_due hr hdue, hcall]
    rfl
  · rw [tickReading_of_due hr hdue, returning, hcall]
    rfl
  -- the second was written before the call, and stays written
  · have hmatch := (Registration.judge_eq_due_iff.mp hdue).2.1
    rw [← hschedule] at hmatch
    exact spent_of_lastFired hq hmatch hlast
  · obtain ⟨q, os, hq, hos, -⟩ := hmoves key (s.callAt key now) _ hnoted
    rw [hcall] at hq
    have hkept := Registration.schedule_of_evolves hos
    exact ⟨q, hq, hkept⟩

/-- A registration for every second whose callback fails on its first call: the first
evaluation raises, one at the same moment does not call, and one a second later does. -/
theorem raising_decides_failing :
    let script : Script := fun n => if n = 1 then [.fail (.state .shutDown)] else []
    let call := callWithin maxDepth
    let s := alone .every script
    ∃ r t q, s.registration? 0 = some r ∧
      s.tickReading call 0 (.ok .epoch2026) = (t, .error (.state .shutDown)) ∧
      s.tickReading (returning call) 0 (.ok .epoch2026) = (t, .ok true) ∧
      t.registration? 0 = some q ∧ Spent call 0 .epoch2026 q t := by
  intro script call s
  let r : Registration := { id := madeId 0, schedule := .every, script, stage := .armed }
  have hr : s.registration? 0 = some r := registration?_alone .every script
  have hmatch : r.schedule.accepts .epoch2026 = .ok true := rfl
  have hnew : r.lastFired ≠ some Moment.epoch2026.epochSecond := by simp [r]
  have hdue : r.judge .epoch2026 = .due Moment.epoch2026.epochSecond :=
    Registration.judge_eq_due_iff.mpr ⟨rfl, hmatch, hnew, rfl⟩
  have hcall : call 0 (s.callAt 0 .epoch2026)
      = (s.callAt 0 .epoch2026, .error (.state .shutDown)) := rfl
  obtain ⟨-, -, hraised⟩ := raising_decides hr call (.ok .epoch2026)
  obtain ⟨hnoted, htick, hreturned, hspent, -⟩ := hraised _ _ _ rfl hdue hcall
  exact ⟨r, _, _, hr, htick, hreturned, hnoted, hspent _ hnoted rfl rfl⟩

end Session

end Cadence
