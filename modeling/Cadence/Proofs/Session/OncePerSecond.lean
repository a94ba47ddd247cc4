/-
How often a registration calls in one second.

A registration remembers one second, that of its last call. It therefore calls at a
match exactly when the match before it was in another second (`Evolves.calls`), whatever
happened in between and whoever asked for the evaluation. So it calls at most once in
each second as long as the seconds of its matches never come back to one they have
left. On a clock that never goes back they do not; on a clock that is set back they
may, and then the callback is called again for a second it was called for before.
-/
import Cadence.Proofs.Runs
import Cadence.Proofs.Sequencing
import Cadence.Proofs.Session.Requests

set_option autoImplicit false

namespace Cadence

/-- A notice is neither a call nor a match. -/
theorem Registration.filterMap_notice (key : Nat) (r : Registration) :
    (r.notice key).filterMap Occurrence.call? = [] ∧
      (r.notice key).filterMap Occurrence.match? = [] := by
  rw [Registration.notice]
  split <;> exact ⟨rfl, rfl⟩

/-- **The calls are the matches without those in the second of the match before**, and
the second that is remembered is that of the last match. -/
theorem Evolves.calls {key : Nat} {r r' : Registration} {os : List Occurrence}
    (h : Evolves key r r' os) (hr : r.lastFired = none) :
    os.filterMap Occurrence.call? = (os.filterMap Occurrence.match?).destutter
        (fun a b => a.epochSecond ≠ b.epochSecond) ∧
      r'.lastFired = (os.filterMap Occurrence.match?).getLast?.map Moment.epochSecond := by
  -- the second of the last match is the one kept, whether it was called for or passed over
  induction h with
  | refl => exact ⟨rfl, hr⟩
  | @step s t os ps _ hm ih =>
    obtain ⟨hcalls, hlast⟩ := ih
    rw [List.filterMap_append, List.filterMap_append]
    cases hm with
    | arm ha =>
      rw [Registration.arm, ite_error_eq_ok_iff] at ha
      rw [List.filterMap_nil, List.filterMap_nil, List.append_nil, List.append_nil,
        ← Except.ok.inj ha.2]
      exact ⟨hcalls, hlast⟩
    | stop _ =>
      rw [(Registration.filterMap_notice key s).1, (Registration.filterMap_notice key s).2,
        List.append_nil, List.append_nil]
      exact ⟨hcalls, hlast⟩
    | @fire now second hj =>
      obtain ⟨-, -, hne, rfl⟩ := Registration.judge_eq_due_iff.mp hj
      have hcall : [Occurrence.called key now].filterMap Occurrence.call? = [now] := rfl
      have hmatch : [Occurrence.called key now].filterMap Occurrence.match? = [now] := rfl
      rw [hlast] at hne
      rw [hcall, hmatch, destutter_concat, if_neg hne, hcalls, List.getLast?_concat]
      exact ⟨rfl, rfl⟩
    | @pass now second hj =>
      obtain ⟨-, -, heq, rfl⟩ := Registration.judge_eq_repeated_iff.mp hj
      have hcall : [Occurrence.passed key now].filterMap Occurrence.call? = [] := rfl
      have hmatch : [Occurrence.passed key now].filterMap Occurrence.match? = [now] := rfl
      have hrun := heq
      rw [hlast] at hrun
      rw [hcall, hmatch, destutter_concat, if_pos hrun, List.append_nil, List.getLast?_concat]
      exact ⟨hcalls, heq⟩

namespace Session

variable {key : Nat} {s : Session} {call : Caller} {r : Registration}

/-- In a run too the calls are the matches without the repetitions. -/
theorem calls_eq_destutter (hs : s.Fresh key r) (hcall : Moves key call)
    (requests : List Request) :
    ((s.serveAll call key requests).calls key).map Moment.epochSecond
      = (((s.serveAll call key requests).matched key).map Moment.epochSecond).destutter
          (· ≠ ·) := by
  obtain ⟨r', os, -, hos, hstory⟩ := progress_serveAll hcall s requests r hs.found
  rw [hs.story, List.nil_append] at hstory
  rw [calls, matched, hstory, (hos.calls hs.lastFired).1, map_destutter]

/-- A new registration has nothing behind it, in a session whose trace does not know of
it yet. -/
theorem fresh_create {t : Session} {given : Option String} {schedule : Schedule}
    {callback : Callback} {listener : Listener}
    (h : s.create given schedule callback listener = (t, .ok key))
    (hs : s.story s.registrations.length = []) : ∃ r, t.Fresh key r := by
  unfold create at h
  split at h
  case h_1 => simp at h
  case h_2 script _ =>
    rw [Prod.mk.injEq, Except.ok.injEq] at h
    obtain ⟨rfl, rfl⟩ := h
    exact ⟨_, List.getElem?_concat_length, rfl, rfl, rfl, hs⟩

/-- On a clock that does not go back, the seconds of the calls increase. -/
theorem pairwise_lt_calls (hs : s.Fresh key r) (depth : Nat) (requests : List Request)
    (hclock : (((s.serveAll (callWithin depth) key requests).matched key).map
      Moment.epochSecond).Pairwise (· ≤ ·)) :
    (((s.serveAll (callWithin depth) key requests).calls key).map
      Moment.epochSecond).Pairwise (· < ·) := by
  rw [calls_eq_destutter hs (progress_callWithin key depth) requests]
  exact pairwise_lt_destutter hclock

/-- **A callback is called at most once in each second exactly when the seconds of the
matches never come back.** The requests, the clock and what callbacks do are arbitrary. -/
theorem count_calls_le_one_iff (hs : s.Fresh key r) (depth : Nat) (requests : List Request) :
    let t := s.serveAll (callWithin depth) key requests
    (t.calls key).map Moment.epochSecond
        = ((t.matched key).map Moment.epochSecond).destutter (· ≠ ·) ∧
      ((∀ second : Int, ((t.calls key).map Moment.epochSecond).count second ≤ 1) ↔
        NeverReturns ((t.matched key).map Moment.epochSecond)) := by
  intro t
  have hcalls := calls_eq_destutter hs (progress_callWithin key depth) requests
  refine ⟨hcalls, ?_⟩
  rw [hcalls, ← List.nodup_iff_count_le_one, nodup_destutter_iff]

/-- A registration for every second whose clock is set back to a second it left: the
callback is called in that second twice. -/
theorem calls_after_clock_back :
    ∃ (s : Session) (r : Registration),
      create none .every (.script fun _ => []) .nobody { clock := ⟨.epoch2026⟩ } = (s, .ok 0) ∧
      s.Fresh 0 r ∧
      ((s.serveAll (callWithin maxDepth) 0 [.arm, .tick .epoch2026,
        .tick ⟨1767225601 * secondMicros, .fixed 0, false⟩, .tick .epoch2026]).calls 0).map
          Moment.epochSecond = [1767225600, 1767225601, 1767225600] :=
  ⟨_, _, rfl, ⟨rfl, rfl, rfl, rfl, rfl⟩, by decide +kernel⟩

/-- A registration that is evaluated twice in one second, by a callback that evaluates it
once more. -/
theorem count_calls_le_one_iff_nested :
    ∃ (s : Session) (r : Registration),
      create none .every (.script fun _ => [.tick "self"]) .nobody
        { clock := ⟨.epoch2026⟩, names := [("self", 0)] } = (s, .ok 0) ∧
      s.Fresh 0 r ∧
      let t := s.serveAll (callWithin maxDepth) 0
        [.arm, .tick .epoch2026, .tick ⟨1767225600 * secondMicros + 500000, .fixed 0, false⟩]
      (t.calls 0).map Moment.epochSecond
          = ((t.matched 0).map Moment.epochSecond).destutter (· ≠ ·) ∧
        ((∀ second : Int, ((t.calls 0).map Moment.epochSecond).count second ≤ 1) ↔
          NeverReturns ((t.matched 0).map Moment.epochSecond)) := by
  have hcreate : ∃ s, create none .every (.script fun _ => [.tick "self"]) .nobody
      { clock := ⟨.epoch2026⟩, names := [("self", 0)] } = (s, .ok 0) := ⟨_, rfl⟩
  obtain ⟨s, hs⟩ := hcreate
  obtain ⟨r, hfresh⟩ := fresh_create hs rfl
  exact ⟨s, r, hs, hfresh, count_calls_le_one_iff hfresh maxDepth _⟩

end Session

end Cadence
