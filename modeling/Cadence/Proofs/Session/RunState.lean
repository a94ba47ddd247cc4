/-
The run state of a registration.

A run is a list of visits, so what holds of a registration all through a run, also in the
middle of nested calls, is a statement about flat lists of requests. Its stage is the one
that the visits so far lead to (`Record.stage_foldl_meet`). What it holds of itself agrees
with its story (`Settled`): the counter and the two notes are those of the calls begun, and
the listener has heard of the cancellation that stopped it and of no other. One visit keeps
this (`Settled.meet`), and so does a list of them.

Stopping is the end: no request does anything to a registration that is stopped
(`Record.meet_of_stopped`), so from then on nothing about it changes.
-/
import Cadence.Proofs.Session.History
import Cadence.Proofs.Session.Visits

set_option autoImplicit false

namespace Cadence

def Request.isCancel : Request → Bool
  | .cancel => true
  | _ => false

def Occurrence.isNotice : Occurrence → Bool
  | .cancelled _ => true
  | _ => false

/-! ## Stages -/

namespace Stage

variable {stage stage' stage'' : Stage} {a : Request}

/-- A stage may come to stand after another: all stages after the first, the last one after
all, and each after itself. -/
def LeadsTo (stage stage' : Stage) : Prop := stage = stage' ∨ stage = .idle ∨ stage' = .stopped

/-- What may come of a stage that may come of another may come of that one. -/
theorem LeadsTo.trans (h : stage.LeadsTo stage') (h' : stage'.LeadsTo stage'') :
    stage.LeadsTo stage'' := by
  rcases h with rfl | h | h
  · exact h'
  · exact .inr (.inl h)
  · rcases h' with rfl | h' | h'
    · exact .inr (.inr h)
    · rw [h] at h'
      exact Stage.noConfusion h'
    · exact .inr (.inr h')

/-- A request leads nowhere but to armed from idle, or to stopped. -/
theorem leadsTo_after (stage : Stage) (a : Request) : stage.LeadsTo (stage.after a) := by
  unfold LeadsTo
  cases stage <;> cases a <;> simp [after]

/-- Nor do many. -/
theorem leadsTo_foldl (stage : Stage) (asked : List Request) :
    stage.LeadsTo (asked.foldl after stage) := by
  induction asked generalizing stage with
  | nil => exact .inl rfl
  | cons a asked ih => exact (leadsTo_after stage a).trans (ih _)

/-- An evaluation leaves the stage. -/
@[simp] theorem after_tick (stage : Stage) (now : Moment) : stage.after (.tick now) = stage := by
  cases stage <;> rfl

/-- The last stage is reached by a cancellation and by nothing else. -/
theorem after_eq_stopped_iff : stage.after a = .stopped ↔ stage = .stopped ∨ a.isCancel = true := by
  cases stage <;> cases a <;> simp [after, Request.isCancel]

/-- A registration is stopped when it was, or when a cancellation is among the requests. -/
theorem foldl_after_eq_stopped_iff {asked : List Request} :
    asked.foldl after stage = .stopped ↔ stage = .stopped ∨ asked.any Request.isCancel = true := by
  induction asked generalizing stage with
  | nil => simp
  | cons a asked ih =>
    rw [List.foldl_cons, ih, after_eq_stopped_iff, List.any_cons, Bool.or_eq_true, or_assoc]

end Stage

/-! ## Accounts -/

/-- What the registration, made as `r`, holds of itself agrees with its story. -/
structure Settled (r : Registration) (p : Record) : Prop where
  listener : p.registration.listener = r.listener
  fireCount : p.registration.fireCount = (p.story.filterMap Occurrence.call?).length
  lastFiredAt : p.registration.lastFiredAt = (p.story.filterMap Occurrence.call?).getLast?
  lastFired : p.registration.lastFired = p.registration.lastFiredAt.map Moment.epochSecond
  notices : r.listener = .caller →
    p.story.countP Occurrence.isNotice = if p.registration.stage = .stopped then 1 else 0

/-- A registration that is stopped does not look at the clock. -/
theorem Registration.judge_of_stopped {r : Registration} (h : r.stage = .stopped)
    (now : Moment) : r.judge now = .unarmed := by
  rw [judge, h]
  rfl

namespace Record

variable {key : Nat} {p : Record}

/-- What a request does to a record moves the stage as it should. -/
theorem stage_meet (a : Request) :
    (p.meet key a).registration.stage = p.registration.stage.after a := by
  cases a with
  | arm =>
    rw [meet]
    cases hstage : p.registration.stage <;> simp [hstage, Stage.after]
  | cancel =>
    rw [meet]
    cases hstage : p.registration.stage <;> simp [hstage, Stage.after, Registration.stop]
  | tick now =>
    rw [meet, Stage.after_tick]
    split <;> rfl

/-- So the stage of a record is the one that the requests lead to. -/
theorem stage_foldl_meet (asked : List Request) :
    (asked.foldl (meet key) p).registration.stage
      = asked.foldl Stage.after p.registration.stage := by
  induction asked generalizing p with
  | nil => rfl
  | cons a asked ih => rw [List.foldl_cons, ih, stage_meet, List.foldl_cons]

/-- Nothing is done to a registration that is stopped. -/
theorem meet_of_stopped (h : p.registration.stage = .stopped) (a : Request) :
    p.meet key a = p := by
  cases a with
  | arm => rw [meet, if_pos h]
  | cancel => rw [meet, if_pos h]
  | tick now => rw [meet, Registration.judge_of_stopped h]

/-- No number of requests does anything to a registration that is stopped. -/
theorem foldl_meet_of_stopped (h : p.registration.stage = .stopped) (asked : List Request) :
    asked.foldl (meet key) p = p := by
  induction asked with
  | nil => rfl
  | cons a asked ih => rw [List.foldl_cons, meet_of_stopped h, ih]

end Record

/-- A caller who listens is told once. -/
theorem Registration.countP_notice {key : Nat} {r : Registration} (h : r.listener = .caller) :
    (r.notice key).countP Occurrence.isNotice = 1 := by
  rw [notice, h]
  rfl

variable {key : Nat} {r : Registration} {p q : Record}

/-- What makes no call and does not stop the registration keeps the accounts. -/
theorem Settled.of_quiet (h : Settled r p) (hbefore : p.registration.stage ≠ .stopped)
    {stage : Stage} (hbehind : stage ≠ .stopped)
    (hq : q.registration = { p.registration with stage := stage }) {os : List Occurrence}
    (hstory : q.story = p.story ++ os) (hcalls : os.filterMap Occurrence.call? = [])
    (hnotices : os.countP Occurrence.isNotice = 0) : Settled r q where
  listener := by rw [hq]; exact h.listener
  fireCount := by
    rw [hq, hstory, List.filterMap_append, hcalls, List.append_nil]
    exact h.fireCount
  lastFiredAt := by
    rw [hq, hstory, List.filterMap_append, hcalls, List.append_nil]
    exact h.lastFiredAt
  lastFired := by rw [hq]; exact h.lastFired
  notices hl := by
    have hnone := h.notices hl
    rw [if_neg hbefore] at hnone
    rw [hstory, List.countP_append, hnone, hnotices, hq, if_neg hbehind]

/-- A listener hears of the cancellation that stops the registration. -/
theorem Settled.stop (h : Settled r p) (hstage : p.registration.stage ≠ .stopped) (key : Nat) :
    Settled r ⟨p.registration.stop, p.story ++ p.registration.notice key⟩ where
  listener := h.listener
  fireCount := by
    rw [List.filterMap_append, (Registration.filterMap_notice key _).1, List.append_nil]
    exact h.fireCount
  lastFiredAt := by
    rw [List.filterMap_append, (Registration.filterMap_notice key _).1, List.append_nil]
    exact h.lastFiredAt
  lastFired := h.lastFired
  notices hl := by
    have hnone := h.notices hl
    rw [if_neg hstage] at hnone
    rw [List.countP_append, hnone, Registration.countP_notice (h.listener.trans hl)]
    rfl

/-- A call is counted, and its moment and the second of it are noted. -/
theorem Settled.fire (h : Settled r p) (key : Nat) (now : Moment) :
    Settled r ⟨p.registration.fired now.epochSecond now, p.story ++ [.called key now]⟩ where
  listener := h.listener
  fireCount := by
    rw [List.filterMap_append, List.length_append, ← h.fireCount]
    rfl
  lastFiredAt := by
    have hcall : [Occurrence.called key now].filterMap Occurrence.call? = [now] := rfl
    rw [List.filterMap_append, hcall, List.getLast?_concat]
    rfl
  lastFired := rfl
  notices hl := by
    rw [List.countP_append, h.notices hl]
    rfl

/-- **Each visit leaves a registration with its accounts settled.** -/
theorem Settled.meet (h : Settled r p) (key : Nat) (a : Request) :
    Settled r (p.meet key a) := by
  by_cases hstage : p.registration.stage = .stopped
  · rw [Record.meet_of_stopped hstage]
    exact h
  · cases a with
    | arm =>
      rw [Record.meet, if_neg hstage]
      exact h.of_quiet hstage (by decide) rfl (List.append_nil _).symm rfl rfl
    | cancel =>
      rw [Record.meet, if_neg hstage]
      exact h.stop hstage key
    | tick now =>
      -- a tick calls, passes over, or finds nothing to do
      rw [Record.meet]
      split
      case h_1 second hj =>
        obtain ⟨-, -, -, rfl⟩ := Registration.judge_eq_due_iff.mp hj
        exact h.fire key now
      case h_2 => exact h.of_quiet hstage hstage rfl rfl rfl rfl
      case h_3 => exact h

/-- A record stays settled through any requests. -/
theorem Settled.foldl_meet (h : Settled r p) (key : Nat) (asked : List Request) :
    Settled r (asked.foldl (Record.meet key) p) := by
  induction asked generalizing p with
  | nil => exact h
  | cons a asked ih => exact ih (h.meet key a)

/-! ## Moments of a run -/

/-- The listener is told at a visit: it is a cancellation, and the registration is not
stopped. -/
def Visit.tells (key : Nat) (v : Visit) : Bool :=
  v.request.isCancel && (v.session.registration? key).map (·.stage) != some .stopped

namespace Session

variable {key : Nat} {s t u w : Session} {vs : List Visit} {q : Record}

/-- The sessions that the visits find, and the one behind them all. -/
def moments (vs : List Visit) (t : Session) : List Session := vs.map Visit.session ++ [t]

def requestsOf (vs : List Visit) : List Request := vs.map Visit.request

/-- At each moment a registration is where the visits so far have left it. -/
theorem Passes.moment (h : Passes key p vs q) (ht : Holds key q t) {n : Nat}
    (hu : (moments vs t)[n]? = some u) :
    Holds key ((requestsOf (vs.take n)).foldl (Record.meet key) p) u := by
  induction h generalizing n with
  | nil p =>
    have hlast : u = t := by simpa [moments] using List.mem_of_getElem? hu
    rw [List.take_nil, hlast]
    exact ht
  | @cons p q v vs hv _ ih =>
    cases n with
    | zero =>
      obtain rfl : v.session = u := by simpa [moments] using hu
      exact hv
    | succ n => exact ih ht (by simpa [moments] using hu)

/-- The requests up to a later moment are those up to an earlier one and those between. -/
theorem requestsOf_take {n m : Nat} (h : n ≤ m) : requestsOf (vs.take m)
    = requestsOf (vs.take n) ++ requestsOf ((vs.take m).drop n) := by
  have hsplit := List.take_append_drop n (vs.take m)
  rw [List.take_take, Nat.min_eq_left h] at hsplit
  rw [requestsOf, requestsOf, requestsOf, ← List.map_append, hsplit]

/-- From one moment to a later one the stage goes forward, and what is stopped stays as it
is. -/
theorem Passes.later (h : Passes key p vs q) (ht : Holds key q t) {n m : Nat} (hle : n ≤ m)
    (hu : (moments vs t)[n]? = some u) (hw : (moments vs t)[m]? = some w)
    {r r' : Registration} (hr : u.registration? key = some r)
    (hr' : w.registration? key = some r') :
    r.stage.LeadsTo r'.stage ∧ (r.stage = .stopped → r' = r) := by
  have hthen := h.moment ht hu
  have hlater := h.moment ht hw
  rw [requestsOf_take hle, List.foldl_append] at hlater
  obtain rfl := Option.some.inj (hthen.found.symm.trans hr)
  obtain rfl := Option.some.inj (hlater.found.symm.trans hr')
  -- between the two moments come requests, and what is stopped meets none of them
  generalize requestsOf ((vs.take m).drop n) = asked
  refine ⟨?_, fun hstopped => ?_⟩
  · rw [Record.stage_foldl_meet asked]
    exact Stage.leadsTo_foldl _ asked
  · rw [Record.foldl_meet_of_stopped hstopped]

/-- A cancellation that does not tell the listener does nothing at all. -/
theorem cancel_eq_self {v : Visit} (hv : v.request = .cancel) (htells : v.tells key = false) :
    v.session.cancel key = v.session := by
  rw [Visit.tells, hv] at htells
  rw [cancel]
  cases hr : v.session.registration? key with
  | none => rfl
  | some r =>
    have hstopped : r.stage = .stopped := by simpa [hr, Request.isCancel] using htells
    exact if_pos hstopped

/-- The listener is told of the first cancellation only. -/
theorem Passes.length_tells (h : Passes key p vs q) :
    (vs.filter (Visit.tells key)).length =
      if p.registration.stage ≠ .stopped ∧ (requestsOf vs).any Request.isCancel then 1 else 0 := by
  induction h with
  | nil p => simp [requestsOf]
  | @cons p q v vs hv _ ih =>
    have hstage : (v.session.registration? key).map (·.stage) = some p.registration.stage := by
      rw [hv.found, Option.map_some]
    rw [Record.stage_meet] at ih
    have htells : v.tells key = (v.request.isCancel && p.registration.stage != .stopped) := by
      rw [Visit.tells, hstage]
      rfl
    have hany : (requestsOf (v :: vs)).any Request.isCancel
        = (v.request.isCancel || (requestsOf vs).any Request.isCancel) := rfl
    rw [List.filter_cons, htells, hany]
    -- what is stopped is not told again; else the first cancellation tells it
    by_cases hstopped : p.registration.stage = .stopped
    · simp [ih, hstopped, Stage.after_eq_stopped_iff]
    · cases hcancel : v.request.isCancel with
      | true => simp [ih, hstopped, Stage.after_eq_stopped_iff, hcancel]
      | false => simp [ih, hstopped, Stage.after_eq_stopped_iff, hcancel]

/-- The run state of the registration `r` at a moment, after the requests `asked`. -/
structure RunState (key : Nat) (r : Registration) (asked : List Request) (u : Session)
    (q : Registration) : Prop where
  found : u.registration? key = some q
  stage : q.stage = asked.foldl Stage.after .idle
  /-- the counter is that of the calls begun -/
  fireCount : q.fireCount = (u.calls key).length
  lastFired_none : q.lastFired = none ↔ q.fireCount = 0
  lastFiredAt_none : q.lastFiredAt = none ↔ q.fireCount = 0
  lastFired : ∀ now, q.lastFiredAt = some now → q.lastFired = some now.epochSecond
  /-- a caller that listens has heard of a cancellation once, if there was any -/
  notices : r.listener = .caller →
    (u.story key).countP Occurrence.isNotice = if asked.any Request.isCancel then 1 else 0
  /-- once it is stopped, evaluations come to nothing, whatever the clock shows -/
  tick_stopped : q.stage = .stopped → ∀ (call : Caller) (clock : ManualClock),
    { u with clock := clock }.tickWith call key = ({ u with clock := clock }, .ok false)
  arm_stopped : q.stage = .stopped → u.arm key = (u, .error (.state (.cancelled q.id)))

/-- A settled record is the state that its session shows. -/
theorem runState_of_settled {asked : List Request} (h : Settled r p)
    (hstage : p.registration.stage = asked.foldl Stage.after .idle) (hu : Holds key p u) :
    RunState key r asked u p.registration := by
  -- the stage is stopped when a cancellation was among the requests
  have hcancelled : p.registration.stage = .stopped ↔ asked.any Request.isCancel = true := by
    rw [hstage, Stage.foldl_after_eq_stopped_iff]
    simp
  have hcalls : p.story.filterMap Occurrence.call? = u.calls key := by
    rw [calls, hu.story]
  have hnone : p.registration.lastFiredAt = none ↔ p.registration.fireCount = 0 := by
    rw [h.lastFiredAt, h.fireCount, List.getLast?_eq_none_iff, List.length_eq_zero_iff]
  refine ⟨hu.found, hstage, ?_, ?_, hnone, ?_, ?_, ?_, ?_⟩
  · rw [h.fireCount, hcalls]
  · rw [h.lastFired, Option.map_eq_none_iff, hnone]
  · intro now hnow
    rw [h.lastFired, hnow, Option.map_some]
  · intro hl
    simp only [hu.story, h.notices hl, hcancelled]
  · intro hstage call clock
    have hr : { u with clock := clock }.registration? key = some p.registration := hu.found
    simp only [tickWith, hr, Registration.judge_of_stopped hstage]
  · intro hstage
    rw [arm, hu.found]
    simp only [Registration.arm, hstage, if_true]

/-- A new registration has no accounts. -/
theorem Fresh.settled (hs : s.Fresh key r) (hidle : r.stage = .idle) :
    Holds key ⟨r, []⟩ s ∧ Settled r ⟨r, []⟩ := by
  refine ⟨⟨hs.found, hs.story⟩, rfl, hs.fireCount, hs.lastFiredAt, ?_, fun _ => ?_⟩
  · simp only [hs.lastFired, hs.lastFiredAt, Option.map_none]
  · rw [hidle]
    rfl

/-- **The run state of a registration, at every moment of every run.** The requests from
outside are arbitrary, and so is what callbacks ask for, at any depth, how they move the
clock and where they fail. At each moment the run state is settled with all requests so
far (`RunState`). From one moment to a later one the stage only goes forward, and a
registration that is stopped does not change at all. Over the whole run the listener is
told once if there is a cancellation at all, and never if there is none; the cancellations
that do not tell it do nothing. -/
theorem run_state {r : Registration} (hs : s.Fresh key r) (hidle : r.stage = .idle)
    (depth : Nat) (requests : List Request) :
    let vs := s.visitsAll depth key requests
    let t := s.serveAll (callWithin depth) key requests
    requests.Sublist (requestsOf vs) ∧
    (∀ (n : Nat) (u : Session), (moments vs t)[n]? = some u →
      ∃ q, RunState key r (requestsOf (vs.take n)) u q) ∧
    (∀ (n m : Nat) (u w : Session) (q q' : Registration), n ≤ m →
      (moments vs t)[n]? = some u → (moments vs t)[m]? = some w →
      u.registration? key = some q → w.registration? key = some q' →
        q.stage.LeadsTo q'.stage ∧ (q.stage = .stopped → q' = q)) ∧
    (vs.filter (Visit.tells key)).length
      = (if (requestsOf vs).any Request.isCancel then 1 else 0) ∧
    ∀ v ∈ vs, v.request = .cancel → v.tells key = false → v.session.cancel key = v.session := by
  intro vs t
  obtain ⟨hholds, hsettled⟩ := hs.settled hidle
  obtain ⟨p, hpass, hp⟩ := through_serveAll key depth s requests ⟨r, []⟩ hholds
  refine ⟨requests_sublist depth key s requests, fun n u hu => ?_,
    fun n m u w q q' hle hu hw hq hq' => hpass.later hp hle hu hw hq hq', ?_,
    fun v _ hv htells => cancel_eq_self hv htells⟩
  -- the accounts of the first visits are what the session holds at that moment
  · have haccounts := hsettled.foldl_meet key (requestsOf (vs.take n))
    refine ⟨_, runState_of_settled haccounts ?_ (hpass.moment hp hu)⟩
    rw [Record.stage_foldl_meet, hidle]
  · have htold := hpass.length_tells
    simp only [hidle, ne_eq, reduceCtorEq, not_false_eq_true, true_and] at htold
    exact htold

/-- A callback that evaluates its registration, moves the clock on, evaluates it again, and
in that second call cancels it twice and fails; four cancellations in all. -/
theorem run_state_reentrant :
    let script : Script := fun n =>
      if n = 1 then [.tick "self", .advance (.int 1), .note (.tick "self"), .cancel "self",
        .tick "self"]
      else [.cancel "self", .cancel "self", .fail (.state .shutDown)]
    let requests : List Request :=
      [.tick .epoch2026, .arm, .tick .epoch2026, .cancel, .arm]
    ∃ (s : Session) (r : Registration),
      create none .every (.script script) .caller
        { clock := ⟨.epoch2026⟩, names := [("self", 0)] } = (s, .ok 0) ∧
      s.Fresh 0 r ∧ r.stage = .idle ∧
      let vs := s.visitsAll maxDepth 0 requests
      let t := s.serveAll (callWithin maxDepth) 0 requests
      (requestsOf vs).map Request.isCancel
          = [false, false, false, false, false, true, true, true, false, true, false] ∧
        (vs.filter (Visit.tells 0)).length = 1 ∧
        ∃ q, RunState 0 r (requestsOf vs) t q ∧ q.stage = .stopped ∧ q.fireCount = 2 := by
  intro script requests
  have hfresh : Fresh 0 _ (create none .every (.script script) .caller
      { clock := ⟨.epoch2026⟩, names := [("self", 0)] }).1 := ⟨rfl, rfl, rfl, rfl, rfl⟩
  obtain ⟨-, hmoments, -, htold, -⟩ := run_state hfresh rfl maxDepth requests
  obtain ⟨q, hq⟩ := hmoments _ _ (List.getElem?_concat_length ..)
  rw [List.length_map, List.take_length] at hq
  refine ⟨_, _, rfl, hfresh, rfl, ?_, htold.trans ?_, q, hq, ?_, ?_⟩
  · decide +kernel
  · decide +kernel
  · rw [hq.stage]
    decide +kernel
  · rw [hq.fireCount]
    decide +kernel

end Session

end Cadence
