/-
The history of a registration whose callback leaves it alone.

What a run of requests comes to can be said without running it. The stage follows the
requests (`Stage.after`); the evaluations made while armed at which the schedule matches
are a list of moments (`armedMatches`); and the callback is called at those of them whose
second differs from that of the one before. `Chronicle` says that a registration stands
where that list leaves it, each request keeps it (`Chronicle.serve`), and so a run of any
length does (`chronicle_serveAll`).

Seconds are exact here, the floor of the microseconds since 1970, where the registration
goes by its time stamp; the two agree below second `2^34` of either sign.
-/
import Cadence.Proofs.Number.Rounding
import Cadence.Proofs.Session.OncePerSecond

set_option autoImplicit false

namespace Cadence

/-! ## Moments -/

def Moment.unixSecond (m : Moment) : Int := m.utcMicros?.getD 0 / secondMicros

/-- Whether a schedule matches a moment; one that cannot be evaluated does not. -/
def Schedule.hits (s : Schedule) (m : Moment) : Bool :=
  match s.accepts m with
  | .ok b => b
  | .error _ => false

/-- A moment with an offset, of a second that is exact as a time stamp, at which the
schedule can be evaluated. -/
structure Moment.Timely (schedule : Schedule) (now : Moment) : Prop where
  early : ∃ micros, now.utcMicros? = some micros ∧ (micros / secondMicros).natAbs < 2 ^ 34
  judged : ∃ b, schedule.accepts now = .ok b

/-- The second that a registration goes by is then the true one. -/
theorem Moment.Timely.epochSecond {schedule : Schedule} {now : Moment}
    (h : now.Timely schedule) : now.epochSecond = now.unixSecond := by
  obtain ⟨micros, hmicros, hsmall⟩ := h.early
  rw [Moment.epochSecond, Moment.unixSecond, hmicros, Option.getD_some, Option.getD_some,
    Moment.stampFloor_eq hsmall]

/-- The verdict on a timely moment. -/
theorem Registration.judge_of_timely {r : Registration} {now : Moment}
    (h : now.Timely r.schedule) :
    r.judge now =
      if r.stage = .armed then
        if r.schedule.hits now then
          if r.lastFired = some now.unixSecond then .repeated now.unixSecond
          else .due now.unixSecond
        else .unmatched
      else .unarmed := by
  obtain ⟨b, hb⟩ := h.judged
  rw [judge, Schedule.hits, hb, h.epochSecond]
  cases b <;> rfl

/-! ## What requests ask for -/

/-- The stage after a request: nothing leads out of the last one. -/
def Stage.after : Stage → Request → Stage
  | .stopped, _ => .stopped
  | _, .arm => .armed
  | _, .cancel => .stopped
  | stage, .tick _ => stage

/-- The moment of a request that is an evaluation made while armed at which the schedule
matches. -/
def armedMatch (schedule : Schedule) (stage : Stage) : Request → List Moment
  | .tick now => if stage = .armed ∧ schedule.hits now then [now] else []
  | _ => []

/-- The moments of all such requests. -/
def armedMatches (schedule : Schedule) : Stage → List Request → List Moment
  | _, [] => []
  | stage, q :: requests =>
    armedMatch schedule stage q ++ armedMatches schedule (stage.after q) requests

def instants (requests : List Request) : List Moment :=
  requests.filterMap (fun q => match q with
    | .tick now => some now
    | _ => none)

/-- The last request adds its match, in the stage that those before it lead to. -/
theorem armedMatches_concat (schedule : Schedule) (stage : Stage) (requests : List Request)
    (q : Request) : armedMatches schedule stage (requests ++ [q]) =
      armedMatches schedule stage requests
        ++ armedMatch schedule (requests.foldl Stage.after stage) q := by
  induction requests generalizing stage with
  | nil => simp [armedMatches]
  | cons q' requests ih =>
    rw [List.cons_append, armedMatches, armedMatches, ih, List.foldl_cons, List.append_assoc]

theorem armedMatches_sublist (schedule : Schedule) (stage : Stage) (requests : List Request) :
    (armedMatches schedule stage requests).Sublist (instants requests) := by
  induction requests generalizing stage with
  | nil => exact List.nil_sublist _
  | cons q requests ih =>
    have hrest := ih (stage.after q)
    rw [armedMatches]
    cases q with
    | arm => exact hrest
    | cancel => exact hrest
    | tick now =>
      rw [armedMatch]
      split
      · exact hrest.cons_cons now
      · exact hrest.cons now

/-! ## Where a run stands -/

namespace Session

variable {key : Nat} {s : Session} {call : Caller} {r₀ r : Registration} {stage : Stage}
  {due : List Moment}

/-- The registration `r`, made as `r₀`, stands where the matches `due` leave it. -/
structure Chronicle (key : Nat) (r₀ : Registration) (stage : Stage) (due : List Moment)
    (r : Registration) (s : Session) : Prop where
  found : s.registration? key = some r
  schedule : r.schedule = r₀.schedule
  script : r.script = r₀.script
  stage : r.stage = stage
  calls : s.calls key = due.destutter (fun a b => a.unixSecond ≠ b.unixSecond)
  fireCount : r.fireCount = (s.calls key).length
  lastFired : r.lastFired = due.getLast?.map Moment.unixSecond
  lastFiredAt : r.lastFiredAt = (s.calls key).getLast?

/-- A fresh registration stands at the beginning of its chronicle. -/
theorem Fresh.chronicle (hs : s.Fresh key r) : Chronicle key r r.stage [] r s where
  found := hs.found
  schedule := rfl
  script := rfl
  stage := rfl
  calls := by rw [Session.calls, hs.story]; rfl
  fireCount := by rw [Session.calls, hs.story]; exact hs.fireCount
  lastFired := hs.lastFired
  lastFiredAt := by rw [Session.calls, hs.story]; exact hs.lastFiredAt

/-- The callback keeps to itself all along, as the script stays the same. -/
theorem Chronicle.spares (h : Chronicle key r₀ stage due r s) (hcall : Spares call key r₀) :
    Spares call key r := fun u q hq hscript => hcall u q hq (hscript.trans h.script)

/-- A change of the stage alone leaves the list of moments as it is. -/
theorem Chronicle.withStage (h : Chronicle key r₀ stage due r s) {t : Session} {stage' : Stage}
    (hr : t.registration? key = some { r with stage := stage' })
    (hcalls : t.calls key = s.calls key) :
    Chronicle key r₀ stage' due { r with stage := stage' } t where
  found := hr
  schedule := h.schedule
  script := h.script
  stage := rfl
  calls := by rw [hcalls, h.calls]
  fireCount := by rw [hcalls]; exact h.fireCount
  lastFired := h.lastFired
  lastFiredAt := by rw [hcalls]; exact h.lastFiredAt

/-- A call joins the calls when its second is a new one. -/
theorem Chronicle.fire (h : Chronicle key r₀ stage due r s) {t : Session} {now : Moment}
    (hr : t.registration? key = some (r.fired now.unixSecond now))
    (hcalls : t.calls key = s.calls key ++ [now])
    (hnew : due.getLast?.map Moment.unixSecond ≠ some now.unixSecond) :
    Chronicle key r₀ stage (due ++ [now]) (r.fired now.unixSecond now) t where
  found := hr
  schedule := h.schedule
  script := h.script
  stage := h.stage
  calls := by rw [destutter_concat, if_neg hnew, hcalls, h.calls]
  fireCount := by
    rw [hcalls, List.length_append, ← h.fireCount]
    rfl
  lastFired := by
    rw [List.getLast?_concat]
    rfl
  lastFiredAt := by
    rw [hcalls, List.getLast?_concat]
    rfl

/-- A match in the second of the one before changes nothing. -/
theorem Chronicle.pass (h : Chronicle key r₀ stage due r s) {t : Session} {now : Moment}
    (hr : t.registration? key = some r) (hcalls : t.calls key = s.calls key)
    (hsame : due.getLast?.map Moment.unixSecond = some now.unixSecond) :
    Chronicle key r₀ stage (due ++ [now]) r t where
  found := hr
  schedule := h.schedule
  script := h.script
  stage := h.stage
  calls := by rw [destutter_concat, if_pos hsame, hcalls, h.calls]
  fireCount := by rw [hcalls, h.fireCount]
  lastFired := by rw [List.getLast?_concat, h.lastFired, hsame, Option.map_some]
  lastFiredAt := by rw [hcalls, h.lastFiredAt]

/-- An evaluation of a timely moment: the callback is called when the registration is
armed, its schedule matches, and the second is not that of the match before. -/
theorem Chronicle.tickAt (h : Chronicle key r₀ stage due r s) (hcall : Spares call key r₀)
    {now : Moment} (hnow : now.Timely r₀.schedule) :
    (∃ r', Chronicle key r₀ stage (due ++ armedMatch r₀.schedule stage (.tick now)) r'
      (s.tickAt call key now).1) ∧
    if stage = .armed ∧ r₀.schedule.hits now ∧
        due.getLast?.map Moment.unixSecond ≠ some now.unixSecond then
      (s.tickAt call key now).1.calls key = s.calls key ++ [now] ∧
        (s.tickAt call key now).2 = (call key (s.callAt key now)).2.map (fun _ => true)
    else
      (s.tickAt call key now).1.calls key = s.calls key ∧
        (s.tickAt call key now).2 = .ok false := by
  have htick := tickAt_eq h.found (h.spares hcall) now
  rw [Registration.judge_of_timely (by rw [h.schedule]; exact hnow), h.schedule, h.stage,
    h.lastFired] at htick
  rw [armedMatch]
  by_cases harmed : stage = .armed
  · by_cases hhits : r₀.schedule.hits now
    · rw [if_pos harmed, if_pos hhits] at htick
      rw [if_pos ⟨harmed, hhits⟩]
      -- a match in the second of the last call is passed over
      by_cases hlast : due.getLast?.map Moment.unixSecond = some now.unixSecond
      · rw [if_pos hlast] at htick
        obtain ⟨hr, hstory, hout⟩ := htick
        have hcalls : (s.tickAt call key now).1.calls key = s.calls key := by
          rw [calls_of_story hstory]
          exact List.append_nil _
        rw [if_neg (fun hfires => hfires.2.2 hlast)]
        exact ⟨⟨r, h.pass hr hcalls hlast⟩, hcalls, hout⟩
      · rw [if_neg hlast] at htick
        obtain ⟨hr, hstory, hout⟩ := htick
        have hcalls : (s.tickAt call key now).1.calls key = s.calls key ++ [now] := by
          rw [calls_of_story hstory]
          rfl
        rw [if_pos ⟨harmed, hhits, hlast⟩]
        exact ⟨⟨_, h.fire hr hcalls hlast⟩, hcalls, hout⟩
    · rw [if_pos harmed, if_neg hhits] at htick
      obtain ⟨hr, hstory, hout⟩ := htick
      rw [if_neg (fun hmatch => hhits hmatch.2), if_neg (fun hfires => hhits hfires.2.1),
        List.append_nil]
      have hcalls : (s.tickAt call key now).1.calls key = s.calls key :=
        congrArg (List.filterMap Occurrence.call?) hstory
      exact ⟨⟨_, h.withStage (by rw [hr, ← h.stage]) hcalls⟩, hcalls, hout⟩
  · rw [if_neg harmed] at htick
    obtain ⟨hr, hstory, hout⟩ := htick
    rw [if_neg (fun hmatch => harmed hmatch.1), if_neg (fun hfires => harmed hfires.1),
      List.append_nil]
    have hcalls : (s.tickAt call key now).1.calls key = s.calls key :=
      congrArg (List.filterMap Occurrence.call?) hstory
    exact ⟨⟨_, h.withStage (by rw [hr, ← h.stage]) hcalls⟩, hcalls, hout⟩

/-- **Each request leaves a registration where its matches do.** -/
theorem Chronicle.serve (h : Chronicle key r₀ stage due r s) (hcall : Spares call key r₀)
    (q : Request) (hq : ∀ now, q = .tick now → now.Timely r₀.schedule) :
    ∃ r', Chronicle key r₀ (stage.after q) (due ++ armedMatch r₀.schedule stage q) r'
      (s.serve call key q) := by
  -- only a tick can lengthen the calls
  cases q with
  | arm =>
    obtain ⟨hr, hstory⟩ := registration?_arm h.found
    have hnone : armedMatch r₀.schedule stage .arm = [] := rfl
    rw [hnone, List.append_nil]
    have hcalls : (s.arm key).1.calls key = s.calls key :=
      congrArg (List.filterMap Occurrence.call?) hstory
    refine ⟨_, h.withStage ?_ hcalls⟩
    obtain rfl := h.stage
    rw [Session.serve, hr]
    cases hstage : r.stage with
    | stopped => rw [if_pos rfl, Stage.after, ← hstage]
    | idle => rfl
    | armed => rfl
  | cancel =>
    obtain ⟨hr, hstory⟩ := registration?_cancel h.found
    have hnone : armedMatch r₀.schedule stage .cancel = [] := rfl
    rw [hnone, List.append_nil]
    have hcalls : (s.cancel key).calls key = s.calls key := by
      rw [calls_of_story hstory]
      split
      · exact List.append_nil _
      · rw [(Registration.filterMap_notice key r).1, List.append_nil]
    refine ⟨_, h.withStage ?_ hcalls⟩
    cases stage <;> exact hr
  | tick now =>
    obtain ⟨r', hr'⟩ := (h.tickAt hcall (hq now rfl)).1
    have hstage : stage.after (.tick now) = stage := by
      cases stage <;> rfl
    rw [hstage]
    exact ⟨r', hr'⟩

/-- **A run leaves a registration where its matches do.** -/
theorem chronicle_serveAll (hs : s.Fresh key r) (hcall : Spares call key r)
    (requests : List Request) (htimely : ∀ now, .tick now ∈ requests → now.Timely r.schedule) :
    ∃ r', Chronicle key r (requests.foldl Stage.after r.stage)
      (armedMatches r.schedule r.stage requests) r' (s.serveAll call key requests) := by
  induction requests using List.reverseRecOn with
  | nil => exact ⟨r, hs.chronicle⟩
  | append_singleton requests q ih =>
    obtain ⟨r', hr'⟩ := ih (fun now hnow => htimely now (by simp [hnow]))
    rw [serveAll_concat, armedMatches_concat, List.foldl_append]
    refine hr'.serve hcall q (fun now hq => htimely now ?_)
    rw [hq]
    simp

/-! ## The history of a run -/

/-- The seconds in which the callback of a registration was called. -/
def callSeconds (key : Nat) (s : Session) : List Int := (s.calls key).map Moment.unixSecond

/-- What a run of requests to the registration `r` comes to. -/
structure FiringHistory (call : Caller) (key : Nat) (r : Registration) (s : Session)
    (requests : List Request) : Prop where
  /-- The callback is called in the seconds of the matches while armed, where equal
  seconds that follow each other count as one. -/
  seconds : (s.serveAll call key requests).callSeconds key
    = ((armedMatches r.schedule r.stage requests).map Moment.unixSecond).destutter (· ≠ ·)
  /-- The registration keeps their number, the last of them and its moment. -/
  kept : ∃ r', (s.serveAll call key requests).registration? key = some r' ∧
    r'.fireCount = ((s.serveAll call key requests).callSeconds key).length ∧
    r'.lastFired = ((s.serveAll call key requests).callSeconds key).getLast? ∧
    r'.lastFiredAt = ((s.serveAll call key requests).calls key).getLast?
  /-- An evaluation adds a call, and comes to what the call comes to, when it is made
  while armed, the schedule matches, and the last match was in another second; any other
  evaluation comes to nothing. -/
  ticks : ∀ before now after, requests = before ++ .tick now :: after →
    if before.foldl Stage.after r.stage = .armed ∧ r.schedule.hits now ∧
        (armedMatches r.schedule r.stage before).getLast?.map Moment.unixSecond
          ≠ some now.unixSecond then
      ((s.serveAll call key before).tickAt call key now).1.calls key
          = (s.serveAll call key before).calls key ++ [now] ∧
        ((s.serveAll call key before).tickAt call key now).2
          = (call key ((s.serveAll call key before).callAt key now)).2.map (fun _ => true)
    else
      ((s.serveAll call key before).tickAt call key now).1.calls key
          = (s.serveAll call key before).calls key ∧
        ((s.serveAll call key before).tickAt call key now).2 = .ok false
  /-- On a clock that does not go back the seconds increase, and no match is lost. -/
  forward : (instants requests).Pairwise (fun a b => a.utcMicros?.getD 0 ≤ b.utcMicros?.getD 0) →
    ((s.serveAll call key requests).callSeconds key).Pairwise (· < ·) ∧
      ∀ now ∈ armedMatches r.schedule r.stage requests,
        now.unixSecond ∈ (s.serveAll call key requests).callSeconds key

/-- **The firing history**, for any requests at timely moments and any callback that
leaves its registration alone. -/
theorem firing_history (hs : s.Fresh key r) (hcall : Spares call key r)
    (requests : List Request) (htimely : ∀ now, .tick now ∈ requests → now.Timely r.schedule) :
    FiringHistory call key r s requests := by
  obtain ⟨r', hr'⟩ := chronicle_serveAll hs hcall requests htimely
  have hseconds : (s.serveAll call key requests).callSeconds key
      = ((armedMatches r.schedule r.stage requests).map Moment.unixSecond).destutter (· ≠ ·) := by
    rw [← map_destutter, ← hr'.calls, callSeconds]
  refine ⟨hseconds, ⟨r', hr'.found, ?_, ?_, hr'.lastFiredAt⟩, ?_, fun hclock => ⟨?_, ?_⟩⟩
  · rw [hr'.fireCount, callSeconds, List.length_map]
  · rw [hr'.lastFired, ← getLast?_destutter, ← hr'.calls, callSeconds, List.getLast?_map]
  · intro before now after hsplit
    -- each tick is met in the state that the requests before it have left
    rw [hsplit] at htimely
    obtain ⟨q, hq⟩ := chronicle_serveAll hs hcall before (fun m hm => htimely m (by simp [hm]))
    exact (hq.tickAt hcall (htimely now (by simp))).2
  · have hdue := hclock.sublist (armedMatches_sublist r.schedule r.stage requests)
    have hfloor : ((armedMatches r.schedule r.stage requests).map Moment.unixSecond).Pairwise
        (· ≤ ·) :=
      List.pairwise_map.mpr (hdue.imp (fun hle => Int.ediv_le_ediv (by decide) hle))
    rw [hseconds]
    exact pairwise_lt_destutter hfloor
  · intro now hnow
    rw [hseconds, mem_destutter_iff]
    exact List.mem_map_of_mem hnow

/-- A callback that fails on its first call and moves the clock on later ones. -/
theorem firing_history_failing :
    ∃ (s : Session) (r : Registration),
      create none .every (.script fun n =>
        if n = 1 then [.fail (.state .shutDown)] else [.advance (.int 1)]) .nobody
        { clock := ⟨.epoch2026⟩ } = (s, .ok 0) ∧
      s.Fresh 0 r ∧
      FiringHistory (callWithin maxDepth) 0 r s
        [.tick .epoch2026, .arm, .tick .epoch2026,
          .tick ⟨1767225600 * secondMicros + 500000, .fixed 0, false⟩,
          .tick ⟨1767225601 * secondMicros, .fixed 0, false⟩, .cancel, .tick .epoch2026] := by
  have hfresh : Fresh 0 _ (create none .every (.script fun n =>
      if n = 1 then [.fail (.state .shutDown)] else [.advance (.int 1)]) .nobody
      { clock := ⟨.epoch2026⟩ }).1 := ⟨rfl, rfl, rfl, rfl, rfl⟩
  refine ⟨_, _, rfl, hfresh,
    firing_history hfresh (spares_callWithin (fun n a ha => ?_) maxDepth) _ ?_⟩
  · by_cases hn : n = 1
    · obtain rfl : a = .fail (.state .shutDown) := by simpa [hn] using ha
      rfl
    · obtain rfl : a = .advance (.int 1) := by simpa [hn] using ha
      rfl
  · intro now hnow
    simp only [List.mem_cons, Request.tick.injEq, reduceCtorEq, List.not_mem_nil, or_false,
      false_or] at hnow
    rcases hnow with rfl | rfl | rfl | rfl | rfl <;>
      exact ⟨⟨_, rfl, by decide⟩, exists_eq_ok_of_isSome (by decide +kernel)⟩

end Session

end Cadence
