/-
Requests to a registration.

From outside a registration is armed, cancelled and evaluated, in any order and any
number of times; at an evaluation the clock shows whatever it shows. A run is a list of
such requests, served one after the other (`serveAll`). What a run did is read off the
trace: the moments at which the callback was called (`calls`), and those at which an
armed registration's schedule matched (`matched`), which are the calls and the moments
passed over.

For a registration whose callback leaves it alone (`Spares`) there is one lemma a request,
which says what becomes of the registration, of its story and of the result. For any other
there is what holds of every request: it only makes moves (`progress_serveAll`).
-/
import Cadence.Proofs.Session.Moves
import Mathlib.Data.List.Induction

set_option autoImplicit false

namespace Cadence

/-- What a registration is asked for. -/
inductive Request
  | arm
  | cancel
  /-- an evaluation, the clock showing a moment -/
  | tick (now : Moment)

def Occurrence.call? : Occurrence → Option Moment
  | .called _ now => some now
  | _ => none

def Occurrence.match? : Occurrence → Option Moment
  | .called _ now => some now
  | .passed _ now => some now
  | _ => none

namespace Session

variable {key : Nat} {s t : Session} {call : Caller} {r : Registration}

/-! ## Serving -/

def tickAt (call : Caller) (key : Nat) (now : Moment) (s : Session) : Outcome Bool :=
  { s with clock := ⟨now⟩ }.tickWith call key

def serve (call : Caller) (key : Nat) (s : Session) : Request → Session
  | .arm => (s.arm key).1
  | .cancel => s.cancel key
  | .tick now => (s.tickAt call key now).1

def serveAll (call : Caller) (key : Nat) (s : Session) (requests : List Request) : Session :=
  requests.foldl (serve call key) s

/-- The last request finds what those before it have left. -/
theorem serveAll_concat (requests : List Request) (q : Request) :
    s.serveAll call key (requests ++ [q]) = (s.serveAll call key requests).serve call key q := by
  rw [serveAll, List.foldl_append]
  rfl

/-! ## What happened -/

/-- The moments at which the callback of a registration was called. -/
def calls (key : Nat) (s : Session) : List Moment := (s.story key).filterMap Occurrence.call?

/-- What a story gains in calls is what it gains. -/
theorem calls_of_story {os : List Occurrence} (h : t.story key = s.story key ++ os) :
    t.calls key = s.calls key ++ os.filterMap Occurrence.call? := by
  rw [calls, h, List.filterMap_append, calls]

/-- The moments at which the schedule of an armed registration matched. -/
def matched (key : Nat) (s : Session) : List Moment := (s.story key).filterMap Occurrence.match?

/-- A registration that has nothing behind it. -/
structure Fresh (key : Nat) (r : Registration) (s : Session) : Prop where
  found : s.registration? key = some r
  lastFired : r.lastFired = none
  lastFiredAt : r.lastFiredAt = none
  fireCount : r.fireCount = 0
  story : s.story key = []

/-! ## One request -/

/-- A callback that leaves its own registration alone. -/
def Spares (call : Caller) (key : Nat) (r : Registration) : Prop :=
  ∀ s q, s.registration? key = some q → q.script = r.script →
    (call key s).1.registration? key = some q ∧ (call key s).1.story key = s.story key

/-- The session in which the callback of a registration that is due is called. -/
def callAt (key : Nat) (now : Moment) (s : Session) : Session :=
  ({ s with clock := ⟨now⟩ }.modify key (·.fired now.epochSecond now)).witness (.called key now)

/-- When its callback is called a registration has noted the moment already. -/
theorem registration?_callAt (hr : s.registration? key = some r) (now : Moment) :
    (s.callAt key now).registration? key = some (r.fired now.epochSecond now) := by
  have hr' : { s with clock := ⟨now⟩ }.registration? key = some r := hr
  simp [callAt, hr']

/-- And the call is the last thing in its story. -/
theorem story_callAt (key : Nat) (now : Moment) (s : Session) :
    (s.callAt key now).story key = s.story key ++ [.called key now] := by
  rw [callAt, story_witness, story_modify]
  simp [Occurrence.isOf, story]

/-- A registration that is due notes that it fires and is called; what comes of the call
comes of the evaluation. -/
theorem tickAt_of_due (hr : s.registration? key = some r) {now : Moment}
    (hdue : r.judge now = .due now.epochSecond) : s.tickAt call key now
      = ((call key (s.callAt key now)).1,
        (call key (s.callAt key now)).2.map (fun _ => true)) := by
  have hr' : { s with clock := ⟨now⟩ }.registration? key = some r := hr
  simp only [tickAt, tickWith, hr', hdue]
  rw [fire, ← callAt]
  obtain ⟨u, e | x⟩ := call key (s.callAt key now) <;> rfl

/-- Arming, unless it is too late for that. -/
theorem registration?_arm (hr : s.registration? key = some r) :
    (s.arm key).1.registration? key
      = some (if r.stage = .stopped then r else { r with stage := .armed }) ∧
    (s.arm key).1.story key = s.story key := by
  unfold arm
  rw [hr]
  simp only [Registration.arm]
  by_cases hstage : r.stage = .stopped
  · rw [if_pos hstage, if_pos hstage]
    exact ⟨hr, rfl⟩
  · rw [if_neg hstage, if_neg hstage]
    simp [hr]

/-- Cancelling, which the trace has once. -/
theorem registration?_cancel (hr : s.registration? key = some r) :
    (s.cancel key).registration? key = some r.stop ∧
    (s.cancel key).story key
      = s.story key ++ if r.stage = .stopped then [] else r.notice key := by
  unfold cancel
  rw [hr]
  simp only
  by_cases hstage : r.stage = .stopped
  · have hstop : r.stop = r := by rw [Registration.stop, ← hstage]
    rw [if_pos hstage, if_pos hstage, hstop, List.append_nil]
    exact ⟨hr, rfl⟩
  · rw [if_neg hstage, if_neg hstage]
    simp [hr, story_tell]

/-- An evaluation of a registration whose callback leaves it alone, by its verdict. -/
theorem tickAt_eq (hr : s.registration? key = some r) (hcall : Spares call key r)
    (now : Moment) :
    match r.judge now with
    | .due second =>
      (s.tickAt call key now).1.registration? key = some (r.fired second now) ∧
        (s.tickAt call key now).1.story key = s.story key ++ [.called key now] ∧
        (s.tickAt call key now).2 = (call key (s.callAt key now)).2.map (fun _ => true)
    | .repeated _ =>
      (s.tickAt call key now).1.registration? key = some r ∧
        (s.tickAt call key now).1.story key = s.story key ++ [.passed key now] ∧
        (s.tickAt call key now).2 = .ok false
    | .failed e =>
      (s.tickAt call key now).1.registration? key = some r ∧
        (s.tickAt call key now).1.story key = s.story key ∧
        (s.tickAt call key now).2 = .error e
    | _ =>
      (s.tickAt call key now).1.registration? key = some r ∧
        (s.tickAt call key now).1.story key = s.story key ∧
        (s.tickAt call key now).2 = .ok false := by
  have hr' : { s with clock := ⟨now⟩ }.registration? key = some r := hr
  cases hj : r.judge now with
  | unarmed =>
    simp only [tickAt, tickWith, hr', hj]
    exact ⟨trivial, rfl, trivial⟩
  | failed e =>
    simp only [tickAt, tickWith, hr', hj]
    exact ⟨trivial, rfl, trivial⟩
  | unmatched =>
    simp only [tickAt, tickWith, hr', hj]
    exact ⟨trivial, rfl, trivial⟩
  | repeated second =>
    simp only [tickAt, tickWith, hr', hj]
    refine ⟨hr, ?_, trivial⟩
    rw [story_witness, story_say]
    simp [Occurrence.isOf, story]
  | due second =>
    obtain ⟨-, -, -, rfl⟩ := Registration.judge_eq_due_iff.mp hj
    -- the call itself leaves the registration as it was noted
    obtain ⟨hafter, hsame⟩ := hcall _ _ (registration?_callAt hr now) rfl
    rw [story_callAt] at hsame
    simp only [tickAt_of_due hr hj]
    exact ⟨hafter, hsame, trivial⟩

end Session

/-! ## Callbacks that stand by

A callback that only talks, fails and moves the clock leaves every registration alone. -/

/-- Whether an action does nothing to a registration. -/
def Action.standsBy : Action → Bool
  | .tick _ => false
  | .arm _ => false
  | .cancel _ => false
  | .note action => action.standsBy
  | _ => true

namespace Session

variable {key : Nat} {s : Session} {call : Caller} {r : Registration}

/-- An action that names no registration leaves each as it is, with its story. -/
theorem act_of_standsBy (call : Caller) (key owner : Nat) {a : Action} (ha : a.standsBy = true)
    (s : Session) :
    (s.act call owner a).1.registration? key = s.registration? key ∧
      (s.act call owner a).1.story key = s.story key := by
  induction a generalizing s with
  | tick name => exact Bool.noConfusion ha
  | arm name => exact Bool.noConfusion ha
  | cancel name => exact Bool.noConfusion ha
  | advance seconds =>
    rw [act, fst_silent, advance]
    split <;> exact ⟨rfl, rfl⟩
  | setClock now =>
    rw [act, fst_silent, setClock]
    split <;> exact ⟨rfl, rfl⟩
  | say logger text => exact ⟨rfl, rfl⟩
  | fail e => exact ⟨rfl, rfl⟩
  | note action ih =>
    obtain ⟨hr, hstory⟩ := ih ha s
    rw [act]
    simp [hr, hstory, Occurrence.isOf]

/-- So do such actions one after the other. -/
theorem actAll_of_standsBy (call : Caller) (key owner : Nat) {as : List Action}
    (has : ∀ a ∈ as, a.standsBy = true) (s : Session) :
    (s.actAll call owner as).1.registration? key = s.registration? key ∧
      (s.actAll call owner as).1.story key = s.story key := by
  induction as generalizing s with
  | nil => exact ⟨rfl, rfl⟩
  | cons a as ih =>
    rw [List.forall_mem_cons] at has
    obtain ⟨hr, hstory⟩ := act_of_standsBy call key owner has.1 s
    rw [actAll]
    split
    case h_1 heq =>
      rw [heq] at hr hstory
      obtain ⟨hr', hstory'⟩ := ih has.2 _
      exact ⟨hr'.trans hr, hstory'.trans hstory⟩
    -- a fault ends the script there
    case h_2 heq =>
      rw [heq] at hr hstory
      exact ⟨hr, hstory⟩

/-- **A script that stands by spares its registration**, at any depth. -/
theorem spares_callWithin (hr : ∀ n, ∀ a ∈ r.script n, a.standsBy = true) (depth : Nat) :
    Spares (callWithin depth) key r := by
  intro s q hq hscript
  cases depth with
  | zero => exact ⟨hq, rfl⟩
  | succ depth =>
    simp only [callWithin, hq]
    rw [← hscript] at hr
    obtain ⟨hsame, hstory⟩ := actAll_of_standsBy (callWithin depth) key key (hr q.fireCount) s
    exact ⟨hsame.trans hq, hstory⟩

/-! ## Runs are progress -/

/-- Each request only makes moves. -/
theorem progress_serve (hcall : Moves key call) (s : Session) (q : Request) :
    Progress key s (s.serve call key q) := by
  cases q with
  | arm => exact progress_arm key key s
  | cancel => exact progress_cancel key key s
  | tick now =>
    have hclock : Progress key s { s with clock := ⟨now⟩ } := .of_same rfl rfl
    exact hclock.trans (progress_tickWith hcall key _)

/-- **Whatever is asked of a registration, it only makes moves.** -/
theorem progress_serveAll (hcall : Moves key call) (s : Session) (requests : List Request) :
    Progress key s (s.serveAll call key requests) := by
  induction requests using List.reverseRecOn with
  | nil => exact .refl key s
  | append_singleton requests q ih =>
    rw [serveAll_concat]
    exact ih.trans (progress_serve hcall _ q)

end Session

end Cadence
