/-
Callbacks that keep to themselves.

An inert callback calls no engine, touches no registration and leaves the clock where it
is; it may talk, and it may fail. What comes of a call of it hangs on its script alone
(`endOf`), and behind the call the registrations, the engine and the clock are as they were
(`callWithin_of_inert`).

So a registration with an inert callback can be followed without its session. A request
changes it in one way (`Registration.asked`), an evaluation comes to one result
(`Registration.reply`), and both are the same for two registrations that stand at the same
point (`Registration.Alike`), whatever else their sessions hold. A registration that is
alone in its session is followed in this way through any requests
(`registration?_serveAll_of_inert`, `replies_of_inert`).
-/
import Cadence.Proofs.Session.Edits
import Cadence.Proofs.Session.Requests

set_option autoImplicit false

namespace Cadence

/-! ## Scripts -/

/-- Whether an action has no effect but on the logs and on how its call ends. -/
def Action.isInert : Action → Bool
  | .say _ _ => true
  | .fail _ => true
  | .note action => action.isInert
  | _ => false

/-- What comes of an inert action. -/
def Action.outcome : Action → Except Fault (Option Bool)
  | .fail e => .error e
  | _ => .ok none

/-- What comes of inert actions one after the other. -/
def endOf : List Action → Except Fault Unit
  | [] => .ok ()
  | a :: rest => match a.outcome with
    | .ok _ => endOf rest
    | .error e => .error e

def Inert (script : Script) : Prop := ∀ n, ∀ a ∈ script n, a.isInert = true

/-! ## One registration -/

namespace Registration

/-- Two registrations stand at the same point: they have the same schedule and callback
and have come equally far. Ids and listeners may differ. -/
structure Alike (r q : Registration) : Prop where
  schedule : r.schedule = q.schedule
  script : r.script = q.script
  stage : r.stage = q.stage
  lastFired : r.lastFired = q.lastFired
  lastFiredAt : r.lastFiredAt = q.lastFiredAt
  fireCount : r.fireCount = q.fireCount

/-- The registration behind an evaluation at a moment, a call apart. -/
def looked (r : Registration) (now : Moment) : Registration :=
  match r.judge now with
  | .due second => r.fired second now
  | _ => r

/-- The registration behind a request. -/
def asked (r : Registration) : Request → Registration
  | .arm => if r.stage = .stopped then r else { r with stage := .armed }
  | .cancel => r.stop
  | .tick now => r.looked now

/-- What an evaluation at a moment comes to, the callback being inert. -/
def reply (r : Registration) (now : Moment) : Except Fault Bool :=
  match r.judge now with
  | .due _ => (endOf (r.script (r.fireCount + 1))).map (fun _ => true)
  | .failed e => .error e
  | _ => .ok false

/-- What the evaluations among some requests come to. -/
def replies (r : Registration) : List Request → List (Except Fault Bool)
  | [] => []
  | .tick now :: requests => r.reply now :: (r.asked (.tick now)).replies requests
  | q :: requests => (r.asked q).replies requests

variable {r q : Registration}

/-- More requests are replied to from where the first have led. -/
theorem replies_append (r : Registration) (requests more : List Request) :
    r.replies (requests ++ more)
      = r.replies requests ++ (requests.foldl Registration.asked r).replies more := by
  induction requests generalizing r with
  | nil => rfl
  | cons a requests ih =>
    have hrest := ih (r.asked a)
    cases a with
    | arm => exact hrest
    | cancel => exact hrest
    | tick now => exact congrArg (r.reply now :: ·) hrest

/-- Two that are alike judge a moment alike. -/
theorem Alike.judge (h : r.Alike q) (now : Moment) : r.judge now = q.judge now := by
  rw [Registration.judge, Registration.judge, h.stage, h.schedule, h.lastFired]

/-- Registrations that stand at the same point go on alike. -/
theorem Alike.asked (h : r.Alike q) (a : Request) : (r.asked a).Alike (q.asked a) := by
  cases a with
  | arm =>
    rw [Registration.asked, Registration.asked, h.stage]
    split
    · exact h
    · exact ⟨h.schedule, h.script, rfl, h.lastFired, h.lastFiredAt, h.fireCount⟩
  | cancel => exact ⟨h.schedule, h.script, rfl, h.lastFired, h.lastFiredAt, h.fireCount⟩
  | tick now =>
    rw [Registration.asked, Registration.asked, looked, looked, h.judge now]
    split
    · refine ⟨h.schedule, h.script, h.stage, rfl, rfl, ?_⟩
      rw [fired, fired, h.fireCount]
    · exact h

/-- They stay alike through the same requests. -/
theorem Alike.foldl_asked (h : r.Alike q) (requests : List Request) :
    (requests.foldl Registration.asked r).Alike (requests.foldl Registration.asked q) := by
  induction requests generalizing r q with
  | nil => exact h
  | cons a requests ih => exact ih (h.asked a)

/-- And reply alike, as a reply hangs on the script and its next number. -/
theorem Alike.reply (h : r.Alike q) (now : Moment) : r.reply now = q.reply now := by
  rw [Registration.reply, Registration.reply, h.judge now, h.script, h.fireCount]

/-- So their replies to any requests are the same. -/
theorem Alike.replies (h : r.Alike q) (requests : List Request) :
    r.replies requests = q.replies requests := by
  induction requests generalizing r q with
  | nil => rfl
  | cons a requests ih =>
    have hrest := ih (h.asked a)
    cases a with
    | arm => exact hrest
    | cancel => exact hrest
    | tick now => rw [Registration.replies, Registration.replies, h.reply, hrest]

/-- A request leaves schedule, callback and listener alone. -/
theorem asked_fixed (r : Registration) (a : Request) :
    (r.asked a).script = r.script ∧ (r.asked a).listener = r.listener := by
  cases a with
  | arm =>
    rw [Registration.asked]
    split <;> exact ⟨rfl, rfl⟩
  | cancel => exact ⟨rfl, rfl⟩
  | tick now =>
    rw [Registration.asked, looked]
    split <;> exact ⟨rfl, rfl⟩

/-- Requests do not change what is called and who listens. -/
theorem foldl_asked_fixed (r : Registration) (requests : List Request) :
    (requests.foldl Registration.asked r).script = r.script ∧
      (requests.foldl Registration.asked r).listener = r.listener := by
  induction requests generalizing r with
  | nil => exact ⟨rfl, rfl⟩
  | cons a requests ih =>
    obtain ⟨hscript, hlistener⟩ := ih (r.asked a)
    obtain ⟨hscript', hlistener'⟩ := r.asked_fixed a
    exact ⟨hscript.trans hscript', hlistener.trans hlistener'⟩

end Registration

/-! ## Calls -/

namespace Session

variable {s t u : Session} {key k depth : Nat} {r : Registration} {now : Moment}

/-- Behind something the registrations, the engine and the clock are as they were. -/
structure Untouched (s t : Session) : Prop where
  registrations : t.registrations = s.registrations
  engine : t.engine = s.engine
  clock : t.clock = s.clock

theorem Untouched.refl (s : Session) : Untouched s s := ⟨rfl, rfl, rfl⟩

theorem Untouched.trans (h : Untouched s t) (h' : Untouched t u) : Untouched s u :=
  ⟨h'.registrations.trans h.registrations, h'.engine.trans h.engine, h'.clock.trans h.clock⟩

/-- An inert action leaves the books alone, and its outcome is written in it. -/
theorem act_of_inert {a : Action} (ha : a.isInert = true) (call : Caller) (owner : Nat)
    (s : Session) :
    Untouched s (s.act call owner a).1 ∧ (s.act call owner a).2 = a.outcome := by
  induction a generalizing s with
  | say logger text => exact ⟨⟨rfl, rfl, rfl⟩, rfl⟩
  | fail e => exact ⟨.refl s, rfl⟩
  | note action ih =>
    obtain ⟨hsame, -⟩ := ih ha s
    exact ⟨hsame.trans ⟨rfl, rfl, rfl⟩, rfl⟩
  | _ => exact Bool.noConfusion ha

/-- So do inert actions one after the other, up to the first that fails. -/
theorem actAll_of_inert {as : List Action} (has : ∀ a ∈ as, a.isInert = true) (call : Caller)
    (owner : Nat) (s : Session) :
    Untouched s (s.actAll call owner as).1 ∧ (s.actAll call owner as).2 = endOf as := by
  induction as generalizing s with
  | nil => exact ⟨.refl s, rfl⟩
  | cons a as ih =>
    rw [List.forall_mem_cons] at has
    obtain ⟨hsame, hout⟩ := act_of_inert has.1 call owner s
    rw [actAll, endOf, ← hout]
    cases hdone : s.act call owner a with
    | mk t outcome =>
      rw [hdone] at hsame
      -- an action that fails is the last one done
      cases outcome with
      | error e => exact ⟨hsame, rfl⟩
      | ok b =>
        obtain ⟨hrest, hend⟩ := ih has.2 t
        exact ⟨hsame.trans hrest, hend⟩

/-- **A call of an inert callback** leaves everything where it was, and what comes of it
hangs on the script and the number of the call. -/
theorem callWithin_of_inert (hr : s.registration? key = some r) (hinert : Inert r.script)
    (depth : Nat) :
    Untouched s (callWithin (depth + 1) key s).1 ∧
      (callWithin (depth + 1) key s).2 = endOf (r.script r.fireCount) := by
  simp only [callWithin, hr]
  exact actAll_of_inert (hinert r.fireCount) (callWithin depth) key s

/-- An evaluation with an inert callback changes the registration and nothing else. -/
theorem tickWith_of_inert (hr : s.registration? key = some r) (hinert : Inert r.script)
    (depth : Nat) :
    (s.tickWith (callWithin (depth + 1)) key).1.registrations
        = s.registrations.set key (r.looked s.clock.now) ∧
      (s.tickWith (callWithin (depth + 1)) key).1.engine = s.engine ∧
      (s.tickWith (callWithin (depth + 1)) key).1.clock = s.clock ∧
      (s.tickWith (callWithin (depth + 1)) key).2 = r.reply s.clock.now := by
  obtain ⟨hlt, hget⟩ := List.getElem?_eq_some_iff.mp hr
  have hsame : s.registrations = s.registrations.set key r := by
    rw [← hget, List.set_getElem_self]
  simp only [tickWith, hr, Registration.looked, Registration.reply]
  cases hj : r.judge s.clock.now with
  | unarmed => exact ⟨hsame, rfl, rfl, rfl⟩
  | failed e => exact ⟨hsame, rfl, rfl, rfl⟩
  | unmatched => exact ⟨hsame, rfl, rfl, rfl⟩
  | repeated second => exact ⟨hsame, rfl, rfl, rfl⟩
  | due second =>
    -- the call finds the registration with its note made
    have hregistrations := registrations_modify hr (·.fired second s.clock.now)
    have hnoted : ((s.modify key (·.fired second s.clock.now)).witness
        (.called key s.clock.now)).registration? key = some (r.fired second s.clock.now) := by
      simp [hr]
    obtain ⟨hcall, hout⟩ := callWithin_of_inert hnoted hinert depth
    simp only [fire]
    cases hdone : callWithin (depth + 1) key ((s.modify key (·.fired second s.clock.now)).witness
        (.called key s.clock.now)) with
    | mk t outcome =>
      rw [hdone] at hcall hout
      simp only at hout
      have hafter := hcall.registrations.trans hregistrations
      rw [Registration.fired] at hout
      simp only [← hout]
      cases outcome with
      | error e => exact ⟨hafter, hcall.engine, hcall.clock, rfl⟩
      | ok x => exact ⟨hafter, hcall.engine, hcall.clock, rfl⟩

/-! ## Cancelling one of many -/

/-- Cancelling a registration leaves the others alone. -/
theorem registration?_cancel_of_ne (hk : k ≠ key) :
    (s.cancel k).registration? key = s.registration? key := by
  unfold cancel
  split
  · rfl
  · split
    · rfl
    · simp [hk]

/-- Behind some cancellations a registration is stopped if it is one of those. -/
theorem registration?_foldl_cancel (hr : s.registration? key = some r) (keys : List Nat) :
    (keys.foldl (fun s k => s.cancel k) s).registration? key
      = some (if key ∈ keys then r.stop else r) := by
  induction keys generalizing s r with
  | nil => rw [List.foldl_nil, if_neg List.not_mem_nil, hr]
  | cons k keys ih =>
    rw [List.foldl_cons]
    by_cases hk : k = key
    · subst hk
      rw [ih (registration?_cancel hr).1, if_pos List.mem_cons_self]
      split <;> rfl
    · rw [ih ((registration?_cancel_of_ne hk).trans hr)]
      simp only [List.mem_cons, Ne.symm hk, false_or]

/-! ## A registration on its own -/

/-- A session with nothing in it but a registration that is armed. -/
def alone (schedule : Schedule) (script : Script) : Session :=
  ((({ clock := ⟨Moment.epoch2026⟩ } : Session).create none schedule (.script script)
    .nobody).1.arm 0).1

theorem registration?_alone (schedule : Schedule) (script : Script) :
    (alone schedule script).registration? 0
      = some { id := madeId 0, schedule, script, stage := .armed } := rfl

/-- What the evaluations among some requests come to. -/
def replies (call : Caller) (key : Nat) (s : Session) : List Request → List (Except Fault Bool)
  | [] => []
  | .tick now :: requests =>
    (s.tickAt call key now).2 :: replies call key (s.serve call key (.tick now)) requests
  | q :: requests => replies call key (s.serve call key q) requests

/-- A request to it is served as if there were nothing else. -/
theorem registration?_serve_of_inert (hr : s.registration? key = some r)
    (hinert : Inert r.script) (a : Request) :
    (s.serve (callWithin (depth + 1)) key a).registration? key = some (r.asked a) := by
  cases a with
  | arm => exact (registration?_arm hr).1
  | cancel => exact (registration?_cancel hr).1
  | tick now =>
    have hlt := (List.getElem?_eq_some_iff.mp hr).1
    have hclock : { s with clock := ⟨now⟩ }.registration? key = some r := hr
    have hset := (tickWith_of_inert hclock hinert depth).1
    rw [serve, tickAt, registration?, hset, List.getElem?_set_self hlt]
    rfl

/-- **Requests leave a registration with an inert callback where they do on their own.** -/
theorem registration?_serveAll_of_inert (hr : s.registration? key = some r)
    (hinert : Inert r.script) (requests : List Request) :
    (s.serveAll (callWithin (depth + 1)) key requests).registration? key
      = some (requests.foldl Registration.asked r) := by
  induction requests generalizing s r with
  | nil => exact hr
  | cons a requests ih =>
    refine ih (registration?_serve_of_inert hr hinert a) ?_
    rw [(r.asked_fixed a).1]
    exact hinert

/-- And replied to likewise. -/
theorem replies_of_inert (hr : s.registration? key = some r) (hinert : Inert r.script)
    (requests : List Request) :
    s.replies (callWithin (depth + 1)) key requests = r.replies requests := by
  induction requests generalizing s r with
  | nil => rfl
  | cons a requests ih =>
    have hrest := ih (s := s.serve (callWithin (depth + 1)) key a) (r := r.asked a)
      (registration?_serve_of_inert hr hinert a) (by rw [(r.asked_fixed a).1]; exact hinert)
    cases a with
    | arm => exact hrest
    | cancel => exact hrest
    | tick now =>
      have hclock : { s with clock := ⟨now⟩ }.registration? key = some r := hr
      -- a tick replies as the registration would on its own
      have hreply := (tickWith_of_inert hclock hinert depth).2.2.2
      rw [replies, Registration.replies, tickAt, hreply, hrest]

end Session

end Cadence
