/-
Calls from several threads.

An engine may be called from any number of threads at once. A call is then no longer one
operation but a sequence of steps, each of which is atomic, and between two of them the
other threads take steps of theirs. A `Task` says where a call stands, `Task.step` takes
its next step. The steps are those that the operations of a session are made of: left
alone, a call does what the operation does as a whole (`leads_start`, `leads_cancel`,
`leads_shutdown`).

A `Crowd` is a session with the calls that are made on it. They take turns, in any order
whatever (`Crowd.run`); a thread that makes several calls, one after the other, is one of
these orders. Along the way the crowd keeps a list of the deeds that its steps did to the
engine and its registrations, for statements about what came before what.
-/
import Cadence.Proofs.Session.Shutdown

set_option autoImplicit false

namespace Cadence

open Cadence.Config (EngineConfig)

/-! ## Calls -/

/-- What a thread asks of an engine. -/
inductive Call
  | start (schedule : Schedule) (callback : Callback)
  /-- the cancellation of a registration that is found on the registry -/
  | cancel (key : Nat)
  | shutdown

/-- Where a call stands: the step it takes next, with what it knows by then. A
cancellation is made on its own or by a shutdown that is `closing` the engine, and has the
`rest` of the numbers still before it. -/
inductive Task
  /-- a start begins: is the engine open? -/
  | ask (schedule : Schedule) (callback : Callback)
  /-- a registration is made and put on the registry -/
  | enroll (c : EngineConfig) (schedule : Schedule) (callback : Callback)
  | arm (c : EngineConfig) (key : Nat) (schedule : Schedule)
  | addJob (c : EngineConfig) (key : Nat) (schedule : Schedule)
  | launch (key : Nat) (job : Job)
  /-- a cancellation begins: is the registration on the registry? -/
  | look (key : Nat)
  | stop (key : Nat) (rest : List Nat) (closing : Bool)
  | withdraw (key : Nat) (rest : List Nat) (closing : Bool)
  | unschedule (key : Nat) (rest : List Nat) (closing : Bool)
  /-- a shutdown begins -/
  | close
  /-- the registry is read, for all of it to be cancelled -/
  | survey
  | halt
  /-- the call has come back, with the number that it gives out or with a fault -/
  | ended (outcome : Except Fault (Option Nat))

/-- Whether the call has come back. -/
def Task.hasEnded : Task → Bool
  | .ended _ => true
  | _ => false

def Call.task : Call → Task
  | .start schedule callback => .ask schedule callback
  | .cancel key => .look key
  | .shutdown => .close

namespace Session

/-- Whether a registration is there and not stopped. -/
def live (key : Nat) (s : Session) : Bool := ((s.registration? key).map (·.active)).getD false

end Session

namespace Task

/-- What follows on a cancellation: that of the next number, or else the end of the call,
which for a shutdown has one more step. -/
def next (closing : Bool) : List Nat → Task
  | key :: rest => .stop key rest closing
  | [] => if closing then .halt else .ended (.ok none)

/-- One step of a call: what the session is behind it, and where the call stands then. -/
def step (s : Session) : Task → Session × Task
  | .ask schedule callback => match s.requireOpen with
    | .error e => (s, .ended (.error e))
    | .ok c => (s, .enroll c schedule callback)
  | .enroll c schedule callback => match s.create none schedule callback .engine with
    | (s, .error e) => (s, .ended (.error e))
    | (s, .ok key) => (s.enroll key, .arm c key schedule)
  | .arm c key schedule => match s.arm key with
    | (s, .error e) => (s, .ended (.error e))
    | (s, .ok ()) => (s, .addJob c key schedule)
  | .addJob c key schedule => match s.addJob c key schedule with
    | (s, .error e) => (s, .ended (.error e))
    | (s, .ok job) => (s, .launch key job)
  | .launch key job => match s.launch with
    | (s, .error e) => (s, .ended (.error e))
    | (s, .ok ()) =>
      (s.say .info ("Registered " ++ s.idOf key ++ ": " ++ job.name), .ended (.ok (some key)))
  | .look key => (s, if key ∈ s.registry then .stop key [] false else .ended (.ok none))
  | .stop key rest closing =>
    if s.live key then (s.modify key Registration.stop, .withdraw key rest closing)
    else (s, next closing rest)
  | .withdraw key rest closing => (s.withdraw key, .unschedule key rest closing)
  | .unschedule key rest closing =>
    ((s.unschedule key).say .debug ("Registration " ++ s.idOf key ++ " cancelled"),
      next closing rest)
  | .close => (s.mapEngine Engine.close, .survey)
  | .survey => (s, next true s.registry)
  | .halt => (s.halt, .ended (.ok none))
  | .ended outcome => (s, .ended outcome)

/-! ## Calls that are left alone -/

/-- Steps of one call with none of another in between. -/
def Leads : Session × Task → Session × Task → Prop :=
  Relation.ReflTransGen (fun p q => p.2.step p.1 = q)

variable {s : Session} {key : Nat} {rest : List Nat} {closing : Bool} {r : Registration}

/-- A run of a task begins with its first step. -/
theorem Leads.step_head {t : Task} {q : Session × Task} (h : Leads (t.step s) q) :
    Leads (s, t) q :=
  Relation.ReflTransGen.head rfl h

/-- **A start that is left alone** does all that the operation does. -/
theorem leads_start (s : Session) (schedule : Schedule) (callback : Callback) :
    Leads (s, .ask schedule callback) ((s.start schedule callback).1,
      .ended ((s.start schedule callback).2.map some)) := by
  refine .step_head ?_
  rw [Session.start, step]
  -- step by step, each of which may end the start with a fault
  cases s.requireOpen with
  | error e => exact .refl
  | ok c =>
    refine .step_head ?_
    simp only [step]
    rcases s.create none schedule callback .engine with ⟨s, e | key⟩
    · exact .refl
    refine .step_head ?_
    simp only [step]
    rcases (s.enroll key).arm key with ⟨s, e | _⟩
    · exact .refl
    refine .step_head ?_
    simp only [step]
    rcases s.addJob c key schedule with ⟨s, e | job⟩
    · exact .refl
    refine .step_head ?_
    simp only [step]
    rcases s.launch with ⟨s, e | _⟩
    · exact .refl
    · exact .refl

/-- A registration is live when it is not stopped. -/
theorem live_of_some (hr : s.registration? key = some r) :
    s.live key = !decide (r.stage = .stopped) := by
  rw [Session.live, hr, Option.map_some, Option.getD_some, Registration.active]
  cases r.stage <;> rfl

/-- Stopping, withdrawing and taking away the job are a cancellation, when it is the
engine that drives the registration. -/
theorem leads_stop (hr : s.registration? key = some r) (hl : r.listener = .engine) :
    Leads (s, .stop key rest closing) (s.cancel key, next closing rest) := by
  refine .step_head ?_
  rw [step, live_of_some hr, Session.cancel, hr]
  simp only
  -- what is stopped is passed over in one step; else it takes three
  by_cases hstage : r.stage = .stopped
  · simp only [hstage, decide_true, Bool.not_true, Bool.false_eq_true, if_false, if_true]
    exact .refl
  · simp only [hstage, decide_false, Bool.not_false, if_true, if_false]
    refine .step_head (.step_head ?_)
    have hid : (((s.modify key Registration.stop).withdraw key).idOf key) = r.id := by
      have hsome : ((s.modify key Registration.stop).withdraw key).registration? key
          = some r.stop := by
        have hmodify : (s.modify key Registration.stop).registration? key = some r.stop := by
          rw [Session.registration?_modify, if_pos rfl, hr, Option.map_some]
        exact hmodify
      rw [Session.idOf, hsome]
      rfl
    simp only [step, hid, hl, Session.tell]
    exact .refl

/-- **A cancellation that is left alone** is one of what is on the registry; what is not on
it is let be. -/
theorem leads_cancel (hengine : ∀ key ∈ s.registry, s.listenerOf key = some .engine) :
    Leads (s, .look key) (if key ∈ s.registry then s.cancel key else s, .ended (.ok none)) := by
  refine .step_head ?_
  rw [step]
  by_cases hkey : key ∈ s.registry
  · obtain ⟨r, hr, hl⟩ := Option.map_eq_some_iff.mp (hengine key hkey)
    simp only [hkey, if_true]
    exact leads_stop hr hl
  · simp only [hkey, if_false]
    exact .refl

/-- A shutdown cancels one number after the other. -/
theorem leads_next {keys : List Nat} (hengine : ∀ key ∈ keys, s.listenerOf key = some .engine) :
    Leads (s, next true keys) ((keys.foldl (fun s key => s.cancel key) s).halt,
      .ended (.ok none)) := by
  induction keys generalizing s with
  | nil => exact .step_head .refl
  | cons key keys ih =>
    obtain ⟨hkey, hkeys⟩ := List.forall_mem_cons.mp hengine
    obtain ⟨r, hr, hl⟩ := Option.map_eq_some_iff.mp hkey
    rw [List.foldl_cons]
    refine (leads_stop hr hl).trans (ih (fun k hk => ?_))
    -- a registration keeps its listener
    obtain ⟨q, hq, hlistener⟩ := Option.map_eq_some_iff.mp (hkeys k hk)
    have hstarted := (Session.edits_cancel key s).started_eq
    have hmem : k ∈ s.started := (Session.mem_started_iff hq).mpr hlistener
    rw [← hstarted, Session.started, List.mem_filter, beq_iff_eq] at hmem
    exact hmem.2

/-- **A shutdown that is left alone** closes the engine, reads the registry behind that, and
cancels what it has read. -/
theorem leads_shutdown (hengine : ∀ key ∈ s.registry, s.listenerOf key = some .engine) :
    Leads (s, .close) (s.shutdown, .ended (.ok none)) := by
  refine .step_head (.step_head ?_)
  refine leads_next (fun key hkey => ?_)
  rw [Session.registry_mapEngine_close] at hkey
  exact hengine key hkey

end Task

/-! ## Deeds -/

/-- What a step did to an engine and its registrations, or saw of them. -/
inductive Deed
  /-- a new registration was put on the registry -/
  | enrolled (key : Nat)
  /-- the timer was given the job of a registration -/
  | timed (key : Nat)
  | launched
  /-- a cancellation found its registration on the registry -/
  | looked (key : Nat)
  | stopped (key : Nat)
  /-- a registration was struck off the registry -/
  | withdrawn (key : Nat)
  /-- the job of a registration was taken from the timer, if it was there -/
  | untimed (key : Nat)
  | closed
  /-- a shutdown read the registry -/
  | surveyed
  /-- the running timer was stopped, and lost its jobs -/
  | halted
deriving DecidableEq, Repr

/-- The deed of a call's next step, if it does anything that counts. -/
def Task.deed (s : Session) : Task → Option Deed
  | .enroll _ _ (.script _) => some (.enrolled s.registrations.length)
  | .addJob c key schedule => match (s.addJob c key schedule).2 with
    | .ok _ => some (.timed key)
    | .error _ => none
  | .launch _ _ => match s.launch.2 with
    | .ok _ => some .launched
    | .error _ => none
  | .look key => if key ∈ s.registry then some (.looked key) else none
  | .stop key _ _ => if s.live key then some (.stopped key) else none
  | .withdraw key _ _ => some (.withdrawn key)
  | .unschedule key _ _ => some (.untimed key)
  | .close => some .closed
  | .survey => some .surveyed
  | .halt => if s.running then some .halted else none
  | _ => none

/-! ## Turns -/

/-- A session, the calls that are made on it, and the deeds so far. -/
structure Crowd where
  session : Session
  tasks : List Task
  deeds : List Deed := []

/-- The next step of one of the calls, at a moment. -/
structure Turn where
  index : Nat
  now : Moment

namespace Crowd

/-- Calls that are about to begin. -/
def gather (s : Session) (calls : List Call) : Crowd :=
  { session := s, tasks := calls.map Call.task }

/-- One of the calls, which stands at `t`, takes its next step. -/
def stepAt (w : Crowd) (i : Nat) (t : Task) : Crowd where
  session := (t.step w.session).1
  tasks := w.tasks.set i (t.step w.session).2
  deeds := w.deeds ++ (t.deed w.session).toList

def atMoment (w : Crowd) (now : Moment) : Crowd :=
  { w with session := { w.session with present := now } }

def turn (w : Crowd) (u : Turn) : Crowd :=
  match w.tasks[u.index]? with
  | none => w
  | some t => (w.atMoment u.now).stepAt u.index t

/-- Turns are taken one after the other. -/
def run (w : Crowd) (turns : List Turn) : Crowd := turns.foldl turn w

/-- Turns of calls in a given order, all at one moment. -/
def takeTurns (now : Moment) (order : List Nat) : List Turn := order.map (fun i => ⟨i, now⟩)

/-- All calls have come back. -/
def Finished (w : Crowd) : Prop := ∀ t ∈ w.tasks, t.hasEnded = true

instance (w : Crowd) : Decidable w.Finished :=
  inferInstanceAs (Decidable (∀ t ∈ w.tasks, t.hasEnded = true))

end Crowd

end Cadence
