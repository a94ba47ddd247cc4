/-
Orders to an engine.

From outside an engine is asked to start registrations and to shut down, registrations
are cancelled, and time passes: the timer runs jobs. An `Order` is one of these, a run a
list of them (`obeyAll`). What a callback does in between is part of the run that calls
it.

For each kind of order there is one lemma that says that the books stay balanced, and the
run lemma puts them together (`Balanced.obeyAll`). A shutdown ends in `Over`, and no order
leads out of it (`Over.obeyAll`).
-/
import Cadence.Proofs.Session.Shutdown

set_option autoImplicit false

namespace Cadence

open Cadence.Config (EngineConfig)

/-! ## Orders -/

/-- Something that is asked of an engine and its registrations. -/
inductive Order
  /-- start a registration at a moment, and keep it under a name -/
  | start (now : Moment) (name : String) (schedule : Schedule) (callback : Callback)
  /-- a run of a job, so many microseconds late -/
  | tick (job : Job) (late : Int)
  /-- the timer runs what is due at a moment -/
  | wake (now : Moment)
  | cancel (key : Nat)
  | shutdown

/-- An order that can be met: the schedule of a start has a text, and the engine can time
its job from that moment on. -/
def Order.Admitted (c : EngineConfig) : Order → Prop
  | .start now _ schedule _ => Engine.Accepts c now ∧ ∃ text, schedule.cron = .ok text
  | _ => True

namespace Session

def obey (s : Session) : Order → Session
  | .start now name schedule callback =>
    match { s with present := now }.start schedule callback with
    | (t, .ok key) => t.setName name key
    | (t, .error _) => t
  | .tick job late => (s.runJob job late).1
  | .wake now => { s with present := now }.runDue
  | .cancel key => s.cancel key
  | .shutdown => s.shutdown

def obeyAll (s : Session) (orders : List Order) : Session := orders.foldl obey s

/-- The number that an order gives out, if it starts anything. -/
def givenOut (s : Session) : Order → List Nat
  | .start now _ schedule callback =>
    (({ s with present := now }.start schedule callback).2.toOption).toList
  | _ => []

/-- The numbers that orders give out, in order. -/
def givenOutAll (s : Session) : List Order → List Nat
  | [] => []
  | o :: orders => s.givenOut o ++ (s.obey o).givenOutAll orders

variable {s : Session} {c : EngineConfig} {key : Nat} {o : Order} {orders : List Order}

/-- Orders are obeyed one after the other. -/
theorem obeyAll_append (s : Session) (orders more : List Order) :
    s.obeyAll (orders ++ more) = (s.obeyAll orders).obeyAll more :=
  List.foldl_append

/-! ## One order -/

/-- What carries out an order: a start or a shutdown, or edits. -/
theorem obey_cases (s : Session) (o : Order) :
    (∃ now name schedule callback, o = .start now name schedule callback) ∨ o = .shutdown ∨
      (Edits s (s.obey o) ∧ s.givenOut o = []) := by
  cases o with
  | start now name schedule callback => exact .inl ⟨now, name, schedule, callback, rfl⟩
  | tick job late => exact .inr (.inr ⟨edits_runJob job late s, rfl⟩)
  | wake now =>
    have hnow : Edits s { s with present := now } := edits_aside rfl rfl
    exact .inr (.inr ⟨hnow.trans (edits_runDue _), rfl⟩)
  | cancel key => exact .inr (.inr ⟨edits_cancel key s, rfl⟩)
  | shutdown => exact .inr (.inl rfl)

/-- A start that can be met gives out the next number when the engine is open and the
callback one that can be called. -/
theorem Balanced.start_admitted {e : Engine} {schedule : Schedule} {name : String}
    (script : Script) (hs : Balanced c s) (he : s.engine = some e) (hopen : e.closed = false)
    (ho : (Order.start s.present name schedule (.script script)).Admitted c) :
    ∃ t jobs, s.start schedule (.script script) = (t, .ok s.registrations.length) ∧
      t.registrations = s.registrations ++ [s.newcomer schedule script] ∧
      jobs.map (·.key) = e.jobs.map (·.key) ++ [s.registrations.length] ∧
      t.engine = some { e.enroll s.registrations.length with running := true, jobs } := by
  obtain ⟨e', he', hc⟩ := hs.engine_eq_some
  obtain rfl := Option.some.inj (he.symm.trans he')
  exact start_of_accepts script he hopen (hc ▸ ho.1) (hs.ready he) ho.2

/-- **An order that can be met keeps the books balanced**, and what is started behind it
is what was started before and the number that it gives out. -/
theorem Balanced.obey (hs : Balanced c s) (ho : o.Admitted c) :
    Balanced c (s.obey o) ∧ (s.obey o).started = s.started ++ s.givenOut o := by
  -- a start may add a newcomer; a shutdown and the rest only edit what is there
  rcases obey_cases s o with ⟨now, name, schedule, callback, rfl⟩ | rfl | ⟨hedits, hnone⟩
  · have hnow : Balanced c { s with present := now } :=
      hs.of_same hs.engine_eq_some rfl rfl rfl (.inl rfl) (fun _ _ => rfl)
    by_cases hrefuses : { s with present := now }.Refuses callback
    · obtain ⟨f, hf⟩ := start_of_refuses schedule hrefuses
      simp only [Session.obey, givenOut, hf]
      exact ⟨hnow, (List.append_nil _).symm⟩
    · obtain ⟨e, script, he, hopen, rfl⟩ := exists_of_not_refuses hrefuses
      obtain ⟨t, jobs, ht, hregistrations, hjobs, hafter⟩ :=
        hnow.start_admitted script he hopen ho
      simp only [Session.obey, givenOut, ht]
      have ht' := hnow.of_start he hregistrations hjobs hafter
      refine ⟨ht'.of_same ht'.engine_eq_some rfl rfl rfl (.inl rfl) (fun _ _ => rfl), ?_⟩
      exact started_of_newcomer hregistrations
  · obtain ⟨u, hedits, hu, -⟩ := exists_edits_shutdown s
    have hstarted : s.shutdown.started = s.started := by
      rw [hu, started_congr (registrations_halt u), hedits.started_eq]
      rfl
    exact ⟨hs.shutdown.1, hstarted.trans (List.append_nil _).symm⟩
  · rw [hnone, List.append_nil]
    exact ⟨hs.edits hedits, hedits.started_eq⟩

/-- Nothing but a shutdown closes an engine. -/
theorem closed_obey (s : Session) (ho : o ≠ .shutdown) :
    (s.obey o).engine.map (·.closed) = s.engine.map (·.closed) := by
  rcases obey_cases s o with ⟨now, name, schedule, callback, rfl⟩ | rfl | ⟨hedits, -⟩
  · have hclosed := closed_start { s with present := now } schedule callback
    rw [Session.obey]
    split
    case h_1 heq => rwa [heq] at hclosed
    case h_2 heq => rwa [heq] at hclosed
  · exact absurd rfl ho
  · exact hedits.closed_eq

/-- What is stopped stays so, whatever is asked for. -/
theorem stopped_obey (o : Order) (hs : s.stageOf key = some .stopped) :
    (s.obey o).stageOf key = some .stopped := by
  rcases obey_cases s o with ⟨now, name, schedule, callback, rfl⟩ | rfl | ⟨hedits, -⟩
  · obtain ⟨r, hr, hstage⟩ := Option.map_eq_some_iff.mp hs
    obtain ⟨rs, hrs⟩ := exists_registrations_start { s with present := now } schedule callback
    have hr' := registration?_of_append hrs hr
    -- the name that a start is kept under is no part of the books
    have hsame : (s.obey (.start now name schedule callback)).registrations
        = ({ s with present := now }.start schedule callback).1.registrations := by
      rw [Session.obey]
      split
      case h_1 heq => rw [heq]; rfl
      case h_2 heq => rw [heq]
    rw [stageOf_congr hsame, stageOf, hr', Option.map_some, hstage]
  · obtain ⟨u, hedits, hu, -⟩ := exists_edits_shutdown s
    have hstopped : u.stageOf key = some .stopped := hedits.stopped hs
    rw [Session.obey, hu, stageOf_congr (registrations_halt u), hstopped]
  · exact hedits.stopped hs

/-- What is over stays over: a closed engine starts nothing, and nothing is left that could run. -/
theorem Over.obey (hs : Over s) (hb : Balanced c s) (o : Order) : Over (s.obey o) := by
  obtain ⟨e, he, hclosed, hrunning⟩ := hs.closed
  rcases obey_cases s o with ⟨now, name, schedule, callback, rfl⟩ | rfl | ⟨hedits, -⟩
  · have hengine : { s with present := now }.engine = some e := he
    simp only [Session.obey, start_of_closed hengine hclosed]
    exact ⟨⟨e, he, hclosed, hrunning⟩, hs.stopped⟩
  · exact hb.shutdown.2
  · refine ⟨?_, fun key hkey => ?_⟩
    · obtain ⟨e', he', -, hclosed', hrunning'⟩ := hedits.exists_engine he
      exact ⟨e', he', hclosed'.trans hclosed, hrunning'.trans hrunning⟩
    · rw [hedits.started_eq] at hkey
      exact hedits.stopped (hs.stopped key hkey)

/-! ## Runs -/

/-- **Orders that can be met keep the books balanced**, and what is started behind them
is what they gave out. -/
theorem Balanced.obeyAll (hs : Balanced c s) (h : ∀ o ∈ orders, o.Admitted c) :
    Balanced c (s.obeyAll orders) ∧
      (s.obeyAll orders).started = s.started ++ s.givenOutAll orders := by
  induction orders generalizing s with
  | nil => exact ⟨hs, (List.append_nil _).symm⟩
  | cons o orders ih =>
    obtain ⟨ho, horders⟩ := List.forall_mem_cons.mp h
    obtain ⟨hb, hstarted⟩ := hs.obey ho
    obtain ⟨hball, hall⟩ := ih hb horders
    refine ⟨hball, ?_⟩
    rw [hstarted, List.append_assoc] at hall
    exact hall

/-- What is stopped stays so under any orders. -/
theorem stopped_obeyAll (hs : s.stageOf key = some .stopped) (orders : List Order) :
    (s.obeyAll orders).stageOf key = some .stopped := by
  induction orders generalizing s with
  | nil => exact hs
  | cons o orders ih => exact ih (stopped_obey o hs)

/-- Without a shutdown among the orders an open engine stays open. -/
theorem closed_obeyAll (s : Session) (h : Order.shutdown ∉ orders) :
    (s.obeyAll orders).engine.map (·.closed) = s.engine.map (·.closed) := by
  induction orders generalizing s with
  | nil => rfl
  | cons o orders ih =>
    rw [List.mem_cons, not_or] at h
    exact (ih (s.obey o) h.2).trans (closed_obey s (Ne.symm h.1))

/-- So it is under any orders. -/
theorem Over.obeyAll (hs : Over s) (hb : Balanced c s) (h : ∀ o ∈ orders, o.Admitted c) :
    Over (s.obeyAll orders) := by
  induction orders generalizing s with
  | nil => exact hs
  | cons o orders ih =>
    obtain ⟨ho, horders⟩ := List.forall_mem_cons.mp h
    exact ih (hs.obey hb o) (hb.obey ho).1 horders

/-- A new engine has balanced books, with nothing in them. -/
theorem balanced_of_new (hengine : s.engine = some { config := c })
    (hnone : ∀ r ∈ s.registrations, r.listener ≠ .engine) : Balanced c s ∧ s.started = [] := by
  -- the engine drives none of the registrations that there are
  have hstarted : s.started = [] := by
    rw [started, List.filter_eq_nil_iff]
    intro key hkey hlistener
    rw [List.mem_range] at hkey
    rw [listenerOf, registration?, List.getElem?_eq_getElem hkey, Option.map_some, beq_iff_eq,
      Option.some.injEq] at hlistener
    exact hnone _ (List.getElem_mem hkey) hlistener
  have harmed : s.armed = [] := by rw [armed, hstarted, List.filter_nil]
  have hjobKeys : s.jobKeys = [] := by rw [jobKeys_of_engine hengine, List.map_nil]
  refine ⟨⟨⟨_, hengine, rfl⟩, ?_, ?_, ?_, fun _ => hjobKeys⟩, hstarted⟩
  · rw [harmed, registry_of_engine hengine]
  · rw [harmed, hjobKeys]
  · rw [hstarted]
    simp

/-- What holds of a session behind orders. -/
structure InOrder (c : EngineConfig) (s : Session) (orders : List Order) : Prop where
  /-- the registry and the timer's jobs are those of the armed registrations, in the order
  of their starts -/
  registry_eq : (s.obeyAll orders).registry = (s.obeyAll orders).armed
  jobKeys_eq : (s.obeyAll orders).jobKeys = (s.obeyAll orders).armed
  /-- what was started is what the orders gave out -/
  started_eq : (s.obeyAll orders).started = s.givenOutAll orders
  /-- what was started and is not armed is stopped, and stays so whatever else is asked -/
  stopped : ∀ key ∈ s.givenOutAll orders, key ∉ (s.obeyAll orders).armed →
    ∀ more : List Order, (s.obeyAll (orders ++ more)).stageOf key = some .stopped
  /-- before a shutdown a start that can be met, with a callback that can be called, gives
  out the next number -/
  starts : Order.shutdown ∉ orders → ∀ now name schedule script,
    (Order.start now name schedule (.script script)).Admitted c →
      (s.obeyAll orders).givenOut (.start now name schedule (.script script))
        = [(s.obeyAll orders).registrations.length]
  /-- behind a shutdown nothing is left, and starting is refused without a trace -/
  shut : Order.shutdown ∈ orders → (s.obeyAll orders).registry = [] ∧
    (s.obeyAll orders).jobKeys = [] ∧ (s.obeyAll orders).armed = [] ∧
    (s.obeyAll orders).running = false ∧ ∀ schedule callback,
      (s.obeyAll orders).start schedule callback
        = (s.obeyAll orders, .error (.state .shutDown))

/-- **An engine's books are in order at any time**: a new engine carries out any orders
that can be met, the callbacks of its registrations doing what they like. -/
theorem books_in_order (hengine : s.engine = some { config := c })
    (hnone : ∀ r ∈ s.registrations, r.listener ≠ .engine) (h : ∀ o ∈ orders, o.Admitted c) :
    InOrder c s orders := by
  obtain ⟨hnew, hempty⟩ := balanced_of_new hengine hnone
  obtain ⟨hb, hstarted⟩ := hnew.obeyAll h
  rw [hempty, List.nil_append] at hstarted
  refine ⟨hb.registry_eq, hb.jobKeys_eq, hstarted, ?_, ?_, ?_⟩
  · intro key hkey hunarmed more
    rw [← hstarted] at hkey
    rw [obeyAll_append]
    refine stopped_obeyAll ?_ more
    refine (hb.settled key hkey).resolve_left (fun harmed => hunarmed ?_)
    rw [armed, List.mem_filter]
    exact ⟨hkey, by simp [harmed]⟩
  · intro hnever now name schedule script ho
    have hclosed := closed_obeyAll s hnever
    obtain ⟨e, he, -⟩ := hb.engine_eq_some
    rw [he, hengine, Option.map_some, Option.map_some, Option.some.injEq] at hclosed
    have hnow : Balanced c { s.obeyAll orders with present := now } :=
      hb.of_same hb.engine_eq_some rfl rfl rfl (.inl rfl) (fun _ _ => rfl)
    obtain ⟨t, jobs, ht, -⟩ := hnow.start_admitted script he hclosed ho
    rw [givenOut, ht]
    rfl
  · intro hshutdown
    -- all is over behind the shutdown, and stays so over the orders that come after it
    obtain ⟨before, behind, rfl⟩ := List.append_of_mem hshutdown
    have hbefore := (hnew.obeyAll (fun o ho => h o (List.mem_append_left _ ho))).1
    have hbehind : ∀ o ∈ behind, o.Admitted c := fun o ho =>
      h o (List.mem_append_right _ (List.mem_cons_of_mem _ ho))
    have hover : Over (s.obeyAll (before ++ .shutdown :: behind)) := by
      rw [obeyAll_append]
      exact hbefore.shutdown.2.obeyAll hbefore.shutdown.1 hbehind
    have harmed := armed_eq_nil hover.stopped
    obtain ⟨e, he, hclosed, hrunning⟩ := hover.closed
    refine ⟨hb.registry_eq.trans harmed, hb.jobKeys_eq.trans harmed, harmed, ?_,
      fun schedule callback => start_of_closed he hclosed⟩
    rw [running, he]
    exact hrunning

/-- Two registrations, of which the first cancels the second and then fails, and the
second cancels itself; a run of each, a cancellation from outside, and a shutdown. Both are
on the registry before they run, and the first one still behind that. -/
theorem books_in_order_cancelling :
    let s : Session := openEngine {} { clock := ⟨Moment.epoch2026⟩ }
    let job (key : Nat) : Job :=
      { key, name := "", interval := 1, zone := Zone.utc, first := 0, grace := 1 }
    let orders : List Order := [
      .start Moment.epoch2026 "one" .every
        (.script (fun _ => [.cancel "two", .fail (.kind (.raised "down"))])),
      .start Moment.epoch2026 "two" .every (.script (fun _ => [.cancel "two"])),
      .tick (job 0) 0, .tick (job 1) 0, .cancel 0, .shutdown]
    s.engine = some { config := {} } ∧ (∀ r ∈ s.registrations, r.listener ≠ .engine) ∧
      (∀ o ∈ orders, o.Admitted {}) ∧ InOrder {} s orders ∧
      (s.obeyAll (orders.take 2)).registry = [0, 1] ∧
      (s.obeyAll (orders.take 3)).registry = [0] := by
  intro s job orders
  have hengine : s.engine = some { config := {} } := rfl
  have hnone : ∀ r ∈ s.registrations, r.listener ≠ .engine := by
    intro r hr
    cases hr
  have htimed : ((Engine.jobFor {} Moment.epoch2026 0 .every).bind
      Job.schedule).toOption.isSome = true := by decide +kernel
  obtain ⟨job', hjob'⟩ := exists_eq_ok_of_isSome htimed
  obtain ⟨first, hfirst, hset⟩ := bind_eq_ok_iff.mp hjob'
  have hstart := Engine.exists_settable_jobFor_iff.mp ⟨first, hfirst, job', hset⟩
  have hadmitted : ∀ o ∈ orders, o.Admitted {} := by
    simp only [orders, List.forall_mem_cons]
    exact ⟨hstart, hstart, trivial, trivial, trivial, trivial, by simp⟩
  exact ⟨hengine, hnone, hadmitted, books_in_order hengine hnone hadmitted, by decide +kernel,
    by decide +kernel⟩

end Session

end Cadence
