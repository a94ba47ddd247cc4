/-
What a session does to one registration.

Operations nest: an evaluation calls a callback, whose actions evaluate, arm and cancel
registrations again, the callback's own among them. Seen from one registration all of
that is a sequence of four moves: it is armed, it is stopped, it fires, it passes over a
moment of the second it fired for last. `Move` lists them with what each leaves in the
trace, and `Evolves` puts them in sequence. The main result is that nothing else ever
happens to a registration (`keeps_progress`): whatever is proved of the four moves holds of
every run, however deep its calls nest.
-/
import Cadence.Proofs.Session.Calls

set_option autoImplicit false

namespace Cadence

/-! ## Verdicts -/

namespace Registration

variable {r : Registration} {now : Moment} {second : Int}

/-- Verdicts on a match are given while armed, when the schedule matches. -/
theorem judge_eq_iff_of_match {v : Verdict} (hv : v = .due second ∨ v = .repeated second) :
    r.judge now = v ↔ r.stage = .armed ∧ r.schedule.accepts now = .ok true ∧
      (if r.lastFired = some now.epochSecond then .repeated now.epochSecond
        else .due now.epochSecond) = v := by
  unfold judge
  -- only an armed registration looks at its schedule
  by_cases hstage : r.stage = .armed
  · rw [if_pos hstage]
    rcases hacc : r.schedule.accepts now with e | b
    · rcases hv with rfl | rfl <;> simp
    · cases b with
      | false => rcases hv with rfl | rfl <;> simp
      | true => simp [hstage]
  · rw [if_neg hstage]
    rcases hv with rfl | rfl <;> simp [hstage]

/-- A registration is due when it is armed, its schedule matches, and it did not fire
last for the second of the moment. -/
theorem judge_eq_due_iff : r.judge now = .due second ↔
    r.stage = .armed ∧ r.schedule.accepts now = .ok true ∧ r.lastFired ≠ some now.epochSecond ∧
      second = now.epochSecond := by
  rw [judge_eq_iff_of_match (.inl rfl)]
  by_cases hlast : r.lastFired = some now.epochSecond
  · simp [hlast]
  · simp [hlast, eq_comm]

/-- A moment is passed over when only the last of these fails. -/
theorem judge_eq_repeated_iff : r.judge now = .repeated second ↔
    r.stage = .armed ∧ r.schedule.accepts now = .ok true ∧ r.lastFired = some now.epochSecond ∧
      second = now.epochSecond := by
  rw [judge_eq_iff_of_match (.inr rfl)]
  by_cases hlast : r.lastFired = some now.epochSecond
  · simp [hlast, eq_comm]
  · simp [hlast]

/-- What a cancellation leaves in the trace. -/
def notice (key : Nat) (r : Registration) : List Occurrence :=
  match r.listener with
  | .caller => [.cancelled key]
  | _ => []

end Registration

/-! ## Moves -/

/-- One change of the registration `key`, with what it leaves in the trace. -/
inductive Move (key : Nat) : Registration → Registration → List Occurrence → Prop
  | arm {r r' : Registration} : r.arm = .ok r' → Move key r r' []
  | stop {r : Registration} : r.stage ≠ .stopped → Move key r r.stop (r.notice key)
  | fire {r : Registration} {now : Moment} {second : Int} :
    r.judge now = .due second → Move key r (r.fired second now) [.called key now]
  | pass {r : Registration} {now : Moment} {second : Int} :
    r.judge now = .repeated second → Move key r r [.passed key now]

/-- Any number of moves, one after the other. -/
inductive Evolves (key : Nat) : Registration → Registration → List Occurrence → Prop
  | refl (r : Registration) : Evolves key r r []
  | step {r s t : Registration} {os ps : List Occurrence} :
    Evolves key r s os → Move key s t ps → Evolves key r t (os ++ ps)

/-- Moves go on where moves have ended. -/
theorem Evolves.trans {key : Nat} {r s t : Registration} {os ps : List Occurrence}
    (h : Evolves key r s os) (h' : Evolves key s t ps) : Evolves key r t (os ++ ps) := by
  induction h' with
  | refl => rwa [List.append_nil]
  | step _ hm ih =>
    rw [← List.append_assoc]
    exact ih.step hm

/-- Whether an occurrence is a move of the registration with a number. -/
def Occurrence.isOf (key : Nat) : Occurrence → Bool
  | .called k _ => k == key
  | .passed k _ => k == key
  | .cancelled k => k == key
  | .noted _ _ => false

namespace Session

variable {key k : Nat} {s t u : Session}

/-- The moves of a registration that are in the trace. -/
def story (key : Nat) (s : Session) : List Occurrence := s.trace.filter (·.isOf key)

/-- Between two sessions a registration has only made moves, and the trace has them. -/
def Progress (key : Nat) (s t : Session) : Prop :=
  ∀ r, s.registration? key = some r → ∃ r' os, t.registration? key = some r' ∧
    Evolves key r r' os ∧ t.story key = s.story key ++ os

/-- Progress goes on where progress has ended, and the story grows by both. -/
theorem Progress.trans (h : Progress key s t) (h' : Progress key t u) : Progress key s u := by
  intro r hr
  obtain ⟨r', os, hr', hos, htrace⟩ := h r hr
  obtain ⟨r'', ps, hr'', hps, htrace'⟩ := h' r' hr'
  exact ⟨r'', os ++ ps, hr'', hos.trans hps, by rw [htrace', htrace, List.append_assoc]⟩

/-- What leaves a registration and its story alone is progress. -/
theorem Progress.of_same (hr : t.registration? key = s.registration? key)
    (ht : t.story key = s.story key) : Progress key s t := fun r h =>
  ⟨r, [], by rw [hr, h], .refl r, by rw [ht, List.append_nil]⟩

theorem Progress.refl (key : Nat) (s : Session) : Progress key s s := .of_same rfl rfl

/-- A move is progress. -/
theorem Progress.of_move {r r' : Registration} {os : List Occurrence}
    (hr : s.registration? key = some r) (hm : Move key r r' os)
    (hr' : t.registration? key = some r') (ht : t.story key = s.story key ++ os) :
    Progress key s t := by
  intro q hq
  obtain rfl := Option.some.inj (hr.symm.trans hq)
  exact ⟨r', os, hr', (Evolves.refl r).step hm, ht⟩

/-! ## The parts of a session -/

/-- A modification is seen at the registration it is for. -/
@[simp] theorem registration?_modify (f : Registration → Registration) :
    (s.modify k f).registration? key
      = if k = key then (s.registration? key).map f else s.registration? key := by
  rw [modify, registration?, List.getElem?_modify]
  split
  · rfl
  · exact Option.map_id'

@[simp] theorem story_modify (f : Registration → Registration) :
    (s.modify k f).story key = s.story key := rfl

@[simp] theorem registration?_witness (o : Occurrence) :
    (s.witness o).registration? key = s.registration? key := rfl

/-- What is witnessed comes at the end of the story it belongs to. -/
@[simp] theorem story_witness (o : Occurrence) :
    (s.witness o).story key = s.story key ++ if o.isOf key then [o] else [] := by
  rw [story, witness, List.filter_append, ← story, List.filter_cons, List.filter_nil]

@[simp] theorem registration?_say (level : Config.Level) (text : String) :
    (s.say level text).registration? key = s.registration? key := rfl

@[simp] theorem story_say (level : Config.Level) (text : String) :
    (s.say level text).story key = s.story key := rfl

/-- Taking a job away touches no registration. -/
@[simp] theorem registration?_unschedule :
    (s.unschedule k).registration? key = s.registration? key := by
  rw [unschedule, registration?_say]
  split <;> rfl

@[simp] theorem story_unschedule : (s.unschedule k).story key = s.story key := by
  rw [unschedule, story_say]
  split <;> rfl

/-- Nor does telling a listener. -/
@[simp] theorem registration?_tell (l : Listener) :
    (s.tell k l).registration? key = s.registration? key := by
  cases l with
  | nobody => rfl
  | caller => rfl
  | engine => rw [tell, registration?_unschedule]; rfl

/-- Only a caller who listens is told, and then the story has it. -/
theorem story_tell (r : Registration) :
    (s.tell k r.listener).story key = s.story key ++ if k = key then r.notice key else [] := by
  rw [Registration.notice]
  cases r.listener with
  | nobody => simp [tell]
  | caller =>
    rw [tell, story_witness]
    by_cases hk : k = key
    · simp [Occurrence.isOf, hk]
    · simp [Occurrence.isOf, hk]
  | engine =>
    rw [tell, story_unschedule]
    simp only [ite_self, List.append_nil]
    rfl

/-! ## Operations -/

/-- Arming is one move, or none when the registration is stopped. -/
theorem progress_arm (key k : Nat) (s : Session) : Progress key s (s.arm k).1 := by
  unfold arm
  cases hr : s.registration? k with
  | none => exact .refl key s
  | some r =>
    simp only
    cases ha : r.arm with
    | error e => exact .refl key s
    | ok r' =>
      by_cases hk : k = key
      · subst hk
        exact .of_move hr (.arm ha) (by simp [hr]) (by simp)
      · exact .of_same (by simp [hk]) (by simp)

/-- Cancelling is one move, or none when the registration is stopped already. -/
theorem progress_cancel (key k : Nat) (s : Session) : Progress key s (s.cancel k) := by
  unfold cancel
  cases hr : s.registration? k with
  | none => exact .refl key s
  | some r =>
    simp only
    by_cases hstage : r.stage = .stopped
    · rw [if_pos hstage]
      exact .refl key s
    · rw [if_neg hstage]
      by_cases hk : k = key
      · subst hk
        exact .of_move hr (.stop hstage) (by simp [hr]) (by simp [story_tell])
      · exact .of_same (by simp [hk]) (by simp [story_tell, hk])

/-- Callbacks that only make moves with the registration `key`. -/
def Moves (key : Nat) (call : Caller) : Prop := ∀ k s, Progress key s (call k s).1

/-- **Whatever is done, a registration only makes moves.** -/
theorem keeps_progress (key : Nat) : Keeps (Progress key) where
  refl := .refl key
  trans := .trans
  arm := progress_arm key
  cancel := progress_cancel key
  fire {s k r second} hr hdue := by
    -- only its own calls count in the story of a registration
    by_cases hk : k = key
    · subst hk
      exact .of_move hr (.fire hdue) (by simp [hr]) (by simp [Occurrence.isOf])
    · exact .of_same (by simp [hk]) (by simp [Occurrence.isOf, hk])
  pass {s k r second} text hr hrepeated := by
    by_cases hk : k = key
    · subst hk
      exact .of_move hr (.pass hrepeated) (by simp [hr]) (by simp [Occurrence.isOf])
    · exact .of_same (by simp) (by simp [Occurrence.isOf, hk])
  clock _ _ := .of_same rfl rfl
  logs _ _ := .of_same rfl rfl
  note _ _ _ := .of_same (by simp) (by simp [Occurrence.isOf])

/-- An evaluation makes the move that the judgement asks for, and then those of its call. -/
theorem progress_tickWith {call : Caller} (hcall : Moves key call) (k : Nat) (s : Session) :
    Progress key s (s.tickWith call k).1 :=
  (keeps_progress key).tickWith hcall k s

/-- A call of any depth only makes moves. -/
theorem progress_callWithin (key depth : Nat) : Moves key (callWithin depth) :=
  (keeps_progress key).callWithin depth

end Session

end Cadence
