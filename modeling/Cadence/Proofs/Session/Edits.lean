/-
What a session does to its books.

The books are the registrations and the engine. Whatever calls do, however deep they
nest, the books only see edits of four kinds (`Edit`): nothing at all; a registration
that is not stopped is armed, or stays so and notes that it fires; one is stopped, and if
the engine drives it the engine loses its number and its job; a job moves on to its next
run. Evaluating, arming and cancelling registrations and running jobs are sequences of
edits (`keeps_edits`, `edits_runDue`), so what every edit preserves is preserved by all of
them. Starting and shutting down do more and are not among them.
-/
import Cadence.Proofs.Session.Moves
import Cadence.Session.Drive
import Mathlib.Logic.Relation

set_option autoImplicit false

namespace Cadence

/-- An engine without a job for a number has none to drop. -/
theorem Engine.dropJob_of_none {k : Nat} {e : Engine} (h : e.job? k = none) :
    e.dropJob k = e := by
  have hall : e.jobs.filter (·.key != k) = e.jobs := by
    rw [List.filter_eq_self]
    intro j hj
    have hne := List.find?_eq_none.mp h j hj
    simpa using hne
  rw [Engine.dropJob, hall]

namespace Session

variable {s t u : Session} {k key : Nat}

/-! ## Edits -/

/-- One change of the registrations and the engine. -/
inductive Edit (s t : Session) : Prop
  | aside : t.registrations = s.registrations → t.engine = s.engine → Edit s t
  /-- a registration is armed behind the edit, and was not stopped before it -/
  | rise {k : Nat} {r : Registration} (r' : Registration) : s.registration? k = some r →
    r.stage ≠ .stopped → r'.listener = r.listener → r'.stage = .armed →
    t.registrations = s.registrations.set k r' → t.engine = s.engine → Edit s t
  | stop {k : Nat} {r : Registration} : s.registration? k = some r → r.stage ≠ .stopped →
    t.registrations = s.registrations.set k r.stop →
    t.engine = (if r.listener = .engine
      then s.engine.map (fun e => (e.withdraw k).dropJob k) else s.engine) → Edit s t
  | turn {j : Job} : t.registrations = s.registrations →
    t.engine = s.engine.map (Engine.replaceJob j) → Edit s t

def Edits : Session → Session → Prop := Relation.ReflTransGen Edit

theorem Edits.refl (s : Session) : Edits s s := Relation.ReflTransGen.refl

theorem Edits.trans (h : Edits s t) (h' : Edits t u) : Edits s u :=
  Relation.ReflTransGen.trans h h'

theorem Edit.edits (h : Edit s t) : Edits s t := Relation.ReflTransGen.single h

/-- What edits preserve one by one they preserve together. -/
theorem Edits.preserve {P : Session → Prop} (hstep : ∀ s t, Edit s t → P s → P t)
    (h : Edits s t) (hs : P s) : P t := by
  induction h with
  | refl => exact hs
  | tail _ he ih => exact hstep _ _ he ih

/-- What neither touches registrations nor the engine is an edit. -/
theorem edits_aside (hr : t.registrations = s.registrations) (he : t.engine = s.engine) :
    Edits s t :=
  (Edit.aside hr he).edits

/-! ## Stages -/

/-- Changing a registration puts another in its place. -/
theorem registrations_modify {r : Registration} (hr : s.registration? k = some r)
    (f : Registration → Registration) :
    (s.modify k f).registrations = s.registrations.set k (f r) := by
  rw [registration?] at hr
  simp only [modify, List.modify_eq_set, hr, Option.getD_some]

/-- Arming is a rise, or nothing. -/
theorem edits_arm (k : Nat) (s : Session) : Edits s (s.arm k).1 := by
  unfold arm
  cases hr : s.registration? k with
  | none => exact .refl s
  | some r =>
    cases ha : r.arm with
    | error e => simpa only [ha] using Edits.refl s
    | ok r' =>
      simp only [ha]
      rw [Registration.arm] at ha
      split at ha
      case isTrue => cases ha
      case isFalse hstage =>
        cases ha
        have hedit : Edit s (s.modify k (fun _ => { r with stage := .armed })) :=
          .rise { r with stage := .armed } hr hstage rfl rfl (registrations_modify hr _) rfl
        exact hedit.edits

/-- Taking a job away leaves the registrations. -/
theorem registrations_unschedule (k : Nat) (s : Session) :
    (s.unschedule k).registrations = s.registrations := by
  rw [unschedule]
  split <;> rfl

/-- The engine loses the job, if it has it. -/
theorem engine_unschedule (k : Nat) (s : Session) :
    (s.unschedule k).engine = s.engine.map (Engine.dropJob k) := by
  rw [unschedule]
  cases he : s.engine with
  | none => simp [he, say]
  | some e =>
    cases hj : e.job? k with
    -- a job that is gone already is reported, and the others stay
    | none => simp [he, hj, say, Engine.dropJob_of_none hj]
    | some j => simp [he, hj, say, mapEngine]

theorem registrations_tell (k : Nat) (s : Session) (l : Listener) :
    (s.tell k l).registrations = s.registrations := by
  cases l with
  | nobody => rfl
  | caller => rfl
  | engine => exact registrations_unschedule k (s.withdraw k)

/-- The engine that drives a registration hears of its end, and no other does. -/
theorem engine_tell (k : Nat) (s : Session) (l : Listener) :
    (s.tell k l).engine = if l = .engine
      then s.engine.map (fun e => (e.withdraw k).dropJob k) else s.engine := by
  cases l with
  | nobody => rfl
  | caller => rfl
  | engine =>
    rw [tell, engine_unschedule, if_pos rfl, withdraw, mapEngine, Option.map_map]
    rfl

/-- Cancelling is a stop, and the engine is told in the same edit. -/
theorem edits_cancel (k : Nat) (s : Session) : Edits s (s.cancel k) := by
  unfold cancel
  cases hr : s.registration? k with
  | none => exact .refl s
  | some r =>
    simp only
    by_cases hstage : r.stage = .stopped
    · rw [if_pos hstage]
      exact .refl s
    · rw [if_neg hstage]
      refine (Edit.stop hr hstage ?_ ?_).edits
      · exact (registrations_tell k _ r.listener).trans (registrations_modify hr _)
      · exact engine_tell k (s.modify k Registration.stop) r.listener

/-! ## Evaluations and calls -/

/-- **Whatever is done, the books only see edits.** -/
theorem keeps_edits : Keeps Edits where
  refl := .refl
  trans := .trans
  arm := edits_arm
  cancel := edits_cancel
  fire {s k r second} hr hdue := by
    obtain ⟨harmed, -⟩ := Registration.judge_eq_due_iff.mp hdue
    -- what fires is armed, and so not stopped
    have hstage : r.stage ≠ .stopped := by simp [harmed]
    have hedit : Edit s
        ((s.modify k (·.fired second s.clock.now)).witness (.called k s.clock.now)) :=
      .rise (r.fired second s.clock.now) hr hstage rfl harmed (registrations_modify hr _) rfl
    exact hedit.edits
  pass _ _ _ := edits_aside rfl rfl
  clock _ _ := edits_aside rfl rfl
  logs _ _ := edits_aside rfl rfl
  note _ _ _ := edits_aside rfl rfl

/-! ## Jobs -/

/-- Running a job is an evaluation, or a line in the log when it comes too late; a fault is
logged. -/
theorem edits_runJob (job : Job) (late : Int) (s : Session) : Edits s (s.runJob job late).1 := by
  have htick := keeps_edits.tick job.key s
  unfold runJob
  split
  · exact .refl s
  · exact edits_aside rfl rfl
  · split
    case h_1 heq => rwa [heq] at htick
    case h_2 heq =>
      rw [heq] at htick
      exact htick.trans (edits_aside rfl rfl)

/-- A job that is not due is left alone. -/
theorem edits_runIfDue (s : Session) (job : Job) : Edits s (s.runIfDue job) := by
  simp only [runIfDue]
  split
  · exact .refl s
  case h_2 last next _ =>
    have hturn : Edit s (s.mapEngine (Engine.replaceJob next)) := .turn rfl rfl
    exact hturn.edits.trans (edits_runJob job _ _)

/-- Edits one after the other are edits. -/
theorem edits_foldl {α : Type} {f : Session → α → Session} (hf : ∀ s a, Edits s (f s a))
    (as : List α) (s : Session) : Edits s (as.foldl f s) := by
  induction as generalizing s with
  | nil => exact .refl s
  | cons a as ih => exact (hf s a).trans (ih _)

theorem edits_runDue (s : Session) : Edits s s.runDue := edits_foldl edits_runIfDue _ s

end Session

end Cadence
