/-
What calls keep to.

An evaluation calls a callback, whose actions evaluate, arm and cancel registrations
again, so operations nest. The nesting is followed here once. Let a relation between the
session before and the session behind hold of each single thing that an evaluation or an
action does, and go on over sequences (`Keeps`). Then it holds of whole evaluations and of
whole calls, however deep they nest (`Keeps.callWithin`, `Keeps.tick`).
-/
import Cadence.Session.Tick

set_option autoImplicit false

namespace Cadence.Session

/-- What every single step of an evaluation or an action keeps to. -/
structure Keeps (R : Session → Session → Prop) : Prop where
  refl (s : Session) : R s s
  trans {s t u : Session} : R s t → R t u → R s u
  arm (k : Nat) (s : Session) : R s (s.arm k).1
  cancel (k : Nat) (s : Session) : R s (s.cancel k)
  /-- a registration that is due notes that it fires, and its callback is called -/
  fire {s : Session} {k : Nat} {r : Registration} {second : Int} :
    s.registration? k = some r → r.judge s.clock.now = .due second →
      R s ((s.modify k (·.fired second s.clock.now)).witness (.called k s.clock.now))
  /-- a registration passes over a moment of the second it fired for last -/
  pass {s : Session} {k : Nat} {r : Registration} {second : Int} (text : String) :
    s.registration? k = some r → r.judge s.clock.now = .repeated second →
      R s ((s.say .debug text).witness (.passed k s.clock.now))
  clock (c : ManualClock) (s : Session) : R s { s with clock := c }
  logs (l : Log.Logs) (s : Session) : R s { s with logs := l }
  note (owner : Nat) (outcome : Except Fault (Option Bool)) (s : Session) :
    R s (s.witness (.noted owner outcome))

/-- Keeping silent about a result leaves the session alone. -/
theorem fst_silent (o : Outcome Unit) : (silent o).1 = o.1 := by
  obtain ⟨s, e | u⟩ := o <;> rfl

namespace Keeps

variable {R : Session → Session → Prop} {call : Caller}

/-! ## Evaluations -/

/-- An evaluation keeps what its call keeps: it is a note, the call and nothing else. -/
theorem tickWith (h : Keeps R) (hcall : ∀ k s, R s (call k s).1) (k : Nat) (s : Session) :
    R s (s.tickWith call k).1 := by
  unfold Session.tickWith
  cases hr : s.registration? k with
  | none => exact h.refl s
  | some r =>
    simp only
    cases hj : r.judge s.clock.now with
    | unarmed => exact h.refl s
    | failed e => exact h.refl s
    | unmatched => exact h.refl s
    | repeated second => exact h.pass _ hr hj
    | due second =>
      -- the note is a step of its own, whatever the call makes of it
      have hafter := h.trans (h.fire hr hj) (hcall k _)
      simp only [Session.fire]
      split
      case h_1 heq => rwa [heq] at hafter
      case h_2 heq => rwa [heq] at hafter

/-! ## Actions -/

/-- An operation by name keeps what it keeps by number, and does nothing when there is no such name.
-/
theorem withName {α : Type} (h : Keeps R) {s : Session} {f : Nat → Outcome α} (name : String)
    (hf : ∀ k, R s (f k).1) : R s (s.withName name f).1 := by
  unfold Session.withName
  split
  · exact h.refl s
  · exact hf _

/-- So does each action of a callback. -/
theorem act (h : Keeps R) (hcall : ∀ k s, R s (call k s).1) (owner : Nat) (s : Session)
    (a : Action) : R s (s.act call owner a).1 := by
  -- on the action, since a note holds another one
  induction a generalizing s with
  | tick name =>
    refine h.withName name (fun k => ?_)
    have htick := h.tickWith hcall k s
    split
    case h_1 heq => rwa [heq] at htick
    case h_2 heq => rwa [heq] at htick
  | arm name =>
    refine h.withName name (fun k => ?_)
    rw [fst_silent]
    exact h.arm k s
  | cancel name => exact h.withName name (fun k => h.cancel k s)
  | advance seconds =>
    rw [Session.act, fst_silent, Session.advance]
    split
    · exact h.refl s
    · exact h.clock _ s
  | setClock now =>
    rw [Session.act, fst_silent, Session.setClock]
    split
    · exact h.refl s
    · exact h.clock _ s
  | say logger text => exact h.logs _ s
  | fail e => exact h.refl s
  | note action ih =>
    rw [Session.act]
    exact h.trans (ih s) (h.note owner _ _)

/-- And a list of actions, which stops at the first that fails. -/
theorem actAll (h : Keeps R) (hcall : ∀ k s, R s (call k s).1) (owner : Nat) (s : Session)
    (as : List Action) : R s (s.actAll call owner as).1 := by
  induction as generalizing s with
  | nil => exact h.refl s
  | cons a as ih =>
    have hact := h.act hcall owner s a
    rw [Session.actAll]
    split
    case h_1 heq =>
      rw [heq] at hact
      exact h.trans hact (ih _)
    case h_2 heq => rwa [heq] at hact

/-! ## Calls -/

/-- **What single steps keep to, calls keep to at any depth.** -/
theorem callWithin (h : Keeps R) (depth : Nat) (k : Nat) (s : Session) :
    R s (Session.callWithin depth k s).1 := by
  -- on the depth that is left: the actions of a call may call one level less deep
  induction depth generalizing k s with
  | zero => exact h.refl s
  | succ depth ih =>
    simp only [Session.callWithin]
    split
    · exact h.refl s
    · exact h.actAll ih k s _

/-- An evaluation from outside is one with calls as deep as they go. -/
theorem tick (h : Keeps R) (k : Nat) (s : Session) : R s (s.tick k).1 :=
  h.tickWith (h.callWithin maxDepth) k s

end Keeps

end Cadence.Session
