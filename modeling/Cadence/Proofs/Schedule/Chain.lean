/-
Calls of the builder in a chain.

In a chain each call is made on the schedule that the one before gives, and the first that
fails ends it. Whether a call succeeds depends on the call alone, so a chain goes through
exactly when each of its calls succeeds, and then it leaves what the run of the same calls
leaves (`chain_eq_ok_iff`). Calls for different parts can be chained in any order
(`chain_perm`).
-/
import Cadence.Proofs.Schedule.Setters
import Mathlib.Data.List.Nodup

set_option autoImplicit false

namespace Cadence.Schedule

variable {s t : Schedule} {calls more : List (Setter × Value)} {c d : Setter × Value}

/-- Calls each of which is made on what the one before gives. -/
def chain (s : Schedule) (calls : List (Setter × Value)) : Except Fault Schedule :=
  calls.foldlM (fun t c => t.call c.1 c.2) s

/-- A call goes through, on one schedule as on any other. -/
def Succeeds (c : Setter × Value) : Prop := ∃ t, every.call c.1 c.2 = .ok t

/-- Whether a call succeeds does not depend on the schedule it is made on. -/
theorem succeeds_iff (s : Schedule) : Succeeds c ↔ ∃ t, s.call c.1 c.2 = .ok t := by
  rw [Succeeds]
  cases hs : s.call c.1 c.2 with
  | error e => simp [(call_eq_error_iff s every).mp hs]
  | ok t =>
    cases he : every.call c.1 c.2 with
    | error e =>
      rw [(call_eq_error_iff every s).mp he] at hs
      cases hs
    | ok u => simp

/-- **A chain goes through when each of its calls does**, and leaves what they leave one
after the other. -/
theorem chain_eq_ok_iff :
    s.chain calls = .ok t ↔ (∀ c ∈ calls, Succeeds c) ∧ s.callAll calls = t := by
  induction calls generalizing s with
  | nil => simp [chain, callAll, pure, Except.pure]
  | cons c calls ih =>
    rw [chain, List.foldlM_cons, bind_eq_ok_iff, List.forall_mem_cons, succeeds_iff s, callAll]
    cases hc : s.call c.1 c.2 with
    | error e => simp
    | ok u =>
      have hrest := ih (s := u)
      rw [chain] at hrest
      simpa using hrest

/-- Calls for different parts leave the same in any order. -/
theorem callAll_perm (h : calls.Perm more) (hparts : (calls.map (·.1.part)).Nodup)
    (s : Schedule) : s.callAll calls = s.callAll more := by
  rw [callAll_eq_foldl, callAll_eq_foldl]
  refine h.foldl_eq' (fun c hc d hd t => ?_) s
  by_cases hcd : c.1.part = d.1.part
  · rw [List.inj_on_of_nodup_map hparts hc hd hcd]
  · have hswap := callAll_swap (s := t) hcd [] []
    rw [callAll_eq_foldl, callAll_eq_foldl] at hswap
    exact hswap

/-- **Calls for different parts can be chained in any order.** -/
theorem chain_perm (h : calls.Perm more) (hparts : (calls.map (·.1.part)).Nodup) :
    s.chain calls = .ok t ↔ s.chain more = .ok t := by
  have hall : (∀ c ∈ calls, Succeeds c) ↔ ∀ c ∈ more, Succeeds c :=
    forall_congr' (fun c => by rw [h.mem_iff])
  rw [chain_eq_ok_iff, chain_eq_ok_iff, hall, callAll_perm h hparts]

end Cadence.Schedule
