/-
Levels and handlers behind any run.

Loggers are asked for and logging is set up in any order, as often as one likes. Of all
set-ups only the last one counts, provided that it goes through: root, own loggers and every
logger handed out, at whatever time, have its level, the job scheduler's loggers have that or
the level of warnings, whichever is higher, and the handlers are its console and its file
(`governed_of_last`). It does not matter whether the set-ups before it went through.

A set-up that fails is not without effect. It leaves the root with its own level and a console
and nothing else, while all other loggers keep the levels they have had, so that logging is as
it was only if root and handlers happened to be like that (`failed_setup_decides`,
`failed_setup_changes`).

Both follow from what the last set-up of a run leaves, by one induction over the run
(`serveAll_of_last`).
-/
import Cadence.Proofs.Log.Setup
import Mathlib.Data.List.Induction

set_option autoImplicit false

namespace Cadence.Log

open Cadence.Config (Level LoggingConfig)

/-- What is asked of logging. -/
inductive Request
  | logger (name : String)
  | setup (c : LoggingConfig)

namespace Logs

variable {s : Logs} {rs : List Request} {c : LoggingConfig} {e : Fault} {r : Option Fault}
  {name : String} {disk : Tree}

/-! ## Runs -/

def serve (s : Logs) : Request → Logs
  | .logger name => (s.logger name).2
  | .setup c => (s.setup c).1

def serveAll (s : Logs) (rs : List Request) : Logs := rs.foldl serve s

/-- The set-ups of a run, each with the fault it ended in, if any. -/
def setups (s : Logs) : List Request → List (LoggingConfig × Option Fault)
  | [] => []
  | .logger name :: rs => setups (s.serve (.logger name)) rs
  | .setup c :: rs => (c, (s.setup c).2) :: setups (s.serve (.setup c)) rs

theorem serveAll_concat (q : Request) : serveAll s (rs ++ [q]) = (serveAll s rs).serve q := by
  rw [serveAll, List.foldl_append]
  rfl

/-- Asking for a logger is no set-up. -/
theorem setups_concat_logger (name : String) : setups s (rs ++ [.logger name]) = setups s rs := by
  induction rs generalizing s with
  | nil => rfl
  | cons q rs ih => cases q <;> simp only [List.cons_append, setups, ih]

/-- A set-up is kept with what came of it. -/
theorem setups_concat_setup (c : LoggingConfig) : setups s (rs ++ [.setup c])
    = setups s rs ++ [(c, ((serveAll s rs).setup c).2)] := by
  induction rs generalizing s with
  | nil => rfl
  | cons q rs ih => cases q <;> simp only [List.cons_append, setups, ih] <;> rfl

/-- What a set-up leaves, and handing out loggers keeps, holds behind every run of which that
set-up is the last. -/
theorem serveAll_of_last {P : Logs → Prop} (hlast : (setups s rs).getLast? = some (c, r))
    (hsetup : ∀ t : Logs, (t.setup c).2 = r → P (t.setup c).1)
    (hlogger : ∀ (t : Logs) name, P t → P (t.logger name).2) : P (serveAll s rs) := by
  -- from the end of the run: whatever stands there is a logger, or the set-up asked about
  induction rs using List.reverseRecOn with
  | nil => cases hlast
  | append_singleton rs q ih =>
    rw [serveAll_concat]
    cases q with
    | logger name =>
      rw [setups_concat_logger] at hlast
      exact hlogger _ _ (ih hlast)
    | setup c' =>
      rw [setups_concat_setup, List.getLast?_concat, Option.some.injEq, Prod.mk.injEq] at hlast
      obtain ⟨rfl, hr⟩ := hlast
      exact hsetup _ hr

/-- Behind a run without a set-up holds what handing out loggers keeps. -/
theorem serveAll_of_none {P : Logs → Prop} (hnone : (setups s rs).getLast? = none) (hs : P s)
    (hlogger : ∀ (t : Logs) name, P t → P (t.logger name).2) : P (serveAll s rs) := by
  induction rs using List.reverseRecOn with
  | nil => exact hs
  | append_singleton rs q ih =>
    rw [serveAll_concat]
    cases q with
    | logger name =>
      rw [setups_concat_logger] at hnone
      exact hlogger _ _ (ih hnone)
    | setup c =>
      rw [setups_concat_setup, List.getLast?_concat] at hnone
      cases hnone

/-- A logger asked for at any time has been handed out. -/
theorem mem_handedOut_serveAll (h : .logger name ∈ rs) : name ∈ (serveAll s rs).handedOut := by
  induction rs using List.reverseRecOn with
  | nil => cases h
  | append_singleton rs q ih =>
    rw [serveAll_concat]
    rcases List.mem_append.mp h with hbefore | hlast
    · cases q with
      | logger other => exact subset_handedOut_logger _ _ (ih hbefore)
      | setup c => exact subset_handedOut_setup _ _ (ih hbefore)
    · obtain rfl := List.mem_singleton.mp hlast
      exact mem_handedOut_logger _ _

/-! ## The last set-up -/

/-- Logging with the levels and handlers of a configuration. -/
structure Governed (c : LoggingConfig) (rs : List Request) (s : Logs) : Prop where
  root : s.root = c.level
  own : s.own = some c.level
  jobs : ∃ l, s.jobs = some l ∧ l.number = max c.level.number Level.warning.number
  requested : ∀ name, .logger name ∈ rs → s.loggers.lookup name = some c.level
  handedOut : ∀ x ∈ s.loggers, x.2 = c.level
  toCome : ∀ name, (s.logger name).1 = c.level
  console : ¬NamesFile c → s.handlers = [.console c.level]
  file : NamesFile c → ∃ f, LogFile.of c = some f ∧
    s.handlers = [.console c.level, .file c.level f]

/-- The higher of two levels has the larger number. -/
theorem number_higher (a b : Level) : (higher a b).number = max a.number b.number := by
  rw [higher]
  split <;> omega

/-- **The last set-up of a run governs all of logging** if it goes through, whatever state the
run began in. -/
theorem governed_of_last (h : (setups s rs).getLast? = some (c, none)) :
    Governed c rs (serveAll s rs) := by
  have hfollows : Follows c (serveAll s rs) :=
    serveAll_of_last h (fun _ => follows_setup) (fun _ name ht => ht.logger name)
  refine ⟨hfollows.root, hfollows.own, ⟨_, hfollows.jobs, number_higher _ _⟩, fun name hname => ?_,
    hfollows.leveled.handedOut, hfollows.leveled.fst_logger, fun hno => ?_, fun hfile => ?_⟩
  · exact hfollows.leveled.lookup (mem_handedOut_serveAll hname)
  · rw [hfollows.handlers, fileHandlers_eq_nil_iff.mpr hno]
  · obtain ⟨f, hf, hhandlers⟩ := exists_fileHandlers hfile
    exact ⟨f, hf, by rw [hfollows.handlers, hhandlers]⟩

/-- Three loggers, asked for before, between and behind two set-ups. -/
theorem governed_of_last_between :
    let rs : List Request := [.logger "first", .setup { level := .debug }, .logger "second",
      .setup { level := .error, logFile := some "logs/a.log" }, .logger "third"]
    let c : LoggingConfig := { level := .error, logFile := some "logs/a.log" }
    (setups {} rs).getLast? = some (c, none) ∧ Governed c rs (serveAll {} rs) := by
  intro rs c
  have h : (setups {} rs).getLast? = some (c, none) := rfl
  exact ⟨h, governed_of_last h⟩

/-! ## A set-up that fails -/

/-- The handlers that a set-up leaves, gone through or failed. -/
def handlersLeft (c : LoggingConfig) : Option Fault → List Handler
  | none => .console c.level :: fileHandlers c
  | some _ => [.console c.level]

/-- The console is all that is left when no file is named or the file failed. -/
theorem handlersLeft_eq_iff {l : Level} : handlersLeft c r = [.console l] ↔
    c.level = l ∧ (r = none → ¬NamesFile c) := by
  cases r with
  | none => simp [handlersLeft, fileHandlers_eq_nil_iff]
  | some e => simp [handlersLeft]

/-- Root and handlers are those that the last set-up left, whatever came of it. -/
theorem root_handlers_serveAll (h : (setups s rs).getLast? = some (c, r)) :
    (serveAll s rs).root = c.level ∧ (serveAll s rs).handlers = handlersLeft c r := by
  refine serveAll_of_last (P := fun t => t.root = c.level ∧ t.handlers = handlersLeft c r) h
    (fun t ht => ?_) (fun t name ht => ?_)
  · cases r with
    | none => exact ⟨(follows_setup ht).root, (follows_setup ht).handlers⟩
    | some e =>
      have hleft := arrangement_of_failed ht
      exact ⟨congrArg Arrangement.root hleft, congrArg Arrangement.handlers hleft⟩
  · have hsame := arrangement_logger t name
    exact ⟨(congrArg Arrangement.root hsame).trans ht.1,
      (congrArg Arrangement.handlers hsame).trans ht.2⟩

/-- Before the first set-up the root has no handlers. -/
theorem handlers_serveAll_of_none (h : (setups { disk } rs).getLast? = none) :
    (serveAll { disk } rs).handlers = [] :=
  serveAll_of_none (P := fun t => t.handlers = []) h rfl
    (fun t name ht => (congrArg Arrangement.handlers (arrangement_logger t name)).trans ht)

/-- **What a failed set-up leaves behind.** It fails because the file is refused; root and
handlers are then those of the new configuration without the file, and all else is as it was.
So logging is as it was exactly when there was nothing to replace: the set-up before had the
same level, and left no file. -/
theorem failed_setup_decides (h : ((serveAll { disk } rs).setup c).2 = some e) :
    let s := serveAll { disk } rs
    Refuses s.disk c e ∧
      (s.setup c).1.arrangement
        = { s.arrangement with root := c.level, handlers := [.console c.level] } ∧
      ((s.setup c).1.arrangement = s.arrangement ↔
        ∃ c' r, (setups { disk } rs).getLast? = some (c', r) ∧ c'.level = c.level ∧
          (r = none → ¬NamesFile c')) := by
  intro s
  have hleft := arrangement_of_failed h
  refine ⟨setup_eq_some_iff.mp h, hleft, ?_⟩
  have hsame : (s.setup c).1.arrangement = s.arrangement ↔
      s.root = c.level ∧ s.handlers = [.console c.level] := by
    rw [hleft]
    constructor
    · intro h
      exact ⟨(congrArg Arrangement.root h).symm, (congrArg Arrangement.handlers h).symm⟩
    · rintro ⟨hroot, hhandlers⟩
      rw [arrangement, hroot, hhandlers]
  rw [hsame]
  cases hlast : (setups { disk } rs).getLast? with
  | none =>
    -- the console is the first handler there is
    rw [handlers_serveAll_of_none hlast]
    simp
  | some x =>
    obtain ⟨c', r⟩ := x
    obtain ⟨hroot, hhandlers⟩ := root_handlers_serveAll hlast
    rw [hroot, hhandlers, handlersLeft_eq_iff]
    constructor
    · rintro ⟨-, hlevel, hfile⟩
      exact ⟨c', r, rfl, hlevel, hfile⟩
    · rintro ⟨c'', r', hx, hlevel, hfile⟩
      obtain ⟨rfl, rfl⟩ := Prod.mk.inj (Option.some.inj hx)
      exact ⟨hlevel, hlevel, hfile⟩

/-- A format without a field in it is refused on any disk. -/
theorem refuses_plain (t : Tree) : Refuses t
    { level := .error, format := "plain", logFile := some "b.log" }
    (.content (.formatText "plain")) := by
  have hparent : (Path.ofText "b.log").parent = ⟨false, []⟩ := by decide +kernel
  have hfolder : t.ensureFolder (Path.ofText "b.log").parent = .ok t := by
    rw [hparent]
    rfl
  have hformat : hasConversion "plain".toList = false := by decide +kernel
  exact .format (f := ⟨Path.ofText "b.log", "plain", 10485760, 5⟩) rfl hfolder hformat

/-- Logging goes to a file when a set-up fails. -/
theorem failed_setup_decides_plain :
    let rs : List Request := [.logger "job", .setup { logFile := some "a.log" }]
    let c : LoggingConfig := { level := .error, format := "plain", logFile := some "b.log" }
    let e : Fault := .content (.formatText "plain")
    let s := serveAll {} rs
    (s.setup c).2 = some e ∧ Refuses s.disk c e ∧
      (s.setup c).1.arrangement
        = { s.arrangement with root := c.level, handlers := [.console c.level] } ∧
      ((s.setup c).1.arrangement = s.arrangement ↔
        ∃ c' r, (setups {} rs).getLast? = some (c', r) ∧ c'.level = c.level ∧
          (r = none → ¬NamesFile c')) := by
  intro rs c e s
  have h : (s.setup c).2 = some e := setup_eq_some_iff.mpr (refuses_plain s.disk)
  exact ⟨h, failed_setup_decides h⟩

/-- **A failed set-up changes logging.** The file that records went to is gone, and the root
has the level of the configuration that failed while the program's own loggers keep theirs. -/
theorem failed_setup_changes :
    let s := serveAll {} [.logger "job", .setup { logFile := some "a.log" }]
    let c : LoggingConfig := { level := .error, format := "plain", logFile := some "b.log" }
    let t := (s.setup c).1
    (s.setup c).2 = some (.content (.formatText "plain")) ∧
      t.arrangement ≠ s.arrangement ∧
      (s.root = .info ∧ s.handlers.length = 2 ∧ s.loggers = [("job", .info), ("setup", .info)]) ∧
      t.root = .error ∧ t.handlers.length = 1 ∧ t.loggers = s.loggers := by
  intro s c t
  have h : (s.setup c).2 = some (.content (.formatText "plain")) :=
    setup_eq_some_iff.mpr (refuses_plain s.disk)
  -- the console handler and the level were replaced before the file was tried
  have hleft : t.arrangement = { s.arrangement with
      root := c.level, handlers := [.console c.level] } := arrangement_of_failed h
  have hroot : t.root = .error := congrArg Arrangement.root hleft
  have hbefore : s.root = .info := rfl
  refine ⟨h, fun hsame => ?_, ⟨hbefore, rfl, rfl⟩, hroot, ?_, congrArg Arrangement.loggers hleft⟩
  · have hroots : t.root = s.root := congrArg Arrangement.root hsame
    rw [hroot, hbefore] at hroots
    cases hroots
  · rw [show t.handlers = _ from congrArg Arrangement.handlers hleft]
    rfl

end Logs

end Cadence.Log
