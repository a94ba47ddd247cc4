/-
Loggers and set-ups, in any order.

How logging is arranged is six pieces of its state (`Arrangement`): level and handlers of the
root, the level of the program's own loggers as a whole and of the job scheduler's, the
loggers handed out with their levels, and the level for loggers to come. Files and records are
the rest, and writing a record touches only these (`arrangement_emit`).

A set-up goes through or fails, and `setup_cases` says what it is in either case. Going
through, it settles all six pieces, whatever they were (`follows_setup`), and loggers handed
out later take over the level (`Follows.logger`). Failing, it has replaced the handlers and the
root's level and nothing else (`arrangement_of_failed`); what makes it fail is the file of its
configuration alone (`setup_eq_some_iff`).
-/
import Cadence.Log.Basic
import Cadence.Proofs.Sequencing

set_option autoImplicit false

namespace Cadence.Log

open Cadence.Config (Level LoggingConfig)

/-! ## Arrangements -/

/-- How logging is arranged: its levels and the root's handlers. -/
structure Arrangement where
  root : Level
  handlers : List Handler
  own : Option Level
  jobs : Option Level
  loggers : List (String × Level)
  current : Level

namespace Logs

variable {s t : Logs} {c c' : LoggingConfig} {e : Fault} {r : Option Fault} {name : String}
  {l : Level} {d : Tree}

def arrangement (s : Logs) : Arrangement :=
  ⟨s.root, s.handlers, s.own, s.jobs, s.loggers, s.current⟩

/-- Handling a record changes no logger and no handler. -/
@[simp] theorem arrangement_handle (r : Record) (h : Handler) :
    (s.handle r h).arrangement = s.arrangement := by
  rw [handle.eq_def]
  split
  · rfl
  · cases h <;> rfl

/-- So it is for all handlers together. -/
@[simp] theorem arrangement_emit (r : Record) : (s.emit r).arrangement = s.arrangement := by
  have hall : ∀ (hs : List Handler) (t : Logs),
      (hs.foldl (fun t h => t.handle r h) t).arrangement = t.arrangement := by
    intro hs
    induction hs with
    | nil => exact fun _ => rfl
    | cons h hs ih => exact fun t => (ih _).trans (arrangement_handle r h)
  exact hall _ _

/-- Saying something hands out the logger it is said through, and changes nothing else. -/
@[simp] theorem arrangement_say (level : Level) (text : String) (cause : Option Fault) :
    (s.say name level text cause).arrangement = (s.logger name).2.arrangement := by
  rw [say]
  simp only
  split
  · rfl
  · exact arrangement_emit _

/-! ## Handing out -/

/-- A logger that is handed out is there from then on; nothing else changes. -/
theorem arrangement_logger (s : Logs) (name : String) : (s.logger name).2.arrangement =
    { s.arrangement with
      loggers := if (s.loggers.lookup name).isSome then s.loggers
        else s.loggers ++ [(name, s.current)] } := by
  rw [logger]
  split
  · next h => simp [h, arrangement]
  · next h => simp [h, arrangement]

/-- Asking for a logger hands out the one of that name, or a new one of the current level. -/
theorem loggers_logger (s : Logs) (name : String) : (s.logger name).2.loggers =
    if (s.loggers.lookup name).isSome then s.loggers else s.loggers ++ [(name, s.current)] :=
  congrArg Arrangement.loggers (arrangement_logger s name)

/-- The names under which loggers have been handed out. -/
def handedOut (s : Logs) : List String := s.loggers.map (·.1)

/-- A name was handed out when a logger stands under it. -/
theorem mem_handedOut_iff : name ∈ s.handedOut ↔ (s.loggers.lookup name).isSome = true := by
  rw [handedOut, List.mem_map, List.lookup_isSome_iff]
  constructor
  · rintro ⟨x, hx, rfl⟩
    exact ⟨x, hx, beq_self_eq_true _⟩
  · rintro ⟨x, hx, hname⟩
    exact ⟨x, hx, (beq_iff_eq.mp hname).symm⟩

/-- Which were handed out is part of the arrangement. -/
theorem handedOut_congr (hsame : s.arrangement = t.arrangement) : s.handedOut = t.handedOut :=
  congrArg (fun a => a.loggers.map (·.1)) hsame

/-- A logger that is asked for is handed out. -/
theorem mem_handedOut_logger (s : Logs) (name : String) : name ∈ (s.logger name).2.handedOut := by
  rw [handedOut, loggers_logger]
  split
  · next h => exact mem_handedOut_iff.mpr h
  · simp

/-- And those from before still are. -/
theorem subset_handedOut_logger (s : Logs) (name : String) :
    s.handedOut ⊆ (s.logger name).2.handedOut := by
  intro other hother
  rw [handedOut, loggers_logger]
  split
  · exact hother
  · rw [List.map_append]
    exact List.mem_append_left _ hother

/-! ## One level for all -/

/-- All loggers have one level, those handed out and those to come. -/
structure Leveled (l : Level) (s : Logs) : Prop where
  handedOut : ∀ x ∈ s.loggers, x.2 = l
  toCome : s.current = l

/-- In a levelled state the loggers have that level. -/
theorem Leveled.lookup (h : Leveled l s) (hname : name ∈ s.handedOut) :
    s.loggers.lookup name = some l := by
  obtain ⟨l', hl'⟩ := Option.isSome_iff_exists.mp (mem_handedOut_iff.mp hname)
  obtain ⟨before, behind, hsplit, -⟩ := List.lookup_eq_some_iff.mp hl'
  have hmem : (name, l') ∈ s.loggers := by simp [hsplit]
  rw [hl', ← h.handedOut _ hmem]

/-- Whatever name is asked for, the logger has the level. -/
theorem Leveled.fst_logger (h : Leveled l s) (name : String) : (s.logger name).1 = l := by
  rw [Logs.logger]
  split
  · next l' hl' =>
    have hname : name ∈ s.handedOut := mem_handedOut_iff.mpr (by simp [hl'])
    exact Option.some.inj (hl'.symm.trans (h.lookup hname))
  · exact h.toCome

/-- Asking for a logger keeps the state levelled, as a new one gets the level of the others. -/
theorem Leveled.logger (h : Leveled l s) (name : String) : Leveled l (s.logger name).2 := by
  have hcurrent : (s.logger name).2.current = s.current :=
    congrArg Arrangement.current (arrangement_logger s name)
  refine ⟨fun x hx => ?_, hcurrent.trans h.toCome⟩
  rw [loggers_logger] at hx
  split at hx
  · exact h.handedOut x hx
  · rcases List.mem_append.mp hx with hx | hx
    · exact h.handedOut x hx
    · rw [List.mem_singleton.mp hx]
      exact h.toCome

/-! ## One set-up -/

/-- What a set-up has done when it comes to the file. -/
def begun (s : Logs) (c : LoggingConfig) (disk : Tree) : Logs :=
  { s with handlers := [.console c.level], root := c.level, disk }

/-- The handlers for the file of a configuration: one, or none. -/
def fileHandlers (c : LoggingConfig) : List Handler :=
  ((LogFile.of c).map (Handler.file c.level)).toList

/-- A configuration names a log file. -/
def NamesFile (c : LoggingConfig) : Prop := ∃ path, c.logFile = some path ∧ path ≠ ""

/-- There is a log file when one is named. -/
theorem isSome_of_iff : (LogFile.of c).isSome = true ↔ NamesFile c := by
  rw [LogFile.of, NamesFile]
  cases c.logFile with
  | none => simp
  | some path => by_cases hpath : path = "" <;> simp [hpath]

/-- No file is written to when none is named. -/
theorem fileHandlers_eq_nil_iff : fileHandlers c = [] ↔ ¬NamesFile c := by
  rw [← isSome_of_iff, fileHandlers]
  cases LogFile.of c <;> simp

/-- A file that is named has one handler, of the level of the set-up. -/
theorem exists_fileHandlers (h : NamesFile c) :
    ∃ f, LogFile.of c = some f ∧ fileHandlers c = [.file c.level f] := by
  obtain ⟨f, hf⟩ := Option.isSome_iff_exists.mp (isSome_of_iff.mpr h)
  refine ⟨f, hf, ?_⟩
  rw [fileHandlers, hf]
  rfl

/-- Why the file of a configuration cannot be opened: its folder cannot be made, or the
format of its lines has no conversion in it. -/
inductive Refuses (disk : Tree) (c : LoggingConfig) : Fault → Prop
  | folder {f : LogFile} {x : SystemFault} (hfile : LogFile.of c = some f)
      (h : disk.ensureFolder f.path.parent = .error x) : Refuses disk c (.system x)
  | format {f : LogFile} {disk' : Tree} (hfile : LogFile.of c = some f)
      (h : disk.ensureFolder f.path.parent = .ok disk')
      (hformat : hasConversion f.format.toList = false) :
      Refuses disk c (.content (.formatText f.format))

/-- A disk refuses a set-up for one reason. -/
theorem Refuses.unique {e' : Fault} (h : Refuses d c e) (h' : Refuses d c e') : e = e' := by
  rcases h with ⟨hfile, hfolder⟩ | ⟨hfile, hfolder, -⟩
  all_goals
    rcases h' with ⟨hfile', hfolder'⟩ | ⟨hfile', hfolder', -⟩
    all_goals
      obtain rfl := Option.some.inj (hfile.symm.trans hfile')
      have hsame := hfolder.symm.trans hfolder'
  · rw [Except.error.inj hsame]
  · cases hsame
  · cases hsame
  · rfl

/-- Opening the file fails as `Refuses` says, and changes the disk at most. -/
theorem openFile_cases (s : Logs) (c : LoggingConfig) : ∃ disk,
    (∃ e, Refuses s.disk c e ∧ openFile s c = ({ s with disk }, .error e)) ∨
    ((∀ e, ¬Refuses s.disk c e) ∧
      openFile s c = ({ s with disk }, .ok ((LogFile.of c).map (Handler.file c.level)))) := by
  rw [openFile]
  cases hfile : LogFile.of c with
  | none =>
    refine ⟨s.disk, .inr ⟨fun e he => ?_, rfl⟩⟩
    rcases he with ⟨hsome, -⟩ | ⟨hsome, -, -⟩
    · exact absurd (hfile.symm.trans hsome) (by simp)
    · exact absurd (hfile.symm.trans hsome) (by simp)
  | some f =>
    -- the folder is made before the format is looked at
    simp only
    cases hfolder : s.disk.ensureFolder f.path.parent with
    | error x => exact ⟨s.disk, .inl ⟨_, .folder hfile hfolder, rfl⟩⟩
    | ok disk =>
      cases hformat : hasConversion f.format.toList with
      | false => exact ⟨disk, .inl ⟨_, .format hfile hfolder hformat, rfl⟩⟩
      | true =>
        refine ⟨disk, .inr ⟨fun e he => ?_, rfl⟩⟩
        rcases he with ⟨hsome, herror⟩ | ⟨hsome, -, hnone⟩
        · obtain rfl := Option.some.inj (hfile.symm.trans hsome)
          exact absurd (hfolder.symm.trans herror) (by simp)
        · obtain rfl := Option.some.inj (hfile.symm.trans hsome)
          exact absurd (hformat.symm.trans hnone) (by simp)

/-- A set-up fails when the file cannot be opened, and stops there; otherwise it goes on to
its last steps, with the file if there is one. -/
theorem setup_cases (s : Logs) (c : LoggingConfig) : ∃ disk,
    (∃ e, Refuses s.disk c e ∧ s.setup c = (s.begun c disk, some e)) ∨
    ((∀ e, ¬Refuses s.disk c e) ∧ (s.setup c).2 = none ∧ ∃ text,
      (s.setup c).1 = ((s.begun c disk).finish c
        ((LogFile.of c).map (Handler.file c.level))).say "setup" .debug text none) := by
  obtain ⟨disk, ⟨e, hrefuses, hopen⟩ | ⟨hopens, hopen⟩⟩ :=
    openFile_cases { s with handlers := [.console c.level], root := c.level } c
  · refine ⟨disk, .inl ⟨e, hrefuses, ?_⟩⟩
    rw [setup, hopen]
    rfl
  · refine ⟨disk, .inr ⟨hopens, ?_⟩⟩
    rw [setup, hopen]
    exact ⟨rfl, _, rfl⟩

/-- **When a set-up fails, and with what.** -/
theorem setup_eq_some_iff : (s.setup c).2 = some e ↔ Refuses s.disk c e := by
  obtain ⟨disk, ⟨e', hrefuses, hsetup⟩ | ⟨hopens, hnone, -⟩⟩ := setup_cases s c
  · rw [hsetup, Option.some.injEq]
    constructor
    · rintro rfl
      exact hrefuses
    · exact hrefuses.unique
  · rw [hnone]
    simp [hopens e]

/-- **What a failed set-up has done**: it has replaced the handlers and the root's level. -/
theorem arrangement_of_failed (h : (s.setup c).2 = some e) : (s.setup c).1.arrangement =
    { s.arrangement with root := c.level, handlers := [.console c.level] } := by
  obtain ⟨disk, ⟨e', -, hsetup⟩ | ⟨-, hnone, -⟩⟩ := setup_cases s c
  · rw [hsetup]
    rfl
  · rw [hnone] at h
    cases h

/-- Logging as a configuration wants it. -/
structure Follows (c : LoggingConfig) (s : Logs) : Prop where
  root : s.root = c.level
  handlers : s.handlers = .console c.level :: fileHandlers c
  own : s.own = some c.level
  jobs : s.jobs = some (higher c.level .warning)
  leveled : Leveled c.level s

/-- Following a set-up is a matter of the arrangement. -/
theorem Follows.congr (h : Follows c t) (hsame : s.arrangement = t.arrangement) :
    Follows c s where
  root := (congrArg Arrangement.root hsame).trans h.root
  handlers := (congrArg Arrangement.handlers hsame).trans h.handlers
  own := (congrArg Arrangement.own hsame).trans h.own
  jobs := (congrArg Arrangement.jobs hsame).trans h.jobs
  leveled :=
    have hloggers : s.loggers = t.loggers := congrArg Arrangement.loggers hsame
    ⟨hloggers ▸ h.leveled.handedOut, (congrArg Arrangement.current hsame).trans h.leveled.toCome⟩

/-- Handing out loggers leaves logging as it is wanted. -/
theorem Follows.logger (h : Follows c s) (name : String) : Follows c (s.logger name).2 where
  root := (congrArg Arrangement.root (arrangement_logger s name)).trans h.root
  handlers := (congrArg Arrangement.handlers (arrangement_logger s name)).trans h.handlers
  own := (congrArg Arrangement.own (arrangement_logger s name)).trans h.own
  jobs := (congrArg Arrangement.jobs (arrangement_logger s name)).trans h.jobs
  leveled := h.leveled.logger name

/-- The last steps of a set-up settle every piece, whatever it was. -/
theorem follows_finish (s : Logs) (c : LoggingConfig) (disk : Tree) : Follows c
    ((s.begun c disk).finish c ((LogFile.of c).map (Handler.file c.level))) where
  root := rfl
  handlers := rfl
  own := rfl
  jobs := rfl
  leveled := by
    refine ⟨fun x hx => ?_, rfl⟩
    obtain ⟨y, -, rfl⟩ := List.mem_map.mp hx
    rfl

/-- **A set-up that goes through leaves logging as the configuration wants it.** -/
theorem follows_setup (h : (s.setup c).2 = none) : Follows c (s.setup c).1 := by
  obtain ⟨disk, ⟨e, -, hsetup⟩ | ⟨-, -, text, hsetup⟩⟩ := setup_cases s c
  · rw [hsetup] at h
    cases h
  · rw [hsetup]
    exact ((follows_finish s c disk).logger "setup").congr (arrangement_say _ _ _)

/-- A set-up takes no logger back, whether it goes through or not. -/
theorem subset_handedOut_setup (s : Logs) (c : LoggingConfig) :
    s.handedOut ⊆ (s.setup c).1.handedOut := by
  obtain ⟨disk, ⟨e, -, hsetup⟩ | ⟨-, -, text, hsetup⟩⟩ := setup_cases s c
  · rw [hsetup]
    exact List.Subset.refl _
  · have hfinish : ((s.begun c disk).finish c
        ((LogFile.of c).map (Handler.file c.level))).handedOut = s.handedOut := by
      simp [handedOut, finish, begun]
    rw [hsetup, handedOut_congr (arrangement_say _ _ _), ← hfinish]
    exact subset_handedOut_logger _ "setup"

end Logs

end Cadence.Log
