/-
Log files.

A record is written at the end of the file, which appears with the first one.
A file that may grow only so far is put aside before a record that would bring
it to the limit: it takes the number one behind its name, and the files put
aside earlier move up by one, as far as their number is allowed to go; the last
one is lost. A limit without room for files put aside does nothing.

A record that cannot be written is lost, without more ado.
-/
import Cadence.Config.Model
import Cadence.Disk.Tree
import Cadence.Log.Format

set_option autoImplicit false

namespace Cadence.Log

open Cadence.Config (Level LoggingConfig)

/-! ## Records -/

/-- What is logged: how important it is, by which logger, the text, and the fault
that led to it. -/
structure Record where
  level : Level
  logger : String
  text : String
  cause : Option Fault := none
deriving Repr

namespace Record

/-- The fields that a format can name. -/
def field? (r : Record) (name : String) : Option FieldValue :=
  match name with
  | "levelname" => some (.text r.level.name)
  | "levelno" => some (.number r.level.number)
  | "name" => some (.text r.logger)
  | "message" => some (.text r.text)
  | _ => none

/-- A fault as a line of its own. -/
def causeLine (e : Fault) : String :=
  if e.message.isEmpty then e.className else e.className ++ ": " ++ e.message

/-- The record as it is written: the line, and behind it the fault. -/
def write (r : Record) (format : String) : Option String := do
  let line ← Log.write r.field? format
  some (match r.cause with
    | none => line
    | some e => (if line.toList.getLast? == some '\n' then line else line ++ "\n") ++ causeLine e)

end Record

/-! ## Files -/

/-- The format that stands for an empty one. -/
def plainFormat : String := "%(message)s"

/-- A file that records are written to. -/
structure LogFile where
  path : Path
  format : String
  maxBytes : Int
  backupCount : Int
deriving Repr, Inhabited

namespace LogFile

/-- The file of a configuration, if it names one. -/
def of (c : LoggingConfig) : Option LogFile :=
  match c.logFile with
  | none => none
  | some name =>
    if name.isEmpty then none
    else some ⟨Path.ofText name, if c.format.isEmpty then plainFormat else c.format, c.maxBytes,
      c.backupCount⟩

/-- The file put aside with a number. -/
def aside (f : LogFile) (n : Nat) : Path := f.path.addSuffix ("." ++ Number.natText n)

/-- Moves the files put aside up by one, from the highest number on. -/
def shift (f : LogFile) : Nat → Tree → Tree
  | 0, t => t
  | n + 1, t =>
    f.shift n (if t.contains (f.aside (n + 1)) then
      (t.move (f.aside (n + 1)) (f.aside (n + 2))).toOption.getD t else t)

def rotate (f : LogFile) (t : Tree) : Tree :=
  if f.backupCount ≤ 0 then t
  else
    -- the file with the highest number is overwritten
    let t := f.shift (f.backupCount.toNat - 1) t
    (t.move f.path (f.aside 1)).toOption.getD t

/-- Whether a text brings the file to its limit. The file is measured in bytes, the
text in characters, with the end of the line. -/
def isFull (f : LogFile) (t : Tree) (text : String) : Bool :=
  match t.look f.path with
  | some (.file old) =>
    0 < f.maxBytes && f.maxBytes ≤ (old.utf8ByteSize + text.toList.length + 1 : Nat)
  | _ => false

def write (f : LogFile) (r : Record) (t : Tree) : Tree :=
  match t.append f.path "" with
  | .error _ => t
  | .ok t => match r.write f.format with
    | none => t
    | some text =>
      -- put aside in front of the record, never behind it
      let t := if f.isFull t text then f.rotate t else t
      (t.append f.path (text ++ "\n")).toOption.getD t

end LogFile

end Cadence.Log
