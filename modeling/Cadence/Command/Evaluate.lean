/-
Evaluating patterns and schedules.

`check` shows for each value whether a field pattern matches it; `matchAt` shows
a schedule field by field at an instant, and then the verdict. Both end with
zero when everything matches and with one otherwise, a text that cannot be read
among the latter.
-/
import Cadence.Command.Desk
import Cadence.Command.Line
import Cadence.Instant.Reader

set_option autoImplicit false

namespace Cadence.Command

def exitCode (matched : Bool) : Nat := if matched then 0 else 1

def verdictWord (matched : Bool) : String := if matched then "yes" else "no"

/-! ## Values against a pattern -/

def colouredVerdict (matched : Bool) : String := if matched then "[green]yes[/]" else "[red]no[/]"

/-- An integer as it is shown; one of more digits than are converted has no text. -/
def shownValue (v : Int) : Except Fault String :=
  if Number.digitLimit < (Number.digits v.natAbs).length then .error (.content .unwritable)
  else .ok (Number.intText v)

def checkRow (v : Int) (matched : Bool) : Except Fault (List String) := do
  pure [← shownValue v, colouredVerdict matched]

/-- The table of a pattern and its verdicts on some values, and whether all match. -/
def checkReport (p : FieldPattern) (values : List Int) : Except Fault (Table × Bool) := do
  let title ← p.render
  let verdicts ← values.mapM (fun v => p.accepts (.int v))
  let rows ← (values.zip verdicts).mapM (fun (v, b) => checkRow v b)
  pure ({ title := "Pattern " ++ title, columns := ["Value", "Match"], rows }, verdicts.all id)

def check (l : CheckLine) (d : Desk) : Desk × Except Fault Nat :=
  match FieldPattern.parse l.pattern with
  | .error (.pattern text why) => (d.printFault (.pattern text why), .ok 1)
  | .error e => (d, .error e)
  | .ok p => match checkReport p l.values with
    | .error e => (d, .error e)
    | .ok (table, matched) => (d.display (.table table), .ok (exitCode matched))

/-! ## A schedule at an instant -/

def fieldRow (s : Schedule) (parts : Sextet Int) (f : Field) : Except Fault (List String) := do
  let matched ← (s.fields.get f).accepts (.int (parts.get f))
  let pattern ← (s.fields.get f).render
  pure [f.name, pattern, Number.intText (parts.get f), verdictWord matched]

def matchTable (s : Schedule) (m : Moment) : Except Fault Table := do
  let parts ← timeParts m (.str s.zone.name)
  let cron ← s.cron
  let rows ← Field.all.mapM (fieldRow s parts)
  pure { title := cron ++ " at " ++ m.iso
         columns := ["Field", "Pattern", "Local value", "Match"]
         rows }

/-- Reads the schedule, then the instant, which is the present when none is given. -/
def readMatch (l : MatchLine) (now : Moment) : Except Fault (Schedule × Moment) := do
  let s ← Schedule.ofCron l.cron Schedule.defaultZone
  let m ← match l.instant with
    | some text => Moment.parse text
    | none => .ok now
  pure (s, m)

def matchAt (l : MatchLine) (d : Desk) : Desk × Except Fault Nat :=
  match readMatch l d.session.clock.now with
  | .error e => if e.isContent then (d.printFault e, .ok 1) else (d, .error e)
  | .ok (s, m) => match matchTable s m with
    | .error e => (d, .error e)
    | .ok table =>
      let d := d.display (.table table)
      match s.accepts m with
      | .error e => (d, .error e)
      | .ok matched =>
        (d.display (.markup (if matched then "[green]MATCH[/]" else "[yellow]NO MATCH[/]")),
          .ok (exitCode matched))

end Cadence.Command
