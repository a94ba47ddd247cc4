/-
The zones that are known, by name.

A name is known in exactly one spelling: case, blanks and directories all
count. One zone may stand under two names, which stay two zones.

The table is the part of a host's database of zones that is kept here; the
results about zones speak of any zone, in the table or not, and assume of it
what they need. A name without a zone is one that the database does not know:
that is the one way for a lookup to fail, and a database that fails in any
other way is left out.
-/
import Cadence.Zone.Europe
import Cadence.Zone.America
import Cadence.Zone.Pacific
import Cadence.Fault

set_option autoImplicit false

namespace Cadence.Zone

/-- A zone that never changes. -/
def steady (name : String) (offset : Int) : Zone := ⟨name, offset, [], .always offset⟩

def utc : Zone := steady "UTC" 0

/-- Every known zone. -/
def table : List Zone :=
  [
    utc, steady "GMT" 0, steady "Etc/GMT+5" (-18000), steady "Etc/GMT-14" 50400, America.est,
    America.eastern, Europe.berlin, Europe.london, Europe.lisbon, Europe.dublin, America.newYork,
    America.chicago, America.stJohns, America.saoPaulo, America.caracas, Pacific.tokyo,
    Pacific.kolkata, Pacific.kathmandu, Pacific.seoul, Pacific.pyongyang, Pacific.sydney,
    Pacific.lordHowe, Pacific.apia, Pacific.chatham, Pacific.kiritimati, Europe.casablanca,
    Europe.monrovia, Europe.troll]

def find? (name : String) : Option Zone := table.find? (·.name == name)

theorem name_of_find? {s : String} {z : Zone} (h : find? s = some z) : z.name = s := by
  simpa using List.find?_some h

/-- The zone that a value names; a name that is not known is out of its domain. -/
def find (name : Value) : Except Fault Zone :=
  match name with
  | .atom (.str s) => match find? s with
    | some z => .ok z
    | none => .error (.domain (.timezone s))
  | name => .error (.domain (.timezone name.text))

end Cadence.Zone
