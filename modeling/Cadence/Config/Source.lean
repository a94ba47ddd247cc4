/-
Where a configuration comes from.

Three sources give entries: the caller, the environment, and a file of variables
in the working folder. A variable stands for a part of the configuration, in
JSON, or, with the keys joined by two underscores, for a single key inside a
part, as text. Names match without regard to case. Where two sources give the
same key, the caller wins over the environment and the environment over the
file; mappings are merged key by key, everything else is replaced as a whole.

The program asks for these sources and chooses the prefix of the names, the two
underscores, the name of the file and that case does not count. What a source
then gives, how the sources are merged and what becomes of a key that no section
has, is assumed here as the library for settings describes it, pydantic-settings.
That a caller is asked before the environment is its rule; that a file of the
configuration is such a caller is the program's (`loadAs`).
-/
import Cadence.Config.EnvFile
import Cadence.Config.Model
import Cadence.Json.Reader

set_option autoImplicit false

namespace Cadence.Config

/-! ## Merging -/

/-- The value of a key of any kind. -/
def lookupKey? (key : Value) : Entries → Option Value
  | [] => none
  | (k, v) :: es => if k.eqv key then some v else lookupKey? key es

mutual

/-- A value over another: two mappings are merged, else the upper one counts. -/
def layer (upper : Value) (lower : Option Value) : Value :=
  match upper, lower with
  | .mapping us, some (.mapping ls) => .mapping (mergeEntries us ls)
  | v, _ => v

/-- Entries over others, key by key. -/
def mergeEntries : Entries → Entries → Entries
  | [], lower => lower
  | (k, v) :: es, lower =>
    mergeEntries es (Value.insertEntry lower k (layer v (lookupKey? k lower)))

end

/-! ## Variables -/

/-- Variables with their values; one that is only named has none. -/
abbrev Variables := List (String × Option String)

/-- The variables with their names in lower case, the last of equal ones winning. -/
def lowerNames (vars : Variables) : Variables :=
  let rec put (name : String) (v : Option String) : Variables → Variables
    | [] => [(name, v)]
    | (n, w) :: rest => if n = name then (n, v) :: rest else (n, w) :: put name v rest
  vars.foldl (fun acc (name, v) => put (Text.lower name) v acc) []

/-- The variable for a part of the configuration. -/
def variableOf (part : String) : String := "cronwhen_" ++ part

/-- Cuts a name at each pair of underscores, from the left. -/
def nestedKeys : List Char → List (List Char)
  | '_' :: '_' :: r => [] :: nestedKeys r
  | c :: r => match nestedKeys r with
    | [] => [[c]]
    | w :: ws => (c :: w) :: ws
  | [] => [[]]

/-- Sets a key at the end of a path. A path through something that is no mapping
leads nowhere. -/
def setNested (v : Value) : List String → Entries → Entries
  | [], es => es
  | [key], es => Value.insertEntry es (.str key) v
  | key :: rest, es =>
    match Value.lookup? key es with
    | some (.mapping inner) => Value.insertEntry es (.str key) (.mapping (setNested v rest inner))
    | some _ => es
    | none => Value.insertEntry es (.str key) (.mapping (setNested v rest []))

def variableValue : Option String → Value
  | some s => .str s
  | none => .null

/-- The entries that variables give for single keys of a part. -/
def nestedEntries (vars : Variables) (part : String) : Entries :=
  vars.foldl (fun es (name, v) =>
    match Text.dropLead? ((variableOf part).toList ++ ['_', '_']) name.toList with
    | some path => setNested (variableValue v) ((nestedKeys path).map String.ofList) es
    | none => es) []

def partKeys (part : String) : List String :=
  match part with
  | "logging" => ["level", "format", "log_file", "max_bytes", "backup_count"]
  | "engine" => ["tick_interval", "max_workers", "misfire_grace_time", "timezone"]
  | _ => []

/-- A mapping for a part, with its keys spelled as the part spells them. -/
def spellKeys (part : String) (v : Value) : Value :=
  match v with
  | .mapping es =>
    .mapping (es.foldl (fun acc (k, v) =>
      let known := (k.text?).bind (fun s =>
        (partKeys part).find? (fun key => Text.lower key == Text.lower s))
      Value.insertEntry acc ((known.map Value.str).getD k) v) [])
  | v => v

/-- What variables give for a part: its own variable is read as JSON, with U+FFFD for
halves of surrogate pairs, and those for single keys come over it. -/
def partFrom (source : String) (vars : Variables) (part : String) :
    Except Fault (Option Value) := do
  let nested := nestedEntries vars part
  match (vars.lookup (variableOf part)).join with
  | none => pure (if nested.isEmpty then none else some (.mapping nested))
  | some text => match (Json.read text).map Value.smooth with
    | .error _ => .error (.settings part source)
    -- single keys come over the mapping
    | .ok (.mapping es) => pure (some (.mapping (mergeEntries nested es)))
    | .ok .null => pure none
    | .ok v => pure (some v)

def partsFrom (source : String) (vars : Variables) : List String → Except Fault Entries
  | [] => .ok []
  | part :: rest => do
    let v ← partFrom source vars part
    let es ← partsFrom source vars rest
    pure (match v with
      | some v => (.str part, spellKeys part v) :: es
      | none => es)

/-- The variables of a file that stand for no part; each becomes a key. -/
def strayEntries (vars : Variables) : Entries :=
  vars.filterMap (fun (name, v) => match v with
    | none => none
    | some s =>
      if s.isEmpty || Settings.partNames.contains name
        || Settings.partNames.any (fun part =>
          (Text.dropLead? (variableOf part).toList name.toList).isSome)
      then none
      else some (.str name, .str s))

/-! ## The sources -/

/-- The caller's entries, with the known keys spelled right: a key that is spelled
right counts before one that differs in case. -/
def givenEntries (es : Entries) : Entries :=
  let chosen (part : String) : Option (Value × Value) :=
    match es.find? (fun e => e.1.text? == some part) with
    | some e => some e
    | none => es.find? (fun e => (e.1.text?.map Text.lower) == some part)
  let known := Settings.partNames.filterMap (fun part => (chosen part).map (fun e => (part, e)))
  let taken (k : Value) : Bool := known.any (fun e => e.2.1.eqv k)
  known.map (fun (part, e) => (.str part, e.2)) ++ es.filter (fun e => !taken e.1)

/-- What a configuration is read in: the environment, and the text of the file of
variables, if there is one. -/
structure Surroundings where
  environment : Environment := []
  envFile : Option String := none
deriving Repr, Inhabited

/-- The entries of all sources. -/
def gather (s : Surroundings) (given : Entries) : Except Fault Entries := do
  let fromEnv ← partsFrom "EnvSettingsSource"
    (lowerNames (s.environment.map (fun (n, v) => (n, some v)))) Settings.partNames
  let fileVars := lowerNames ((s.envFile.map (EnvFile.read s.environment)).getD [])
  let fromFile ← partsFrom "DotEnvSettingsSource" fileVars Settings.partNames
  -- the caller over the environment, and both over the file
  pure (mergeEntries (mergeEntries (givenEntries given) fromEnv)
    (mergeEntries (strayEntries fileVars) fromFile))

/-- Builds a configuration from the caller's value, which must be a mapping with
texts for keys. -/
def build (s : Surroundings) (v : Value) : Except Fault Settings :=
  match v with
  | .mapping es =>
    if es.all (fun e => e.1.text?.isSome) then do
      (Settings.check (← gather s es)).toExcept "CronWhenConfig"
    else .error (.kind .keywordNotText)
  | v => .error (.kind (.notAMapping v.typeName))

end Cadence.Config
