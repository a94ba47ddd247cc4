/-
Configurations in files.

A file is read as JSON when its name ends so, in any case, and as YAML
otherwise. References to the environment are expanded in what was read, and the
result is the caller's part of the configuration. A YAML file that holds nothing
of substance is a configuration without entries.

A text of the file may have half of a surrogate pair in it. Expanding tells such
halves apart, as it depends on them whether a name can be looked up. The sections
do not: for them a half is U+FFFD. That is a restriction of this library; the
program hands the half on to the check of the section as it stands.
-/
import Cadence.Config.Source
import Cadence.Disk.Tree
import Cadence.Yaml.Reader

set_option autoImplicit false

namespace Cadence.Config

inductive Format
  | yaml
  | json
deriving DecidableEq, Repr

/-- The format that a file's name asks for. -/
def Format.of (p : Path) : Format := if p.hasSuffix ".json" then .json else .yaml

/-- Whether a value holds nothing: null, false, zero, or empty. -/
def isHollow (v : Value) : Bool :=
  match v with
  | .atom .none => true
  | .atom (.bool b) => !b
  | .atom (.int n) => n == 0
  | .atom (.float x) => x.isZero
  | .atom (.str s) => s.isEmpty
  | .list xs => xs.isEmpty
  | .tuple xs => xs.isEmpty
  | .mapping es => es.isEmpty
  | _ => false

def Format.read (format : Format) (text : String) : Except Fault Value :=
  match format with
  | .yaml => do
    let v ← Yaml.read text
    -- an empty document is a configuration without entries
    pure (if isHollow v then .mapping [] else v)
  | .json => match Json.read text with
    | .ok v => .ok v
    | .error .malformed => .error (.content (.fileFormat "JSON"))
    | .error (.tooManyDigits n) => .error (.content (.tooManyDigits n))

def envFileName : Path := ⟨false, [".env"]⟩

/-- What a configuration is read in, given the files and the environment. The
environment is the one that the program has when it reads: before its first
reading it has taken in the variables of a file that were not yet set. -/
def surroundings (t : Tree) (env : Environment) : Surroundings :=
  { environment := env, envFile := (t.read envFileName).toOption }

/-- Reads a file in a format. What it holds is the caller's part. -/
def loadAs (format : Format) (t : Tree) (env : Environment) (p : Path) : Except Fault Settings :=
  if !t.contains p then .error (.missingFile p.text)
  else match t.read p with
    | .error e => .error (.system e)
    | .ok text => do
      let v ← format.read text
      build (surroundings t env) (← expand env.toLookup v).smooth

/-- Reads a configuration from a file. -/
def load (t : Tree) (env : Environment) (p : Path) : Except Fault Settings :=
  loadAs (Format.of p) t env p

end Cadence.Config
