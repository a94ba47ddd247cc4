/-
The commands.

There are five: `check` tests values against a field pattern, `match` a schedule
at an instant, `show` lists the schedules of a configuration, `run` runs them,
and `init` writes an example configuration. Each has a grammar of its own, read
onto its defaults; the word for the command decides which, and what is in front
of it is read by a grammar that knows only help and version.
-/
import Cadence.Command.Grammar

set_option autoImplicit false

namespace Cadence.Command

open Cadence.Number (Binary64 readInteger readFloat)

/-! ## Commands -/

structure CheckLine where
  pattern : String := ""
  values : List Int := []
deriving Repr, Inhabited

structure MatchLine where
  cron : String := ""
  instant : Option String := none
deriving Repr, Inhabited

def defaultConfig : String := "schedules.yaml"

structure ListLine where
  config : String := defaultConfig
deriving Repr, Inhabited

structure RunLine where
  config : String := defaultConfig
  duration : Option Binary64 := none
  debug : Bool := false
deriving Repr, Inhabited

structure InitLine where
  output : String := defaultConfig
  force : Bool := false
deriving Repr, Inhabited

inductive Line
  | check (l : CheckLine)
  | matchAt (l : MatchLine)
  | list (l : ListLine)
  | run (l : RunLine)
  | init (l : InitLine)
deriving Repr, Inhabited

/-! ## Grammars -/

variable {σ : Type}

def helpOption : OptionSpec σ := ⟨["-h", "--help"], .stop .help⟩

def storing (names : List String) (set : String → σ → σ) : OptionSpec σ :=
  ⟨names, .value (fun v a => .ok (set v a))⟩

def word (set : String → σ → σ) : Positional σ where
  extent := .one
  set ws a := match ws with
    | [w] => .ok (set w a)
    | _ => .error .usage

/-- An integer among the arguments. -/
def readValue (text : String) : Except Stop Int :=
  match readInteger text with
  | .value i => .ok i
  | _ => .error .usage

def checkGrammar : Grammar CheckLine where
  options := [helpOption]
  positionals := [
    word (fun w a => { a with pattern := w }),
    { extent := .many
      set := fun ws a => do pure { a with values := ← ws.mapM readValue } }]

def matchGrammar : Grammar MatchLine where
  options := [helpOption, storing ["--at"] (fun v a => { a with instant := some v })]
  positionals := [word (fun w a => { a with cron := w })]

def listGrammar : Grammar ListLine where
  options := [helpOption, storing ["-c", "--config"] (fun v a => { a with config := v })]
  positionals := []

def runGrammar : Grammar RunLine where
  options := [
    helpOption,
    storing ["-c", "--config"] (fun v a => { a with config := v }),
    ⟨["--duration"], .value (fun v a => match readFloat v with
      | some x => .ok { a with duration := some x }
      | none => .error .usage)⟩,
    ⟨["-d", "--debug"], .flag (fun a => { a with debug := true })⟩]
  positionals := []

def initGrammar : Grammar InitLine where
  options := [
    helpOption,
    storing ["-o", "--output"] (fun v a => { a with output := v }),
    ⟨["-f", "--force"], .flag (fun a => { a with force := true })⟩]
  positionals := []

def Line.ofWords (words : List String) : Except Stop Line :=
  match words with
  | "check" :: rest => (checkGrammar.read {} rest).map .check
  | "match" :: rest => (matchGrammar.read {} rest).map .matchAt
  | "show" :: rest => (listGrammar.read {} rest).map .list
  | "run" :: rest => (runGrammar.read {} rest).map .run
  | "init" :: rest => (initGrammar.read {} rest).map .init
  | _ => .error .usage

def mainGrammar : Grammar (Option Line) where
  options := [helpOption, ⟨["-v", "--version"], .stop .version⟩]
  positionals := [{
    extent := .rest
    required := false
    set := fun ws _ => (Line.ofWords ws).map some }]

/-- Reads a command line. Without a command there is help. -/
def Line.read (words : List String) : Except Stop Line := do
  match ← mainGrammar.read none words with
  | some l => pure l
  | none => .error .help

end Cadence.Command
