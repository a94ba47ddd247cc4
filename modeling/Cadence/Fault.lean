/-
Everything that can go wrong, by cause.

A `Fault` says what is wrong, with the values involved; how it is worded stands
in one place, `Fault.message`, and which family it belongs to (a bad value, a
value of a wrong type, an arithmetic failure and so on) in `Fault.className`.
Callers that catch some faults and let others through ask for the family, never
for the text.
-/
import Cadence.Value

set_option autoImplicit false

namespace Cadence

open Cadence.Number (intText natText)
open Cadence.Text (quoted joinWith)

/-! ## Causes -/

/-- Why a text is not a pattern. -/
inductive Malformation
  /-- the input is no text -/
  | notText
  | expectedNumber (piece : String)
  | malformedRange (piece : String)
  | stepBelowOne
  /-- not six fields with an optional zone in brackets behind them -/
  | cronShape
  | fieldCount (n : Nat)
  | stated (reason : String)
deriving Repr

/-- Which limit of a field, or of the zone names, a value breaks. -/
inductive Breach
  | value (field : Field) (value : Int)
  | step (field : Field) (every upper : Int)
  | stepBelowOne (field : Field)
  | reversed (field : Field) (start stop : Int)
  | emptyList (field : Field)
  | timezone (name : String)
  | stated (message : String) (field : Option String)
deriving Repr

/-- Where a value of a wrong kind stands. -/
inductive KindFault
  | notAnInteger (field : Field) (value : Value)
  | stepNotAnInteger (field : Field) (value : Value)
  | unsupportedKeys (field : Field) (keys : List Value)
  | unsupportedInput (field : Field) (value : Value)
  | unsupportedPattern (typeName : String)
  | notAPattern (field : String) (value : Value)
  | notOrdered (sign left right : String)
  | noOperator (sign left right : String)
  | unusedArguments
  | unhashable (typeName : String)
  | notCallable
  | durationKind (typeName : String)
  | notAMapping (typeName : String)
  | keywordNotText
  | raised (text : String)
deriving Repr

/-- What is wrong with a value of the right kind. -/
inductive ContentFault
  /-- a numeral is too long to be read -/
  | tooManyDigits (n : Nat)
  /-- an integer is too long to be written -/
  | unwritable
  | naiveInstant
  | nanToInteger
  | isoText (text : String)
  | monthRange
  | dayRange
  | yearRange (year : Int)
  | hourRange
  | minuteRange
  | secondRange
  | offsetRange (shown : String)
  | cronOrFields
  | logLevel (text : String)
  | duplicateNames (names : List String)
  | fileFormat (format : String)
  | formatText (format : String)
  /-- a name has no bytes, from a half of a surrogate pair on -/
  | unencodable (half : Text.CodePoint) (start stop : Nat)
  | raised (text : String)
deriving Repr

/-- Which number leaves its range. -/
inductive OverflowFault
  | date
  | infinityToInteger
  | days (n : Int)
  | daysBeyondWord
  | integerToFloat
deriving Repr

/-- Which operation comes too late. -/
inductive StateFault
  | cancelled (id : String)
  | shutDown
  /-- calls nest too deeply -/
  | tooDeep
  | raised (text : String)
deriving Repr

/-- A step on the way to a value inside a configuration. -/
inductive LocPart
  | key (name : String)
  | index (n : Nat)
deriving DecidableEq, Repr

/-- What is wrong with a value of a configuration. -/
inductive IssueKind
  | missing
  | stringType
  | intType
  | intParsing
  | intFromFloat
  | intParsingSize
  | finiteNumber
  | floatType
  | floatParsing
  | greaterThan (bound : Int)
  | greaterThanEqual (bound : Int)
  | boolType
  | boolParsing
  | listType
  | mappingType
  | modelType (model : String)
  | extraForbidden
  | invalidValue (text : String)
deriving Repr

/-- A fault of a configuration and where it is. -/
structure Issue where
  loc : List LocPart
  kind : IssueKind
deriving Repr

/-- What the file system refuses. -/
inductive SystemFault
  | isADirectory
  | notADirectory
  | fileExists
  | notFound
deriving DecidableEq, Repr

/-- Anything that can go wrong. -/
inductive Fault
  | pattern (text : String) (why : Malformation)
  | domain (why : Breach)
  | unknownName (name : String) (field : Option String)
  | kind (why : KindFault)
  | content (why : ContentFault)
  | zeroDivisor (float : Bool)
  | abstractPattern
  | overflow (why : OverflowFault)
  | state (why : StateFault)
  | missingKey (key : String)
  | noMember (typeName member : String)
  | invalid (model : String) (issues : List Issue)
  | settings (field source : String)
  | missingFile (path : String)
  | system (why : SystemFault)
deriving Repr

/-! ## Families -/

namespace Fault

/-- The name of the family a fault belongs to. -/
def className : Fault → String
  | .pattern _ _ => "PatternSyntaxError"
  | .domain _ => "DomainRangeError"
  | .unknownName _ _ => "UnknownSymbolError"
  | .kind _ => "TypeError"
  | .content (.unencodable _ _ _) => "UnicodeEncodeError"
  | .content _ => "ValueError"
  | .zeroDivisor _ => "ZeroDivisionError"
  | .abstractPattern => "NotImplementedError"
  | .overflow _ => "OverflowError"
  | .state .tooDeep => "RecursionError"
  | .state _ => "RuntimeError"
  | .missingKey _ => "KeyError"
  | .noMember _ _ => "AttributeError"
  | .invalid _ _ => "ValidationError"
  | .settings _ _ => "SettingsError"
  | .missingFile _ => "FileNotFoundError"
  | .system .isADirectory => "IsADirectoryError"
  | .system .notADirectory => "NotADirectoryError"
  | .system .fileExists => "FileExistsError"
  | .system .notFound => "FileNotFoundError"

/-- Whether the fault is one of wrong content: a value of the right kind that
will not do. -/
def isContent : Fault → Bool
  | .pattern _ _ => true
  | .domain _ => true
  | .content _ => true
  | .invalid _ _ => true
  | .settings _ _ => true
  | _ => false

/-- Whether the fault is one of kind: a value of the wrong type. -/
def isKind : Fault → Bool
  | .unknownName _ _ => true
  | .kind _ => true
  | _ => false

end Fault

/-! ## Wording -/

def Malformation.message : Malformation → String
  | .notText => "pattern must be a string"
  | .expectedNumber piece => "expected a number, got " ++ quoted piece
  | .malformedRange piece => "malformed range " ++ quoted piece
  | .stepBelowOne => "step must be >= 1"
  | .cronShape => "expected '<s> <m> <h> <d> <M> <w> [tz]'"
  | .fieldCount n => "expected 6 fields, got " ++ natText n
  | .stated reason => reason

/-- The name of the field, or of the zone setting, that a breach is about. -/
def Breach.field? : Breach → Option String
  | .value f _ => some f.name
  | .step f _ _ => some f.name
  | .stepBelowOne f => some f.name
  | .reversed f _ _ => some f.name
  | .emptyList f => some f.name
  | .timezone _ => some "timezone"
  | .stated _ f => f

def Breach.message : Breach → String
  | .value f v =>
    f.name ++ " value " ++ intText v ++ " is out of range [" ++ intText f.low ++ ", "
      ++ intText f.high ++ "]"
  | .step f n upper =>
    f.name ++ ": 'every' step " ++ intText n ++ " is out of range [1, " ++ intText upper ++ "]"
  | .stepBelowOne f => f.name ++ ": 'every' step must be >= 1"
  | .reversed f a b =>
    f.name ++ ": 'from' (" ++ intText a ++ ") must be <= 'to' (" ++ intText b ++ ")"
  | .emptyList f => f.name ++ ": list needs at least one value"
  | .timezone name => "Unknown timezone: \"" ++ name ++ "\""
  | .stated message _ => message

def KindFault.message : KindFault → String
  | .notAnInteger f v => f.name ++ " value must be an integer, got " ++ v.shown
  | .stepNotAnInteger f v => f.name ++ ": 'every' must be an integer, got " ++ v.shown
  | .unsupportedKeys f ks => f.name ++ ": unsupported keys " ++ (Value.list ks).shown
  | .unsupportedInput f v => f.name ++ ": unsupported input " ++ v.shown
  | .unsupportedPattern t => "Unsupported pattern type: " ++ t
  | .notAPattern f v => f ++ ": expected a FieldPattern, got " ++ v.shown
  | .notOrdered sign a b =>
    "'" ++ sign ++ "' not supported between instances of '" ++ a ++ "' and '" ++ b ++ "'"
  | .noOperator sign a b =>
    "unsupported operand type(s) for " ++ sign ++ ": '" ++ a ++ "' and '" ++ b ++ "'"
  | .unusedArguments => "not all arguments converted during string formatting"
  | .unhashable t => "unhashable type: '" ++ t ++ "'"
  | .notCallable => "callback must be callable"
  | .durationKind t => "unsupported type for timedelta seconds component: " ++ t
  | .notAMapping t =>
    "cronwhen.core.config.CronWhenConfig() argument after ** must be a mapping, not " ++ t
  | .keywordNotText => "keywords must be strings"
  | .raised text => text

def ContentFault.message : ContentFault → String
  | .tooManyDigits n =>
    "Exceeds the limit (" ++ natText Number.digitLimit
      ++ " digits) for integer string conversion: value has " ++ natText n
      ++ " digits; use sys.set_int_max_str_digits() to increase the limit"
  | .unwritable =>
    "Exceeds the limit (" ++ natText Number.digitLimit
      ++ " digits) for integer string conversion"
      ++ "; use sys.set_int_max_str_digits() to increase the limit"
  | .naiveInstant => "Clock instants must be timezone-aware"
  | .nanToInteger => "cannot convert float NaN to integer"
  | .isoText s => "Invalid isoformat string: " ++ quoted s
  | .monthRange => "month must be in 1..12"
  | .dayRange => "day is out of range for month"
  | .yearRange y => "year " ++ intText y ++ " is out of range"
  | .hourRange => "hour must be in 0..23"
  | .minuteRange => "minute must be in 0..59"
  | .secondRange => "second must be in 0..59"
  | .offsetRange shown =>
    "offset must be a timedelta strictly between -timedelta(hours=24) and timedelta(hours=24), "
      ++ "not " ++ shown ++ "."
  | .cronOrFields => "Give either 'cron' or per-field inputs, not both"
  | .logLevel s => "Invalid log level: " ++ s
  | .duplicateNames names => "Duplicate schedule names: " ++ joinWith ", " names
  | .fileFormat format => "Invalid " ++ format ++ " in config file"
  | .formatText format => "Invalid format '" ++ format ++ "' for '%' style"
  | .unencodable p start stop =>
    let place :=
      if stop = start + 1 then
        "character '\\u" ++ String.ofList (Text.hexDigits 4 p.number) ++ "' in position "
          ++ natText start
      else "characters in position " ++ natText start ++ "-" ++ natText (stop - 1)
    "'utf-8' codec can't encode " ++ place ++ ": surrogates not allowed"
  | .raised text => text

def OverflowFault.message : OverflowFault → String
  | .date => "date value out of range"
  | .infinityToInteger => "cannot convert float infinity to integer"
  | .days n => "days=" ++ intText n ++ "; must have magnitude <= 999999999"
  | .daysBeyondWord => "Python int too large to convert to C int"
  | .integerToFloat => "int too large to convert to float"

def StateFault.message : StateFault → String
  | .cancelled id => "Registration " ++ id ++ " has been cancelled"
  | .shutDown => "Engine has been shut down"
  | .tooDeep => "maximum recursion depth exceeded"
  | .raised text => text

/-- The machine-readable name of an issue. -/
def IssueKind.code : IssueKind → String
  | .missing => "missing"
  | .stringType => "string_type"
  | .intType => "int_type"
  | .intParsing => "int_parsing"
  | .intFromFloat => "int_from_float"
  | .intParsingSize => "int_parsing_size"
  | .finiteNumber => "finite_number"
  | .floatType => "float_type"
  | .floatParsing => "float_parsing"
  | .greaterThan _ => "greater_than"
  | .greaterThanEqual _ => "greater_than_equal"
  | .boolType => "bool_type"
  | .boolParsing => "bool_parsing"
  | .listType => "list_type"
  | .mappingType => "dict_type"
  | .modelType _ => "model_type"
  | .extraForbidden => "extra_forbidden"
  | .invalidValue _ => "value_error"

def IssueKind.message : IssueKind → String
  | .missing => "Field required"
  | .stringType => "Input should be a valid string"
  | .intType => "Input should be a valid integer"
  | .intParsing => "Input should be a valid integer, unable to parse string as an integer"
  | .intFromFloat => "Input should be a valid integer, got a number with a fractional part"
  | .intParsingSize => "Unable to parse input string as an integer, exceeded maximum size"
  | .finiteNumber => "Input should be a finite number"
  | .floatType => "Input should be a valid number"
  | .floatParsing => "Input should be a valid number, unable to parse string as a number"
  | .greaterThan b => "Input should be greater than " ++ intText b
  | .greaterThanEqual b => "Input should be greater than or equal to " ++ intText b
  | .boolType => "Input should be a valid boolean"
  | .boolParsing => "Input should be a valid boolean, unable to interpret input"
  | .listType => "Input should be a valid list"
  | .mappingType => "Input should be a valid dictionary"
  | .modelType m => "Input should be a valid dictionary or instance of " ++ m
  | .extraForbidden => "Extra inputs are not permitted"
  | .invalidValue text => "Value error, " ++ text

/-- The first words of the report on an invalid configuration. -/
def invalidSummary (model : String) (n : Nat) : String :=
  natText n ++ (if n = 1 then " validation error for " else " validation errors for ") ++ model

namespace Fault

def message : Fault → String
  | .pattern text why =>
    let head := "Invalid field pattern " ++ quoted text
    if why.message = "" then head else head ++ ": " ++ why.message
  | .domain why => why.message
  | .unknownName name field => match field with
    | none => "Unknown field: \"" ++ name ++ "\""
    | some f =>
      if f = "" then "Unknown field: \"" ++ name ++ "\""
      else "Unknown " ++ f ++ " name: \"" ++ name ++ "\""
  | .kind why => why.message
  | .content why => why.message
  | .zeroDivisor float => if float then "float modulo" else "integer modulo by zero"
  | .abstractPattern => ""
  | .overflow why => why.message
  | .state why => why.message
  | .missingKey key => quoted key
  | .noMember t m => "'" ++ t ++ "' object has no attribute '" ++ m ++ "'"
  | .invalid model issues => invalidSummary model issues.length
  | .settings field source =>
    "error parsing value for field \"" ++ field ++ "\" from source \"" ++ source ++ "\""
  | .missingFile path => "Configuration file not found: " ++ path
  | .system _ => ""

/-- The fault of an arithmetic operation. -/
def ofArithmetic : Number.ArithmeticFault → Fault
  | .zeroDivisor float => .zeroDivisor float
  | .tooLarge => .overflow .integerToFloat

end Fault

end Cadence
