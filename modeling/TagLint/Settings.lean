import TagLint.Datum
import TagLint.LogLevel
import TagLint.Text.Case

/-!
Settings of the linter. A field is given as an argument or by an environment variable, or else has its default; an
argument comes first. All fields are read before anything is reported, so that every fault is named.
-/

namespace TagLint

/-- The level whose name a text holds in any letter case, between any blanks. -/
def LogLevel.ofText? (text : String) : Option LogLevel :=
  ofName? (.ofList (Text.upper (Text.trim text.toList)))

structure Settings where
  /-- Name of the logger of the whole package. -/
  appName : String := "markup_lint"
  debug : Bool := false
  /-- Level of the logger where `debug` is off. -/
  logLevel : LogLevel := .warning
deriving DecidableEq, Repr

namespace Settings

def effectiveLogLevel (settings : Settings) : LogLevel :=
  if settings.debug then .debug else settings.logLevel

inductive Field
  | appName | debug | logLevel
deriving DecidableEq, Repr

def Field.name : Field → String
  | appName => "APP_NAME"
  | debug => "DEBUG"
  | logLevel => "LOG_LEVEL"

/-- The name of the argument that gives a field, in lower case. -/
def Field.argumentName (field : Field) : String :=
  Text.lowered field.name

/-- The environment variable of a field, in lower case. -/
def Field.variableName (field : Field) : String :=
  Text.lowered ("MARKUP_LINT_" ++ field.name)

inductive Problem
  | notText
  | notBool
  /-- A text, or a number of at most 64 bits, that stands for no truth value. -/
  | unclearBool
  | unknownLevel (given : String)
deriving DecidableEq, Repr

def Problem.code : Problem → String
  | notText => "string_type"
  | notBool => "bool_type"
  | unclearBool => "bool_parsing"
  | unknownLevel _ => "value_error"

def Problem.message : Problem → String
  | notText => "Input should be a valid string"
  | notBool => "Input should be a valid boolean"
  | unclearBool => "Input should be a valid boolean, unable to interpret input"
  | unknownLevel given => "Value error, Unknown log level: " ++ given

structure Fault where
  field : Field
  problem : Problem
deriving DecidableEq, Repr

def readText : Datum → Except Problem String
  | .text value => .ok value
  | _ => .error .notText

def fitsWord (n : Int) : Bool :=
  -0x8000000000000000 ≤ n && n < 0x8000000000000000

/-- Truth values may be given as numbers or words; letter case counts for nothing, and blanks are not trimmed. A number
too large for a machine word is refused like any other kind of value. -/
def readBool : Datum → Except Problem Bool
  | .bool value => .ok value
  | .int 0 => .ok false
  | .int 1 => .ok true
  | .int n => .error (if fitsWord n then .unclearBool else .notBool)
  | .text word =>
    if ["0", "off", "f", "false", "n", "no"].contains word.toLower then .ok false
    else if ["1", "on", "t", "true", "y", "yes"].contains word.toLower then .ok true
    else .error .unclearBool
  | _ => .error .notBool

def readLevel : Datum → Except Problem LogLevel
  | .text given =>
    match LogLevel.ofText? given with
    | some level => .ok level
    | none => .error (.unknownLevel given)
  | _ => .error .notText

/-- What is given for a field. Letter case counts neither in the names of arguments nor in those of variables; of several
names that are the same then, the first argument and the last variable are taken. -/
def given? (arguments : List (String × Datum)) (environment : List (String × String)) (field : Field) : Option Datum :=
  (arguments.find? fun (name, _) => Text.lowered name == field.argumentName).map (·.2) <|>
    (environment.reverse.find? fun (name, _) => Text.lowered name == field.variableName).map fun (_, value) => .text value

def faults (fields : List (Field × Option Problem)) : List Fault :=
  fields.filterMap fun (field, problem?) => problem?.map (⟨field, ·⟩)

def problem? : Except Problem α → Option Problem
  | .ok _ => none
  | .error problem => some problem

def readField (arguments : List (String × Datum)) (environment : List (String × String)) (field : Field)
    (reader : Datum → Except Problem α) (default : α) : Except Problem α :=
  (given? arguments environment field).elim (.ok default) reader

def read (arguments : List (String × Datum)) (environment : List (String × String)) : Except (List Fault) Settings :=
  let defaults : Settings := {}
  let appName := readField arguments environment .appName readText defaults.appName
  let debug := readField arguments environment .debug readBool defaults.debug
  let logLevel := readField arguments environment .logLevel readLevel defaults.logLevel
  match appName, debug, logLevel with
  | .ok appName, .ok debug, .ok logLevel => .ok { appName, debug, logLevel }
  | _, _, _ =>
    .error (faults [(.appName, problem? appName), (.debug, problem? debug), (.logLevel, problem? logLevel)])

end Settings

end TagLint
