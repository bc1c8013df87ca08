/-!
Levels of log entries, in the order of their weight.
-/

namespace TagLint

inductive LogLevel
  | debug | info | warning | error | critical
deriving DecidableEq, Repr

namespace LogLevel

def all : List LogLevel :=
  [.debug, .info, .warning, .error, .critical]

def name : LogLevel → String
  | debug => "DEBUG"
  | info => "INFO"
  | warning => "WARNING"
  | error => "ERROR"
  | critical => "CRITICAL"

def value : LogLevel → Nat
  | debug => 10
  | info => 20
  | warning => 30
  | error => 40
  | critical => 50

/-- Whether entries of the level are kept where those from `least` on are. -/
def isAtLeast (level least : LogLevel) : Bool :=
  least.value ≤ level.value

def ofName? (name : String) : Option LogLevel :=
  all.find? fun level => level.name == name

end LogLevel

end TagLint
