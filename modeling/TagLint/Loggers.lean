import TagLint.Settings

/-!
Loggers by name. Configuring a logger sets its level each time and gives it a handler once, so that no entry is ever
printed twice.
-/

namespace TagLint

structure Handler where
  format : String := "[%(asctime)s] %(levelname)s [%(name)s] %(message)s"
  dateFormat : String := "%Y-%m-%d %H:%M:%S"
deriving DecidableEq, Repr

structure Logger where
  name : String
  /-- A logger that was never configured has no level of its own. -/
  level? : Option LogLevel := none
  handlers : List Handler := []
deriving DecidableEq, Repr

/-- Sets the level, and adds a handler if there is none. -/
def Logger.configured (logger : Logger) (level : LogLevel) : Logger :=
  { logger with
    level? := some level
    handlers := if logger.handlers.isEmpty then [{}] else logger.handlers }

/-- The loggers that have been asked for, each name once. -/
structure Loggers where
  list : List Logger := []
deriving DecidableEq, Repr

namespace Loggers

/-- The name under which a logger is kept: the root logger has two. -/
def nameOf (name : String) : String :=
  if name == "" then "root" else name

/-- The logger of a name, a new one where there is none yet. -/
def get (loggers : Loggers) (name : String) : Logger :=
  (loggers.list.find? (·.name == nameOf name)).getD { name := nameOf name }

def put (loggers : Loggers) (logger : Logger) : Loggers :=
  if loggers.list.any (·.name == logger.name) then
    ⟨loggers.list.map fun other => if other.name == logger.name then logger else other⟩
  else ⟨loggers.list ++ [logger]⟩

def configure (loggers : Loggers) (settings : Settings) : Loggers :=
  loggers.put ((loggers.get settings.appName).configured settings.effectiveLogLevel)

end Loggers

end TagLint
