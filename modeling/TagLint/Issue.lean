import TagLint.Datum
import TagLint.Text.Case
import TagLint.Unknown

/-!
Issues are what rules find. An issue points at an offset of the source, and once the source is known at a line and a
column too.
-/

namespace TagLint

inductive Severity
  | error | warning
deriving DecidableEq, Repr

namespace Severity

def name : Severity → String
  | error => "error"
  | warning => "warning"

def ofName? (name : String) : Option Severity :=
  [error, warning].find? fun severity => severity.name == name

/-- The severity that a word names in any letter case; every other word means an error. -/
def ofText (word : String) : Severity :=
  (ofName? (Text.lowered word)).getD .error

end Severity

/-- A line and a column, both counted from one. -/
structure Position where
  line : Int
  column : Int
deriving DecidableEq, Repr

structure Issue where
  rule : String
  severity : Severity
  message : String
  /-- Offset of the offending name or value, in characters from the start of the source. -/
  index? : Option Int := none
  line? : Option Int := none
  column? : Option Int := none
  data : List (String × Datum) := []

namespace Issue

def isError (issue : Issue) : Bool :=
  issue.severity == .error

def position? (issue : Issue) : Option Position :=
  match issue.line?, issue.column? with
  | some line, some column => some ⟨line, column⟩
  | _, _ => none

def placed (issue : Issue) (position : Position) : Issue :=
  { issue with line? := some position.line, column? := some position.column }

/-- Whether two issues report the same; the data that a rule added does not count. -/
def agrees (a b : Issue) : Bool :=
  a.rule == b.rule && a.severity == b.severity && a.message == b.message && a.index? == b.index?
    && a.line? == b.line? && a.column? == b.column?

def allAgree (first second : List Issue) : Bool :=
  first.length == second.length && (first.zip second).all fun (a, b) => a.agrees b

end Issue

end TagLint
