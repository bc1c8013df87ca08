import TagLint.Issue

/-!
The issues of one document with their counts.
-/

namespace TagLint

structure Report where
  file? : Option String := none
  issues : List Issue := []

namespace Report

def errorCount (report : Report) : Nat :=
  report.issues.countP (·.severity == .error)

def warningCount (report : Report) : Nat :=
  report.issues.countP (·.severity == .warning)

def problemCount (report : Report) : Nat :=
  report.errorCount + report.warningCount

def hasErrors (report : Report) : Bool :=
  report.errorCount > 0

/-- A count with its word in the singular or the plural. -/
def counted (count : Nat) (word : String) : String :=
  toString count ++ " " ++ word ++ if count == 1 then "" else "s"

def summary (report : Report) : String :=
  counted report.problemCount "problem" ++ " (" ++ counted report.errorCount "error" ++ ", "
    ++ counted report.warningCount "warning" ++ ")"

end Report

end TagLint
