/-!
How a rule can fail. A failure of any of these kinds inside a run becomes one error for the whole document, which keeps
what it was caused by. What ends the whole program, such as an interrupt or an exit, is no failure of a rule: a run does
not catch it, and it is not modelled here.
-/

namespace TagLint

structure LintError where
  message : String
  file? : Option String := none
  rule? : Option String := none
deriving DecidableEq, Repr

/-- The message, after the name of the document where one is given. -/
def LintError.text (error : LintError) : String :=
  match error.file?.filter (· != "") with
  | some file => file ++ ": " ++ error.message
  | none => error.message

inductive Failure
  | runtime (message : String)
  | value (message : String)
  | lint (error : LintError)
  /-- A rule read a field that targets of this class do not have, as a rule for nodes does that is given an attribute. -/
  | missingField (targetClass field : String)
deriving DecidableEq, Repr

def Failure.text : Failure → String
  | runtime message | value message => message
  | lint error => error.text
  | missingField targetClass field => "'" ++ targetClass ++ "' object has no attribute '" ++ field ++ "'"

structure DocumentFailure where
  error : LintError
  cause : Failure
deriving DecidableEq, Repr

end TagLint
