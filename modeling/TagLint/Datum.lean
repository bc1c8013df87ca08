/-!
Values that the linter hands on and never looks into: the options of a run, and what a rule adds to an issue.
-/

namespace TagLint

inductive Datum
  | null
  | bool (value : Bool)
  | int (value : Int)
  | text (value : String)
  | list (items : List Datum)
  | record (fields : List (String × Datum))

end TagLint
