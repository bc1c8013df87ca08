import TagLint.LogLevel
import TagLint.Text.Quoted

/-!
What the linter says about its work. A notice is recorded where it arises; its level, its channel and its wording
belong to its kind.
-/

namespace TagLint

inductive Notice
  | registered (attributeRule : Bool) (rule : String)
  | unregistered (kind : String)
  | defaultReady (rules : Nat)
  /-- Subscribers of the attribute fan-out `fanOut` are about to see the attribute `key` of a node. -/
  | dispatched (fanOut node key : String) (subscribers : List String)
  /-- Attributes of a node whose names were not found in its opening tag. -/
  | unlocated (node : String) (keys : List String)
  | failed (rule node : String) (file? : Option String) (reason : String)
  | linted (file? : Option String) (nodes issues : Nat)
deriving DecidableEq, Repr

namespace Notice

def level : Notice → LogLevel
  | registered .. | unregistered .. | dispatched .. | unlocated .. => .debug
  | defaultReady .. | linted .. => .info
  | failed .. => .error

def channel : Notice → String
  | dispatched .. => "markup_lint.rules.attr_rule"
  | unlocated .. => "markup_lint.analyzers.attr_parse"
  | _ => "markup_lint.rules.rule_engine"

/-- An empty file name counts as none. -/
def givenFile? (file? : Option String) : Option String :=
  file?.filter (· != "")

def message : Notice → String
  | registered attributeRule rule =>
    "Registered " ++ (if attributeRule then "attribute" else "node") ++ " rule: " ++ rule
  | unregistered kind => "Unregistered rule: " ++ kind
  | defaultReady rules => "Created default linter with " ++ toString rules ++ " rules"
  | dispatched fanOut node key subscribers =>
    fanOut ++ ": <" ++ node ++ "> " ++ key ++ " -> " ++ ", ".intercalate subscribers
  | unlocated node keys => "<" ++ node ++ "> attributes not found in source: " ++ Text.quotedList keys
  | failed rule node file? reason =>
    let place := (givenFile? file?).elim "" (" in " ++ ·)
    "Rule " ++ rule ++ " failed on " ++ node ++ place ++ ": " ++ reason
  | linted file? nodes issues =>
    "Linted " ++ (givenFile? file?).getD "document" ++ ": " ++ toString nodes ++ " nodes, " ++ toString issues
      ++ " issues"

end Notice

end TagLint
