import TagLint.Failure
import TagLint.Issue
import TagLint.Node
import TagLint.Tree

/-!
Rules. A rule looks at one node, with all that hangs below it, or at one attribute and says what is wrong with it; it
keeps nothing from one look to the next. Rules that listen on attributes hear of them through a fan-out, which is a
rule on the nodes that have attributes.
-/

namespace TagLint

inductive Target
  /-- A node, and the trees of its children as they are when the rule looks at it. -/
  | node (node : Node) (below : List (Tree Node))
  | attr (attr : Attribute)

namespace Target

def name : Target → String
  | node n _ => n.name
  | attr a => a.name

/-- What failures call a target of this kind. -/
def className : Target → String
  | node .. => "TagNode"
  | attr _ => "AttributeRecord"

def lacks (target : Target) (field : String) : Failure :=
  .missingField target.className field

end Target

/-- The kind of a rule, with the names of the wider kinds that it belongs to. -/
structure RuleKind where
  name : String
  wider : List String := ["Rule"]
deriving DecidableEq, Repr

def RuleKind.isA (kind : RuleKind) (name : String) : Bool :=
  kind.name == name || kind.wider.contains name

structure Profile where
  kind : RuleKind
  name : String
  description : String
  on : List NodeType
  /-- The keys of the attributes that the rule wants to see; all of them where nothing is given. -/
  trigger? : Option (List String) := none
  severity : Severity := .error
deriving DecidableEq, Repr

def Profile.issue (profile : Profile) (message : String) (index? : Option Int) (data : List (String × Datum) := []) :
    Issue where
  rule := profile.name
  severity := profile.severity
  message
  index?
  data

inductive Rule
  | check (profile : Profile) (run : Datum → Target → Except Failure (List Issue))
  /-- Shows each attribute of a node to the subscribers that want it. -/
  | fanOut (subscribers : List Rule)

namespace Rule

def profile : Rule → Profile
  | check profile _ => profile
  | fanOut _ => {
    kind := { name := "AttrRule" }
    name := "attr"
    description := "A meta rule that emits attribute events"
    on := NodeType.elements }

def kind (rule : Rule) : RuleKind :=
  rule.profile.kind

def name (rule : Rule) : String :=
  rule.profile.name

def firesOn (rule : Rule) (type : NodeType) : Bool :=
  rule.profile.on.contains type

/-- Whether the rule sees attributes rather than nodes. -/
def isAttributeRule (rule : Rule) : Bool :=
  rule.firesOn .attr

def triggersOn (rule : Rule) (key : String) : Bool :=
  rule.profile.trigger?.all (·.contains key)

/-- Rules are told apart by their kinds alone. -/
def same (a b : Rule) : Bool :=
  a.kind.name == b.kind.name

/-- Different texts of a list in alphabetical order. -/
def sorted (words : List String) : List String :=
  (words.mergeSort fun a b => decide (a ≤ b)).eraseDups

def typeNames (rule : Rule) : List String :=
  sorted (rule.profile.on.map (·.name))

def triggerNames? (rule : Rule) : Option (List String) :=
  rule.profile.trigger?.map sorted

def describe : Rule → String
  | fanOut subscribers => "AttrRule(" ++ toString subscribers.length ++ " subscribers)"
  | rule@(check profile _) =>
    let trigger := rule.triggerNames?.elim "" fun keys => ", trigger=" ++ Text.quotedList keys
    profile.kind.name ++ "(name=" ++ Text.quoted profile.name ++ ", on=" ++ Text.quotedList rule.typeNames ++ trigger
      ++ ")"

end Rule

end TagLint
