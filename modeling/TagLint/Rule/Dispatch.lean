import TagLint.Pass

/-!
Asking rules. The fan-out goes through the attributes of a node in the order of their keys, and for each through the
subscribers in theirs; a subscriber sees the attribute under its key, however its builder spelled it.
-/

namespace TagLint

namespace Rule

/-- Asks a rule about an attribute. A fan-out cannot answer, as an attribute has no attributes. -/
def onAttribute (options : Datum) (rule : Rule) (attr : Attribute) : Pass Failure Attribute where
  result := match rule with
    | check _ run => run options (.attr attr)
    | fanOut _ => .error ((Target.attr attr).lacks "attribs")
  state := attr
  trace := [.invoked rule (.attr attr) options]

def applyToAttribute (options : Datum) (rules : List Rule) (attr : Attribute) : Pass Failure Attribute :=
  Pass.inTurn (onAttribute options) rules attr

/-- Shows one attribute of the node `node` to those subscribers that want it. -/
def deliver (fanOut node : String) (subscribers : List Rule) (options : Datum) (key : String) (attr : Attribute) :
    Pass Failure Attribute :=
  let named := { attr with name := key }
  match subscribers.filter (·.triggersOn key) with
  | [] => .rest named
  | wanting =>
    (Pass.notices named [.dispatched fanOut node key (wanting.map (·.name))]).andThen
      (applyToAttribute options wanting)

/-- Shows the attributes of a node to subscribers, on behalf of the rule named `fanOut`. -/
def dispatch (fanOut : String) (subscribers : List Rule) (options : Datum) (node : Node) : Pass Failure Node :=
  (Pass.sweep (deliver fanOut node.name subscribers options) node.attributes).mapState fun attrs =>
    { node with attributes := attrs }

/-- Asks a rule about a node, with `below` hanging below it. -/
def onNode (options : Datum) (below : List (Tree Node)) (rule : Rule) (node : Node) : Pass Failure Node :=
  match rule with
  | check _ run => ⟨run options (.node node below), node, [.invoked rule (.node node below) options]⟩
  | fanOut subscribers => dispatch rule.name subscribers options node

def applyToNode (options : Datum) (below : List (Tree Node)) (rules : List Rule) (node : Node) : Pass Failure Node :=
  Pass.inTurn (onNode options below) rules node

end Rule

end TagLint
