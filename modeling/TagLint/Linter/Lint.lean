import TagLint.Linter
import TagLint.Report
import TagLint.Rule.Dispatch
import TagLint.SourceMap

/-!
Linting a document. The nodes are visited in document order; each is annotated before any rule sees it, then its
attributes go to the subscribers and the node itself, with what hangs below it, to the rules for its type. The first
failure of a rule fails the document.
-/

namespace TagLint

structure Request where
  options : Datum := .null
  source? : Option String := none
  file? : Option String := none

namespace Linter

/-- The rules that a run asks about each node: a fan-out to the subscribers, if there are any, then the others. -/
def runRules (linter : Linter) : List Rule :=
  match linter.subscribers with
  | [] => linter.nodeRules
  | subscribers => .fanOut subscribers :: linter.nodeRules

def documentFailure (request : Request) (rule : Rule) (cause : Failure) : DocumentFailure where
  error := {
    message := "Rule '" ++ rule.name ++ "' failed: " ++ cause.text
    file? := request.file?
    rule? := some rule.name }
  cause

def ask (request : Request) (below : List (Tree Node)) (rule : Rule) (node : Node) : Pass DocumentFailure Node :=
  (rule.onNode request.options below node).onFailure (documentFailure request rule)
    fun cause => .failed rule.name node.describe request.file? cause.text

/-- Visits one node: annotates it if it is an element, then asks the rules that fire on its type. What hangs below the
node stays as it is until the walk comes there. -/
def visit (rules : List Rule) (request : Request) (below : List (Tree Node)) (node : Node) :
    Pass DocumentFailure Node :=
  let opened : Pass DocumentFailure Node :=
    if node.isElement then .notices node.annotated node.annotationNotices else .rest node
  opened.andThen (Pass.inTurn (ask request below) (rules.filter (·.firesOn node.type)))

/-- The trees of the children at the root of a branch, with the nodes as they are now. -/
def below {n : Nat} (nodes : Vector Node n) (branch : Tree (Fin n)) : List (Tree Node) :=
  Tree.mapAll nodes.get branch.children

def visitAll {n : Nat} (rules : List Rule) (request : Request) (branches : List (Tree (Fin n)))
    (nodes : Vector Node n) : Pass DocumentFailure (Vector Node n) :=
  Pass.inTurn (fun branch nodes => (visit rules request (below nodes branch) (nodes.get branch.label)).mapState
    (nodes.set branch.label · branch.label.isLt)) branches nodes

def located (source? : Option String) (issues : List Issue) : List Issue :=
  match source? with
  | some source =>
    let map := SourceMap.ofText source
    issues.map map.locate
  | none => issues

def lint {n : Nat} (linter : Linter) (request : Request) (forest : List (Tree (Fin n))) (nodes : Vector Node n) :
    Pass DocumentFailure (Vector Node n) :=
  let branches := Tree.walkAll (Tree.branchedAll forest)
  let visited := visitAll linter.runRules request branches nodes
  match visited.result with
  | .error _ => visited
  | .ok issues =>
    let issues := located request.source? issues
    { visited with
      result := .ok issues
      trace := visited.trace ++ [.noticed (.linted request.file? branches.length issues.length)] }

/-- Lints a document and puts its issues in a report. -/
def lintReport {n : Nat} (linter : Linter) (request : Request) (forest : List (Tree (Fin n))) (nodes : Vector Node n) :
    Except DocumentFailure Report × Vector Node n :=
  let run := linter.lint request forest nodes
  (run.result.map fun issues => { file? := request.file?, issues }, run.state)

end Linter

end TagLint
