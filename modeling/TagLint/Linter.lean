import TagLint.Rule.ClassNoDup
import TagLint.Rule.IdNoWhitespace
import TagLint.Rule.ImgReqAlt
import TagLint.Rule.QuoteStyle
import TagLint.Rule.SelfClose

/-!
A linter is its rules in the order in which they were registered. One rule may be registered several times.
-/

namespace TagLint

structure Linter where
  rules : List Rule := []

namespace Linter

def register (linter : Linter) (rule : Rule) : Linter :=
  ⟨linter.rules ++ [rule]⟩

def registerAll (linter : Linter) (rules : List Rule) : Linter :=
  rules.foldl register linter

def hasKind (linter : Linter) (name : String) : Bool :=
  linter.rules.any (·.kind.isA name)

def unregister (linter : Linter) (name : String) : Linter :=
  ⟨linter.rules.filter (!·.kind.isA name)⟩

def subscribers (linter : Linter) : List Rule :=
  linter.rules.filter (·.isAttributeRule)

def nodeRules (linter : Linter) : List Rule :=
  linter.rules.filter (!·.isAttributeRule)

def rulesForType (linter : Linter) (type : NodeType) : List Rule :=
  linter.nodeRules.filter (·.firesOn type)

def size (linter : Linter) : Nat :=
  linter.rules.length

def describe (linter : Linter) : String :=
  "Linter(" ++ toString linter.size ++ " rules)"

def default : Linter :=
  registerAll {} [.quoteStyle .double, .idNoWhitespace, .classNoDup, .imgReqAlt, .selfClose .always]

def registerNotices (rules : List Rule) : List Notice :=
  rules.map fun rule => .registered rule.isAttributeRule rule.name

def unregisterNotices (linter : Linter) (name : String) : List Notice :=
  if linter.hasKind name then [.unregistered name] else []

def defaultNotices : List Notice :=
  registerNotices default.rules ++ [.defaultReady default.size]

end Linter

end TagLint
