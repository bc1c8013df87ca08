import TagLint.Rule

/-!
Void elements close themselves, or no element does.
-/

namespace TagLint

inductive SelfCloseStyle
  | always | never
deriving DecidableEq, Repr

namespace SelfCloseStyle

def name : SelfCloseStyle → String
  | always => "always"
  | never => "never"

def ofName (name : String) : Except Unknown SelfCloseStyle :=
  match [always, never].find? fun style => style.name == name with
  | some style => .ok style
  | none => .error (.selfCloseStyle name)

end SelfCloseStyle

/-- Elements that never have content. -/
def voidElements : List String :=
  ["area", "base", "br", "col", "embed", "hr", "img", "input", "link", "meta", "param", "source", "track", "wbr"]

namespace Rule

def selfCloseProfile : Profile where
  kind := { name := "TagSelfCloseRule" }
  name := "tag-self-close"
  description := "Void elements must (or must not) be self-closed"
  on := [.tag]
  severity := .warning

def selfClose (style : SelfCloseStyle) : Rule :=
  check selfCloseProfile fun
    | _, target@(.attr _) => .error (target.lacks "open")
    | _, .node node _ =>
      let tag := Text.lowered node.name
      let issue (wanted : String) : Issue :=
        selfCloseProfile.issue ("<" ++ tag ++ "> " ++ wanted) (some node.openTag.index) [("tag", .text tag)]
      let closed := node.openTag.isSelfClosing
      match style with
      | .always => if voidElements.contains tag && !closed then .ok [issue "should be self-closed"] else .ok []
      | .never => if closed then .ok [issue "should not be self-closed"] else .ok []

end Rule

end TagLint
