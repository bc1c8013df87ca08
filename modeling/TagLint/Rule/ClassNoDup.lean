import TagLint.Rule

/-!
No class is listed twice on one tag.
-/

namespace TagLint.Rule

def classNoDupProfile : Profile where
  kind := { name := "ClassNoDupRule" }
  name := "class-no-dup"
  description := "Class names must not be duplicated"
  on := [.tag]

/-- The words of a list that stand in it earlier too or are among those seen; empty words do not count. -/
def repeatedWords (seen : List String) : List String → List String
  | [] => []
  | word :: rest =>
    if word == "" then repeatedWords seen rest
    else if seen.contains word then word :: repeatedWords seen rest
    else repeatedWords (word :: seen) rest

def classNoDup : Rule :=
  check classNoDupProfile fun
    | _, target@(.attr _) => .error (target.lacks "attribs")
    | _, .node node _ =>
      match node.attributes.get? "class" with
      | none => .ok []
      | some attr => .ok ((repeatedWords [] node.classes).map fun word =>
          classNoDupProfile.issue ("Duplicate class \"" ++ word ++ "\"") attr.valueIndex? [("class", .text word)])

end TagLint.Rule
