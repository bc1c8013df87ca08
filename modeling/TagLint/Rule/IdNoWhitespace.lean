import TagLint.Rule

/-!
An id is not empty and holds no blank.
-/

namespace TagLint.Rule

def idNoWhitespaceProfile : Profile where
  kind := { name := "IdNoWhitespaceRule" }
  name := "id-no-whitespace"
  description := "The id attribute must be non-empty and contain no whitespace"
  on := [.attr]
  trigger? := some ["id"]

def idNoWhitespace : Rule :=
  check idNoWhitespaceProfile fun
    | _, target@(.node ..) => .error (target.lacks "value")
    | _, .attr attr =>
      let value := attr.value?.getD ""
      if value == "" then .ok [idNoWhitespaceProfile.issue "The id attribute is empty" attr.valueIndex?]
      else if value.toList.any Text.isBlank then
        .ok [idNoWhitespaceProfile.issue ("The id \"" ++ value ++ "\" contains whitespace") attr.valueIndex?
          [("id", .text value)]]
      else .ok []

end TagLint.Rule
