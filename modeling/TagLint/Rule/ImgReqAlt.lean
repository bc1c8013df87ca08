import TagLint.Rule

/-!
An image has an alternative text. An empty one is accepted, for it marks the image as decoration.
-/

namespace TagLint.Rule

def imgReqAltProfile : Profile where
  kind := { name := "ImgReqAltRule" }
  name := "img-req-alt"
  description := "<img> tags must have an alt attribute"
  on := [.tag]

def imgReqAlt : Rule :=
  check imgReqAltProfile fun _ target =>
    if Text.lowered target.name != "img" then .ok []
    else match target with
      | .attr _ => .error (target.lacks "attribs")
      | .node node _ =>
        if node.hasAttribute "alt" true then .ok []
        else .ok [imgReqAltProfile.issue "<img> is missing an alt attribute" (some node.openTag.index)]

end TagLint.Rule
