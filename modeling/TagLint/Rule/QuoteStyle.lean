import TagLint.Rule

/-!
Values of attributes are written in quotes of one kind, or in quotes at all.
-/

namespace TagLint

inductive QuoteStyle
  | double | single | quoted
deriving DecidableEq, Repr

namespace QuoteStyle

def name : QuoteStyle → String
  | double => "double"
  | single => "single"
  | quoted => "quoted"

def ofName (name : String) : Except Unknown QuoteStyle :=
  match [double, single, quoted].find? fun style => style.name == name with
  | some style => .ok style
  | none => .error (.quoteStyle name)

def quotes : QuoteStyle → List Char
  | double => ['"']
  | single => ['\'']
  | quoted => ['"', '\'']

def wanted : QuoteStyle → String
  | quoted => "quoted"
  | style => style.name ++ " quoted"

def accepts (style : QuoteStyle) (raw : String) : Bool :=
  (Text.enclosingQuote? raw.toList).any style.quotes.contains

end QuoteStyle

namespace Rule

def quoteStyleProfile : Profile where
  kind := { name := "AttrQuoteStyleRule" }
  name := "attr-quote-style"
  description := "Attribute values must be quoted with the configured style"
  on := [.attr]

def quoteStyle (style : QuoteStyle) : Rule :=
  check quoteStyleProfile fun
    | _, target@(.node ..) => .error (target.lacks "raw_value")
    | _, .attr attr =>
      match attr.rawValue? with
      | none => .ok []
      | some raw =>
        if style.accepts raw then .ok []
        else .ok [quoteStyleProfile.issue ("Value of attribute \"" ++ attr.name ++ "\" should be " ++ style.wanted)
          attr.valueIndex? [("attribute", .text attr.name), ("style", .text style.name)]]

end Rule

end TagLint
