import TagLint.Text.Quoted

/-!
Words of a configuration that name nothing.
-/

namespace TagLint

inductive Unknown
  | nodeType (word : String)
  | severity (word : String)
  | quoteStyle (word : String)
  | selfCloseStyle (word : String)
deriving DecidableEq, Repr

def Unknown.message : Unknown → String
  | nodeType word => Text.quoted word ++ " is not a valid NodeType"
  | severity word => Text.quoted word ++ " is not a valid Severity"
  | quoteStyle word => "Unknown quote style: " ++ word
  | selfCloseStyle word => "Unknown self-close style: " ++ word

end TagLint
