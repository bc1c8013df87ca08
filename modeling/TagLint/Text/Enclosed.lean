/-!
Texts in quotes. A text is enclosed where its first and its last character are the same quote; a quote by itself
encloses nothing.
-/

namespace TagLint

namespace Text

/-- The quote that encloses a text, if one does. -/
def enclosingQuote? : List Char → Option Char
  | [] => none
  | first :: rest =>
    if (first == '"' || first == '\'') && rest.getLast? == some first then some first else none

def unquote (cs : List Char) : List Char :=
  match enclosingQuote? cs with
  | some _ => cs.tail.dropLast
  | none => cs

theorem enclosingQuote?_eq_some_iff {cs : List Char} {quote : Char} : enclosingQuote? cs = some quote ↔
    (quote = '"' ∨ quote = '\'') ∧ ∃ content, cs = quote :: content ++ [quote] := by
  cases cs with
  | nil => simp [enclosingQuote?]
  | cons first rest =>
    have last : rest.getLast? = some first ↔ ∃ content, rest = content ++ [first] := List.getLast?_eq_some_iff
    simp only [enclosingQuote?, Option.ite_none_right_eq_some, Bool.and_eq_true, Bool.or_eq_true, beq_iff_eq,
      Option.some.injEq, last]
    constructor
    · rintro ⟨⟨isQuote, content, rfl⟩, rfl⟩
      exact ⟨isQuote, content, rfl⟩
    · rintro ⟨isQuote, content, same⟩
      obtain ⟨rfl, rfl⟩ := List.cons.inj same
      exact ⟨⟨isQuote, content, rfl⟩, rfl⟩

theorem unquote_enclosed {quote : Char} (content : List Char) (isQuote : quote = '"' ∨ quote = '\'') :
    unquote (quote :: content ++ [quote]) = content := by
  rcases isQuote with rfl | rfl <;> simp [unquote, enclosingQuote?]

end Text

/-- The content of a value as written. -/
def unquote (raw : String) : String :=
  .ofList (Text.unquote raw.toList)

end TagLint
