import TagLint.Proofs.BuiltAttributes
import TagLint.Proofs.PassPlans
import TagLint.Rule.QuoteStyle

/-! Quotes around values. The scanner looks for a closing quote, while the content of a value and the rule on quotes
compare its two ends; they agree, because a value whose opening quote is never closed cannot end in that quote. -/

namespace TagLint.Proofs.QuoteForms
open Text Occurrence ScanForm Duplicates SourceSpans PassPlans

inductive Form
  | double | single | bare
deriving DecidableEq

def Form.quote? : Form → Option Char
  | double => some '"'
  | single => some '\''
  | bare => none

/-- Whether a style wants values of a form. -/
def Form.suits : Form → QuoteStyle → Bool
  | double, .double | double, .quoted => true
  | single, .single | single, .quoted => true
  | _, _ => false

/-- A value at the head of a text that is in no quotes. Where it begins with a quote, the text never closes it. -/
structure Bare (text raw : List Char) : Prop where
  solid : raw ≠ []
  visible : ∀ c ∈ raw, isBlank c = false
  unclosed : ∀ quote, raw.head? = some quote → quote = '"' ∨ quote = '\'' → quote ∉ text.tail

/-- The forms of a value at the head of a text, with the content that each gives it. -/
inductive HasForm (text raw : List Char) : Form → List Char → Prop
  | double {content : List Char} : raw = '"' :: content ++ ['"'] → '"' ∉ content → HasForm text raw .double content
  | single {content : List Char} : raw = '\'' :: content ++ ['\''] → '\'' ∉ content → HasForm text raw .single content
  | bare : Bare text raw → HasForm text raw .bare raw

/-- A value at the head of a text with its only form, which gives it the content that it has. -/
structure Recognised (text : List Char) (raw : String) (form : Form) : Prop where
  stands : raw.toList <+: text
  has : HasForm text raw.toList form (unquote raw).toList
  only : ∀ other content, HasForm text raw.toList other content → other = form ∧ content = (unquote raw).toList
  ends : form = .bare → ∀ c, text[raw.toList.length]? = some c → isBlank c = true

section Forms

variable {text raw content : List Char} {form : Form}

/-- The last character of a value whose quote is not closed is another one, or its first. -/
theorem Bare.enclosingQuote? (bare : Bare text raw) (stands : raw <+: text) : Text.enclosingQuote? raw = none := by
  rw [Option.eq_none_iff_forall_not_mem]
  intro quote enclosed
  obtain ⟨kind, content, same⟩ := Text.enclosingQuote?_eq_some_iff.mp enclosed
  subst same
  apply bare.unclosed quote rfl kind
  obtain ⟨later, same⟩ := stands
  simp [← same]

theorem HasForm.enclosingQuote? (has : HasForm text raw form content) (stands : raw <+: text) :
    Text.enclosingQuote? raw = form.quote? := by
  cases has with
  | double same free => exact Text.enclosingQuote?_eq_some_iff.mpr ⟨.inl rfl, content, same⟩
  | single same free => exact Text.enclosingQuote?_eq_some_iff.mpr ⟨.inr rfl, content, same⟩
  | bare bare => exact bare.enclosingQuote? stands

theorem HasForm.unquote (has : HasForm text raw form content) (stands : raw <+: text) : Text.unquote raw = content := by
  cases has with
  | double same free =>
    subst same
    exact Text.unquote_enclosed content (.inl rfl)
  | single same free =>
    subst same
    exact Text.unquote_enclosed content (.inr rfl)
  | bare bare => rw [Text.unquote, bare.enclosingQuote? stands]

private theorem Form.eq_of_quote? {form other : Form} (same : form.quote? = other.quote?) : form = other := by
  cases form <;> cases other <;> simp [Form.quote?] at same ⊢

theorem HasForm.recognised (has : HasForm text raw form content) (stands : raw <+: text)
    (ends : form = .bare → ∀ c, text[raw.length]? = some c → isBlank c = true) :
    Recognised text (.ofList raw) form := by
  have unquoted : (TagLint.unquote (.ofList raw)).toList = content := by
    rw [TagLint.unquote, String.toList_ofList, String.toList_ofList, has.unquote stands]
  constructor
  case stands => rwa [String.toList_ofList]
  case has => rwa [unquoted, String.toList_ofList]
  case only =>
    intro other otherContent found
    rw [String.toList_ofList] at found
    rw [unquoted]
    refine ⟨Form.eq_of_quote? ?_, ?_⟩
    · rw [← found.enclosingQuote? stands, has.enclosingQuote? stands]
    · rw [← found.unquote stands, has.unquote stands]
  case ends => rwa [String.toList_ofList]

end Forms

section Scan

variable {text : List Char} {start stop : Nat} {quote : Char}

private theorem not_mem_of_quotedRaw? {more : List Char} (absent : quotedRaw? quote more = none) : quote ∉ more := by
  intro member
  rw [quotedRaw?] at absent
  split at absent
  next nothing =>
    have other := List.dropWhile_eq_nil_iff.mp nothing quote member
    simp at other
  next => contradiction

/-- Up to the next blank a value that does not begin with a closed quote is bare. -/
theorem bare_of_run {c : Char} {more : List Char} (begun : text.drop start = c :: more) (visible : isBlank c = false)
    (never : ∀ closing quote, ¬ Quoted text start closing quote) :
    Bare (text.drop start) (part text start (runEnd (!isBlank ·) text start)) := by
  have raw : part text start (runEnd (!isBlank ·) text start) = c :: more.takeWhile (!isBlank ·) := by
    rw [part_runEnd, begun, List.takeWhile_cons, visible]
    rfl
  rw [raw, begun]
  constructor
  case solid => exact List.cons_ne_nil _ _
  case visible =>
    rw [List.forall_mem_cons]
    refine ⟨visible, fun d member => ?_⟩
    simpa using List.all_eq_true.mp List.all_takeWhile d member
  case unclosed =>
    intro quote begins kind
    obtain rfl : c = quote := Option.some.inj begins
    apply not_mem_of_quotedRaw?
    rw [List.tail_cons]
    cases found : quotedRaw? c more with
    | none => rfl
    | some found =>
      obtain ⟨closing, quoted⟩ := Quoted.exists_of_found kind begun found
      exact absurd quoted (never closing c)

private theorem recognised_of_span {c : Char} (span : ValueSpan text start stop) (found : text[start]? = some c)
    (visible : isBlank c = false) : ∃ form,
      Recognised (text.drop start) (.ofList (part text start stop)) form := by
  obtain ⟨inside, same⟩ := List.getElem?_eq_some_iff.mp found
  have begun : text.drop start = c :: text.drop (start + 1) := by rw [List.drop_eq_getElem_cons inside, same]
  have stands : part text start stop <+: text.drop start := List.take_prefix _ _
  cases span with
  | @quoted closing quote quoted =>
    have raw := quoted.part_eq
    rcases quoted.kind with rfl | rfl
    · exact ⟨.double, (HasForm.double raw quoted.free).recognised stands (fun absurd => nomatch absurd)⟩
    · exact ⟨.single, (HasForm.single raw quoted.free).recognised stands (fun absurd => nomatch absurd)⟩
  | bare never =>
    refine ⟨.bare, (HasForm.bare (bare_of_run begun visible never)).recognised stands ?_⟩
    intro _ d next
    have place := add_length_part (le_runEnd (!isBlank ·) text start) (runEnd_le _ (Nat.le_of_lt inside))
    rw [List.getElem?_drop, place] at next
    simpa using runEnd_stops next

theorem recognised_of_written {occ : Occurrence} {raw : List Char} (written : Written text occ)
    (given : occ.raw? = some raw) :
    ∃ place form, occ.valueStart? = some place ∧ Recognised (text.drop place) (.ofList raw) form := by
  cases written with
  | @mk start name stop assignment span assigned =>
    cases assigned with
    | absent _ => contradiction
    | @given value ending follows ends =>
      obtain rfl : part text value ending = raw := Option.some.inj given
      obtain ⟨c, found, visible⟩ := follows.visible
      obtain ⟨form, recognised⟩ := recognised_of_span ends found visible
      obtain ⟨first, second, third⟩ := span.bounds
      have sign := le_runEnd isBlank text stop
      have after := le_runEnd isBlank text (runEnd isBlank text stop + 1)
      have begins := follows.begins
      have inside := follows.inside
      have place : start + (part text start name).length + (part text name stop).length +
          (part text stop value).length = value := by
        rw [add_length_part first (by omega), add_length_part (by omega) third, add_length_part (by omega) (by omega)]
      exact ⟨value, form, congrArg some place, recognised⟩

/-- The value of an occurrence in a tag is recognised in the text of the tag. -/
theorem recognised_in_tag {tag : OpenTag} {key : String} {occ : Occurrence} {raw : List Char}
    (member : occ ∈ occurrencesOf tag key) (given : occ.raw? = some raw) :
    ∃ place form, occ.valueStart? = some place ∧ Recognised (tag.text.toList.drop place) (.ofList raw) form := by
  obtain ⟨found, scanned, rfl⟩ := List.mem_map.mp (List.mem_filter.mp member).1
  obtain ⟨place, form, begins, recognised⟩ := recognised_of_written (written_of_mem_scan scanned) given
  let name := tag.text.toList.takeWhile (!isBlank ·)
  refine ⟨name.length + place, form, ?_, ?_⟩
  · rw [valueStart?_moved, begins, Option.map_some]
  · have behind : tag.text.toList.drop (name.length + place) =
        (tag.text.toList.dropWhile (!isBlank ·)).drop place := by
      conv => lhs; rw [← List.takeWhile_append_dropWhile (p := (!isBlank ·)) (l := tag.text.toList)]
      exact List.drop_length_add_append place
    rwa [behind]

end Scan

/-- All tokens of a text with their values recognised where they stand. -/
def TokensRecognised (text : String) : Prop :=
  ∀ (index : Nat) (token : Token) (raw : String), (tokenize text)[index]? = some token → token.rawValue? = some raw →
    ∃ occ place form, (scan text.toList)[index]? = some occ ∧ occ.valueStart? = some place ∧
      Recognised (text.toList.drop place) raw form

def judgement (style : QuoteStyle) (options : Datum) (attr : Attribute) : Except Failure (List Issue) :=
  Invocation.answer ⟨.quoteStyle style, .attr attr, options⟩

/-- What the rule on quotes says of an attribute that was found in a tag. -/
structure Judged (tag : OpenTag) (attr : Attribute) : Prop where
  without : attr.rawValue? = none → ∀ style options, judgement style options attr = .ok []
  written : ∀ raw, attr.rawValue? = some raw → ∃ (place : Nat) (form : Form),
    attr.valueIndex? = some (tag.index + 1 + place) ∧ Recognised (tag.text.toList.drop place) raw form ∧
    ∀ style options,
      if form.suits style then judgement style options attr = .ok []
      else ∃ issue, judgement style options attr = .ok [issue] ∧ issue.index? = attr.valueIndex?

/-- An attribute before and after it is looked for in a tag: it is filled from an occurrence and then judged by the form
of its value, or no occurrence tells of it. -/
structure FilledAndJudged (tag : OpenTag) (before after : String × Attribute) : Prop where
  key : after.1 = before.1
  filled : after.2 = before.2.settle ∨
    ∃ occ ∈ occurrencesOf tag before.1, after.2 = taken (tag.index + 1) occ before.2
  judged : ∀ occ ∈ occurrencesOf tag before.1, after.2 = taken (tag.index + 1) occ before.2 → Judged tag after.2

theorem accepts_of_recognised {text : List Char} {raw : String} {form : Form} (recognised : Recognised text raw form)
    (style : QuoteStyle) : style.accepts raw = form.suits style := by
  rw [QuoteStyle.accepts, recognised.has.enclosingQuote? recognised.stands]
  cases form <;> cases style <;> rfl

theorem judged_of_taken {tag : OpenTag} {key : String} {occ : Occurrence} (member : occ ∈ occurrencesOf tag key)
    (before : Attribute) : Judged tag (taken (tag.index + 1) occ before) := by
  constructor
  case without =>
    intro unwritten style options
    simp only [judgement, Invocation.answer, Rule.quoteStyle, unwritten]
  case written =>
    intro raw given
    have same := given
    rw [BuiltAttributes.taken_rawValue] at same
    obtain ⟨chars, written, rfl⟩ := Option.map_eq_some_iff.mp same
    obtain ⟨place, form, begins, recognised⟩ := recognised_in_tag member written
    refine ⟨place, form, ?_, recognised, ?_⟩
    · rw [BuiltAttributes.taken_valueIndex?, begins, Option.getD_some]
    · intro style options
      rw [← accepts_of_recognised recognised]
      simp only [judgement, Invocation.answer, Rule.quoteStyle, given]
      split
      · rfl
      · exact ⟨_, rfl, rfl⟩

/-- The scanner, the content of a value and the rule on quotes recognise the same quotes. -/
theorem quotes_are_recognised_alike (text : String) (attrs : Attributes) (tag : OpenTag) :
    TokensRecognised text ∧ List.Forall₂ (FilledAndJudged tag) attrs.entries (attrs.locate tag).entries := by
  constructor
  · intro index token raw found given
    rw [tokenize, List.getElem?_map] at found
    obtain ⟨occ, scanned, rfl⟩ := Option.map_eq_some_iff.mp found
    obtain ⟨chars, written, rfl⟩ := Option.map_eq_some_iff.mp given
    obtain ⟨place, form, begins, recognised⟩ :=
      recognised_of_written (written_of_mem_scan (List.mem_of_getElem? scanned)) written
    exact ⟨occ, place, form, scanned, begins, recognised⟩
  · rw [locate_eq_map, Attributes.map, List.forall₂_map_right_iff, List.forall₂_same]
    intro entry _
    refine ⟨rfl, (settle_resolves _ _ _).settled_or_taken, ?_⟩
    intro occ member same
    rw [same]
    exact judged_of_taken member entry.2

example : (tokenize "a=\"x y\" b=\" c='z").map (fun token => token.rawValue?.map unquote) =
    [some "x y", some "\"", some "'z"] := by
  decide +kernel

end TagLint.Proofs.QuoteForms
