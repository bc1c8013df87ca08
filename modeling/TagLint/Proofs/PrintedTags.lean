import Mathlib.Data.List.Basic
import TagLint.Occurrence.Scan

/-! Attributes as they are printed. A layout chooses the blanks between the pieces of a tag, within limits: they must
not join what they part, nor be taken for a name. Scanning a printed text gives its attributes back. -/

namespace TagLint.Proofs.PrintedTags
open Text Occurrence

def Blanks (cs : List Char) : Prop :=
  ∀ c ∈ cs, isBlank c = true

/-- A name that no scan cuts short or takes for a blank. -/
structure Name where
  chars : List Char
  nonempty : chars ≠ []
  solid : ∀ c ∈ chars, isBlank c = false
  usual : ∀ c ∈ chars, c ∉ ['"', '\'', '>', '=', '^', '/']

/-- A value as written: in quotes that its content does not hold, or in none, without a blank. -/
inductive Value
  | quoted (quote : Char) (content : List Char) (kind : quote = '"' ∨ quote = '\'') (free : quote ∉ content)
  | bare (first : Char) (more : List Char) (solid : ∀ c ∈ first :: more, isBlank c = false)
      (plain : first ≠ '"' ∧ first ≠ '\'')

def Value.chars : Value → List Char
  | quoted quote content .. => quote :: content ++ [quote]
  | bare first more .. => first :: more

def Value.isBare : Value → Bool
  | quoted .. => false
  | bare .. => true

structure Item where
  name : Name
  value? : Option Value

def Item.token (item : Item) : Token :=
  ⟨.ofList item.name.chars, item.value?.map fun value => .ofList value.chars⟩

/-- Whether an item ends with a value that no quote closes. -/
def Item.endsBare (item : Item) : Bool :=
  item.value?.any Value.isBare

/-- The text of an item. Only U+0020 can follow a name without joining it. -/
inductive Spelled : Item → List Char → Prop
  | name (name : Name) : Spelled ⟨name, none⟩ name.chars
  | assigned (name : Name) (value : Value) {before after : List Char} : Blanks before →
      (before = [] ∨ before.head? = some ' ') → Blanks after →
      Spelled ⟨name, some value⟩ (name.chars ++ (before ++ '=' :: (after ++ value.chars)))

/-- What may part an item from the next. -/
structure Parts (item : Item) (gap : List Char) : Prop where
  blanks : Blanks gap
  afterName : item.value? = none → gap.head? = some ' '
  afterBare : item.endsBare = true → gap ≠ []

/-- What may stand at the end of a tag: spaces, and a slash or none. -/
inductive Ending : List Char → Prop
  | spaces (count : Nat) : Ending (.replicate count ' ')
  | slash (count : Nat) : Ending (.replicate count ' ' ++ ['/'])

/-- The text of items from the first name on. -/
inductive Row : List Item → List Char → Prop
  | last {item text ending} : Spelled item text → Ending ending →
      (item.endsBare = true → ending.head? ≠ some '/') → Row [item] (text ++ ending)
  | next {item other items text gap rest} : Spelled item text → Parts item gap → Row (other :: items) rest →
      Row (item :: other :: items) (text ++ (gap ++ rest))

/-- The text of items. Without an item, blanks other than U+0020 would be one. -/
inductive Printed : List Item → List Char → Prop
  | empty {ending} : Ending ending → Printed [] ending
  | row {items lead text} : Blanks lead → Row items text → Printed items (lead ++ text)

theorem Name.isNameChar (name : Name) : ∀ c ∈ name.chars, isNameChar c = true := by
  intro c member
  have space : c ≠ ' ' := by
    rintro rfl
    exact absurd (name.solid _ member) (by decide)
  have usual := name.usual c member
  simp only [List.mem_cons, List.not_mem_nil, or_false, not_or] at usual
  simp [Occurrence.isNameChar, space, usual]

theorem Name.begins (name : Name) (rest : List Char) :
    ∃ c more, name.chars ++ rest = c :: more ∧ isBlank c = false ∧ Occurrence.isNameChar c = true := by
  obtain ⟨c, more, chars⟩ := List.exists_cons_of_ne_nil name.nonempty
  have member : c ∈ name.chars := chars ▸ List.mem_cons_self
  exact ⟨c, more ++ rest, by rw [chars, List.cons_append], name.solid c member, name.isNameChar c member⟩

/-- A run ends where a character follows that is none of it. -/
theorem run_append {p : Char → Bool} {run rest : List Char} (holds : ∀ c ∈ run, p c = true)
    (stops : ∀ c, rest.head? = some c → p c = false) :
    (run ++ rest).takeWhile p = run ∧ (run ++ rest).dropWhile p = rest := by
  have first : rest.takeWhile p = [] ∧ rest.dropWhile p = rest := by
    cases rest with
    | nil => exact ⟨rfl, rfl⟩
    | cons c more => simp [stops c rfl]
  rw [List.takeWhile_append_of_pos holds, List.dropWhile_append_of_pos holds, first.1, first.2, List.append_nil]
  exact ⟨rfl, rfl⟩

private theorem run_append_cons {p : Char → Bool} {run : List Char} {c : Char} (holds : ∀ c ∈ run, p c = true)
    (stops : p c = false) (more : List Char) :
    (run ++ c :: more).takeWhile p = run ∧ (run ++ c :: more).dropWhile p = c :: more := by
  apply run_append holds
  rintro _ ⟨⟩
  exact stops

theorem nameAt?_printed {lead rest : List Char} (name : Name) (blanks : Blanks lead)
    (stops : ∀ c, rest.head? = some c → isNameChar c = false) :
    nameAt? (lead ++ (name.chars ++ rest)) = some (lead, name.chars, rest) := by
  obtain ⟨c, more, begun, solid, -⟩ := name.begins rest
  obtain ⟨before, after⟩ := run_append_cons blanks solid more
  rw [← begun] at before after
  obtain ⟨word, left⟩ := run_append name.isNameChar stops
  simp only [nameAt?, before, after, word, left]
  split
  next empty => exact absurd empty name.nonempty
  next => rfl

/-- What must hold of the text after an item, for the item to end there. -/
structure Stops (item : Item) (rest : List Char) : Prop where
  name : item.value? = none → ∀ c, rest.head? = some c → isNameChar c = false
  unassigned : item.value? = none → (rest.dropWhile isBlank).head? ≠ some '='
  bare : item.endsBare = true → ∀ c, rest.head? = some c → isBlank c = true

theorem Value.begins (value : Value) (rest : List Char) :
    ∃ first more, value.chars ++ rest = first :: more ∧ isBlank first = false := by
  cases value with
  | quoted quote content kind =>
    refine ⟨quote, content ++ [quote] ++ rest, rfl, ?_⟩
    rcases kind with rfl | rfl <;> decide
  | bare first more solid => exact ⟨first, more ++ rest, rfl, solid first List.mem_cons_self⟩

private theorem rawAt_quoted {quote : Char} {content : List Char} (kind : quote = '"' ∨ quote = '\'')
    (free : quote ∉ content) (rest : List Char) :
    rawAt quote (content ++ quote :: rest) = (quote :: content ++ [quote], rest) := by
  have holds : ∀ c ∈ content, (c != quote) = true := by
    intro c member
    rw [bne_iff_ne]
    rintro rfl
    exact free member
  obtain ⟨inside, after⟩ := run_append_cons holds (bne_self_eq_false quote) rest
  have isQuote : (quote == '"' || quote == '\'') = true := by simpa using kind
  simp [rawAt, isQuote, quotedRaw?, inside, after]

private theorem rawAt_bare {first : Char} {more rest : List Char} (solid : ∀ c ∈ first :: more, isBlank c = false)
    (plain : first ≠ '"' ∧ first ≠ '\'') (stops : ∀ c, rest.head? = some c → isBlank c = true) :
    rawAt first (more ++ rest) = (first :: more, rest) := by
  have holds : ∀ c ∈ first :: more, (!isBlank c) = true := by
    intro c member
    simp [solid c member]
  have ends : ∀ c, rest.head? = some c → (!isBlank c) = false := by
    intro c next
    simp [stops c next]
  obtain ⟨run, left⟩ := run_append holds ends
  rw [List.cons_append] at run left
  simp [rawAt, plain, bareRaw, run, left]

theorem rawAt_printed {first : Char} {more rest : List Char} (value : Value)
    (begun : value.chars ++ rest = first :: more)
    (stops : value.isBare = true → ∀ c, rest.head? = some c → isBlank c = true) :
    rawAt first more = (value.chars, rest) := by
  cases value with
  | quoted quote content kind free =>
    simp only [Value.chars, List.cons_append, List.append_assoc, List.nil_append, List.cons.injEq] at begun
    obtain ⟨rfl, rfl⟩ := begun
    exact rawAt_quoted kind free rest
  | bare head tail solid plain =>
    obtain ⟨rfl, rfl⟩ := List.cons.inj begun
    exact rawAt_bare solid plain (stops rfl)

theorem assignmentAt?_printed {before after rest : List Char} (value : Value) (blanks : Blanks before)
    (inner : Blanks after) (stops : value.isBare = true → ∀ c, rest.head? = some c → isBlank c = true) :
    assignmentAt? (before ++ '=' :: (after ++ (value.chars ++ rest))) =
      some (⟨before ++ '=' :: after, value.chars⟩, rest) := by
  obtain ⟨first, more, begun, solid⟩ := value.begins rest
  rw [begun]
  have sign : isBlank '=' = false := by decide
  obtain ⟨link, signed⟩ := run_append_cons blanks sign (after ++ first :: more)
  obtain ⟨gap, valued⟩ := run_append_cons inner solid more
  simp only [assignmentAt?, link, signed, gap, valued, rawAt_printed value begun stops]

private theorem assignmentAt?_of_unassigned {rest : List Char}
    (unassigned : (rest.dropWhile isBlank).head? ≠ some '=') : assignmentAt? rest = none := by
  simp only [assignmentAt?]
  split
  next sign =>
    rw [sign] at unassigned
    exact absurd rfl unassigned
  next => rfl

private theorem nameAt?_of_nameless {text : List Char} (nameless : ∀ c ∈ text, isNameChar c = false) :
    nameAt? text = none := by
  have word : (text.dropWhile isBlank).takeWhile isNameChar = [] := by
    cases after : text.dropWhile isBlank with
    | nil => rfl
    | cons c more =>
      have member : c ∈ text := (List.dropWhile_suffix isBlank).mem (after ▸ List.mem_cons_self)
      simp [nameless c member]
  have uncut : splitLast? isNameChar (text.takeWhile isBlank) = none :=
    splitLast?_eq_none fun c member => nameless c ((List.takeWhile_prefix isBlank).mem member)
  simp only [nameAt?, word, uncut, Option.map_none]

theorem at?_printed {item : Item} {lead text rest : List Char} (start : Nat) (blanks : Blanks lead)
    (spelled : Spelled item text) (stops : Stops item rest) :
    ∃ occ, at? start (lead ++ (text ++ rest)) = some (occ, rest) ∧ occ.token = item.token := by
  cases spelled with
  | name name =>
    have named := nameAt?_printed name blanks (stops.name rfl)
    have unassigned := assignmentAt?_of_unassigned (stops.unassigned rfl)
    simp only [at?, named, unassigned, Option.map_some]
    exact ⟨_, rfl, rfl⟩
  | @assigned name value before after beforeBlank begins afterBlank =>
    have ends : ∀ c, (before ++ '=' :: (after ++ (value.chars ++ rest))).head? = some c → isNameChar c = false := by
      intro c next
      rw [List.head?_append] at next
      rcases begins with rfl | space
      · cases next
        decide
      · rw [space] at next
        cases next
        decide
    have named := nameAt?_printed name blanks ends
    have given := assignmentAt?_printed value beforeBlank afterBlank stops.bare
    simp only [at?, List.append_assoc, List.cons_append, named, given, Option.map_some]
    exact ⟨_, rfl, rfl⟩

private theorem remaining_of_at? {offset : Nat} {text rest : List Char} {occ : Occurrence}
    (found : at? offset text = some (occ, rest)) :
    (Cursor.mk offset text).remaining = occ :: (Cursor.mk occ.stop rest).remaining := by
  have next : (Cursor.mk offset text).next? = some (occ, ⟨occ.stop, rest⟩) := by
    cases text with
    | nil => exact absurd (at?_length_lt found) (Nat.not_lt_zero _)
    | cons c more => simp only [Cursor.next?, nextFrom?, found]
  rw [Cursor.remaining_eq, next]

/-- Where no character of a name is left, no attribute is. -/
theorem remaining_of_nameless {offset : Nat} {text : List Char} (nameless : ∀ c ∈ text, isNameChar c = false) :
    (Cursor.mk offset text).remaining = [] := by
  have next : (Cursor.mk offset text).next? = none := by
    simp only [Cursor.next?]
    induction text generalizing offset with
    | nil => rfl
    | cons c more ih =>
      have nowhere : at? offset (c :: more) = none := by
        simp only [at?, nameAt?_of_nameless nameless, Option.map_none]
      simp only [nextFrom?, nowhere]
      exact ih fun d member => nameless d (List.mem_cons_of_mem c member)
  rw [Cursor.remaining_eq, next]

theorem Ending.chars {ending : List Char} (closing : Ending ending) : ∀ c ∈ ending, c = ' ' ∨ c = '/' := by
  intro c member
  cases closing with
  | spaces count => exact .inl (List.eq_of_mem_replicate member)
  | slash count =>
    rcases List.mem_append.mp member with space | slash
    · exact .inl (List.eq_of_mem_replicate space)
    · exact .inr (List.mem_singleton.mp slash)

theorem Ending.nameless {ending : List Char} (closing : Ending ending) : ∀ c ∈ ending, isNameChar c = false := by
  intro c member
  rcases closing.chars c member with rfl | rfl <;> decide

theorem Ending.stops {item : Item} {ending : List Char} (closing : Ending ending)
    (parted : item.endsBare = true → ending.head? ≠ some '/') : Stops item ending where
  name _ c first := closing.nameless c (List.mem_of_mem_head? first)
  unassigned _ first := by
    have member := (List.dropWhile_suffix isBlank).mem (List.mem_of_mem_head? first)
    rcases closing.chars _ member with sign | sign <;> contradiction
  bare ends c first := by
    rcases closing.chars c (List.mem_of_mem_head? first) with rfl | rfl
    · decide
    · exact absurd first (parted ends)

/-- A row begins with a name. -/
theorem Row.begins {items : List Item} {text : List Char} (row : Row items text) :
    ∃ c more, text = c :: more ∧ isBlank c = false ∧ isNameChar c = true := by
  have spelled {item : Item} {text : List Char} (spelled : Spelled item text) (rest : List Char) :
      ∃ c more, text ++ rest = c :: more ∧ isBlank c = false ∧ isNameChar c = true := by
    cases spelled with
    | name name => exact name.begins rest
    | assigned name =>
      rw [List.append_assoc]
      exact name.begins _
  cases row with
  | last item => exact spelled item _
  | next item => exact spelled item _

theorem Parts.stops {item : Item} {gap rest : List Char} {items : List Item} (parts : Parts item gap)
    (row : Row items rest) : Stops item (gap ++ rest) := by
  obtain ⟨c, more, rfl, solid, named⟩ := row.begins
  obtain ⟨-, after⟩ := run_append_cons parts.blanks solid more
  constructor
  case name =>
    intro valueless d first
    rw [List.head?_append, parts.afterName valueless] at first
    cases first
    decide
  case unassigned =>
    intro _ first
    rw [after] at first
    cases first
    contradiction
  case bare =>
    intro ends d first
    obtain ⟨blank, more, rfl⟩ := List.exists_cons_of_ne_nil (parts.afterBare ends)
    cases first
    exact parts.blanks _ List.mem_cons_self

/-- By induction on the row: each item is read to its end, so that the next scan begins in the gap before the next. -/
theorem remaining_printed {items : List Item} {text lead : List Char} (row : Row items text) (blanks : Blanks lead)
    (offset : Nat) :
    (Cursor.mk offset (lead ++ text)).remaining.map (·.token) = items.map Item.token := by
  induction row generalizing lead offset with
  | last spelled closing parted =>
    obtain ⟨occ, found, token⟩ := at?_printed offset blanks spelled (closing.stops parted)
    rw [remaining_of_at? found, remaining_of_nameless closing.nameless, List.map_singleton, token]
    rfl
  | next spelled parts row ih =>
    obtain ⟨occ, found, token⟩ := at?_printed offset blanks spelled (parts.stops row)
    rw [remaining_of_at? found, List.map_cons, token, ih parts.blanks]
    rfl

/-- Scanning undoes printing, whatever the layout. -/
theorem tokenize_printed {items : List Item} {text : List Char} (printed : Printed items text) :
    tokenize (.ofList text) = items.map Item.token := by
  simp only [tokenize, scan, Cursor.ofText, String.toList_ofList]
  cases printed with
  | empty closing => rw [remaining_of_nameless closing.nameless]; rfl
  | row blanks row => exact remaining_printed row blanks 0

/-- Two attributes with a value and one without. -/
def badge : List Item :=
  [⟨⟨['i', 'd'], by simp, by simp [isBlank], by simp⟩, some (.quoted '"' ['a', ' ', 'b'] (by simp) (by simp))⟩,
    ⟨⟨['c', 'l', 'a', 's', 's'], by simp, by simp [isBlank], by simp⟩,
      some (.bare 'x' ['/', '='] (by simp [isBlank]) (by simp))⟩,
    ⟨⟨['o', 'n'], by simp, by simp [isBlank], by simp⟩, none⟩]

/-- An attribute may follow a closing quote at once. -/
theorem badge_reads_back :
    Printed badge "\tid=\"a b\"class =\nx/=\ton /".toList ∧
    tokenize "\tid=\"a b\"class =\nx/=\ton /" = [⟨"id", some "\"a b\""⟩, ⟨"class", some "x/="⟩, ⟨"on", none⟩] := by
  have noBlanks : Blanks [] := by simp [Blanks]
  have tab : Blanks ['\t'] := by simp [Blanks, isBlank]
  have space : Blanks [' '] := by simp [Blanks, isBlank]
  have newline : Blanks ['\n'] := by simp [Blanks, isBlank]
  have fromOn : Row (badge.drop 2) "on /".toList :=
    .last (.name _) (.slash 1) nofun
  have fromClass : Row (badge.drop 1) "class =\nx/=\ton /".toList :=
    .next (.assigned _ _ space (.inr rfl) newline) ⟨tab, nofun, by simp⟩ fromOn
  have printed : Printed badge "\tid=\"a b\"class =\nx/=\ton /".toList :=
    .row tab (.next (.assigned _ _ noBlanks (.inl rfl) noBlanks)
      ⟨noBlanks, nofun, by simp [Item.endsBare, Value.isBare]⟩ fromClass)
  exact ⟨printed, tokenize_printed printed⟩

end TagLint.Proofs.PrintedTags
