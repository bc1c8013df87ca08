import TagLint.Occurrence.Pattern
import TagLint.Proofs.ScanForm

/-! The scanner against the grammar of attributes, read by trying its alternatives in order. Blanks are the characters in
doubt: most of them may stand in a name too, and only the order of the alternatives tells which they are. -/

namespace TagLint.Proofs.OrderedChoice
open Text Occurrence Pattern ScanForm

attribute [local simp] readings

def reading (occ : Occurrence) (rest : List Char) : Reading :=
  ⟨occ.text, occ.pieces, rest⟩

def longest (p : Char → Bool) (text : List Char) : Reading :=
  { matched := text.takeWhile p, rest := text.dropWhile p }

private theorem head?_runs (p : Char → Bool) (text : List Char) : (runs p text).head? = some (longest p text) := by
  induction text with
  | nil => rfl
  | cons c cs ih =>
    rw [runs, List.head?_append]
    by_cases member : p c = true
    · simp [member, ih, longest]
    · simp [member, longest]

/-- A repetition gives nothing back to what cannot begin with a character of its class. -/
theorem findSome?_runs {p : Char → Bool} {next : Reading → Option α} (text : List Char)
    (fails : ∀ reading c cs, reading.rest = c :: cs → p c = true → next reading = none) :
    (runs p text).findSome? next = next (longest p text) := by
  induction text generalizing next with
  | nil => simp [runs, longest]
  | cons c cs ih =>
    rw [runs]
    by_cases member : p c = true
    · have shorter : next { rest := c :: cs } = none := fails _ c cs rfl member
      have longer := @ih (fun run => next { run with matched := c :: run.matched })
        (fun reading d ds rest holds => fails _ d ds rest holds)
      simp only [member, if_true, List.findSome?_append, List.findSome?_map, List.findSome?_singleton, shorter,
        Option.or_none]
      exact longer.trans (by simp [longest, member])
    · simp [member, longest]

private theorem flatMap_runs {p : Char → Bool} {next : Reading → List α} (text : List Char)
    (fails : ∀ reading c cs, reading.rest = c :: cs → p c = true → next reading = []) :
    (runs p text).flatMap next = next (longest p text) := by
  induction text generalizing next with
  | nil => simp [runs, longest]
  | cons c cs ih =>
    rw [runs]
    by_cases member : p c = true
    · have shorter : next { rest := c :: cs } = [] := fails _ c cs rfl member
      have longer := @ih (fun run => next { run with matched := c :: run.matched })
        (fun reading d ds rest holds => fails _ d ds rest holds)
      simp only [member, if_true, List.flatMap_append, List.flatMap_map, List.flatMap_singleton, shorter, List.append_nil]
      exact longer.trans (by simp [longest, member])
    · simp [member, longest]

private theorem head?_seq (first second : Pattern) (text : List Char) :
    ((seq first second).readings text).head? =
      (first.readings text).findSome? fun reading => (second.readings reading.rest).head?.map reading.append := by
  simp [List.head?_flatMap]

private theorem readings_oneOrMore_of_not {p : Char → Bool} {c : Char} (cs : List Char) (other : p c = false) :
    (oneOrMore p).readings (c :: cs) = [] := by
  simp [oneOrMore, other]

private theorem head?_oneOrMore {p : Char → Bool} {c : Char} (cs : List Char) (member : p c = true) :
    ((oneOrMore p).readings (c :: cs)).head? = some (longest p (c :: cs)) := by
  rw [oneOrMore, head?_seq]
  simp [member, head?_runs, Reading.append, longest]

private theorem readings_seq_many {p : Char → Bool} {second : Pattern} (text : List Char)
    (fails : ∀ c cs, p c = true → second.readings (c :: cs) = []) :
    (seq (many p) second).readings text = (second.readings (text.dropWhile p)).map (longest p text).append := by
  rw [readings, readings, flatMap_runs]
  · rfl
  · intro reading c cs rest member
    rw [rest, fails c cs member, List.map_nil]

private theorem readings_enclosed (quote first : Char) (more : List Char) :
    (enclosed quote).readings (first :: more) =
      if first == quote then ((quotedRaw? quote more).map fun (raw, rest) => ({ matched := raw, rest } : Reading)).toList
      else [] := by
  have opening : (one (· == quote)).readings (first :: more) =
      if first == quote then [{ matched := [first], rest := more }] else [] := by
    rw [readings]
  rw [enclosed, readings, opening]
  split
  next same =>
    rw [List.flatMap_singleton, readings_seq_many more (fun c cs other => by simp_all), quotedRaw?]
    cases rest : more.dropWhile (· != quote) with
    | nil => simp
    | cons c cs =>
      have closing : c = quote := by
        have := List.head?_dropWhile_not (· != quote) more
        simpa [rest] using this
      simp_all [Reading.append, longest]
  next => rfl

def value : Pattern :=
  orElse (enclosed '"') (orElse (enclosed '\'') (oneOrMore (!isBlank ·)))

private theorem readings_value_of_isBlank {c : Char} (cs : List Char) (blank : isBlank c = true) :
    value.readings (c :: cs) = [] := by
  have quote : ∀ quote, (quote = '"' ∨ quote = '\'') → (c == quote) = false := by
    rintro quote (rfl | rfl) <;>
      · rw [beq_eq_false_iff_ne]
        rintro rfl
        simp [isBlank] at blank
  simp [value, readings_enclosed, quote, readings_oneOrMore_of_not, blank]

theorem head?_value {first : Char} (more : List Char) (solid : isBlank first = false) :
    (value.readings (first :: more)).head? =
      some { matched := (rawAt first more).1, rest := (rawAt first more).2 } := by
  have bare : ((oneOrMore (!isBlank ·)).readings (first :: more)).head? =
      some { matched := (bareRaw (first :: more)).1, rest := (bareRaw (first :: more)).2 } :=
    head?_oneOrMore more (by simp [solid])
  simp only [value, readings, List.head?_append, bare, readings_enclosed]
  by_cases double : first = '"'
  · subst double
    cases found : quotedRaw? '"' more <;> simp [rawAt, found]
  · by_cases single : first = '\''
    · subst single
      cases found : quotedRaw? '\'' more <;> simp [rawAt, found]
    · simp [rawAt, double, single]

/-- The blanks around an equals sign; only those after it could be given back. -/
theorem readings_link (text : List Char) :
    (seq (many isBlank) (seq (one (· == '=')) (many isBlank))).readings text =
      match text.dropWhile isBlank with
      | '=' :: rest => (runs isBlank rest).map fun blanks =>
          (longest isBlank text).append (Reading.append { matched := ['='], rest } blanks)
      | _ => [] := by
  rw [readings_seq_many text]
  · split
    next rest sign => simp [sign]
    next other =>
      cases rest : text.dropWhile isBlank with
      | nil => simp
      | cons c cs =>
        have : c ≠ '=' := fun same => other cs (same ▸ rest)
        simp [this]
  · intro c cs blank
    have : c ≠ '=' := by
      rintro rfl
      simp [isBlank] at blank
    simp [this]

theorem head?_assignment (text : List Char) :
    (Pattern.assignment.readings text).head? = (assignmentAt? text).map fun (a, rest) =>
      { matched := a.link ++ a.raw, pieces := [(.link, a.link), (.raw, a.raw)], rest } := by
  have shape : Pattern.assignment =
      seq (piece .link (seq (many isBlank) (seq (one (· == '=')) (many isBlank)))) (piece .raw value) := rfl
  rw [shape, head?_seq, readings, readings_link]
  split
  next rest sign =>
    rw [List.map_map, List.findSome?_map, findSome?_runs]
    · simp only [Function.comp, longest, Reading.append, assignmentAt?, sign]
      cases begun : rest.dropWhile isBlank with
      | nil => simp [value, enclosed, oneOrMore]
      | cons first more =>
        have solid : isBlank first = false := by
          have := List.head?_dropWhile_not isBlank rest
          simpa [begun] using this
        rw [readings, List.head?_map, head?_value more solid]
        simp [Reading.append]
    · intro reading c cs left blank
      simp [Reading.append, left, readings_value_of_isBlank cs blank]
  next other =>
    have absent : assignmentAt? text = none := by
      rw [assignmentAt?]
      split
      next rest sign => exact absurd sign (other rest)
      next => rfl
    rw [absent]
    rfl

def body : Pattern :=
  seq (piece .name (oneOrMore isNameChar)) (orElse (piece .written Pattern.assignment) nothing)

/-- What is preferred after a name: its assignment, if there is one. -/
def afterName (text : List Char) : Reading :=
  match assignmentAt? text with
  | some (a, rest) =>
    { matched := a.link ++ a.raw, pieces := [(.link, a.link), (.raw, a.raw), (.written, a.link ++ a.raw)], rest }
  | none => { rest := text }

theorem head?_afterName (text : List Char) :
    ((orElse (piece .written Pattern.assignment) nothing).readings text).head? = some (afterName text) := by
  rw [readings, readings, readings, List.head?_append, List.head?_map, head?_assignment, afterName]
  cases assignmentAt? text <;> simp

private theorem readings_body_of_not {c : Char} (cs : List Char) (other : isNameChar c = false) :
    body.readings (c :: cs) = [] := by
  simp [body, readings_oneOrMore_of_not cs other]

private theorem findSome?_of_head? {items : List α} {next : α → Option β} {first : α} {found : β}
    (head : items.head? = some first) (here : next first = some found) : items.findSome? next = some found := by
  cases items with
  | nil => contradiction
  | cons item items =>
    obtain rfl := Option.some.inj head
    simp [here]

theorem head?_body {c : Char} (cs : List Char) (member : isNameChar c = true) :
    (body.readings (c :: cs)).head? =
      let run := longest isNameChar (c :: cs)
      some (Reading.append { run with pieces := [(.name, run.matched)] } (afterName run.rest)) := by
  rw [body, head?_seq, readings]
  refine findSome?_of_head? (by rw [List.head?_map, head?_oneOrMore cs member]; rfl) ?_
  rw [head?_afterName]
  rfl

private theorem nameAt?_cons_of_not {c : Char} (cs : List Char) (solid : isBlank c = false) :
    nameAt? (c :: cs) = if isNameChar c then some ([], (c :: cs).takeWhile isNameChar, (c :: cs).dropWhile isNameChar)
      else none := by
  by_cases member : isNameChar c = true <;> simp [nameAt?, solid, member, splitLast?]

/-- Where no name is found after a blank, the blank itself may be one. -/
theorem nameAt?_cons_of_isBlank {c : Char} (cs : List Char) (blank : isBlank c = true) :
    nameAt? (c :: cs) = match nameAt? cs with
      | some (lead, name, rest) => some (c :: lead, name, rest)
      | none => if isNameChar c then some ([], [c], cs) else none := by
  simp only [nameAt?, List.takeWhile_cons_of_pos blank, List.dropWhile_cons_of_pos blank]
  split
  next =>
    rw [splitLast?]
    cases splitLast? isNameChar (cs.takeWhile isBlank) with
    | none => by_cases member : isNameChar c = true <;> simp [member]
    | some found => rfl
  next => rfl

theorem takeWhile_of_nameAt?_none {text : List Char} (absent : nameAt? text = none) :
    text.takeWhile isNameChar = [] ∧ text.dropWhile isNameChar = text := by
  cases text with
  | nil => simp
  | cons c cs =>
    suffices other : isNameChar c = false by simp [other]
    cases member : isNameChar c with
    | false => rfl
    | true =>
      cases blank : isBlank c with
      | false => simp [nameAt?_cons_of_not cs blank, member] at absent
      | true =>
        rw [nameAt?_cons_of_isBlank cs blank] at absent
        split at absent <;> simp [member] at absent

/-- Backtracking over the leading blanks, with some of them read already: blanks are given back only where no name
follows them, and then up to the last that can be a name. -/
private theorem findSome?_lead (before text : List Char) :
    ((runs isBlank text).findSome? fun run => (body.readings run.rest).head?.map
      (Reading.append { run with
        matched := before ++ run.matched, pieces := run.pieces ++ [(.lead, before ++ run.matched)] })) =
      (nameAt? text).map fun (lead, name, rest) =>
        Reading.append { matched := before ++ lead, pieces := [(.lead, before ++ lead)], rest }
          (Reading.append { matched := name, pieces := [(.name, name)], rest } (afterName rest)) := by
  induction text generalizing before with
  | nil => simp [runs, nameAt?, splitLast?, body, oneOrMore]
  | cons c cs ih =>
    have here : (body.readings (c :: cs)).head? = if isNameChar c then
        some (Reading.append { longest isNameChar (c :: cs) with
          pieces := [(.name, (longest isNameChar (c :: cs)).matched)] } (afterName ((c :: cs).dropWhile isNameChar)))
        else none := by
      split
      next member => exact head?_body cs member
      next other => rw [readings_body_of_not cs (by simpa using other)]; rfl
    rw [runs, List.findSome?_append]
    cases blank : isBlank c with
    | false =>
      rw [nameAt?_cons_of_not cs blank]
      simp only [Bool.false_eq_true, if_false, List.findSome?_nil, Option.none_or, List.findSome?_singleton, here]
      split <;> simp [Reading.append, longest]
    | true =>
      have shorter := ih (before ++ [c])
      simp only [List.append_assoc, List.cons_append, List.nil_append] at shorter
      rw [nameAt?_cons_of_isBlank cs blank]
      simp only [if_true, List.findSome?_map, Function.comp_def, shorter, List.findSome?_singleton, here]
      cases found : nameAt? cs with
      | some _ => rfl
      | none =>
        obtain ⟨empty, all⟩ := takeWhile_of_nameAt?_none found
        by_cases member : isNameChar c = true <;> simp [member, Reading.append, longest, empty, all]

theorem head?_attr (start : Nat) (text : List Char) :
    (attr.readings text).head? = (at? start text).map fun (occ, rest) => reading occ rest := by
  have lead := findSome?_lead [] text
  have shape : attr = seq (piece .lead (many isBlank)) body := rfl
  simp only [List.nil_append] at lead
  rw [shape, head?_seq, readings, readings, List.findSome?_map]
  refine Eq.trans ?_ (lead.trans ?_)
  · rfl
  · simp only [at?, Option.map_map, Function.comp_def, afterName]
    congr 1
    funext ⟨lead, name, rest⟩
    cases assignmentAt? rest <;> simp [reading, Reading.append, Occurrence.text, written?, pieces]

private theorem scanFrom_nextFrom? (offset : Nat) (text : List Char) :
    attr.scanFrom offset text = match nextFrom? offset text with
      | none => []
      | some (occ, cursor) => (occ.start, reading occ cursor.rest) :: attr.scanFrom cursor.offset cursor.rest := by
  fun_induction nextFrom? offset text with
  | case1 => rw [scanFrom]
  | case2 offset c cs occ rest here =>
    obtain ⟨covered, named⟩ := at?_append here
    rw [scanFrom, head?_attr offset, here, Option.map_some]
    cases text : occ.text with
    | nil => simp_all [Occurrence.text]
    | cons d more =>
      have tail : cs = more ++ rest := by
        rw [text] at covered
        exact (List.cons.inj covered).2
      have stop : offset + 1 + more.length = occ.stop := by
        rw [Occurrence.stop, text, start_of_found here, List.length_cons]
        omega
      simp only [reading, text]
      rw [tail, List.drop_left, stop, start_of_found here]
  | case3 offset c cs absent ih =>
    rw [scanFrom, head?_attr offset, absent, Option.map_none]
    exact ih

theorem scanFrom_attr {text : List Char} (cursor : Cursor) (stands : cursor.rest = text.drop cursor.offset) :
    attr.scanFrom cursor.offset cursor.rest =
      cursor.remaining.map fun occ => (occ.start, reading occ (text.drop occ.stop)) := by
  have first := nextFrom?_leftmost stands
  rw [scanFrom_nextFrom?]
  fun_induction Cursor.remaining cursor with
  | case1 cursor ended =>
    rw [Cursor.next?] at ended
    rw [ended]
    rfl
  | case2 cursor occ after found _ ih =>
    rw [Cursor.next?] at found
    rw [found] at first ⊢
    obtain ⟨-, -, -, rfl⟩ := first
    simp only [List.map_cons, List.cons.injEq, true_and]
    rw [scanFrom_nextFrom?]
    exact ih rfl (nextFrom?_leftmost rfl)

private theorem reading_injective {occ other : Occurrence} {rest left : List Char} (same : occ.start = other.start)
    (equal : reading occ rest = reading other left) : occ = other := by
  obtain ⟨start, lead, name, assignment⟩ := occ
  obtain ⟨start', lead', name', assignment'⟩ := other
  simp only [reading, Reading.mk.injEq] at equal
  cases assignment <;> cases assignment' <;> simp_all [pieces]
  rename_i first second
  cases first
  cases second
  simp_all

/-- At every place of every text the grammar prefers what the closed form describes, and an attribute can begin where a
name has a span. Scanning by the grammar gives what the scanner finds, and this is the one leftmost sequence. -/
theorem scan_reads_grammar (text : List Char) :
    (∀ occ, (attr.readings (text.drop occ.start)).head? = some (reading occ (text.drop occ.stop)) ↔ Written text occ) ∧
    (∀ start, attr.readings (text.drop start) ≠ [] ↔ ∃ name stop, NameSpan text start name stop) ∧
    attr.scanFrom 0 text = (scan text).map (fun occ => (occ.start, reading occ (text.drop occ.stop))) ∧
    ∀ occs, scan text = occs ↔ Leftmost text 0 occs := by
  have scanned : Leftmost text 0 (scan text) := leftmost_remaining (Cursor.ofText text) rfl
  refine ⟨?_, ?_, scanFrom_attr (Cursor.ofText text) rfl, ?_⟩
  · intro occ
    rw [head?_attr occ.start]
    constructor
    · intro read
      obtain ⟨⟨other, rest⟩, found, equal⟩ := Option.map_eq_some_iff.mp read
      obtain ⟨written, same⟩ := Written.of_found found
      exact reading_injective same equal ▸ written
    · intro written
      rw [written.found, Option.map_some]
  · intro start
    rw [ne_eq, ← List.head?_eq_none_iff, head?_attr start, Option.map_eq_none_iff]
    constructor
    · intro present
      obtain ⟨⟨occ, rest⟩, found⟩ := Option.ne_none_iff_exists'.mp present
      obtain ⟨written, rfl⟩ := Written.of_found found
      exact written.begins
    · rintro ⟨name, stop, span⟩ absent
      exact absent_of_at?_none absent name stop span
  · intro occs
    exact ⟨fun same => same ▸ scanned, fun other => scanned.unique other⟩

end TagLint.Proofs.OrderedChoice
