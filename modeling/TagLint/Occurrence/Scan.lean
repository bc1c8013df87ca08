import TagLint.Occurrence
import TagLint.Text.Blank

/-!
Finding the attributes in the text of an opening tag. No text is refused: what cannot begin an attribute is skipped,
and a quote that is never closed is an ordinary character. Every occurrence takes up at least its name, so a scan ends.
-/

namespace TagLint.Occurrence

open Text

/-- The characters of a name. White space other than U+0020 is among them. -/
def isNameChar (c : Char) : Bool :=
  !(c == ' ' || c == '"' || c == '\'' || c == '>' || c == '=' || c == '^' || c == '/')

/-- Leading blanks and name at the head of a text, with what follows them. Where no name follows the blanks, the last
of them that may stand in a name is one. -/
def nameAt? (text : List Char) : Option (List Char × List Char × List Char) :=
  let blanks := text.takeWhile isBlank
  let rest := text.dropWhile isBlank
  match rest.takeWhile isNameChar with
  | [] => (splitLast? isNameChar blanks).map fun (lead, blank, after) => (lead, [blank], after ++ rest)
  | name => some (blanks, name, rest.dropWhile isNameChar)

/-- A value in the given quotes, whose opening quote has been read. -/
def quotedRaw? (quote : Char) (text : List Char) : Option (List Char × List Char) :=
  match text.dropWhile (· != quote) with
  | [] => none
  | _ :: rest => some (quote :: text.takeWhile (· != quote) ++ [quote], rest)

def bareRaw (text : List Char) : List Char × List Char :=
  (text.takeWhile (!isBlank ·), text.dropWhile (!isBlank ·))

/-- The value that begins with the character `first`: up to the closing quote where it opens one that is closed. -/
def rawAt (first : Char) (text : List Char) : List Char × List Char :=
  if first == '"' || first == '\'' then (quotedRaw? first text).getD (bareRaw (first :: text))
  else bareRaw (first :: text)

def assignmentAt? (text : List Char) : Option (Assignment × List Char) :=
  match text.dropWhile isBlank with
  | '=' :: rest =>
    match rest.dropWhile isBlank with
    | [] => none
    | first :: more =>
      let (raw, after) := rawAt first more
      some (⟨text.takeWhile isBlank ++ '=' :: rest.takeWhile isBlank, raw⟩, after)
  | _ => none

/-- The occurrence that begins at the head of a text, which stands at offset `start`. -/
@[irreducible] def at? (start : Nat) (text : List Char) : Option (Occurrence × List Char) :=
  (nameAt? text).map fun (lead, name, rest) =>
    match assignmentAt? rest with
    | some (assignment, after) => (⟨start, lead, name, some assignment⟩, after)
    | none => (⟨start, lead, name, none⟩, rest)

theorem nameAt?_append {text lead name rest : List Char} (found : nameAt? text = some (lead, name, rest)) :
    text = lead ++ name ++ rest ∧ name ≠ [] := by
  simp only [nameAt?] at found
  split at found
  · simp only [Option.map_eq_some_iff, Prod.mk.injEq, Prod.exists] at found
    obtain ⟨_, blank, after, cut, rfl, rfl, rfl⟩ := found
    have blanks := (eq_of_splitLast? cut).1
    refine ⟨?_, by simp⟩
    conv => lhs; rw [← List.takeWhile_append_dropWhile (p := isBlank) (l := text), blanks]
    simp
  · rename_i written nonempty
    simp only [Option.some.injEq, Prod.mk.injEq] at found
    obtain ⟨rfl, rfl, rfl⟩ := found
    refine ⟨?_, nonempty⟩
    rw [List.append_assoc, List.takeWhile_append_dropWhile, List.takeWhile_append_dropWhile]

theorem rawAt_append (first : Char) (text : List Char) :
    first :: text = (rawAt first text).1 ++ (rawAt first text).2 := by
  have bare : first :: text = (bareRaw (first :: text)).1 ++ (bareRaw (first :: text)).2 := by
    simp [bareRaw, List.takeWhile_append_dropWhile]
  simp only [rawAt]
  split
  · cases found : quotedRaw? first text with
    | none => exact bare
    | some split =>
      simp only [quotedRaw?] at found
      split at found
      · simp at found
      · rename_i closing rest tail
        have : closing = first := by
          have := List.head?_dropWhile_not (· != first) text
          simp_all
        simp only [Option.some.injEq] at found
        subst found this
        simp only [Option.getD_some, List.cons_append, List.append_assoc, List.nil_append]
        rw [← tail, List.takeWhile_append_dropWhile]
  · exact bare

theorem assignmentAt?_append {text after : List Char} {assignment : Assignment}
    (found : assignmentAt? text = some (assignment, after)) :
    text = assignment.link ++ assignment.raw ++ after := by
  simp only [assignmentAt?] at found
  split at found
  · rename_i rest sign
    split at found
    · simp at found
    · rename_i first more begun
      simp only [Option.some.injEq, Prod.mk.injEq] at found
      obtain ⟨rfl, rfl⟩ := found
      simp only [List.append_assoc, List.cons_append]
      rw [← rawAt_append, ← begun, List.takeWhile_append_dropWhile, ← sign, List.takeWhile_append_dropWhile]
  · simp at found

theorem at?_append {start : Nat} {text rest : List Char} {occ : Occurrence}
    (found : at? start text = some (occ, rest)) : text = occ.text ++ rest ∧ occ.name ≠ [] := by
  simp only [at?, Option.map_eq_some_iff, Prod.exists] at found
  obtain ⟨lead, name, after, named, found⟩ := found
  obtain ⟨rfl, nonempty⟩ := nameAt?_append named
  split at found <;> simp only [Prod.mk.injEq] at found <;> obtain ⟨rfl, rfl⟩ := found
  · rename_i assigned
    refine ⟨?_, nonempty⟩
    rw [assignmentAt?_append assigned]
    simp [Occurrence.text, written?]
  · exact ⟨by simp [Occurrence.text, written?], nonempty⟩

theorem at?_length_lt {start : Nat} {text rest : List Char} {occ : Occurrence}
    (found : at? start text = some (occ, rest)) : rest.length < text.length := by
  obtain ⟨rfl, nonempty⟩ := at?_append found
  have := List.length_pos_iff.mpr nonempty
  simp only [Occurrence.text, List.length_append]
  omega

/-- A place in a text that is being scanned. Scans share nothing, so any number of them may be under way. -/
structure Cursor where
  offset : Nat
  rest : List Char

/-- The next occurrence and the place after it; what cannot begin one is skipped. -/
def nextFrom? (offset : Nat) : List Char → Option (Occurrence × Cursor)
  | [] => none
  | c :: cs =>
    match at? offset (c :: cs) with
    | some (occ, rest) => some (occ, ⟨occ.stop, rest⟩)
    | none => nextFrom? (offset + 1) cs

theorem nextFrom?_length_lt {offset : Nat} {text : List Char} {occ : Occurrence} {cursor : Cursor}
    (found : nextFrom? offset text = some (occ, cursor)) : cursor.rest.length < text.length := by
  fun_induction nextFrom? offset text with
  | case1 => simp at found
  | case2 _ _ _ _ _ here =>
    simp only [Option.some.injEq, Prod.mk.injEq] at found
    obtain ⟨rfl, rfl⟩ := found
    exact at?_length_lt here
  | case3 _ _ _ _ ih => exact Nat.lt_succ_of_lt (ih found)

namespace Cursor

def ofText (text : List Char) : Cursor :=
  ⟨0, text⟩

def next? (cursor : Cursor) : Option (Occurrence × Cursor) :=
  nextFrom? cursor.offset cursor.rest

def remaining (cursor : Cursor) : List Occurrence :=
  match found : cursor.next? with
  | none => []
  | some (occ, after) =>
    have : after.rest.length < cursor.rest.length := nextFrom?_length_lt found
    occ :: after.remaining
termination_by cursor.rest.length

theorem remaining_eq (cursor : Cursor) :
    cursor.remaining = match cursor.next? with
      | none => []
      | some (occ, after) => occ :: after.remaining := by
  rw [remaining]
  split <;> simp [*]

end Cursor

def scan (text : List Char) : List Occurrence :=
  (Cursor.ofText text).remaining

end TagLint.Occurrence

namespace TagLint

/-- The attributes of a tag's text as written, repeated names included. -/
def tokenize (text : String) : List Token :=
  (Occurrence.scan text.toList).map (·.token)

end TagLint
