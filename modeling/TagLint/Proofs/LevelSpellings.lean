import Mathlib.Data.List.Forall2
import TagLint.Proofs.ClassLists
import TagLint.Proofs.LetterCase
import TagLint.Settings

/-! Texts that are taken for the name of a level. A capital letter of ASCII is the upper case of its small letter, of the
dotless i or of the long s, and of nothing else. Where a character has several letters for its upper case, they do not stand
next to each other in any of the names, so a text that is taken spells a name letter by letter. -/

namespace TagLint.Proofs.LevelSpellings
open Text LetterCase

/-- The characters that a letter of a name may be written as. -/
inductive Spells : Char → Char → Prop
  | capital (letter : Char) : Spells letter letter
  | small (letter : Char) : Spells letter letter.toLower
  | dotless : Spells 'I' 'ı'

/-- A text that holds the name of a level between any blanks. -/
def HoldsName (level : LogLevel) (text : String) : Prop :=
  ∃ before word after, text.toList = before ++ (word ++ after) ∧ (∀ c ∈ before, isBlank c = true) ∧
    List.Forall₂ Spells level.name.toList word ∧ ∀ c ∈ after, isBlank c = true

/-- The form in which a text is looked up among the names. -/
def normalized (text : String) : String :=
  .ofList (upper (trim text.toList))

def IsCapital (letter : Char) : Prop :=
  65 ≤ letter.toNat ∧ letter.toNat ≤ 90

/-- Names of which every spelling has one character for each letter. -/
structure Plain (name : List Char) : Prop where
  capitals : ∀ letter ∈ name, IsCapital letter
  /-- The long s is another small form of this letter. -/
  noS : 'S' ∉ name
  unjoined : ∀ entry ∈ upperExpansions, ¬ entry.2.map Char.ofNat <:+: name

/-- Where the upper case of a character comes from. -/
inductive Raised (c : Char) : List Char → Prop
  | expanded {codes : List Nat} : (c.toNat, codes) ∈ upperExpansions → Raised c (codes.map Char.ofNat)
  | moved {run : CodeRun} : run ∈ upperRuns → run.holds c.toNat = true → Raised c [run.move c.toNat]
  | unchanged : Raised c [c]

section UpperCase

variable {c letter : Char} {name text : List Char}

private theorem toNat_toLower (capital : IsCapital letter) : letter.toLower.toNat = letter.toNat + 32 :=
  forall_capital (P := fun letter => letter.toLower.toNat = letter.toNat + 32) (by decide) capital

private theorem upperChar_of_spells (capital : IsCapital letter) (spells : Spells letter c) :
    upperChar c = [letter] := by
  cases spells with
  | capital => exact forall_capital (P := fun letter => upperChar letter = [letter]) (by decide +kernel) capital
  | small => exact forall_capital (P := fun letter => upperChar letter.toLower = [letter]) (by decide +kernel) capital
  | dotless => decide +kernel

private theorem solid_of_spells (capital : IsCapital letter) (spells : Spells letter c) : isBlank c = false := by
  cases spells with
  | capital => exact forall_capital (P := fun letter => isBlank letter = false) (by decide) capital
  | small => exact forall_capital (P := fun letter => isBlank letter.toLower = false) (by decide) capital
  | dotless => rfl

theorem raised (c : Char) : Raised c (upperChar c) := by
  rw [upperChar]
  split
  next codes found =>
    obtain ⟨before, after, table, -⟩ := List.lookup_eq_some_iff.mp found
    exact .expanded (table ▸ List.mem_append_cons_self)
  next =>
    split
    next run found =>
      obtain ⟨member, holds⟩ := mem_of_findRun? found
      exact .moved member holds
    next => exact .unchanged

/-- All other runs lead beyond the capital letters of ASCII. -/
theorem runs_to_capitals : ∀ run ∈ upperRuns, run.first + run.shift ≤ 90 →
    (run.first, run.last, run.shift) ∈ [(97, 122, -32), (0x131, 0x131, -232), (0x17F, 0x17F, -300)] := by
  decide +kernel

/-- A number that is no code point gives the null character. -/
theorem toNat_ofNat_of_ne_zero {code : Nat} (nonzero : (Char.ofNat code).toNat ≠ 0) :
    (Char.ofNat code).toNat = code := by
  by_cases valid : code.isValidChar
  · rw [Char.ofNat, dif_pos valid]
    rfl
  · rw [Char.ofNat, dif_neg valid] at nonzero
    exact absurd rfl nonzero

private theorem toNat_move {run : CodeRun} {code : Nat} (capital : IsCapital (run.move code)) :
    (code : Int) + run.shift = (run.move code).toNat := by
  have least : 65 ≤ (run.move code).toNat := capital.1
  have moved : (run.move code).toNat = (code + run.shift).toNat :=
    toNat_ofNat_of_ne_zero (by rw [CodeRun.move] at least; omega)
  omega

private theorem spells_of_moved {run : CodeRun} (member : run ∈ upperRuns) (holds : run.holds c.toNat = true)
    (capital : IsCapital (run.move c.toNat)) (noS : run.move c.toNat ≠ 'S') : Spells (run.move c.toNat) c := by
  have moved := toNat_move capital
  generalize run.move c.toNat = letter at capital noS moved ⊢
  simp only [CodeRun.holds, Bool.and_eq_true, decide_eq_true_eq] at holds
  obtain ⟨⟨first, last⟩, -⟩ := holds
  have upTo : run.first + run.shift ≤ 90 := by have := capital.2; omega
  have either := runs_to_capitals run member upTo
  simp only [List.mem_cons, List.not_mem_nil, or_false, Prod.mk.injEq] at either
  rcases either with ⟨-, -, small⟩ | ⟨only, still, dotless⟩ | ⟨only, still, long⟩
  · have lower : c = letter.toLower := by
      rw [← Char.toNat_inj, toNat_toLower capital]
      omega
    exact lower ▸ .small letter
  · obtain rfl : c = 'ı' := Char.toNat_inj.mp (show c.toNat = 0x131 by omega)
    obtain rfl : letter = 'I' := Char.toNat_inj.mp (show letter.toNat = 73 by omega)
    exact .dotless
  · exact absurd (Char.toNat_inj.mp (show letter.toNat = 83 by omega)) noS

theorem Plain.tail (plain : Plain (letter :: name)) : Plain name :=
  ⟨fun other member => plain.capitals other (List.mem_cons_of_mem _ member), mt (List.mem_cons_of_mem _) plain.noS,
    fun entry member joined => plain.unjoined entry member (joined.trans (List.suffix_cons _ _).isInfix)⟩

/-- A text has a plain name for its upper case just where it spells that name letter by letter. -/
theorem upper_eq_iff (plain : Plain name) : upper text = name ↔ List.Forall₂ Spells name text := by
  constructor
  · intro same
    induction text generalizing name with
    | nil => exact same ▸ .nil
    | cons c rest ih =>
      have source := raised c
      rw [upper, List.flatMap_cons, ← upper] at same
      generalize upperChar c = raising at source same
      subst same
      -- what the first character is raised to begins the name, and what is left of a plain name is plain
      cases source with
      | expanded entry => exact absurd (List.prefix_append _ _).isInfix (plain.unjoined _ entry)
      | moved member holds =>
        have capital := plain.capitals _ List.mem_cons_self
        have noS : _ ≠ 'S' := fun long => plain.noS (long ▸ List.mem_cons_self)
        exact .cons (spells_of_moved member holds capital noS) (ih plain.tail rfl)
      | unchanged => exact .cons (.capital c) (ih plain.tail rfl)
  · intro spelled
    induction spelled with
    | nil => rfl
    | cons spells _ ih =>
      rw [upper, List.flatMap_cons, ← upper, ih plain.tail, upperChar_of_spells (plain.capitals _ List.mem_cons_self) spells]
      rfl

end UpperCase

section Names

variable {level : LogLevel} {text : String}

private theorem plain_name (level : LogLevel) : Plain level.name.toList := by
  cases level <;> exact ⟨by simp [LogLevel.name, IsCapital], by decide, by decide +kernel⟩

private theorem solid_of_spelled {name word : List Char} (capitals : ∀ letter ∈ name, IsCapital letter)
    (spelled : List.Forall₂ Spells name word) : ∀ c ∈ word, isBlank c = false := by
  induction spelled with
  | nil => simp
  | cons spells _ ih =>
    obtain ⟨capital, capitals⟩ := List.forall_mem_cons.mp capitals
    exact List.forall_mem_cons.mpr ⟨solid_of_spells capital spells, ih capitals⟩

theorem normalized_eq_iff (level : LogLevel) (text : String) : normalized text = level.name ↔ HoldsName level text := by
  have plain := plain_name level
  rw [normalized, ← String.toList_inj, String.toList_ofList]
  constructor
  · intro same
    obtain ⟨before, after, whole, blankBefore, blankAfter⟩ := Words.trim_between text.toList
    rw [List.append_assoc] at whole
    exact ⟨before, _, after, whole, blankBefore, (upper_eq_iff plain).mp same, blankAfter⟩
  · rintro ⟨before, word, after, whole, blankBefore, spelled, blankAfter⟩
    have solid := solid_of_spelled plain.capitals spelled
    have nonempty : word ≠ [] := by
      rintro rfl
      cases level <;> cases spelled
    have trimmed := ClassLists.Spaced.trim blankBefore (.last ⟨word, nonempty, solid⟩) blankAfter
    rw [whole, trimmed]
    exact (upper_eq_iff plain).mpr spelled

theorem ofName?_eq_some_iff {name : String} : LogLevel.ofName? name = some level ↔ level.name = name := by
  constructor
  · intro found
    simpa using List.find?_some found
  · rintro rfl
    cases level <;> rfl

theorem ofText?_eq_some_iff : LogLevel.ofText? text = some level ↔ HoldsName level text := by
  rw [LogLevel.ofText?, ofName?_eq_some_iff, ← normalized_eq_iff, normalized, eq_comm]

theorem holdsName_name (level : LogLevel) : HoldsName level level.name :=
  ⟨[], level.name.toList, [], by simp, by simp, List.forall₂_same.mpr fun letter _ => .capital letter, by simp⟩

end Names

section Reading

open Settings

variable {arguments : List (String × Datum)} {environment : List (String × String)} {level : LogLevel} {text : String}
  {outcome : Except (List Fault) Settings}

theorem readLevel_eq_ok_iff : readLevel (.text text) = .ok level ↔ HoldsName level text := by
  rw [← ofText?_eq_some_iff, readLevel]
  cases LogLevel.ofText? text <;> simp

theorem readLevel_eq_error_iff {problem : Problem} :
    readLevel (.text text) = .error problem ↔ problem = .unknownLevel text ∧ ¬ ∃ level, HoldsName level text := by
  simp only [← ofText?_eq_some_iff, readLevel]
  cases LogLevel.ofText? text <;> simp [eq_comm]

/-- What comes of reading settings where a text is given for the level, by an argument, a variable or a file. The verdict
on the text stands, whatever is read of the other fields. -/
structure Reads (text : String) (outcome : Except (List Fault) Settings) : Prop where
  stored : ∀ level, readLevel (.text text) = .ok level → ∀ settings, outcome = .ok settings → settings.logLevel = level
  faultless : ∀ level, readLevel (.text text) = .ok level →
    ∀ faults, outcome = .error faults → ∀ fault ∈ faults, fault.field ≠ .logLevel
  refused : ∀ problem, readLevel (.text text) = .error problem →
    ∃ faults, outcome = .error faults ∧ ⟨.logLevel, problem⟩ ∈ faults

/-- The level that is given is taken, whatever becomes of the other fields. -/
def Accepts (outcome : Except (List Fault) Settings) : Prop :=
  ∀ faults, outcome = .error faults → ∀ fault ∈ faults, fault.field ≠ .logLevel

/-- What becomes of a text that is given for the level. -/
structure Decided (text : String) (outcome : Except (List Fault) Settings) : Prop where
  accepted : Accepts outcome ↔ ∃ level, HoldsName level text
  refused : ¬ Accepts outcome → ∃ faults, outcome = .error faults ∧ ⟨.logLevel, .unknownLevel text⟩ ∈ faults
  stored : ∀ settings, outcome = .ok settings → HoldsName settings.logLevel text ∧
    settings.logLevel.name = normalized text ∧ normalized settings.logLevel.name = settings.logLevel.name

theorem Reads.decided (reads : Reads text outcome) : Decided text outcome := by
  have denied (unspelled : ¬ ∃ level, HoldsName level text) :
      ∃ faults, outcome = .error faults ∧ ⟨.logLevel, .unknownLevel text⟩ ∈ faults :=
    reads.refused _ (readLevel_eq_error_iff.mpr ⟨rfl, unspelled⟩)
  have accepted : Accepts outcome ↔ ∃ level, HoldsName level text := by
    constructor
    · intro taken
      by_contra unspelled
      obtain ⟨faults, failed, fault⟩ := denied unspelled
      exact taken faults failed _ fault rfl
    · rintro ⟨level, spelled⟩
      exact reads.faultless level (readLevel_eq_ok_iff.mpr spelled)
  constructor
  case accepted => exact accepted
  case refused => exact fun untaken => denied (mt accepted.mpr untaken)
  case stored =>
    intro settings done
    have taken : Accepts outcome := fun faults failed => absurd (done.symm.trans failed) nofun
    obtain ⟨level, spelled⟩ := accepted.mp taken
    obtain rfl := reads.stored level (readLevel_eq_ok_iff.mpr spelled) settings done
    have again := (normalized_eq_iff _ _).mpr (holdsName_name settings.logLevel)
    exact ⟨spelled, ((normalized_eq_iff _ _).mpr spelled).symm, again⟩

private theorem mem_faults {fields : List (Field × Option Problem)} {fault : Fault} :
    fault ∈ faults fields ↔ (fault.field, some fault.problem) ∈ fields := by
  simp only [faults, List.mem_filterMap, Option.map_eq_some_iff]
  constructor
  · rintro ⟨⟨field, problem?⟩, member, problem, rfl, rfl⟩
    exact member
  · exact fun member => ⟨_, member, fault.problem, rfl, rfl⟩

theorem reads_read (given : given? arguments environment .logLevel = some (.text text)) :
    Reads text (Settings.read arguments environment) := by
  have field : readField arguments environment .logLevel readLevel ({} : Settings).logLevel =
      readLevel (.text text) := by
    rw [readField, given, Option.elim_some]
  constructor
  case stored =>
    intro level taken settings done
    rw [taken] at field
    simp only [Settings.read, field] at done
    split at done
    next third =>
      obtain rfl := Except.ok.inj done
      exact (Except.ok.inj third).symm
    next => cases done
  case faultless =>
    intro level taken faults failed fault member atLevel
    rw [taken] at field
    simp only [Settings.read, field] at failed
    split at failed
    next => cases failed
    next =>
      obtain rfl := Except.error.inj failed
      have listed := mem_faults.mp member
      simp [atLevel, problem?] at listed
  case refused =>
    intro problem denied
    rw [denied] at field
    simp only [Settings.read, field]
    split
    next third => cases third
    next => exact ⟨_, rfl, mem_faults.mpr (by simp [problem?])⟩

private theorem given_alone (text : String) (field : Field) :
    given? [("LOG_LEVEL", .text text)] [] field = if field = .logLevel then some (.text text) else none := by
  have named : (lowered "LOG_LEVEL" == field.argumentName) = decide (field = .logLevel) := by
    cases field <;> decide +kernel
  rw [given?, List.find?_singleton]
  simp only [named]
  cases field <;> rfl

theorem read_alone_eq_ok_iff (text : String) (level : LogLevel) :
    Settings.read [("LOG_LEVEL", .text text)] [] = .ok { logLevel := level } ↔ HoldsName level text := by
  rw [← readLevel_eq_ok_iff]
  simp only [Settings.read, readField, given_alone, reduceCtorEq, if_false, if_true, Option.elim_none, Option.elim_some]
  cases readLevel (.text text) <;> simp

end Reading

/-- The numbers that stand for a name in capital letters where entries are logged. -/
def numbers : List (String × Nat) :=
  [("CRITICAL", 50), ("FATAL", 50), ("ERROR", 40), ("WARNING", 30), ("WARN", 30), ("INFO", 20), ("DEBUG", 10),
    ("NOTSET", 0)]

/-- Just the spellings of the five names are taken for a level, whose name is then known wherever entries are logged. -/
theorem levels_are_read_as_spelled :
    (∀ text level, Settings.readLevel (.text text) = .ok level ↔ HoldsName level text) ∧
    (∀ text problem, Settings.readLevel (.text text) = .error problem ↔
      problem = .unknownLevel text ∧ ¬ ∃ level, HoldsName level text) ∧
    (∀ text outcome, Reads text outcome → Decided text outcome) ∧
    (∀ arguments environment text, Settings.given? arguments environment .logLevel = some (.text text) →
      Reads text (Settings.read arguments environment) ∧ Decided text (Settings.read arguments environment)) ∧
    (∀ text level, Settings.read [("LOG_LEVEL", .text text)] [] = .ok { logLevel := level } ↔ HoldsName level text) ∧
    ∀ settings : Settings, numbers.lookup settings.effectiveLogLevel.name = some settings.effectiveLogLevel.value := by
  refine ⟨fun _ _ => readLevel_eq_ok_iff, fun _ _ => readLevel_eq_error_iff, fun _ _ => Reads.decided, ?_,
    read_alone_eq_ok_iff, ?_⟩
  · intro arguments environment text given
    have reads := reads_read given
    exact ⟨reads, reads.decided⟩
  · intro settings
    cases settings.effectiveLogLevel <;> rfl

theorem dotless_level_is_read :
    let arguments : List (String × Datum) := [("log_Level", .text "\tcrıTIcal\u2003")]
    let environment := [("MARKUP_LINT_LOG_LEVEL", "info"), ("markup_lint_debug", "yes")]
    Settings.given? arguments environment .logLevel = some (.text "\tcrıTIcal\u2003") ∧
      Reads "\tcrıTIcal\u2003" (Settings.read arguments environment) ∧
      Decided "\tcrıTIcal\u2003" (Settings.read arguments environment) ∧
      Settings.read arguments environment = .ok { debug := true, logLevel := .critical } := by
  intro arguments environment
  obtain ⟨-, -, decided, reads, -⟩ := levels_are_read_as_spelled
  have given : Settings.given? arguments environment .logLevel = some (.text "\tcrıTIcal\u2003") := by rfl
  have outcome := (reads arguments environment _ given).1
  exact ⟨given, outcome, decided _ _ outcome, by decide +kernel⟩

end TagLint.Proofs.LevelSpellings
