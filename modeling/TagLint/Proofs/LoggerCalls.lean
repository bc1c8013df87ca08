import Mathlib.Data.List.Induction
import Mathlib.Data.List.Nodup
import TagLint.Loggers

/-! Loggers that are configured call after call. A call changes the one logger that it returns, which has a single handler
from then on, however often and under whichever of its names it is configured again. -/

namespace TagLint.Proofs.LoggerCalls
open Loggers

/-- Names of one logger. The root logger answers to two. -/
def SameLogger (first second : String) : Prop :=
  first = second ∨ first ∈ ["", "root"] ∧ second ∈ ["", "root"]

def names (loggers : Loggers) : List String :=
  loggers.list.map (·.name)

/-- Where the logger of a name is kept, or will be. A logger is known by its place. -/
def place (loggers : Loggers) (name : String) : Nat :=
  (names loggers).idxOf (nameOf name)

def configureAll (loggers : Loggers) (calls : List Settings) : Loggers :=
  calls.foldl configure loggers

/-- The places of the loggers that the calls of a sequence return. -/
def returned (loggers : Loggers) : List Settings → List Nat
  | [] => []
  | call :: later => place (loggers.configure call) call.appName :: returned (loggers.configure call) later

/-- Loggers as they are before any is configured: there is one of each name, and none has a handler. -/
structure Unconfigured (loggers : Loggers) : Prop where
  distinct : (names loggers).Nodup
  unhandled : ∀ logger ∈ loggers.list, logger.handlers = []

/-- Loggers as calls leave them, none of which has a second handler. -/
structure Sound (loggers : Loggers) : Prop where
  distinct : (names loggers).Nodup
  handled : ∀ logger ∈ loggers.list, logger.handlers = [] ∨ logger.handlers = [{}]

/-- What a call does that returns the logger at a place. -/
structure Configures (before : Loggers) (call : Settings) (place : Nat) (after : Loggers) : Prop where
  found : after.list[place]? = some (after.get call.appName)
  handlers : (after.get call.appName).handlers = [{}]
  level : (after.get call.appName).level? = some call.effectiveLogLevel
  elsewhere : ∀ other, other ≠ place → after.list[other]? = before.list[other]?
  others : ∀ name, ¬ SameLogger call.appName name → after.get name = before.get name

/-- The last call of a sequence that gives one of the names of a logger. -/
def LastNaming (calls : List Settings) (name : String) (call : Settings) : Prop :=
  ∃ earlier later, calls = earlier ++ call :: later ∧ SameLogger call.appName name ∧
    ∀ other ∈ later, ¬ SameLogger other.appName name

section Lookup

variable {loggers : Loggers} {name : String}

theorem sameLogger_iff {first second : String} : SameLogger first second ↔ nameOf first = nameOf second := by
  simp only [SameLogger, nameOf, List.mem_cons, List.not_mem_nil, or_false, beq_iff_eq]
  grind

private theorem length_names (loggers : Loggers) : (names loggers).length = loggers.list.length :=
  List.length_map _

private theorem get_eq (loggers : Loggers) (name : String) :
    loggers.get name = loggers.list[place loggers name]?.getD { name := nameOf name } := by
  have sought : place loggers name = loggers.list.findIdx (·.name == nameOf name) := List.findIdx_map ..
  rw [Loggers.get, List.find?_eq_getElem?_findIdx, sought]

private theorem name_get (loggers : Loggers) (name : String) : (loggers.get name).name = nameOf name := by
  rw [Loggers.get]
  cases found : loggers.list.find? (·.name == nameOf name) with
  | none => rfl
  | some logger => simpa using List.find?_some found

private theorem getElem?_place (known : nameOf name ∈ names loggers) :
    loggers.list[place loggers name]? = some (loggers.get name) := by
  have inside : place loggers name < loggers.list.length := by
    rw [← length_names]
    exact List.idxOf_lt_length_of_mem known
  rw [get_eq, List.getElem?_eq_getElem inside, Option.getD_some]

private theorem get_of_unknown (unknown : nameOf name ∉ names loggers) :
    loggers.get name = { name := nameOf name } := by
  have outside : place loggers name = loggers.list.length := by
    rw [← length_names]
    exact List.idxOf_eq_length unknown
  rw [get_eq, outside, List.getElem?_eq_none (Nat.le_refl _), Option.getD_none]

end Lookup

section Calls

variable {loggers : Loggers} {name : String} {call : Settings}

private theorem any_name_iff (loggers : Loggers) (name : String) :
    loggers.list.any (·.name == name) = true ↔ name ∈ names loggers := by
  simp [names]

private theorem names_put (loggers : Loggers) (logger : Logger) :
    names (loggers.put logger) =
      if logger.name ∈ names loggers then names loggers else names loggers ++ [logger.name] := by
  have known := any_name_iff loggers logger.name
  by_cases member : logger.name ∈ names loggers
  · rw [Loggers.put, if_pos (known.mpr member), if_pos member, names, names, List.map_map]
    apply List.map_congr_left
    intro other _
    simp only [Function.comp_apply]
    split
    next same => exact (eq_of_beq same).symm
    next => rfl
  · rw [Loggers.put, if_neg (mt known.mp member), if_neg member, names, List.map_append]
    rfl

/-- Where each name stands once, only the place of a logger's name holds that logger. -/
theorem name_eq_iff (distinct : (names loggers).Nodup) {logger : Logger} {i : Nat}
    (held : loggers.list[i]? = some logger) : logger.name = name ↔ i = (names loggers).idxOf name := by
  have named : (names loggers)[i]? = some logger.name := by rw [names, List.getElem?_map, held, Option.map_some]
  obtain ⟨inside, stands⟩ := List.getElem?_eq_some_iff.mp named
  constructor
  · rintro rfl
    rw [← stands, distinct.idxOf_getElem]
  · rintro rfl
    rw [← stands, List.getElem_idxOf inside]

private theorem getElem?_put (distinct : (names loggers).Nodup) (logger : Logger) (i : Nat) :
    (loggers.put logger).list[i]? = if i = (names loggers).idxOf logger.name then some logger else loggers.list[i]? := by
  have known := any_name_iff loggers logger.name
  by_cases member : logger.name ∈ names loggers
  · rw [Loggers.put, if_pos (known.mpr member), List.getElem?_map]
    cases held : loggers.list[i]? with
    | none =>
      have outside : i ≠ (names loggers).idxOf logger.name := by
        rintro rfl
        have inside := List.idxOf_lt_length_of_mem member
        rw [length_names] at inside
        exact absurd (List.getElem?_eq_none_iff.mp held) (Nat.not_le.mpr inside)
      rw [if_neg outside, Option.map_none]
    | some other =>
      simp only [Option.map_some, beq_iff_eq, name_eq_iff distinct held]
      split <;> rfl
  · rw [Loggers.put, if_neg (mt known.mp member), List.idxOf_eq_length member, length_names, List.getElem?_append]
    grind

theorem names_configure (loggers : Loggers) (call : Settings) :
    names (loggers.configure call) =
      if nameOf call.appName ∈ names loggers then names loggers else names loggers ++ [nameOf call.appName] := by
  rw [← name_get loggers]
  exact names_put loggers _

theorem getElem?_configure (distinct : (names loggers).Nodup) (call : Settings) (i : Nat) :
    (loggers.configure call).list[i]? =
      if i = place loggers call.appName then some ((loggers.get call.appName).configured call.effectiveLogLevel)
      else loggers.list[i]? := by
  rw [place, ← name_get loggers]
  exact getElem?_put distinct _ i

private theorem mem_names_configure (loggers : Loggers) (call : Settings) :
    nameOf call.appName ∈ names (loggers.configure call) := by
  rw [names_configure]
  split
  next known => exact known
  next => exact List.mem_concat_self

theorem prefix_configure (loggers : Loggers) (call : Settings) : names loggers <+: names (loggers.configure call) := by
  rw [names_configure]
  split
  next => exact List.prefix_rfl
  next => exact List.prefix_append _ _

theorem nodup_configure (distinct : (names loggers).Nodup) (call : Settings) :
    (names (loggers.configure call)).Nodup := by
  rw [names_configure]
  split
  next => exact distinct
  next unknown =>
    rw [← List.concat_eq_append]
    exact distinct.concat unknown

private theorem place_of_prefix {later : Loggers} (before : names loggers <+: names later)
    (known : nameOf name ∈ names loggers) : place later name = place loggers name := by
  obtain ⟨more, grown⟩ := before
  rw [place, ← grown, List.idxOf_append_of_mem known, place]

/-- A new logger is put where its name would have been looked for. -/
theorem place_configure (loggers : Loggers) (call : Settings) :
    place (loggers.configure call) call.appName = place loggers call.appName := by
  by_cases known : nameOf call.appName ∈ names loggers
  · exact place_of_prefix (prefix_configure loggers call) known
  · rw [place, names_configure, if_neg known, List.idxOf_append_of_notMem known, List.idxOf_cons_self, place,
      List.idxOf_eq_length known]
    rfl

theorem get_configure (distinct : (names loggers).Nodup) (call : Settings) :
    (loggers.configure call).get call.appName = (loggers.get call.appName).configured call.effectiveLogLevel := by
  have held := getElem?_place (mem_names_configure loggers call)
  rw [place_configure, getElem?_configure distinct, if_pos rfl] at held
  exact (Option.some.inj held).symm

theorem get_configure_of_not_same (distinct : (names loggers).Nodup) (other : ¬ SameLogger call.appName name) :
    (loggers.configure call).get name = loggers.get name := by
  rw [sameLogger_iff] at other
  by_cases known : nameOf name ∈ names loggers
  · have apart : place loggers name ≠ place loggers call.appName := mt (List.idxOf_inj known).mp (Ne.symm other)
    rw [get_eq, place_of_prefix (prefix_configure loggers call) known, getElem?_configure distinct, if_neg apart, ← get_eq]
  · have unknown : nameOf name ∉ names (loggers.configure call) := by
      rw [names_configure]
      split
      next => exact known
      next => simp [known, Ne.symm other]
    rw [get_of_unknown unknown, get_of_unknown known]

end Calls

section Runs

variable {start loggers : Loggers} {name : String} {call : Settings} {calls : List Settings}

theorem Unconfigured.sound (unconfigured : Unconfigured loggers) : Sound loggers :=
  ⟨unconfigured.distinct, fun logger member => .inl (unconfigured.unhandled logger member)⟩

theorem Sound.get (sound : Sound loggers) (name : String) :
    (loggers.get name).handlers = [] ∨ (loggers.get name).handlers = [{}] := by
  by_cases known : nameOf name ∈ names loggers
  · exact sound.handled _ (List.mem_of_getElem? (getElem?_place known))
  · exact .inl (by rw [get_of_unknown known])

theorem Sound.configured (sound : Sound loggers) (name : String) (level : LogLevel) :
    ((loggers.get name).configured level).handlers = [{}] := by
  rw [Logger.configured]
  rcases sound.get name with unhandled | one
  · rw [if_pos (by simp [unhandled])]
  · rw [if_neg (by simp [one]), one]

theorem Sound.configure (sound : Sound loggers) (call : Settings) : Sound (loggers.configure call) := by
  constructor
  case distinct => exact nodup_configure sound.distinct call
  case handled =>
    intro logger member
    obtain ⟨i, held⟩ := List.mem_iff_getElem?.mp member
    rw [getElem?_configure sound.distinct] at held
    split at held
    next =>
      obtain rfl := Option.some.inj held
      exact .inr (sound.configured call.appName call.effectiveLogLevel)
    next => exact sound.handled logger (List.mem_of_getElem? held)

theorem Sound.configures (sound : Sound loggers) (call : Settings) :
    Configures loggers call (place loggers call.appName) (loggers.configure call) := by
  have after := get_configure sound.distinct call
  constructor
  case found => rw [← place_configure, getElem?_place (mem_names_configure loggers call)]
  case handlers => rw [after, sound.configured]
  case level => rw [after, Logger.configured]
  case elsewhere =>
    intro other apart
    rw [getElem?_configure sound.distinct, if_neg apart]
  case others => exact fun name other => get_configure_of_not_same sound.distinct other

theorem sound_configureAll (sound : Sound start) (calls : List Settings) : Sound (configureAll start calls) := by
  induction calls generalizing start with
  | nil => exact sound
  | cons call later ih => exact ih (sound.configure call)

theorem prefix_configureAll (start : Loggers) (calls : List Settings) :
    names start <+: names (configureAll start calls) := by
  induction calls generalizing start with
  | nil => exact List.prefix_rfl
  | cons call later ih => exact (prefix_configure start call).trans (ih (start.configure call))

theorem configureAll_append (start : Loggers) (earlier later : List Settings) :
    configureAll start (earlier ++ later) = configureAll (configureAll start earlier) later :=
  List.foldl_append ..

private theorem mem_names_configureAll (start : Loggers) {calls : List Settings} (made : call ∈ calls) :
    nameOf call.appName ∈ names (configureAll start calls) := by
  obtain ⟨earlier, later, rfl⟩ := List.append_of_mem made
  rw [configureAll_append]
  exact (prefix_configureAll _ later).subset (mem_names_configure _ call)

/-- What a call returns is found at the same place when all calls are done. -/
theorem returned_eq (start : Loggers) (calls : List Settings) :
    returned start calls = calls.map fun call => place (configureAll start calls) call.appName := by
  induction calls generalizing start with
  | nil => rfl
  | cons call later ih =>
    have stays : place (configureAll (start.configure call) later) call.appName =
        place (start.configure call) call.appName :=
      place_of_prefix (prefix_configureAll _ later) (mem_names_configure start call)
    rw [returned, ih, List.map_cons, ← stays]
    rfl

theorem configureAll_concat (start : Loggers) (calls : List Settings) (call : Settings) :
    configureAll start (calls ++ [call]) = (configureAll start calls).configure call :=
  List.foldl_concat ..

private theorem configureAll_take (start : Loggers) (calls : List Settings) (i : Fin calls.length) :
    configureAll start (calls.take (i + 1)) = (configureAll start (calls.take i)).configure (calls.get i) := by
  rw [List.take_add_one, List.getElem?_eq_getElem i.isLt]
  exact configureAll_concat ..

private theorem place_configureAll (start : Loggers) (calls : List Settings) (i : Fin calls.length) :
    place (configureAll start calls) (calls.get i).appName = place (configureAll start (calls.take i)) (calls.get i).appName := by
  have whole : configureAll start calls =
      configureAll (configureAll start (calls.take (i + 1))) (calls.drop (i + 1)) := by
    rw [← configureAll_append, List.take_append_drop]
  rw [whole, configureAll_take, place_of_prefix (prefix_configureAll _ _) (mem_names_configure _ _), place_configure]

private theorem get_of_same {other : String} (same : SameLogger other name) : loggers.get name = loggers.get other := by
  rw [Loggers.get, Loggers.get, sameLogger_iff.mp same]

private theorem LastNaming.concat {last : Settings} (naming : LastNaming calls name last)
    (other : ¬ SameLogger call.appName name) : LastNaming (calls ++ [call]) name last := by
  obtain ⟨earlier, later, rfl, named, silent⟩ := naming
  refine ⟨earlier, later ++ [call], by simp, named, ?_⟩
  intro next member
  rcases List.mem_append.mp member with before | new
  · exact silent next before
  · rwa [List.mem_singleton.mp new]

theorem Sound.last (sound : Sound start) (named : ∃ call ∈ calls, SameLogger call.appName name) :
    ∃ last, LastNaming calls name last ∧ ((configureAll start calls).get name).handlers = [{}] ∧
      ((configureAll start calls).get name).level? = some last.effectiveLogLevel := by
  induction calls using List.reverseRecOn with
  | nil => simp at named
  | append_singleton calls call ih =>
    have configures := (sound_configureAll sound calls).configures call
    rw [configureAll_concat]
    -- a call at the end is the last one to name its logger, and any other logger is as the calls before left it
    by_cases same : SameLogger call.appName name
    · refine ⟨call, ⟨calls, [], rfl, same, by simp⟩, ?_⟩
      rw [get_of_same same]
      exact ⟨configures.handlers, configures.level⟩
    · have before : ∃ call ∈ calls, SameLogger call.appName name := by
        obtain ⟨other, member, named⟩ := named
        rcases List.mem_append.mp member with earlier | new
        · exact ⟨other, earlier, named⟩
        · exact absurd (List.mem_singleton.mp new ▸ named) same
      obtain ⟨last, naming, state⟩ := ih before
      rw [configures.others name same]
      exact ⟨last, naming.concat same, state⟩

end Runs

/-- How a sequence of calls goes and what it leaves. -/
structure SetUp (start : Loggers) (calls : List Settings) : Prop where
  each : ∀ i : Fin calls.length, ∃ place, (returned start calls)[i.val]? = some place ∧
    Configures (configureAll start (calls.take i)) (calls.get i) place (configureAll start (calls.take (i + 1)))
  same : ∀ i j : Fin calls.length, (returned start calls)[i.val]? = (returned start calls)[j.val]? ↔
    SameLogger (calls.get i).appName (calls.get j).appName
  last : ∀ name, (∃ call ∈ calls, SameLogger call.appName name) → ∃ last, LastNaming calls name last ∧
    ((configureAll start calls).get name).handlers = [{}] ∧
      ((configureAll start calls).get name).level? = some last.effectiveLogLevel

/-- Each call gives the logger that it returns one handler and its level and leaves the others alone, whatever calls came
before, and two calls return the same logger just where they name the same one. -/
theorem calls_leave_one_handler {start : Loggers} (unconfigured : Unconfigured start) (calls : List Settings) :
    SetUp start calls := by
  have sound := unconfigured.sound
  have place_of (i : Fin calls.length) :
      (returned start calls)[i.val]? = some (place (configureAll start calls) (calls.get i).appName) := by
    rw [returned_eq, List.getElem?_map, List.getElem?_eq_getElem i.isLt]
    rfl
  constructor
  case each =>
    intro i
    refine ⟨_, place_of i, ?_⟩
    rw [configureAll_take, place_configureAll]
    exact (sound_configureAll sound (calls.take i)).configures (calls.get i)
  case same =>
    intro i j
    have known := mem_names_configureAll start (List.get_mem calls i)
    rw [place_of, place_of, Option.some.injEq, sameLogger_iff]
    exact List.idxOf_inj known
  case last => exact fun name named => sound.last named

theorem shop_is_set_up :
    let start : Loggers := ⟨[{ name := "root", level? := some .warning }, { name := "shop" }]⟩
    let calls : List Settings := [{ appName := "shop.cart", logLevel := .info }, { appName := "", debug := true },
      { appName := "shop.cart", logLevel := .error }, { appName := "root" }]
    Unconfigured start ∧ SetUp start calls ∧ returned start calls = [2, 0, 2, 0] ∧
      (configureAll start calls).list =
        [⟨"root", some .warning, [{}]⟩, ⟨"shop", none, []⟩, ⟨"shop.cart", some .error, [{}]⟩] := by
  intro start calls
  have unconfigured : Unconfigured start := ⟨by decide, by decide⟩
  exact ⟨unconfigured, calls_leave_one_handler unconfigured calls, by decide +kernel, by decide +kernel⟩

end TagLint.Proofs.LoggerCalls
