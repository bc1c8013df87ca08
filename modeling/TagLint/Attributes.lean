import TagLint.Attribute

/-!
The attributes of a tag: a mapping from keys to attributes that remembers in which order its keys came in.
-/

namespace TagLint

structure Attributes where
  entries : List (String × Attribute)
  keys_nodup : (entries.map (·.1)).Nodup

namespace Attributes

def empty : Attributes :=
  ⟨[], by simp⟩

def keys (attrs : Attributes) : List String :=
  attrs.entries.map (·.1)

def size (attrs : Attributes) : Nat :=
  attrs.entries.length

def get? (attrs : Attributes) (key : String) : Option Attribute :=
  attrs.entries.lookup key

theorem get?_eq_some_iff {attrs : Attributes} {key : String} {attr : Attribute} :
    attrs.get? key = some attr ↔ (key, attr) ∈ attrs.entries := by
  obtain ⟨entries, distinct⟩ := attrs
  rw [get?]
  induction entries with
  | nil => simp
  | cons entry entries ih =>
    obtain ⟨other, found⟩ := entry
    obtain ⟨fresh, distinct⟩ := List.nodup_cons.mp distinct
    rw [List.lookup_cons, List.mem_cons, Prod.mk.injEq]
    by_cases same : key = other
    · subst same
      have absent : (key, attr) ∉ entries := fun member => fresh (List.mem_map.mpr ⟨_, member, rfl⟩)
      simp [absent, eq_comm]
    · have different : (key == other) = false := beq_eq_false_iff_ne.mpr same
      simpa only [different, same, false_and, false_or] using ih distinct

theorem get?_eq_none_iff {attrs : Attributes} {key : String} : attrs.get? key = none ↔ key ∉ attrs.keys := by
  simp only [get?, List.lookup_eq_none_iff, keys, List.mem_map, not_exists, not_and, bne_iff_ne]
  constructor
  · exact fun absent entry member same => absent entry member same.symm
  · exact fun absent entry member same => absent entry member same.symm

def contains (attrs : Attributes) (key : String) : Bool :=
  attrs.keys.contains key

def map (f : String → Attribute → Attribute) (attrs : Attributes) : Attributes where
  entries := attrs.entries.map fun (key, attr) => (key, f key attr)
  keys_nodup := by simpa [List.map_map, Function.comp_def] using attrs.keys_nodup

@[simp] theorem keys_map (f : String → Attribute → Attribute) (attrs : Attributes) : (attrs.map f).keys = attrs.keys := by
  simp [keys, map]

theorem map_id (attrs : Attributes) : (attrs.map fun _ attr => attr) = attrs := by
  simp [map]

theorem map_eq_self {f : String → Attribute → Attribute} {attrs : Attributes}
    (fixed : ∀ entry ∈ attrs.entries, f entry.1 entry.2 = entry.2) : attrs.map f = attrs := by
  have same : attrs.entries.map (fun entry => (entry.1, f entry.1 entry.2)) = attrs.entries.map id := by
    apply List.map_congr_left
    intro entry member
    exact Prod.ext rfl (fixed entry member)
  obtain ⟨entries, distinct⟩ := attrs
  simpa only [map, mk.injEq, List.map_id] using same

theorem map_map (f g : String → Attribute → Attribute) (attrs : Attributes) :
    (attrs.map f).map g = attrs.map fun key attr => g key (f key attr) := by
  simp [map, Function.comp_def]

theorem get?_map (f : String → Attribute → Attribute) (attrs : Attributes) (key : String) :
    (attrs.map f).get? key = (attrs.get? key).map (f key) := by
  simp only [get?, map]
  induction attrs.entries with
  | nil => rfl
  | cons entry entries ih =>
    obtain ⟨other, attr⟩ := entry
    rw [List.map_cons, List.lookup_cons, List.lookup_cons, ih]
    cases same : key == other with
    | true =>
      obtain rfl := eq_of_beq same
      rfl
    | false => rfl

def modify (key : String) (f : Attribute → Attribute) (attrs : Attributes) : Attributes :=
  attrs.map fun other attr => if other == key then f attr else attr

@[simp] theorem keys_modify (key : String) (f : Attribute → Attribute) (attrs : Attributes) :
    (attrs.modify key f).keys = attrs.keys :=
  keys_map _ attrs

/-- Sets the attribute of a key. A new key comes last; one that is there keeps its place. -/
def insert (key : String) (attr : Attribute) (attrs : Attributes) : Attributes :=
  if present : key ∈ attrs.keys then attrs.modify key fun _ => attr
  else {
    entries := attrs.entries ++ [(key, attr)]
    keys_nodup := by
      have absent : ∀ other ∈ attrs.entries.map (·.1), other ≠ key :=
        fun other member same => present (same ▸ member)
      simpa [List.nodup_append, attrs.keys_nodup] using absent }

theorem keys_insert (key : String) (attr : Attribute) (attrs : Attributes) :
    (attrs.insert key attr).keys = if key ∈ attrs.keys then attrs.keys else attrs.keys ++ [key] := by
  rw [insert]
  split
  · exact keys_modify ..
  · simp [keys]

def erase (key : String) (attrs : Attributes) : Attributes where
  entries := attrs.entries.filter (·.1 != key)
  keys_nodup := attrs.keys_nodup.sublist (List.filter_sublist.map _)

/-- Of several entries with one key the last counts, in the place of the first. -/
def ofList (entries : List (String × Attribute)) : Attributes :=
  entries.foldl (fun attrs (key, attr) => attrs.insert key attr) empty

end Attributes

end TagLint
