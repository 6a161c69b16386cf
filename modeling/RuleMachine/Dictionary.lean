/-!
# Dictionaries

A dictionary maps keys to values and the last write to a key wins.  No key
occurs twice among the entries, so the list of entries and the look-up
function carry the same information.
-/

namespace RuleMachine

/-- A finite map, as a list of entries with distinct keys. -/
structure Dictionary (Key Value : Type) where
  entries : List (Key × Value)
  distinct : (entries.map Prod.fst).Nodup

namespace Dictionary

variable {Key Value : Type} [DecidableEq Key]

/-- The dictionary without entries. -/
def empty : Dictionary Key Value where
  entries := []
  distinct := List.nodup_nil

/-- The value of a key, if it has one. -/
def get? (dictionary : Dictionary Key Value) (key : Key) : Option Value :=
  dictionary.entries.lookup key

private theorem nodup_keys_write
    {entries : List (Key × Value)} (key : Key) (value : Value)
    (distinct : (entries.map Prod.fst).Nodup) :
    (((key, value) :: entries.filter fun entry => entry.1 ≠ key).map Prod.fst).Nodup := by
  rw [List.map_cons, List.nodup_cons]
  constructor
  · intro member
    obtain ⟨entry, kept, sameKey⟩ := List.mem_map.mp member
    have differs := (List.mem_filter.mp kept).2
    simp at differs
    exact differs sameKey
  · exact distinct.sublist (List.filter_sublist.map Prod.fst)

/-- Write a value; whatever the key was mapped to before is forgotten. -/
def insert
    (dictionary : Dictionary Key Value) (key : Key) (value : Value) :
    Dictionary Key Value where
  entries := (key, value) :: dictionary.entries.filter fun entry => entry.1 ≠ key
  distinct := nodup_keys_write key value dictionary.distinct

/-- Write the pairs of a list one after the other. -/
def insertAll (dictionary : Dictionary Key Value) (pairs : List (Key × Value)) :
    Dictionary Key Value :=
  pairs.foldl (fun dictionary pair => dictionary.insert pair.1 pair.2) dictionary

/-- The dictionary in which the pairs of a list are written. -/
def ofList (pairs : List (Key × Value)) : Dictionary Key Value :=
  empty.insertAll pairs

/-- The entries in the order of their keys. -/
def toSortedList
    (dictionary : Dictionary Key Value) (precedes : Key → Key → Bool) :
    List (Key × Value) :=
  dictionary.entries.mergeSort fun earlier later => precedes earlier.1 later.1

omit [DecidableEq Key] in
private theorem lookup_filter_ne [BEq Key] [LawfulBEq Key]
    {entries : List (Key × Value)} {key wanted : Key} (differs : wanted ≠ key)
    (keeps : Key × Value → Bool) (keepsSpec : ∀ entry, keeps entry = (entry.1 != key)) :
    (entries.filter keeps).lookup wanted = entries.lookup wanted := by
  induction entries with
  | nil => rfl
  | cons entry later inductionHypothesis =>
      obtain ⟨entryKey, entryValue⟩ := entry
      by_cases sameKey : entryKey = key
      · subst sameKey
        have dropped : keeps (entryKey, entryValue) = false := by
          simp [keepsSpec]
        rw [List.filter_cons_of_neg (by simp [dropped]), inductionHypothesis,
          List.lookup_cons, beq_eq_false_iff_ne.mpr differs]
      · have kept : keeps (entryKey, entryValue) = true := by
          simp [keepsSpec, sameKey]
        rw [List.filter_cons_of_pos kept, List.lookup_cons, List.lookup_cons,
          inductionHypothesis]

@[simp]
theorem get?_empty (key : Key) : (empty : Dictionary Key Value).get? key = none :=
  rfl

/-- Looking up after a write finds the value written, or what was there before. -/
theorem get?_insert
    (dictionary : Dictionary Key Value) (key wanted : Key) (value : Value) :
    (dictionary.insert key value).get? wanted =
      if wanted = key then some value else dictionary.get? wanted := by
  unfold get? insert
  rw [List.lookup_cons]
  by_cases sameKey : wanted = key
  · simp [sameKey]
  · simp only [sameKey, if_false, beq_eq_false_iff_ne.mpr sameKey]
    exact lookup_filter_ne sameKey _ fun entry => by
      by_cases equal : entry.1 = key <;> simp [equal]

/-- What is found after a write is what was written, or it was there before. -/
theorem eq_or_get?_of_get?_insert
    {dictionary : Dictionary Key Value} {key wanted : Key} {value found : Value}
    (isFound : (dictionary.insert key value).get? wanted = some found) :
    (wanted = key ∧ found = value) ∨ dictionary.get? wanted = some found := by
  rw [get?_insert] at isFound
  by_cases sameKey : wanted = key
  · rw [if_pos sameKey] at isFound
    exact .inl ⟨sameKey, (Option.some.inj isFound).symm⟩
  · rw [if_neg sameKey] at isFound
    exact .inr isFound

/-! ## Entries -/

theorem mem_entries_of_get? {dictionary : Dictionary Key Value} {key : Key} {value : Value}
    (found : dictionary.get? key = some value) : (key, value) ∈ dictionary.entries := by
  obtain ⟨earlier, later, entries_eq, _⟩ := List.lookup_eq_some_iff.mp found
  rw [entries_eq]
  exact List.mem_append_right earlier (.head later)

theorem get?_of_mem_entries {dictionary : Dictionary Key Value} {key : Key} {value : Value}
    (member : (key, value) ∈ dictionary.entries) : dictionary.get? key = some value := by
  obtain ⟨entries, distinct⟩ := dictionary
  change entries.lookup key = some value
  induction entries with
  | nil => cases member
  | cons entry later inductionHypothesis =>
      rw [List.map_cons, List.nodup_cons] at distinct
      rcases List.mem_cons.mp member with rfl | inLater
      · rw [List.lookup_cons, beq_self_eq_true]
      · have differs : key ≠ entry.1 := by
          intro sameKey
          exact distinct.1 (sameKey ▸ List.mem_map_of_mem inLater)
        rw [List.lookup_cons, beq_eq_false_iff_ne.mpr differs]
        exact inductionHypothesis distinct.2 inLater

/-! ## Writing many pairs -/

section Writes

variable {pairs : List (Key × Value)} {key : Key} {value : Value}

theorem insertAll_cons (dictionary : Dictionary Key Value) (pair : Key × Value)
    (later : List (Key × Value)) :
    dictionary.insertAll (pair :: later) = (dictionary.insert pair.1 pair.2).insertAll later :=
  rfl

theorem get?_insertAll_of_not_mem (absent : key ∉ pairs.map Prod.fst)
    (dictionary : Dictionary Key Value) :
    (dictionary.insertAll pairs).get? key = dictionary.get? key := by
  induction pairs generalizing dictionary with
  | nil => rfl
  | cons pair later inductionHypothesis =>
      rw [List.map_cons, List.mem_cons, not_or] at absent
      rw [insertAll_cons, inductionHypothesis absent.2, get?_insert, if_neg absent.1]

theorem get?_insertAll_of_mem (distinct : (pairs.map Prod.fst).Nodup)
    (member : (key, value) ∈ pairs) (dictionary : Dictionary Key Value) :
    (dictionary.insertAll pairs).get? key = some value := by
  induction pairs generalizing dictionary with
  | nil => cases member
  | cons pair later inductionHypothesis =>
      rw [List.map_cons, List.nodup_cons] at distinct
      rw [insertAll_cons]
      rcases List.mem_cons.mp member with rfl | inLater
      · rw [get?_insertAll_of_not_mem distinct.1, get?_insert, if_pos rfl]
      · exact inductionHypothesis distinct.2 inLater _

/-- What is found after some writes was written by one of them, or it was there before. -/
theorem mem_or_get?_of_get?_insertAll {dictionary : Dictionary Key Value}
    (found : (dictionary.insertAll pairs).get? key = some value) :
    (key, value) ∈ pairs ∨ dictionary.get? key = some value := by
  induction pairs generalizing dictionary with
  | nil => exact .inr found
  | cons pair later inductionHypothesis =>
      rcases inductionHypothesis found with inLater | isFound
      · exact .inl (.tail pair inLater)
      · rcases eq_or_get?_of_get?_insert isFound with ⟨rfl, rfl⟩ | isOld
        · exact .inl (.head later)
        · exact .inr isOld

theorem exists_get?_insertAll {dictionary : Dictionary Key Value}
    (isKey : key ∈ pairs.map Prod.fst ∨ ∃ value, dictionary.get? key = some value) :
    ∃ value, (dictionary.insertAll pairs).get? key = some value := by
  induction pairs generalizing dictionary with
  | nil => exact isKey.resolve_left List.not_mem_nil
  | cons pair later inductionHypothesis =>
      apply inductionHypothesis
      rw [get?_insert]
      by_cases isFirst : key = pair.1
      · rw [if_pos isFirst]
        exact .inr ⟨pair.2, rfl⟩
      · rw [if_neg isFirst]
        rw [List.map_cons, List.mem_cons, or_assoc] at isKey
        exact isKey.resolve_left isFirst

theorem mem_of_get?_ofList (found : (ofList pairs).get? key = some value) :
    (key, value) ∈ pairs :=
  (mem_or_get?_of_get?_insertAll found).resolve_right nofun

theorem exists_get?_ofList (isKey : key ∈ pairs.map Prod.fst) :
    ∃ value, (ofList pairs).get? key = some value :=
  exists_get?_insertAll (.inl isKey)

/-- A dictionary made of pairs with distinct keys has these pairs. -/
theorem get?_ofList (distinct : (pairs.map Prod.fst).Nodup) (key : Key) (value : Value) :
    (ofList pairs).get? key = some value ↔ (key, value) ∈ pairs :=
  ⟨mem_of_get?_ofList, fun member => get?_insertAll_of_mem distinct member empty⟩

end Writes

end Dictionary

end RuleMachine
