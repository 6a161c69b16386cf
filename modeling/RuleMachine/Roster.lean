/-!
# Rosters

A roster numbers things in the order in which they are first met: an item that
is already on it keeps its number, a new one is written below the last.
-/

namespace RuleMachine

/-- Distinct items, each numbered by its place in the list. -/
structure Roster (Item : Type) where
  items : List Item
  distinct : items.Nodup

namespace Roster

variable {Item : Type} [DecidableEq Item]

/-- The roster without items. -/
def empty : Roster Item where
  items := []
  distinct := List.nodup_nil

/-- The number of items. -/
def size (roster : Roster Item) : Nat :=
  roster.items.length

/-- The item with the given number. -/
def get? (roster : Roster Item) (number : Nat) : Option Item :=
  roster.items[number]?

/-- The number of an item on the roster. -/
def numberOf? (roster : Roster Item) (item : Item) : Option Nat :=
  roster.items.idxOf? item

omit [DecidableEq Item] in
private theorem nodup_append_new
    {items : List Item} {item : Item} (distinct : items.Nodup) (isNew : item ∉ items) :
    (items ++ [item]).Nodup := by
  refine List.nodup_append.mpr ⟨distinct, by simp, ?_⟩
  intro earlier earlierMember later laterMember equal
  rw [List.mem_singleton] at laterMember
  exact isNew (laterMember ▸ equal ▸ earlierMember)

/-- Write an item below the last one, unless it is on the roster. -/
def enroll (roster : Roster Item) (item : Item) : Roster Item :=
  if isOld : item ∈ roster.items then
    roster
  else
    { items := roster.items ++ [item]
      distinct := nodup_append_new roster.distinct isOld }

/-- Enroll an item and give its number. -/
def number (roster : Roster Item) (item : Item) : Nat × Roster Item :=
  match roster.numberOf? item with
  | some number => (number, roster)
  | none => (roster.size, roster.enroll item)

/-- Enrolling only ever adds below what is written. -/
theorem enroll_extends (roster : Roster Item) (item : Item) :
    ∃ added, (roster.enroll item).items = roster.items ++ added := by
  unfold enroll
  split
  · exact ⟨[], (List.append_nil _).symm⟩
  · exact ⟨[item], rfl⟩

/-- The number of an item leads back to the item. -/
theorem get?_of_numberOf? {roster : Roster Item} {item : Item} {number : Nat}
    (found : roster.numberOf? item = some number) : roster.get? number = some item := by
  obtain ⟨inRange, isItem, _⟩ := List.findIdx?_eq_some_iff_getElem.mp found
  rw [get?, List.getElem?_eq_getElem inRange, eq_of_beq isItem]

/-- An item without a number is not on the roster. -/
theorem not_mem_of_numberOf?_eq_none {roster : Roster Item} {item : Item}
    (missing : roster.numberOf? item = none) : item ∉ roster.items := by
  intro member
  have differs := List.findIdx?_eq_none_iff.mp missing item member
  simp at differs

/-- The number handed out is the number of the item. -/
theorem get?_number (roster : Roster Item) (item : Item) :
    (roster.number item).2.get? (roster.number item).1 = some item := by
  unfold number
  split
  · rename_i found
    exact get?_of_numberOf? found
  · rename_i missing
    have isNew := not_mem_of_numberOf?_eq_none missing
    simp [get?, size, enroll, isNew]

/-- Numbering an item only ever adds below what is written. -/
theorem number_extends (roster : Roster Item) (item : Item) :
    roster.items <+: (roster.number item).2.items := by
  unfold number
  split
  · exact List.prefix_refl roster.items
  · obtain ⟨added, extended⟩ := roster.enroll_extends item
    exact ⟨added, extended.symm⟩

/-- Numbering an item adds nothing else. -/
theorem eq_or_mem_of_mem_number {roster : Roster Item} {item tested : Item}
    (member : tested ∈ (roster.number item).2.items) :
    tested = item ∨ tested ∈ roster.items := by
  unfold number at member
  split at member
  · exact .inr member
  · unfold enroll at member
    split at member
    · exact .inr member
    · rw [List.mem_append, List.mem_singleton] at member
      exact member.symm

end Roster

end RuleMachine
