import Multipart.Part

/-!
# Tables with one entry for each part

A table holds at most one entry for a part number.  Its entries are kept with
the largest number first, because parts mostly arrive in ascending order, and
are listed in ascending order.
-/

namespace Multipart

/-- Entries under distinct part numbers, the largest number first. -/
structure PartTable (α : Type) where
  entries : List (PartNumber × α)
  descending :
    entries.Pairwise fun left right => right.1.value < left.1.value

namespace PartTable

variable {α : Type}

/-- The table without entries. -/
def empty : PartTable α := ⟨[], List.Pairwise.nil⟩

instance : Inhabited (PartTable α) := ⟨empty⟩

/-- Put an entry where its number belongs, in place of one it has there. -/
def insertEntry (number : PartNumber) (value : α) :
    List (PartNumber × α) → List (PartNumber × α)
  | [] => [(number, value)]
  | entry :: entries =>
    if entry.1.value < number.value then
      (number, value) :: entry :: entries
    else if entry.1 = number then
      (number, value) :: entries
    else
      entry :: insertEntry number value entries

theorem mem_insertEntry
    {number : PartNumber} {value : α} {entries : List (PartNumber × α)}
    {entry : PartNumber × α}
    (member : entry ∈ insertEntry number value entries) :
    entry = (number, value) ∨ entry ∈ entries := by
  induction entries with
  | nil => exact Or.inl (by simpa [insertEntry] using member)
  | cons first entries ih =>
      rw [insertEntry] at member
      split at member
      · exact List.mem_cons.mp member
      · split at member
        · rcases List.mem_cons.mp member with same | old
          · exact Or.inl same
          · exact Or.inr (List.mem_cons_of_mem _ old)
        · rcases List.mem_cons.mp member with same | later
          · exact Or.inr (same ▸ List.mem_cons_self)
          · rcases ih later with same | old
            · exact Or.inl same
            · exact Or.inr (List.mem_cons_of_mem _ old)

theorem pairwise_insertEntry
    (number : PartNumber) (value : α) {entries : List (PartNumber × α)}
    (descending :
      entries.Pairwise fun left right => right.1.value < left.1.value) :
    (insertEntry number value entries).Pairwise
      fun left right => right.1.value < left.1.value := by
  induction entries with
  | nil => exact List.pairwise_singleton _ _
  | cons first entries ih =>
      rcases List.pairwise_cons.mp descending with ⟨below, rest⟩
      rw [insertEntry]
      split
      · rename_i larger
        refine List.pairwise_cons.mpr ⟨?_, descending⟩
        intro entry member
        rcases List.mem_cons.mp member with rfl | old
        · exact larger
        · exact UInt32.lt_trans (below entry old) larger
      · rename_i notLarger
        split
        · rename_i same
          refine List.pairwise_cons.mpr ⟨?_, rest⟩
          intro entry member
          simpa [← same] using below entry member
        · rename_i different
          refine List.pairwise_cons.mpr ⟨?_, ih rest⟩
          intro entry member
          rcases mem_insertEntry member with rfl | old
          · refine UInt32.lt_of_le_of_ne
              (UInt32.not_lt.mp notLarger) fun equal => different ?_
            cases first with
            | mk number' value' =>
                cases number'
                cases number
                simp_all
          · exact below entry old

/-- The table with an entry under a number, in place of an earlier one. -/
def insert (table : PartTable α) (number : PartNumber) (value : α) :
    PartTable α :=
  ⟨insertEntry number value table.entries,
    pairwise_insertEntry number value table.descending⟩

/-- The entry under a number. -/
def find? (table : PartTable α) (number : PartNumber) : Option α :=
  (table.entries.find? fun entry => entry.1 = number).map (·.2)

/-- Holds when there is an entry under a number. -/
def contains (table : PartTable α) (number : PartNumber) : Bool :=
  (table.find? number).isSome

/-- How many entries there are. -/
def size (table : PartTable α) : Nat :=
  table.entries.length

/-- The entries in ascending order of their numbers. -/
def toList (table : PartTable α) : List (PartNumber × α) :=
  table.entries.reverse

/-- The numbers that have an entry, in ascending order. -/
def numbers (table : PartTable α) : List PartNumber :=
  table.toList.map (·.1)

/-- The table of a list; of two entries under one number the later stays. -/
def ofList (entries : List (PartNumber × α)) : PartTable α :=
  entries.foldl (fun table entry => table.insert entry.1 entry.2) empty

/-! ## What is found in a table -/

@[simp]
theorem find?_empty (number : PartNumber) :
    (empty : PartTable α).find? number = none :=
  rfl

theorem lookup_insertEntry
    (number : PartNumber) (value : α)
    (entries : List (PartNumber × α)) (other : PartNumber) :
    ((insertEntry number value entries).find?
        fun entry => entry.1 = other).map (·.2) =
      if other = number then some value
      else
        (entries.find? fun entry => entry.1 = other).map (·.2) := by
  induction entries with
  | nil => grind [insertEntry]
  | cons first entries ih => grind [insertEntry]

/-- A table with a new entry has it, and has the others as before. -/
@[simp]
theorem find?_insert
    (table : PartTable α) (number : PartNumber) (value : α)
    (other : PartNumber) :
    (table.insert number value).find? other =
      if other = number then some value else table.find? other :=
  lookup_insertEntry number value table.entries other

theorem find?_foldl_insert
    (entries : List (PartNumber × α)) (table : PartTable α)
    (number : PartNumber) :
    (entries.foldl
        (fun table entry => table.insert entry.1 entry.2)
        table).find? number =
      ((entries.reverse.find? fun entry => entry.1 = number).map
        (·.2)).or (table.find? number) := by
  induction entries generalizing table with
  | nil => simp
  | cons entry entries ih =>
      rw [List.foldl_cons, ih, find?_insert, List.reverse_cons,
        List.find?_append]
      cases entries.reverse.find? fun entry => entry.1 = number with
      | some found => simp
      | none => grind

/-- The table of a list has the last entry the list has for a number. -/
theorem find?_ofList
    (entries : List (PartNumber × α)) (number : PartNumber) :
    (ofList entries).find? number =
      (entries.reverse.find? fun entry => entry.1 = number).map
        (·.2) := by
  simp [ofList, find?_foldl_insert]

/-- Each entry that is listed is found under its number. -/
theorem find?_of_mem_toList {table : PartTable α} {number : PartNumber}
    {value : α} (member : (number, value) ∈ table.toList) :
    table.find? number = some value := by
  obtain ⟨entries, descending⟩ := table
  replace member : (number, value) ∈ entries := List.mem_reverse.mp member
  change (entries.find? fun entry => entry.1 = number).map (·.2) = _
  induction entries with
  | nil => cases member
  | cons first entries ih =>
      obtain ⟨below, rest⟩ := List.pairwise_cons.mp descending
      rcases List.mem_cons.mp member with rfl | later
      · rw [List.find?_cons_of_pos (by simp)]
        rfl
      · have other : first.1 ≠ number :=
          fun same => UInt32.lt_irrefl _ (same ▸ below _ later)
        rw [List.find?_cons_of_neg (by simpa using other)]
        exact ih rest later

/-- Each entry that is found under its number is listed. -/
theorem mem_toList_of_find? {table : PartTable α} {number : PartNumber}
    {value : α} (found : table.find? number = some value) :
    (number, value) ∈ table.toList := by
  obtain ⟨entry, first, rfl⟩ := Option.map_eq_some_iff.mp found
  obtain rfl : entry.1 = number := by simpa using List.find?_some first
  exact List.mem_reverse.mpr (List.mem_of_find?_eq_some first)

/-! ## The numbers in a table -/

@[simp]
theorem length_numbers (table : PartTable α) :
    table.numbers.length = table.size := by
  simp [numbers, toList, size]

/-- A table has its numbers in ascending order. -/
theorem pairwise_numbers (table : PartTable α) :
    table.numbers.Pairwise (·.value < ·.value) := by
  rw [numbers, toList, List.map_reverse, List.pairwise_reverse,
    List.pairwise_map]
  exact table.descending

/-- A table has no number twice. -/
theorem nodup_numbers (table : PartTable α) : table.numbers.Nodup := by
  refine table.pairwise_numbers.imp fun {left right} below same => ?_
  rw [same] at below
  exact UInt32.lt_irrefl _ below

/-- The numbers in a table are those under which something is found. -/
theorem mem_numbers {table : PartTable α} {number : PartNumber} :
    number ∈ table.numbers ↔ table.find? number ≠ none := by
  constructor
  · intro member
    obtain ⟨⟨_, value⟩, entry, rfl⟩ := List.mem_map.mp member
    rw [find?_of_mem_toList entry]
    exact Option.some_ne_none value
  · intro found
    obtain ⟨value, found⟩ := Option.ne_none_iff_exists'.mp found
    exact List.mem_map.mpr ⟨_, mem_toList_of_find? found, rfl⟩

end PartTable

end Multipart
