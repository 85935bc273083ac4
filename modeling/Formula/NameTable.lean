set_option autoImplicit false

/-!
# Tables keyed by name

A table holds one entry for each name, in the order of the names by code points. Writing under a
name that is there already replaces its entry.

## Main definitions

* `Formula.NameTable` — the type; the order of the names is part of it.
* `Formula.NameTable.insert`, `erase`, `find?`, `contains`, `names`, `values`.

## Main results

* `Formula.NameTable.find?_insert`, `find?_erase` — what is found after writing and erasing.
-/

namespace Formula

/-- Entries in strictly increasing order of their names. -/
structure NameTable (α : Type) where
  /-- The names with what is registered by them. -/
  entries : List (String × α)
  /-- No name comes twice, and they increase. -/
  sorted : (entries.map Prod.fst).Pairwise (· < ·)

namespace NameTable

variable {α : Type}

/-- The table without entries. -/
def empty : NameTable α := ⟨[], List.Pairwise.nil⟩

/-- The empty table. -/
instance : Inhabited (NameTable α) := ⟨empty⟩

/-- Writes an entry into a sorted list of entries. -/
def insertEntry (name : String) (value : α) : List (String × α) → List (String × α)
  | [] => [(name, value)]
  | entry :: rest =>
    if name < entry.1 then (name, value) :: entry :: rest
    else if name = entry.1 then (name, value) :: rest
    else entry :: insertEntry name value rest

/-- The names after writing an entry are the written one and those that were there. -/
theorem mem_names_insertEntry {name other : String} {value : α} {entries : List (String × α)} :
    other ∈ (insertEntry name value entries).map Prod.fst ↔
      other = name ∨ other ∈ entries.map Prod.fst := by
  induction entries with
  | nil => simp [insertEntry]
  | cons entry rest ih =>
    unfold insertEntry
    split
    · simp
    · split
      · rename_i h; simp [h]
      · simp only [List.map_cons, List.mem_cons, ih]
        constructor <;> rintro (h | h | h) <;> simp [h]

/-- Writing an entry keeps the order. -/
theorem sorted_insertEntry (name : String) (value : α) (entries : List (String × α))
    (sorted : (entries.map Prod.fst).Pairwise (· < ·)) :
    ((insertEntry name value entries).map Prod.fst).Pairwise (· < ·) := by
  induction entries with
  | nil => simp [insertEntry]
  | cons entry rest ih =>
    rw [List.map_cons, List.pairwise_cons] at sorted
    unfold insertEntry
    split
    · rename_i h
      simp only [List.map_cons, List.pairwise_cons, List.mem_cons]
      refine ⟨?_, sorted.1, sorted.2⟩
      rintro other (rfl | member)
      · exact h
      · exact String.lt_trans h (sorted.1 other member)
    · split
      · rename_i h
        simp only [List.map_cons, List.pairwise_cons]
        exact ⟨fun other member => h ▸ sorted.1 other member, sorted.2⟩
      · rename_i notBefore notSame
        simp only [List.map_cons, List.pairwise_cons]
        refine ⟨fun other member => ?_, ih sorted.2⟩
        rcases mem_names_insertEntry.1 member with rfl | member
        · have le := String.not_lt.1 notBefore
          by_cases lt : entry.1 < other
          · exact lt
          · exact absurd (String.le_antisymm (String.not_lt.1 lt) le) notSame
        · exact sorted.1 other member

/-- The table with an entry written under a name. -/
def insert (table : NameTable α) (name : String) (value : α) : NameTable α :=
  ⟨insertEntry name value table.entries, sorted_insertEntry name value _ table.sorted⟩

/-- The table without the entry of a name. -/
def erase (table : NameTable α) (name : String) : NameTable α :=
  ⟨table.entries.filter (·.1 != name),
    table.sorted.sublist (List.filter_sublist.map Prod.fst)⟩

/-- The entry of a name. -/
def find? (table : NameTable α) (name : String) : Option α :=
  (table.entries.find? (·.1 == name)).map Prod.snd

/-- Whether a name has an entry. -/
def contains (table : NameTable α) (name : String) : Bool :=
  table.entries.any (·.1 == name)

/-- The names, in increasing order. -/
def names (table : NameTable α) : List String := table.entries.map Prod.fst

/-- The entries, in the order of their names. -/
def values (table : NameTable α) : List α := table.entries.map Prod.snd

/-! ## Looking entries up -/

/-- Nothing is found in the empty table. -/
@[simp] theorem find?_empty (name : String) : (empty : NameTable α).find? name = none := rfl

/-- The written entry is found under its name, every other one as before. -/
theorem find?_insert (table : NameTable α) (name other : String) (value : α) :
    (table.insert name value).find? other =
      if other = name then some value else table.find? other := by
  obtain ⟨entries, sorted⟩ := table
  simp only [find?, insert]
  clear sorted
  by_cases same : other = name
  · subst same
    induction entries with
    | nil => simp [insertEntry]
    | cons entry rest ih =>
      unfold insertEntry
      split
      · simp
      · split
        · simp
        · rename_i differs
          simpa [List.find?_cons, beq_eq_false_iff_ne.2 (Ne.symm differs)] using ih
  · have differs : (name == other) = false := beq_eq_false_iff_ne.2 (Ne.symm same)
    simp only [same, if_false]
    induction entries with
    | nil => simp [insertEntry, differs]
    | cons entry rest ih =>
      unfold insertEntry
      split
      · simp [List.find?_cons, differs]
      · split
        · rename_i equal
          simp [differs, ← equal]
        · cases found : entry.1 == other <;> simp [found, ih]

/-- The entry of an erased name is gone, every other one is there as before. -/
theorem find?_erase (table : NameTable α) (name other : String) :
    (table.erase name).find? other = if other = name then none else table.find? other := by
  obtain ⟨entries, sorted⟩ := table
  simp only [find?, erase]
  clear sorted
  induction entries with
  | nil => simp
  | cons entry rest ih =>
    by_cases same : entry.1 = other <;> by_cases gone : entry.1 = name <;>
      simp_all

/-- A name has an entry exactly when one is found. -/
theorem contains_eq_isSome_find? (table : NameTable α) (name : String) :
    table.contains name = (table.find? name).isSome := by
  simp [contains, find?, List.isSome_find?]

/-- The names are those that have an entry. -/
theorem mem_names (table : NameTable α) (name : String) :
    name ∈ table.names ↔ table.contains name = true := by
  simp [names, contains]

/-! ## Size -/

/-- The number of entries. -/
def size (table : NameTable α) : Nat := table.entries.length

/-- Whether the table has no entries. -/
def isEmpty (table : NameTable α) : Bool := table.entries.isEmpty

end NameTable

end Formula
