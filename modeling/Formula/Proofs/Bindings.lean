import Formula.Variables
import Mathlib.Data.List.Induction
import Mathlib.Data.String.Basic

set_option autoImplicit false

/-!
# The two tables of bindings are one map

Numbers and texts are kept in tables of their own. Seen from outside there is one map from names to
values all the same: a name has the value that it was given last, as a number or as a text, and
nothing of what it was given before is left in the other table. Every write drops the name from the
table that it does not go to, so the two tables never share a name.

Tables in which the same is found are equal. So the bindings that a list of assignments leaves
depend on the last value of each name only, and on nothing else of their order.

## Main definitions

* `Formula.Assignment` — a name and the value that it is given.
* `Formula.lastValue?` — the value that a name is given last.
* `Formula.Variables.Origin` — what bindings start with.
* `Formula.Variables.assign`, `assignAll` — the bindings after assignments.
* `Formula.Variables.Represents` — the two tables hold the values of one map.
* `Formula.Variables.Records` — everything that bindings tell about a list of assignments.

## Main results

* `Formula.NameTable.ext_find?` — tables in which the same is found are equal.
* `Formula.Variables.Represents.assign` — an assignment changes the map at one name.
* `Formula.Variables.represents_assignAll` — a list of assignments leaves the last values.
* `Formula.Variables.tables_behave_as_one_map` — what bindings tell after every list of
  assignments, and that assignments to different names commute.
-/

namespace Formula

/-! ## Tables -/

namespace NameTable

variable {α : Type}

/-- The entries of a table are what is found in it. -/
lemma mem_entries_iff {table : NameTable α} {name : String} {value : α} :
    (name, value) ∈ table.entries ↔ table.find? name = some value := by
  obtain ⟨entries, sorted⟩ := table
  rw [find?]
  dsimp only
  induction entries with
  | nil => simp
  | cons entry rest ih =>
    rw [List.map_cons, List.pairwise_cons] at sorted
    rw [List.mem_cons, List.find?_cons]
    split
    case h_1 found =>
      obtain rfl : entry.1 = name := beq_iff_eq.1 found
      -- the names behind the entry are all larger
      have absent : (entry.1, value) ∉ rest := fun member =>
        lt_irrefl _ (sorted.1 entry.1 (List.mem_map.2 ⟨_, member, rfl⟩))
      simp [absent, Prod.ext_iff, eq_comm]
    case h_2 differs =>
      have apart : (name, value) ≠ entry := fun same => by simp [← same] at differs
      rw [← ih sorted.2, or_iff_right apart]

/-- **Tables in which the same is found are equal**: they have the same entries, and the order of
the names leaves no choice. -/
theorem ext_find? {table other : NameTable α}
    (same : ∀ name, table.find? name = other.find? name) : table = other := by
  have ordered : ∀ t : NameTable α, t.entries.Pairwise (·.1 < ·.1) := fun t =>
    List.pairwise_map.1 t.sorted
  have distinct : ∀ t : NameTable α, t.entries.Nodup := fun t =>
    (ordered t).imp fun less => ne_of_apply_ne Prod.fst less.ne
  have entries : table.entries = other.entries := by
    refine List.Perm.eq_of_pairwise (fun a b _ _ less greater => absurd less greater.asymm)
      (ordered table) (ordered other)
      ((List.perm_ext_iff_of_nodup (distinct table) (distinct other)).2 ?_)
    rintro ⟨name, value⟩
    rw [mem_entries_iff, mem_entries_iff, same]
  obtain ⟨_, _⟩ := table
  obtain ⟨_, _⟩ := other
  obtain rfl : _ = _ := entries
  rfl

end NameTable

/-! ## Assignments -/

/-- A name and the value that it is given: a number, or a text in its written form. -/
structure Assignment where
  name : String
  value : Value
deriving DecidableEq

/-- The value that a name is given last in a list of assignments, if it is given one. -/
def lastValue? (assignments : List Assignment) (name : String) : Option Value :=
  ((assignments.filter (·.name == name)).getLast?).map Assignment.value

/-- Without assignments no name has a value. -/
@[simp] lemma lastValue?_nil (name : String) : lastValue? [] name = none := rfl

/-- The last assignment gives its name a value, and the others keep theirs. -/
lemma lastValue?_concat (assignments : List Assignment) (last : Assignment) (name : String) :
    lastValue? (assignments ++ [last]) name =
      if name = last.name then some last.value else lastValue? assignments name := by
  rw [lastValue?, List.filter_append]
  split
  case isTrue same => simp [same]
  case isFalse differs => simp [Ne.symm differs, lastValue?]

/-- The names that are given values are those of the assignments. -/
lemma isSome_lastValue?_iff {assignments : List Assignment} {name : String} :
    (lastValue? assignments name).isSome = true ↔ ∃ made ∈ assignments, made.name = name := by
  rw [lastValue?, Option.isSome_map, List.getLast?_isSome, Ne, List.filter_eq_nil_iff]
  simp

namespace Variables

/-- The bindings after an assignment. -/
def assign (bindings : Variables) (made : Assignment) : Variables :=
  match made.value with
  | .decimal number => bindings.setNumber made.name number
  | .text written => bindings.setText made.name written

/-- The bindings after a list of assignments, one after the other. -/
def assignAll (bindings : Variables) (assignments : List Assignment) : Variables :=
  assignments.foldl assign bindings

/-- What bindings start with: with nothing, or with the constants. -/
inductive Origin where
  | empty
  | constants
deriving DecidableEq

/-- The bindings at the start. -/
def Origin.bindings : Origin → Variables
  | empty => .empty
  | constants => .constants

/-- The assignments that have been made at the start. -/
def Origin.assignments : Origin → List Assignment
  | empty => []
  | constants => [⟨"true", .decimal .one⟩, ⟨"false", .decimal .zero⟩]

/-- The bindings at the start are those after the assignments at the start. -/
lemma Origin.bindings_eq (origin : Origin) :
    origin.bindings = Variables.empty.assignAll origin.assignments := by
  cases origin <;> rfl

/-! ## One map in two tables -/

/-- The two tables hold the values of one map: the numbers in the one, the texts in the other. -/
def Represents (bindings : Variables) (map : String → Option Value) : Prop :=
  ∀ name, bindings.number? name = (map name).bind Value.decimal? ∧
    bindings.text? name = (map name).bind Value.text?

variable {bindings other : Variables} {map : String → Option Value}

/-- Empty tables hold the map without values. -/
lemma represents_empty : Variables.empty.Represents fun _ => none := fun _ => ⟨rfl, rfl⟩

/-- **An assignment changes the map at one name.** Whichever table the value goes to, the name is
dropped from the other one. -/
theorem Represents.assign (represents : bindings.Represents map) (made : Assignment) :
    (bindings.assign made).Represents fun name =>
      if name = made.name then some made.value else map name := by
  intro name
  obtain ⟨number, text⟩ := represents name
  obtain ⟨target, value⟩ := made
  rw [number?] at number
  rw [text?] at text
  cases value with
  | decimal _ =>
    simp only [Variables.assign, setNumber, number?, text?, NameTable.find?_insert,
      NameTable.find?_erase]
    split
    · exact ⟨rfl, rfl⟩
    · exact ⟨number, text⟩
  | text _ =>
    simp only [Variables.assign, setText, number?, text?, NameTable.find?_insert,
      NameTable.find?_erase]
    split
    · exact ⟨rfl, rfl⟩
    · exact ⟨number, text⟩

/-- **A list of assignments leaves the last value of each name.** -/
theorem represents_assignAll (assignments : List Assignment) :
    (Variables.empty.assignAll assignments).Represents (lastValue? assignments) := by
  induction assignments using List.reverseRecOn with
  | nil => exact represents_empty
  | append_singleton assignments last ih =>
    rw [assignAll, List.foldl_concat, funext (lastValue?_concat assignments last)]
    exact ih.assign last

/-- The map determines the tables. -/
lemma Represents.eq (represents : bindings.Represents map) (same : other.Represents map) :
    bindings = other := by
  obtain ⟨numbers, texts⟩ := bindings
  obtain ⟨_, _⟩ := other
  obtain rfl : numbers = _ := NameTable.ext_find? fun name =>
    (represents name).1.trans (same name).1.symm
  obtain rfl : texts = _ := NameTable.ext_find? fun name =>
    (represents name).2.trans (same name).2.symm
  rfl

/-- A name is in the one table or in the other, as its value is a number or a text. -/
lemma Represents.exclusive (represents : bindings.Represents map) (name : String) :
    ¬ (bindings.numbers.contains name = true ∧ bindings.texts.contains name = true) := by
  obtain ⟨number, text⟩ := represents name
  rw [number?] at number
  rw [text?] at text
  rw [NameTable.contains_eq_isSome_find?, NameTable.contains_eq_isSome_find?, number, text]
  cases map name with
  | none => exact fun both => nomatch both.1
  | some value =>
    cases value with
    | decimal => exact fun both => nomatch both.2
    | text => exact fun both => nomatch both.1

/-- The bound names are those that have a value. -/
lemma Represents.contains_eq (represents : bindings.Represents map) (name : String) :
    bindings.contains name = (map name).isSome := by
  obtain ⟨number, text⟩ := represents name
  rw [number?] at number
  rw [text?] at text
  rw [contains, NameTable.contains_eq_isSome_find?, NameTable.contains_eq_isSome_find?, number,
    text]
  cases map name with
  | none => rfl
  | some value => cases value <;> rfl

/-- All bound names are listed. -/
lemma mem_names_iff {name : String} : name ∈ bindings.names ↔ bindings.contains name = true := by
  rw [names, List.mem_merge, NameTable.mem_names, NameTable.mem_names, contains, Bool.or_eq_true]

/-- **The bound names are listed in increasing order, each once**, since the two tables are in order
and share no name. -/
theorem Represents.pairwise_names (represents : bindings.Represents map) :
    bindings.names.Pairwise (· < ·) := by
  have ordered : bindings.names.Pairwise (· ≤ ·) := by
    have merged := @List.pairwise_merge String (fun a b => decide (a ≤ b))
      (fun a b c => by simpa using le_trans) (fun a b => by simpa using le_total a b)
      bindings.numbers.names bindings.texts.names
      (bindings.numbers.sorted.imp fun less => by simpa using less.le)
      (bindings.texts.sorted.imp fun less => by simpa using less.le)
    exact merged.imp fun less => by simpa using less
  have once : bindings.names.Nodup := by
    refine (List.merge_perm_append _).nodup_iff.2 (List.nodup_append.2 ⟨?_, ?_, ?_⟩)
    · exact bindings.numbers.sorted.imp ne_of_lt
    · exact bindings.texts.sorted.imp ne_of_lt
    · rintro name number _ text rfl
      exact represents.exclusive name
        ⟨(NameTable.mem_names _ _).1 number, (NameTable.mem_names _ _).1 text⟩
  exact ordered.imp₂ (fun _ _ => lt_of_le_of_ne) once

/-! ## What bindings tell -/

/-- What bindings tell about the assignments that have been made. -/
structure Records (bindings : Variables) (assignments : List Assignment) : Prop where
  /-- No name is in both tables. -/
  exclusive : ∀ name,
    ¬ (bindings.numbers.contains name = true ∧ bindings.texts.contains name = true)
  /-- A name has a number exactly if that is its last value. -/
  number : ∀ name, bindings.number? name = (lastValue? assignments name).bind Value.decimal?
  /-- A name has a text exactly if that is its last value. -/
  text : ∀ name, bindings.text? name = (lastValue? assignments name).bind Value.text?
  /-- The bound names are those that were given a value. -/
  contains : ∀ name, bindings.contains name = true ↔ ∃ made ∈ assignments, made.name = name
  /-- The names are listed in the order of their code points, each once. -/
  increasing : bindings.names.Pairwise (· < ·)
  /-- The listed names are those that were given a value. -/
  listed : ∀ name, name ∈ bindings.names ↔ ∃ made ∈ assignments, made.name = name

/-- Tables that hold the map of the last values tell all about the assignments. -/
lemma Represents.records {assignments : List Assignment}
    (represents : bindings.Represents (lastValue? assignments)) :
    bindings.Records assignments where
  exclusive := represents.exclusive
  number name := (represents name).1
  text name := (represents name).2
  contains name := by rw [represents.contains_eq, isSome_lastValue?_iff]
  increasing := represents.pairwise_names
  listed name := by rw [mem_names_iff, represents.contains_eq, isSome_lastValue?_iff]

/-- After further assignments the tables hold the last values of all assignments. -/
lemma Origin.represents_assignAll (origin : Origin) (assignments : List Assignment) :
    (origin.bindings.assignAll assignments).Represents
      (lastValue? (origin.assignments ++ assignments)) := by
  rw [origin.bindings_eq, assignAll, assignAll, ← List.foldl_append]
  exact Variables.represents_assignAll _

/-- **The two tables behave as one map.** After every list of assignments, from no bindings or from
the constants, the tables share no name, a name has its last value and no other one, and the names
that were given values are bound and are listed in increasing order. Lists of assignments that give
each name the same last value leave the same bindings; so do two assignments to different names in
both orders. -/
theorem tables_behave_as_one_map (origin : Origin) (assignments : List Assignment) :
    (origin.bindings.assignAll assignments).Records (origin.assignments ++ assignments) ∧
      (∀ others, (∀ name, lastValue? (origin.assignments ++ assignments) name =
          lastValue? (origin.assignments ++ others) name) →
        origin.bindings.assignAll assignments = origin.bindings.assignAll others) ∧
      ∀ first second : Assignment, first.name ≠ second.name →
        origin.bindings.assignAll (assignments ++ [first, second]) =
          origin.bindings.assignAll (assignments ++ [second, first]) := by
  have determined : ∀ {these others : List Assignment},
      (∀ name, lastValue? (origin.assignments ++ these) name =
        lastValue? (origin.assignments ++ others) name) →
      origin.bindings.assignAll these = origin.bindings.assignAll others := by
    intro these others same
    have represents := origin.represents_assignAll others
    rw [← funext same] at represents
    exact (origin.represents_assignAll these).eq represents
  refine ⟨(origin.represents_assignAll assignments).records, fun _ => determined, ?_⟩
  intro first second apart
  have split : ∀ a b : Assignment, origin.assignments ++ (assignments ++ [a, b]) =
      origin.assignments ++ assignments ++ [a] ++ [b] := fun a b => by simp
  refine determined fun name => ?_
  rw [split, split, lastValue?_concat, lastValue?_concat, lastValue?_concat, lastValue?_concat]
  by_cases isFirst : name = first.name
  · rw [if_neg (isFirst ▸ apart), if_pos isFirst, if_pos isFirst]
  · rw [if_neg isFirst, if_neg isFirst]

/-- A name goes from the numbers to the texts, and the order of the names is that of their code
points. -/
example : Variables.names (.assignAll .constants
    [⟨"é", .decimal .one⟩, ⟨"Z", .text "''"⟩, ⟨"é", .text "'e'"⟩]) =
      ["Z", "false", "true", "é"] := by
  cbv

end Variables

end Formula
