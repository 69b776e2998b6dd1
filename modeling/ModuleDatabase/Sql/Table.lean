import Mathlib.Data.List.AList
import ModuleDatabase.Base.Text

namespace ModuleDatabase
namespace Sql

open Text

/-!
# Tables of a database

A name of a table or of a column is the same name in upper and in lower
case; what identifies it is its key, the name folded.  A row gives a value,
or null, for each key.  Values are opaque.

What a table admits is part of its schema.  `accept` completes a row of which
only some columns are given, or rejects it, in view of the rows that are
already there.  Whatever checks and defaults it stands for, it keeps the
values that are given, and it keeps the primary keys apart.  The one null that
is not kept is that of an `INTEGER PRIMARY KEY`, which numbers the rows.
-/

/-- The values of a row, by the keys of its columns. -/
abbrev Row (V : Type) := String → Option V

/-- A column, as `PRAGMA table_info` shows it; `pk` is its number in the
primary key, or 0. -/
structure Column where
  name : String
  type : String
  notnull : Bool
  dflt_value : Option String
  pk : Nat
  deriving DecidableEq, Repr

namespace Column

def key (column : Column) : String := fold column.name

end Column

/-- The given values only. -/
def Row.only {V : Type} (given : List String) (row : Row V) : Row V :=
  fun key => if key ∈ given then row key else none

/-- The values of a list of columns. -/
def Row.project {V : Type} (names : List String) (row : Row V) : List (Option V) :=
  names.map fun name => row (fold name)

/-- No two rows agree on all columns of the primary key, unless one is null. -/
def KeysDiffer {V : Type} (primaryKey : List String) (rows : List (Row V)) : Prop :=
  rows.Pairwise fun first second =>
    primaryKey ≠ [] → (∀ key ∈ primaryKey, first key ≠ none) →
      ∃ key ∈ primaryKey, first key ≠ second key

/-- The keys of the columns that form the primary key. -/
def primaryKey (columns : List Column) : List String :=
  (columns.filter fun column => 0 < column.pk).map Column.key

/-- Columns, and what the table admits. -/
structure Schema (V : Type) where
  columns : List Column
  nonempty : columns ≠ []
  distinct : (columns.map Column.key).Nodup
  /-- The keys of columns that number the rows: a null is replaced there. -/
  numbered : List String
  /-- The column that numbers the rows says `AUTOINCREMENT`. -/
  autoincrement : Bool
  /-- `accept present given values`: the row that is stored. -/
  accept : List (Row V) → List String → Row V → Option (Row V)
  keeps : ∀ present given values row, accept present given values = some row →
    ∀ key ∈ given, (key ∈ numbered → values key ≠ none) → row key = values key
  numbers : ∀ present given values row, accept present given values = some row →
    ∀ key ∈ numbered, row key ≠ none
  apart : ∀ present given values row, KeysDiffer (primaryKey columns) present →
    accept present given values = some row →
    KeysDiffer (primaryKey columns) (present ++ [row])

namespace Schema

variable {V : Type}

/-- The names of the columns. -/
def names (schema : Schema V) : List String := schema.columns.map Column.name

/-- The table has a column of this name. -/
def has (schema : Schema V) (name : String) : Bool :=
  schema.columns.any fun column => column.key == fold name

/-- No null is to be replaced when these rows are stored. -/
def Stores (schema : Schema V) (names : List String) (values : List (Row V)) : Prop :=
  ∀ name ∈ names, fold name ∈ schema.numbered → ∀ row ∈ values, row (fold name) ≠ none

/-- Rows are inserted one after the other, and all of them or none. -/
def insertAll (schema : Schema V) (given : List String) :
    List (Row V) → List (Row V) → Option (List (Row V))
  | present, [] => some present
  | present, values :: rest =>
      match schema.accept present given (values.only given) with
      | none => none
      | some row => insertAll schema given (present ++ [row]) rest

end Schema

/-- A table with its rows. -/
structure Table (V : Type) where
  name : String
  schema : Schema V
  rows : List (Row V)
  apart : KeysDiffer (primaryKey schema.columns) rows

namespace Table

variable {V : Type}

/-- A new table. -/
def empty (name : String) (schema : Schema V) : Table V := ⟨name, schema, [], List.Pairwise.nil⟩

@[simp]
theorem empty_name (name : String) (schema : Schema V) : (empty name schema).name = name := rfl

@[simp]
theorem empty_schema (name : String) (schema : Schema V) : (empty name schema).schema = schema := rfl

@[simp]
theorem empty_rows (name : String) (schema : Schema V) : (empty name schema).rows = [] := rfl

/-- The table without its rows. -/
def clear (table : Table V) : Table V := empty table.name table.schema

/-- What a change of rows leaves as it is. -/
def shape (table : Table V) : String × Schema V := (table.name, table.schema)

end Table

/-! ## Rows -/

section Rows

variable {V : Type}

theorem Row.only_of_mem {given : List String} {key : String} (member : key ∈ given)
    (row : Row V) : row.only given key = row key := if_pos member

theorem Row.project_congr {names : List String} {first second : Row V}
    (agree : ∀ name ∈ names, first (fold name) = second (fold name)) :
    first.project names = second.project names :=
  List.map_congr_left agree

theorem keysDiffer_nil (key : List String) : KeysDiffer key ([] : List (Row V)) :=
  List.Pairwise.nil

/-- Rows with a key of one column differ there, or are null. -/
theorem KeysDiffer.single {key : String} {rows : List (Row V)} (differ : KeysDiffer [key] rows) :
    rows.Pairwise fun first second => second key = none ∨ first key ≠ second key := by
  apply differ.imp
  intro first second apart
  by_cases null : first key = none
  · rw [null]
    cases second key with
    | none => exact Or.inl rfl
    | some value => exact Or.inr (Option.some_ne_none value).symm
  · have whole : ∀ other ∈ [key], first other ≠ none := by
      intro other member
      rw [List.mem_singleton.mp member]
      exact null
    rcases apart (List.cons_ne_nil _ _) whole with ⟨other, member, different⟩
    rw [List.mem_singleton.mp member] at different
    exact Or.inr different

/-- Inserting keeps the primary keys apart. -/
theorem Schema.insertAll_apart (schema : Schema V) (given : List String)
    {present values rows : List (Row V)} (apart : KeysDiffer (primaryKey schema.columns) present)
    (inserted : schema.insertAll given present values = some rows) :
    KeysDiffer (primaryKey schema.columns) rows := by
  induction values generalizing present with
  | nil =>
      cases inserted
      exact apart
  | cons value rest ih =>
      rw [Schema.insertAll] at inserted
      cases accepted : schema.accept present given (value.only given) with
      | none =>
          rw [accepted] at inserted
          cases inserted
      | some row =>
          rw [accepted] at inserted
          exact ih (schema.apart present given _ row apart accepted) inserted

/-- The rows that were there stay, and the new ones have the given values. -/
theorem Schema.insertAll_project (schema : Schema V) {given names : List String}
    (among : ∀ name ∈ names, fold name ∈ given) {present values rows : List (Row V)}
    (stores : schema.Stores names values)
    (inserted : schema.insertAll given present values = some rows) :
    ∃ stored, rows = present ++ stored ∧
      stored.map (Row.project names) = values.map (Row.project names) := by
  induction values generalizing present with
  | nil =>
      cases inserted
      exact ⟨[], (List.append_nil _).symm, rfl⟩
  | cons value rest ih =>
      rw [Schema.insertAll] at inserted
      cases accepted : schema.accept present given (value.only given) with
      | none =>
          rw [accepted] at inserted
          cases inserted
      | some row =>
          rw [accepted] at inserted
          have later : schema.Stores names rest := fun name member numbered row inside =>
            stores name member numbered row (List.mem_cons_of_mem _ inside)
          rcases ih later inserted with ⟨stored, split, projected⟩
          refine ⟨row :: stored, ?_, ?_⟩
          · rw [split, List.append_assoc, List.singleton_append]
          · rw [List.map_cons, List.map_cons, projected]
            congr 1
            apply Row.project_congr
            intro name member
            have same : value.only given (fold name) = value (fold name) :=
              Row.only_of_mem (among name member) value
            have kept := schema.keeps present given _ row accepted (fold name) (among name member)
              fun numbered => by rw [same]; exact stores name member numbered value List.mem_cons_self
            rw [kept, same]

/-- The new rows are numbered. -/
theorem Schema.insertAll_numbers (schema : Schema V) {given : List String}
    {present values rows : List (Row V)}
    (inserted : schema.insertAll given present values = some rows) :
    ∃ stored, rows = present ++ stored ∧ stored.length = values.length ∧
      ∀ key ∈ schema.numbered, ∀ row ∈ stored, row key ≠ none := by
  induction values generalizing present with
  | nil =>
      cases inserted
      refine ⟨[], (List.append_nil _).symm, rfl, ?_⟩
      intro key _ row member
      cases member
  | cons value rest ih =>
      rw [Schema.insertAll] at inserted
      cases accepted : schema.accept present given (value.only given) with
      | none =>
          rw [accepted] at inserted
          cases inserted
      | some row =>
          rw [accepted] at inserted
          rcases ih inserted with ⟨stored, split, count, numbered⟩
          refine ⟨row :: stored, ?_, ?_, ?_⟩
          · rw [split, List.append_assoc, List.singleton_append]
          · rw [List.length_cons, List.length_cons, count]
          · intro key member other inside
            rcases List.mem_cons.mp inside with same | inside
            · rw [same]
              exact schema.numbers present given _ row accepted key member
            · exact numbered key member other inside

/-- As many rows are added as are given. -/
theorem Schema.insertAll_length (schema : Schema V) {given : List String}
    {present values rows : List (Row V)}
    (inserted : schema.insertAll given present values = some rows) :
    rows.length = present.length + values.length := by
  rcases schema.insertAll_numbers inserted with ⟨stored, split, count, -⟩
  rw [split, List.length_append, count]

/-- Only the given values of the new rows matter. -/
theorem Schema.insertAll_congr (schema : Schema V) {given : List String}
    {first second : List (Row V)}
    (agree : first.map (Row.only given) = second.map (Row.only given)) (present : List (Row V)) :
    schema.insertAll given present first = schema.insertAll given present second := by
  induction first generalizing second present with
  | nil =>
      have empty : second = [] := List.map_eq_nil_iff.mp agree.symm
      rw [empty]
  | cons value rest ih =>
      cases second with
      | nil => cases agree
      | cons other others =>
          rw [List.map_cons, List.map_cons, List.cons.injEq] at agree
          rw [Schema.insertAll, Schema.insertAll, agree.1]
          cases schema.accept present given (other.only given) with
          | none => rfl
          | some row => exact ih agree.2 _

end Rows

end Sql
end ModuleDatabase
