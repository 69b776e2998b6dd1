import ModuleDatabase.Migration.Loss

namespace ModuleDatabase
namespace Migration

open Text
open Sql

/-!
# A backup of an earlier upgrade

An upgrade that failed may have left `t_TEMP` behind.  The statement that
creates the backup of `t` then does nothing, and the next one appends the rows
of `t` to those that are there, or is refused by the old columns or the old
rows.  The branch that clears such a table asks whether the listed name itself
ends in `_TEMP`, so it is not taken for `t`.

Two runs are compared: one from the database as it is, and one from the
database without `t_TEMP`.  What they leave in `t` differs in the backup of `t`
only, for the other tables and their backups are the same in both.  The rows
that are appended are as many as those of `t`; this is why a leftover that
takes them must have been empty.  One that does not take them is restored in
their place, and must have held the same rows.
-/

variable {V : Type}

/-- The rows of a table, on its own columns. -/
def rowsOf (found : Option (Table V)) : List (List (Option V)) :=
  found.elim [] fun table => table.rows.map (Row.project table.schema.names)

/-- Two tables hold the same rows. -/
def SameRows (first second : Option (Table V)) : Prop := (rowsOf first).Perm (rowsOf second)

/-- What is found under the name of a backup, if it is called exactly so. -/
def exactly (name : String) (temp : Option (Table V)) : Option (Table V) :=
  temp.filter fun made => made.name == tempOf name

/-- A table that is created again, after its restoring `INSERT`. -/
def carriedFrom (engine : Engine V) (name : String) (target temp : Option (Table V)) :
    Option (Table V) :=
  (exactly name temp).bind (restoredFrom engine name target)

/-- A backup is there, and the restoring `INSERT` throws. -/
def throwsFrom (engine : Engine V) (name : String) (target temp : Option (Table V)) : Bool :=
  (exactly name temp).isSome && (carriedFrom engine name target temp).isNone

/-- The restoring `INSERT` of one of these tables throws. -/
def blocked (engine : Engine V) (sqls : KtAutoSqls) (dbName : String) (tables : List String)
    (db : Database V) (before : List String) : Bool :=
  before.any fun earlier => throwsFrom engine earlier
    (recreated engine sqls dbName tables earlier) (remaining engine sqls dbName tables db earlier)

/-- A leftover to which the rows of the old table have been appended; none if it
does not take them, or if there is no old table. -/
def appended (engine : Engine V) (leftover : Table V) (old : Option (Table V)) :
    Option (Table V) :=
  old.bind fun old =>
    if engine.fails 0 (createText (tempOf old.name) (old.schema.columns.map backupDef)) then none
    else filledBackup engine (some leftover) old

/-- The lists and databases considered: plain names that differ and are not called
like backups, columns with plain names, and a configuration that creates tables. -/
structure Comparable (engine : Engine V) (sqls : KtAutoSqls) (dbName : String)
    (tables : List String) (db : Database V) : Prop where
  listing : Listing engine tables
  creating : Creating engine (configured sqls dbName)
  copyable : Copyable engine db tables
  plainTargets : ∀ name ∈ tables, ∀ target,
    recreated engine sqls dbName tables name = some target →
      ∀ column ∈ target.schema.names, engine.Plain column

/-- The leftover takes the rows of the table. -/
def TakesOver (engine : Engine V) (leftover old : Table V) : Prop :=
  engine.fails 0 (createText (tempOf old.name) (old.schema.columns.map backupDef)) = false ∧
    (filledBackup engine (some leftover) old).isSome = true

/-- The leftover does as well as a new backup: it has the columns of the table, and
is empty and takes its rows, or does not take them and has the same rows. -/
structure Serves (engine : Engine V) (name : String) (leftover old : Table V) : Prop where
  called : leftover.name = tempOf name
  columns : leftover.schema.names = old.schema.names
  numbers : Numbers engine old
  works : engine.fails 0
    (createText (tempOf old.name) (old.schema.columns.map backupDef)) = false
  backs : (filledBackup engine none old).isSome = true
  rows : TakesOver engine leftover old ∧ leftover.rows = [] ∧
      leftover.schema.Stores (backupColumns old.schema.names) old.rows ∨
    ¬ TakesOver engine leftover old ∧
      leftover.rows.map (Row.project (backupColumns old.schema.names)) =
        old.rows.map (Row.project (backupColumns old.schema.names))

theorem SameRows.refl (found : Option (Table V)) : SameRows found found := List.Perm.refl _

theorem rowsOf_of_empty {found : Option (Table V)}
    (empty : ∀ table, found = some table → table.rows = []) : rowsOf found = [] := by
  cases found with
  | none => rfl
  | some table =>
      show table.rows.map _ = []
      rw [empty table rfl, List.map_nil]

/-! ## What is carried back -/

section Carrying

variable {engine : Engine V} {name : String} {target : Option (Table V)}
  (empty : ∀ table, target = some table → table.rows = [])

end Carrying

/-! ## A leftover that takes the old rows -/

section Appending

variable {engine : Engine V} {leftover old mixed : Table V}

theorem appended_eq_some_iff {found : Option (Table V)} :
    appended engine leftover found = some mixed ↔ ∃ old, found = some old ∧
      engine.fails 0 (createText (tempOf old.name) (old.schema.columns.map backupDef)) = false ∧
        filledBackup engine (some leftover) old = some mixed := by
  rw [appended, Option.bind_eq_some_iff]
  apply exists_congr
  intro old
  apply and_congr_right
  intro _
  cases engine.fails 0 (createText (tempOf old.name) (old.schema.columns.map backupDef)) with
  | true =>
      rw [if_pos rfl, iff_false_right (fun both => Bool.false_ne_true both.1.symm)]
      exact Option.some_ne_none _ |>.symm
  | false => rw [if_neg Bool.false_ne_true, and_iff_right rfl]

/-- The first phase leaves a leftover with the old rows behind its own, or as it
was. -/
theorem backedUp_of_leftover {db : Database V} {name : String}
    (present : db.find (tempOf name) = some leftover) :
    backedUp engine db name =
      some ((appended engine leftover (db.named name)).getD leftover) := by
  rw [backedUp, present]
  cases db.named name with
  | none => rfl
  | some old =>
      show backupOf engine (some leftover) old = _
      rw [backupOf, appended, Option.bind_some]
      split
      · rfl
      · rfl

theorem length_of_filled {base : Option (Table V)}
    (fills : filledBackup engine base old = some mixed) :
    mixed.rows.length = (backupBase engine base old).rows.length + old.rows.length :=
  Table.copyFrom_length (Engine.copyFrom_of_copied fills)

end Appending

/-! ## Two runs -/

section Runs

variable {engine : Engine V} {sqls : KtAutoSqls} {dbName : String} {tables : List String}

/-- What is carried over has plain names, if the new columns have. -/
theorem plainShared_of_targets
    (plainTargets : ∀ name ∈ tables, ∀ target,
      recreated engine sqls dbName tables name = some target →
      ∀ column ∈ target.schema.names, engine.Plain column)
    {db : Database V} (mid : Database V) (halfway : Halfway engine sqls dbName tables db mid) :
    PlainShared engine mid tables := by
  intro table among backup named column inside
  rw [halfway.table table among] at inside
  cases makes : recreated engine sqls dbName tables table with
  | none =>
      rw [makes] at inside
      exact absurd inside List.not_mem_nil
  | some target =>
      rw [makes] at inside
      exact plainTargets table among target makes column (mem_sharedColumns.mp inside).1

end Runs

/-! ## A leftover that serves -/

section Serving

variable {engine : Engine V} {name : String} {leftover old made mixed target : Table V}

end Serving

section Small

open Sql.Reference

end Small

end Migration
end ModuleDatabase
