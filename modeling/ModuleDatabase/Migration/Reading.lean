import ModuleDatabase.Migration.Helper

namespace ModuleDatabase
namespace Migration

open Text
open Sql

/-!
# What the migration reads from the catalog

For a plain name the three catalog functions never throw, and they leave the
connection as it is.  `tableIsExist` compares names letter for letter, the
other two as statements do.
-/

/-- What the migration sees of the columns of a table. -/
def migratesOf (columns : List Column) : List Migrate :=
  columns.zipIdx.map fun (column, cid) => Migrate.ofColumn cid column

/-- The definition that stands in the text of the backup for a column. -/
def backupDef (column : Column) : ColumnDef where
  name := column.name
  type := column.type
  default0 := column.type == "INTEGER" && !decide (column.pk = 1)
  primaryKey := decide (column.pk = 1)

/-- A number is written `1` only if it is 1. -/
theorem repr_eq_one (n : Nat) : toString n = "1" ↔ n = 1 := by
  constructor
  · intro written
    have digits := congrArg String.toList written
    rw [Nat.toString_eq_repr, Nat.toList_repr] at digits
    have value := Nat.ofDigitChars_toDigits (b := 10) (n := n) (by decide) (by decide)
    rw [digits] at value
    rw [← value]
    decide
  · intro one
    rw [one]
    decide

theorem migratesOf_names (columns : List Column) :
    (migratesOf columns).map Migrate.name = columns.map Column.name := by
  unfold migratesOf
  rw [List.map_map]
  have same : (Migrate.name ∘ fun (column, cid) => Migrate.ofColumn cid column) =
      Column.name ∘ (Prod.fst : Column × Nat → Column) := rfl
  rw [same, ← List.map_map, List.zipIdx_map_fst]

theorem definition_ofColumn (cid : Nat) (column : Column) :
    (Migrate.ofColumn cid column).definition = backupDef column := by
  have key : ((Migrate.ofColumn cid column).pk == "1") = decide (column.pk = 1) := by
    apply Bool.eq_iff_iff.mpr
    rw [beq_iff_eq, decide_eq_true_eq]
    exact repr_eq_one column.pk
  rw [Migrate.definition, key]
  rfl

theorem migratesOf_definitions (columns : List Column) :
    (migratesOf columns).map Migrate.definition = columns.map backupDef := by
  unfold migratesOf
  rw [List.map_map]
  have same : (Migrate.definition ∘ fun (column, cid) => Migrate.ofColumn cid column) =
      backupDef ∘ (Prod.fst : Column × Nat → Column) := by
    funext entry
    exact definition_ofColumn entry.2 entry.1
  rw [same, ← List.map_map, List.zipIdx_map_fst]

/-- The catalog is asked for a name letter for letter. -/
theorem run_tableIsExist_of_reads {V : Type} {engine : Engine V} {name : String}
    (reads : engine.prepareQuery
      ("SELECT COUNT(*) FROM sqlite_master WHERE type='table' AND name='" ++ name ++ "'") =
        some (.countTables name))
    (nonempty : name ≠ "") (conn : Conn V) :
    (tableIsExist engine name).run conn = .ok (conn.db.named name).isSome conn := by
  have answer : (decide (0 < conn.db.names.count name)) = (conn.db.named name).isSome := by
    apply Bool.eq_iff_iff.mpr
    rw [decide_eq_true_eq, List.count_pos_iff, Database.mem_names]
  have named : name.isEmpty = false := by
    apply Bool.eq_false_iff.mpr
    intro empty
    exact nonempty (String.isEmpty_iff.mp empty)
  have query : (rawQuery engine
      ("SELECT COUNT(*) FROM sqlite_master WHERE type='table' AND name='" ++ name ++ "'")).run
        conn = .ok (.count (conn.db.names.count name)) conn :=
    run_rawQuery_of_some reads rfl
  rw [tableIsExist, named, if_neg Bool.false_ne_true, Effect.run_tryCatch, EStateM.run_bind,
    query, ← answer]
  rfl

section Reading

variable {V : Type} {engine : Engine V} (documented : engine.Documented) {name : String}
  (plain : engine.Plain name) (conn : Conn V)
include documented plain

theorem run_tableIsExist :
    (tableIsExist engine name).run conn = .ok (conn.db.named name).isSome conn :=
  run_tableIsExist_of_reads (documented.countTables name plain) (isWord_ne_empty plain.1) conn

theorem run_getMigrates :
    (getMigrates engine name).run conn =
      .ok (migratesOf ((conn.db.find name).elim [] fun table => table.schema.columns)) conn := by
  have query : (rawQuery engine ("PRAGMA table_info(" ++ name ++ ")")).run conn =
      .ok (.columns ((conn.db.find name).elim [] fun table => table.schema.columns)) conn :=
    run_rawQuery_of_some (documented.tableInfo name plain) rfl
  rw [getMigrates, Effect.run_tryCatch, EStateM.run_bind, query]
  rfl

theorem run_getColumns :
    (getColumns engine name).run conn =
      .ok ((conn.db.find name).elim [] fun table => table.schema.names) conn := by
  cases found : conn.db.find name with
  | none =>
      have query : (rawQuery engine ("SELECT * FROM " ++ name ++ " limit 1")).run conn =
          .error .sqlite conn :=
        run_rawQuery_of_none (documented.selectAll name plain) (by rw [Query.answer, found]; rfl)
      rw [getColumns, Effect.run_tryCatch, EStateM.run_bind, query]
      rfl
  | some table =>
      have query : (rawQuery engine ("SELECT * FROM " ++ name ++ " limit 1")).run conn =
          .ok (.columnNames table.schema.names) conn :=
        run_rawQuery_of_some (documented.selectAll name plain) (by rw [Query.answer, found]; rfl)
      rw [getColumns, Effect.run_tryCatch, EStateM.run_bind, query]
      rfl

/-- Dropping a table that need not exist. -/
theorem run_dropIfExists :
    (execSQL engine ("DROP TABLE IF EXISTS " ++ name)).run conn =
      .ok () (conn.executed (conn.db.erase name)) := by
  apply run_execSQL_of_some (documented.drop name plain) rfl
  rw [Stmt.run]
  cases found : conn.db.find name with
  | some table => rfl
  | none => rw [Database.erase_of_find_none found]; rfl

end Reading

end Migration
end ModuleDatabase
