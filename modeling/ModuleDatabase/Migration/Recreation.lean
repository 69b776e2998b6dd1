import ModuleDatabase.Migration.Frame
import ModuleDatabase.Migration.Loss

namespace ModuleDatabase
namespace Migration

open Text
open Sql

/-!
# Do listed tables get the configured columns?

Every listed table is dropped, but a statement that creates it is executed only
if some listed name stands in it with one blank and a parenthesis behind it.
For the engine other blanks, none or quotes are as good.  So what counts is the
first statement that creates the table among those that are matched.

The third phase makes no table and keeps all columns, but it drops the backups of
listed tables, even if such a backup is listed itself.
-/

variable {V : Type}

/-- The table exists and has these columns. -/
def HasColumns (db : Database V) (table : String) (columns : List Column) : Prop :=
  ∃ found, db.find table = some found ∧ found.schema.columns = columns

theorem hasColumns_iff (db : Database V) (table : String) (columns : List Column) :
    HasColumns db table columns ↔
      ((db.find table).map fun found => found.schema.columns) = some columns :=
  Option.map_eq_some_iff.symm

/-- What has the same shape has the same columns. -/
theorem columns_of_shape {first second : Option (Table V)}
    (shape : first.map Table.shape = second.map Table.shape) :
    (first.map fun found => found.schema.columns) =
      second.map fun found => found.schema.columns := by
  have columns := congrArg (Option.map fun shape : String × Schema V => shape.2.columns) shape
  rwa [Option.map_map, Option.map_map] at columns

/-- The statements in which a listed name stands before ` (` create the table with
these columns. -/
def CreatedWith (engine : Engine V) (sqls : KtAutoSqls) (dbName : String) (tables : List String)
    (table : String) (columns : List Column) : Prop :=
  ∃ target, recreated engine sqls dbName tables table = some target ∧
    target.schema.columns = columns

/-- Before the third phase a listed table is as it is created, and nothing else; the
third phase makes no table, and leaves none that is called like a backup. -/
theorem rebuilt_of_migrate {engine : Engine V} (documented : engine.Documented)
    (prefixed : engine.Prefixed) {sqls : KtAutoSqls} {dbName : String} {tables : List String}
    (plain : ∀ table ∈ tables, engine.Plain table) (nonempty : tables ≠ [])
    (creating : Creating engine (configured sqls dbName)) {conn next : Conn V}
    (returns : (migrateSpecifyTable engine sqls dbName tables).run conn = .ok () next) :
    ∃ backed mid : Conn V, Rebuilt engine (configured sqls dbName) tables backed mid ∧
      (∀ key, (∀ table ∈ tables, key ≠ fold (tempOf table)) →
        (backed.db.lookup key).map Table.shape = (conn.db.lookup key).map Table.shape) ∧
      Kept tables mid.db next.db ∧ Shrinks mid.db next.db ∧
      ∀ table ∈ tables, next.db.named (tempOf table) = none := by
  rcases phases_of_migrateSpecifyTable returns with ⟨backed, mid, backs, rebuilds, restores⟩
  rcases run_buildTempTable_frame documented prefixed plain nonempty conn with
    ⟨made, makes, shapes, -⟩
  rw [backs] at makes
  cases makes
  rcases run_restoreTable_frame documented prefixed plain mid with
    ⟨last, ends, kept, shrinks, gone⟩
  rw [restores] at ends
  cases ends
  have rebuilt := rebuilt_of_rebuildSpecifyTables documented plain creating nonempty rebuilds
  exact ⟨backed, mid, rebuilt, shapes, kept, shrinks, gone⟩

/-- A listed table that is not the backup of one has the columns of its statement in
the end if, among the statements in which a listed name stands before ` (`, the
first that creates it has these columns; and any listed table only then, and only
if it is not created under the name of a backup. -/
theorem migrateSpecifyTable_hasColumns_iff {engine : Engine V} (documented : engine.Documented)
    (prefixed : engine.Prefixed) {sqls : KtAutoSqls} {dbName : String} {tables : List String}
    {conn next : Conn V}
    (returns : (migrateSpecifyTable engine sqls dbName tables).run conn = .ok () next)
    {table : String} (member : table ∈ tables) (columns : List Column) :
    (Conventional engine sqls dbName tables ∧
          (∀ other ∈ tables, fold table ≠ fold (tempOf other)) ∧
          CreatedWith engine sqls dbName tables table columns →
        HasColumns next.db table columns) ∧
      (Conventional engine sqls dbName tables → HasColumns next.db table columns →
        CreatedWith engine sqls dbName tables table columns ∧
          ∀ target, recreated engine sqls dbName tables table = some target →
            ∀ other ∈ tables, target.name ≠ tempOf other) := by
  have phases : Conventional engine sqls dbName tables → ∃ mid : Conn V,
      mid.db.lookup (fold table) = recreated engine sqls dbName tables table ∧
        Kept tables mid.db next.db ∧ Shrinks mid.db next.db ∧
        ∀ table ∈ tables, next.db.named (tempOf table) = none := by
    intro conventional
    rcases rebuilt_of_migrate documented prefixed conventional.plain (List.ne_nil_of_mem member)
      conventional.creating returns with ⟨backed, mid, rebuilt, -, kept, shrinks, gone⟩
    refine ⟨mid, ?_, kept, shrinks, gone⟩
    rw [rebuilt (fold table), if_pos (List.mem_map_of_mem member)]
    rfl
  constructor
  · rintro ⟨conventional, apart, creates⟩
    rcases phases conventional with ⟨mid, here, kept, -⟩
    have shape := kept.shapes (fold table) apart
    rw [here] at shape
    rw [hasColumns_iff, Database.find, columns_of_shape shape]
    exact Option.map_eq_some_iff.mpr creates
  · rintro conventional ⟨found, present, same⟩
    rcases phases conventional with ⟨mid, here, -, shrinks, gone⟩
    -- The third phase makes no table, so this one was there before it.
    rcases shrinks (fold table) found present with ⟨before, there, shape⟩
    rw [here] at there
    refine ⟨⟨before, there, (congrArg (fun shape => shape.2.columns) shape).trans same⟩, ?_⟩
    intro target makes other among called
    rw [makes, Option.some.injEq] at there
    subst there
    have sameName : target.name = found.name := congrArg Prod.fst shape
    have named : next.db.named (tempOf other) = some found := by
      refine Database.named_eq_some.mpr ⟨?_, sameName.symm.trans called⟩
      rw [← called, sameName, Database.find, Database.fold_name_of_find present]
      exact present
    rw [gone other among] at named
    cases named

/-! ## A statement without the blank -/

section Small

open Sql.Reference

/-- A statement that creates `A`, with no blank before the parenthesis. -/
def tightA : String := "CREATE TABLE IF NOT EXISTS A(X TEXT);"

/-- The configuration creates `A` by this statement. -/
def onlyTightA : KtAutoSqls := .ofEntries [tightA] 2 (some "1:A") none

/-- The statement creates this table if it is missing. -/
def createsMissing (name : String) : Option (Stmt Int) → Bool
  | some (.create created ifNotExists _) => created == name && ifNotExists
  | _ => false

/-- `A` is dropped and not created again, though the engine reads the statement. -/
theorem not_hasColumns_tight :
    ∃ schema next, tightA ∈ configured onlyTightA "demo" ∧
      (failing []).prepare tightA = some (.create "A" true schema) ∧
      (migrateSpecifyTable (failing []) onlyTightA "demo" ["A"]).run oneRow = .ok () next ∧
      ¬ HasColumns next.db "A" schema.columns := by
  have reads : createsMissing "A" ((failing []).prepare tightA) = true := by decide +kernel
  have evaluated : Effect.endsIn (migrateSpecifyTable (failing []) onlyTightA "demo" ["A"])
      (fun next => (next.db.find "A").isNone) oneRow = true := by decide +kernel
  rcases Effect.exists_of_endsIn evaluated with ⟨⟨⟩, next, ends, gone⟩
  unfold createsMissing at reads
  split at reads
  · rename_i name ifNotExists schema prepared
    rw [Bool.and_eq_true, beq_iff_eq] at reads
    refine ⟨schema, next, List.mem_cons_self, ?_, ends, ?_⟩
    · rw [prepared, reads.1, reads.2]
    · rintro ⟨found, present, -⟩
      rw [present] at gone
      cases gone
  · cases reads

/-- Spelled as in the README, `A` has its columns. -/
theorem hasColumns_onlyA :
    ∃ next, (migrateSpecifyTable (failing []) onlyA "demo" ["A"]).run oneRow = .ok () next ∧
      HasColumns next.db "A" valueSchema.columns := by
  rcases run_oneRow with ⟨next, ends, -⟩
  have plainA : ∀ table ∈ ["A"], (failing []).Plain table := by
    intro table member
    rw [List.mem_singleton.mp member]
    exact plain_failing (by decide) []
  have apart : ∀ other ∈ ["A"], fold "A" ≠ fold (tempOf other) := by decide
  refine ⟨next, ends, (migrateSpecifyTable_hasColumns_iff (documented_failing []) (prefixed _)
    ends List.mem_cons_self _).1 ⟨⟨plainA, creating_onlyA []⟩, apart, ?_⟩⟩
  exact ⟨_, carries_oneRow.recreated rfl List.mem_cons_self, rfl⟩

end Small

end Migration
end ModuleDatabase
