import Mathlib.Data.List.Perm.Subperm
import ModuleDatabase.Migration.Conservation

namespace ModuleDatabase
namespace Migration

open Text
open Sql

/-!
# Are rows lost in silence?

If a statement fails, an upgrade should either throw, so that everything is
rolled back, or keep the rows.  The handlers of the first and of the third
phase swallow the exceptions of exactly the statements that carry the rows
over, while the drops between them and after them go on.

Here statements may fail, as long as what fails depends on its text; no text
is executed twice in the first or the third phase.  Of a run that returns it is
said for each table whether its rows are still there.  That is said of lists in
which no table is called like a backup, and of databases without backups: a
table `A_TEMP` in a list is cleared, whatever it holds.
-/

variable {V : Type}

/-- The rows, on some columns, are among those of a table. -/
def Holds (names : List String) (rows stored : List (Row V)) : Prop :=
  (rows.map (Row.project names)).Subperm (stored.map (Row.project names))

/-- The rows of an old table are still stored: in the table of its name, on the
common columns, or in its backup. -/
def Stored (next : Database V) (name : String) (old : Table V) : Prop :=
  old.rows = [] ∨
    (∃ new, next.find name = some new ∧
      Holds (commonColumns new.schema old.schema) old.rows new.rows) ∨
    ∃ made, next.find (tempOf name) = some made ∧
      Holds (backupColumns old.schema.names) old.rows made.rows

/-- A table is carried over: through a filled backup into the new table, with
no restoring statement before it throwing. -/
structure CarriedOver (engine : Engine V) (sqls : KtAutoSqls) (dbName : String)
    (tables before : List String) (db : Database V) (name : String)
    (old made target new : Table V) : Prop where
  exactly : old.name = name
  works : engine.fails 0
    (createText (tempOf old.name) (old.schema.columns.map backupDef)) = false
  fills : filledBackup engine none old = some made
  makes : recreated engine sqls dbName tables name = some target
  restores : restoredFrom engine name (some target) made = some new
  unjammed : before.any (reinsertThrows engine sqls dbName tables db) = false

/-- No statement that carries the rows of a table over throws, and none of the
restoring ones before it does. -/
def Survives (engine : Engine V) (sqls : KtAutoSqls) (dbName : String) (tables before : List String)
    (db : Database V) (name : String) (old : Table V) : Prop :=
  ∃ made target new, CarriedOver engine sqls dbName tables before db name old made target new

theorem Holds.ne_nil {names : List String} {rows stored : List (Row V)}
    (holds : Holds names rows stored) (nonempty : rows ≠ []) : stored ≠ [] := by
  intro empty
  rw [empty] at holds
  exact nonempty (List.map_eq_nil_iff.mp (List.subperm_nil.mp holds))

section Backups

variable {engine : Engine V} {db : Database V} {name : String} {old made : Table V}

/-- A backup with rows is one that was filled. -/
theorem backupOf_of_rows (backs : backupOf engine none old = some made) (nonempty : made.rows ≠ []) :
    engine.fails 0 (createText (tempOf old.name) (old.schema.columns.map backupDef)) = false ∧
      filledBackup engine none old = some made := by
  rcases backupOf_none_cases backs with ⟨-, -, empty | fills⟩
  · exact absurd empty nonempty
  · refine ⟨?_, fills⟩
    unfold backupOf at backs
    split at backs
    · cases backs
    · rename_i works
      exact Bool.eq_false_iff.mpr works

theorem backupOf_of_filled (works : engine.fails 0
      (createText (tempOf old.name) (old.schema.columns.map backupDef)) = false)
    (fills : filledBackup engine none old = some made) : backupOf engine none old = some made := by
  rw [backupOf, works, if_neg Bool.false_ne_true, fills, Option.getD_some]

end Backups

section Carrying

variable {engine : Engine V} {sqls : KtAutoSqls} {dbName : String} {tables before : List String}
  {db next : Database V} {name : String} {old made target new : Table V}

/-- The new table holds the old rows, on the common columns, if these are spelled
alike and no null is replaced. -/
theorem CarriedOver.project (documented : engine.Documented)
    (defines : engine.Defines (old.schema.columns.map backupDef)) (numbers : Numbers engine old)
    (alike : SpelledAlike target.schema old.schema)
    (stores : target.schema.Stores (commonColumns target.schema old.schema) old.rows)
    (carried : CarriedOver engine sqls dbName tables before db name old made target new) :
    new.schema = target.schema ∧
      new.rows.map (Row.project (commonColumns target.schema old.schema)) =
        old.rows.map (Row.project (commonColumns target.schema old.schema)) := by
  have backs := backupOf_of_filled carried.works carried.fills
  have sameNames : made.schema.names = old.schema.names := by
    rw [(backupOf_none_cases backs).2.1, backup_names documented defines]
  have columns := alike.columns
  have among : ∀ column ∈ commonColumns target.schema old.schema,
      column ∈ backupColumns old.schema.names := by
    intro column inside
    rw [columns] at inside
    exact shared_subset inside
  have kept : (backupBase engine none old).schema.Stores
      (commonColumns target.schema old.schema) old.rows :=
    numbers.stores documented defines among
  have backed := filledBackup_project rfl among kept carried.fills
  rcases restoredFrom_project (recreated_name carried.makes).2
    (fun column inside => by rw [sameNames, ← columns]; exact inside)
    (stores_of_project backed stores) carried.restores with ⟨-, sameSchema, projected⟩
  exact ⟨sameSchema, projected.trans backed⟩

/-- The new table holds as many rows as the old one. -/
theorem CarriedOver.length
    (carried : CarriedOver engine sqls dbName tables before db name old made target new) :
    new.rows.length = old.rows.length := by
  have filled := Table.copyFrom_length (Engine.copyFrom_of_copied carried.fills)
  have restored := Table.copyFrom_length (Engine.copyFrom_of_copied carried.restores)
  calc
    new.rows.length = target.rows.length + made.rows.length := restored
    _ = made.rows.length := by
        rw [(recreated_name carried.makes).2, List.length_nil, Nat.zero_add]
    _ = (backupBase engine none old).rows.length + old.rows.length := filled
    _ = old.rows.length := by
        rw [backupBase, Option.getD_none, Table.empty_rows, List.length_nil, Nat.zero_add]

variable (migrated : Migrated engine sqls dbName tables db next) {after : List String}
  (split : tables = before ++ name :: after) (found : db.find name = some old)
include migrated split found

theorem CarriedOver.find
    (carried : CarriedOver engine sqls dbName tables before db name old made target new) :
    next.find name = some new := by
  have backs := backupOf_of_filled carried.works carried.fills
  have named : db.named name = some old := Database.named_eq_some.mpr ⟨found, carried.exactly⟩
  have reinserts : reinserted engine sqls dbName tables db name = some new := by
    rw [reinserted, backup, named, Option.bind_some, backs, Option.bind_some, carried.makes,
      carried.restores]
  rw [migrated.table before name after split, carried.unjammed, if_neg Bool.false_ne_true,
    reinserts, Option.some_or]

/-- A table that has rows in the end has been carried over. -/
theorem carriedOver_of_find (foundNew : next.find name = some new) (rows : new.rows ≠ []) :
    ∃ made target, CarriedOver engine sqls dbName tables before db name old made target new := by
  have fresh : recreated engine sqls dbName tables name ≠ some new := by
    intro makes
    exact rows (recreated_name makes).2
  rw [migrated.table before name after split] at foundNew
  cases jammed : before.any (reinsertThrows engine sqls dbName tables db) with
  | true =>
      rw [jammed, if_pos rfl] at foundNew
      exact absurd foundNew fresh
  | false =>
      rw [jammed, if_neg Bool.false_ne_true] at foundNew
      rcases Option.or_eq_some_iff.mp foundNew with reinserts | ⟨-, makes⟩
      · rcases Option.bind_eq_some_iff.mp reinserts with ⟨made, backs, restores⟩
        rcases backup_eq_some_iff.mp backs with ⟨old', named, backs⟩
        rcases Database.named_eq_some.mp named with ⟨found', exactly⟩
        rw [found, Option.some.injEq] at found'
        subst found'
        rcases Option.bind_eq_some_iff.mp restores with ⟨target, makes, -⟩
        rw [makes] at restores
        have counts := Table.copyFrom_length (Engine.copyFrom_of_copied restores)
        have filledRows : made.rows ≠ [] := by
          intro nothing
          rw [(recreated_name makes).2, nothing, List.length_nil] at counts
          exact rows (List.length_eq_zero_iff.mp counts)
        rcases backupOf_of_rows backs filledRows with ⟨works, fills⟩
        exact ⟨made, target, exactly, works, fills, makes, restores, jammed⟩
      · exact absurd makes fresh

end Carrying

/-! ## Rows that come back -/

/-- The columns that are carried over if a table is created again with the same. -/
def carriedColumns (schema : Schema V) : List String :=
  schema.names.filter fun name => !sameIgnoringCase name "_id"

/-- No value of a row is replaced on the way through a backup and a new, empty table:
there is no null where the backup numbers its rows, and if the rows are inserted
into the new table without their columns called `_id`, they are the same again. -/
structure ComesBack (old target : Table V) : Prop where
  nulls : ∀ column ∈ old.schema.columns, column.pk = 1 → fold column.type = "integer" →
    sameIgnoringCase column.name "_id" = false → ∀ row ∈ old.rows, row column.key ≠ none
  rows : ∃ stored, target.schema.insertAll ((carriedColumns old.schema).map fold) [] old.rows =
      some stored ∧
    (old.rows.map (Row.project old.schema.names)).Perm (stored.map (Row.project old.schema.names))

section Rows

variable {engine : Engine V} (documented : engine.Documented) {sqls : KtAutoSqls}
  {dbName : String} {tables before : List String} {db : Database V} {name : String}
  {old made target new : Table V}

/-- Into a table that replaces no null, rows without a column `_id` come back. -/
theorem comesBack_of_noId {old target : Table V}
    (nulls : ∀ column ∈ old.schema.columns, column.pk = 1 → fold column.type = "integer" →
      ∀ row ∈ old.rows, row column.key ≠ none)
    (noId : ∀ name ∈ old.schema.names, sameIgnoringCase name "_id" = false)
    (stores : target.schema.Stores old.schema.names old.rows) {stored : List (Row V)}
    (inserted : target.schema.insertAll (old.schema.names.map fold) [] old.rows = some stored) :
    ComesBack old target where
  nulls := fun column member one integer _ => nulls column member one integer
  rows := by
    have all : carriedColumns old.schema = old.schema.names := by
      apply List.filter_eq_self.mpr
      intro name member
      rw [noId name member]
      rfl
    rcases target.schema.insertAll_project (fun name member => List.mem_map_of_mem member) stores
      inserted with ⟨rows, split, projected⟩
    rw [List.nil_append] at split
    refine ⟨stored, by rw [all]; exact inserted, ?_⟩
    rw [split, projected]

theorem carriedColumns_eq_shared (columns : target.schema.columns = old.schema.columns) :
    sharedColumns target.schema.columns old.schema.names = carriedColumns old.schema := by
  rw [sharedColumns, carriedColumns, columns]
  apply List.filter_congr
  intro name member
  have inside : old.schema.names.contains name = true := List.contains_iff_mem.mpr member
  rw [inside, Bool.and_true]

variable (defines : engine.Defines (old.schema.columns.map backupDef))
  (columns : target.schema.columns = old.schema.columns)
  (carried : CarriedOver engine sqls dbName tables before db name old made target new)
include documented defines columns carried

/-- What the new table holds has been inserted from the backup, without `_id`. -/
theorem CarriedOver.inserted :
    target.schema.insertAll ((carriedColumns old.schema).map fold) [] made.rows =
      some new.rows := by
  have sameNames : made.schema.names = old.schema.names := by
    rw [(Engine.copied_name carried.fills).2]
    exact backup_names documented defines
  have copies := (Table.copyFrom_eq_some_iff.mp (Engine.copyFrom_of_copied carried.restores)).2.1
  rwa [sameNames, carriedColumns_eq_shared columns, (recreated_name carried.makes).2] at copies

/-- Without nulls to be replaced, that is as good as inserting the old rows. -/
theorem CarriedOver.inserted_old
    (nulls : ∀ column ∈ old.schema.columns, column.pk = 1 → fold column.type = "integer" →
      sameIgnoringCase column.name "_id" = false → ∀ row ∈ old.rows, row column.key ≠ none) :
    target.schema.insertAll ((carriedColumns old.schema).map fold) [] old.rows =
      some new.rows := by
  have among : ∀ column ∈ carriedColumns old.schema,
      column ∈ backupColumns old.schema.names := by
    intro column member
    rcases List.mem_filter.mp member with ⟨inside, notId⟩
    exact mem_backupColumns_of inside ((Bool.not_eq_true' _).mp notId)
  have stores : (backupBase engine none old).schema.Stores (carriedColumns old.schema)
      old.rows := by
    intro column member numbered
    rcases (mem_numbered_backup documented defines).mp numbered with
      ⟨stored, within, one, integer, key⟩
    rcases List.mem_filter.mp member with ⟨inside, notId⟩
    have same : stored.name = column :=
      Schema.eq_of_fold (List.mem_map_of_mem within) inside key
    have kept := nulls stored within one integer
      (by rw [same]; exact (Bool.not_eq_true' _).mp notId)
    rwa [key] at kept
  have projected := filledBackup_project rfl among stores carried.fills
  rw [← carried.inserted documented defines columns]
  exact Schema.insertAll_congr target.schema (map_only_of_project projected.symm) []

/-- Where the backup numbers its rows, the new table holds no null. -/
theorem CarriedOver.nonnull {column : Column} (member : column ∈ old.schema.columns)
    (one : column.pk = 1) (integer : fold column.type = "integer")
    (notId : sameIgnoringCase column.name "_id" = false) :
    ∀ row ∈ new.rows, row column.key ≠ none := by
  have numbered : column.key ∈ (backupBase engine none old).schema.numbered :=
    (mem_numbered_backup documented defines).mpr ⟨column, member, one, integer, rfl⟩
  rcases Table.copyFrom_numbers (Engine.copyFrom_of_copied carried.fills) with
    ⟨stored, split, -, nonnull⟩
  have rows : made.rows = stored := split
  have inside : column.name ∈ carriedColumns old.schema :=
    List.mem_filter.mpr ⟨List.mem_map_of_mem member, by rw [notId]; rfl⟩
  have stores : target.schema.Stores [column.name] made.rows := by
    intro name isName _ row among
    rw [List.mem_singleton.mp isName]
    exact nonnull column.key numbered row (rows ▸ among)
  have among : ∀ name ∈ [column.name], fold name ∈ (carriedColumns old.schema).map fold :=
    fun name isName => List.mem_map_of_mem (List.mem_singleton.mp isName ▸ inside)
  rcases target.schema.insertAll_project among stores
    (carried.inserted documented defines columns) with ⟨kept, splitNew, projected⟩
  rw [List.nil_append] at splitNew
  intro row among null
  have image : row.project [column.name] ∈ made.rows.map (Row.project [column.name]) := by
    rw [← projected, ← splitNew]
    exact List.mem_map_of_mem among
  rcases List.mem_map.mp image with ⟨other, before, alike⟩
  apply nonnull column.key numbered other (rows ▸ before)
  rw [← null]
  exact List.map_inj_left.mp alike column.name (List.mem_singleton_self _)

/-- The rows come back just if they are the same again. -/
theorem CarriedOver.comesBack_iff :
    ComesBack old target ↔
      (old.rows.map (Row.project old.schema.names)).Perm
        (new.rows.map (Row.project old.schema.names)) := by
  constructor
  · rintro ⟨nulls, stored, inserted, same⟩
    rw [carried.inserted_old documented defines columns nulls, Option.some.injEq] at inserted
    rw [inserted]
    exact same
  · intro same
    have nulls : ∀ column ∈ old.schema.columns, column.pk = 1 → fold column.type = "integer" →
        sameIgnoringCase column.name "_id" = false → ∀ row ∈ old.rows, row column.key ≠ none := by
      intro column member one integer notId row inside null
      have image : row.project old.schema.names ∈
          new.rows.map (Row.project old.schema.names) :=
        same.mem_iff.mp (List.mem_map_of_mem inside)
      rcases List.mem_map.mp image with ⟨other, among, alike⟩
      apply carried.nonnull documented defines columns member one integer notId other among
      rw [← null]
      exact List.map_inj_left.mp alike column.name (List.mem_map_of_mem member)
    exact ⟨nulls, new.rows, carried.inserted_old documented defines columns nulls, same⟩

end Rows

/-! ## What is kept -/

section Small

open Sql.Reference

/-- The statement that fills the backup of `A`. -/
def fillA : String := copyText "A_TEMP" ["X"] "A"

theorem creating_onlyA (texts : List String) :
    Creating (failing texts) (configured onlyA "demo") := by
  intro sql member stmt reads
  rw [List.mem_singleton.mp member, (form_value texts).2, Option.some.injEq] at reads
  exact ⟨_, _, _, reads.symm⟩

/-- If nothing fails, the migration of `A` returns, with one row in `A`. -/
theorem run_oneRow :
    ∃ next, (migrateSpecifyTable (failing []) onlyA "demo" ["A"]).run oneRow = .ok () next ∧
      ∃ new, next.db.find "A" = some new ∧ new.rows.length = 1 := by
  have evaluated : Effect.endsIn (migrateSpecifyTable (failing []) onlyA "demo" ["A"])
      (fun next => (next.db.find "A").any fun new => new.rows.length == 1) oneRow = true := by
    decide +kernel
  rcases Effect.exists_of_endsIn evaluated with ⟨⟨⟩, next, ends, one⟩
  rcases (Option.any_eq_true _ _).mp one with ⟨new, found, count⟩
  exact ⟨next, ends, new, found, beq_iff_eq.mp count⟩

end Small

end Migration
end ModuleDatabase
