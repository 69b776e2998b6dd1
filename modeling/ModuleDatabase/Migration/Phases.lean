import ModuleDatabase.Migration.Restore

namespace ModuleDatabase
namespace Migration

open Text
open Sql

/-!
# The three phases together

The first phase and the third never throw on the lists considered here.
Between the second phase and the third, a listed table is what the
configuration creates, and its backup is what the first phase made of the old
table.  The third phase starts from there.

What a backup holds, and what is restored from it, is then a matter of two
insertions: the old rows into the backup, on all columns but `_id`, and the
rows of the backup into the new table, on the columns that are shared.
-/

variable {V : Type}

/-- A listed table as the configuration creates it. -/
def recreated (engine : Engine V) (sqls : KtAutoSqls) (dbName : String) (tables : List String)
    (table : String) : Option (Table V) :=
  created engine (matched (configured sqls dbName) tables) (fold table)

/-- The backup of a listed table, if no earlier one is left. -/
def backup (engine : Engine V) (db : Database V) (table : String) : Option (Table V) :=
  (db.named table).bind (backupOf engine none)

/-- What the first phase leaves. -/
structure Backed (engine : Engine V) (tables : List String) (db backed : Database V) : Prop where
  temp : ∀ table ∈ tables, backed.find (tempOf table) = backedUp engine db table
  other : ∀ key, (∀ table ∈ tables, key ≠ fold (tempOf table)) →
    backed.lookup key = db.lookup key

/-- What stands under the backup name of a listed table after the second phase. -/
def remaining (engine : Engine V) (sqls : KtAutoSqls) (dbName : String) (tables : List String)
    (db : Database V) (table : String) : Option (Table V) :=
  (backedUp engine db table).or (recreated engine sqls dbName tables (tempOf table))

/-- What the second phase leaves, whether or not there were backups before. -/
structure Halfway (engine : Engine V) (sqls : KtAutoSqls) (dbName : String) (tables : List String)
    (db mid : Database V) : Prop where
  table : ∀ table ∈ tables, mid.find table = recreated engine sqls dbName tables table
  temp : ∀ table ∈ tables,
    mid.find (tempOf table) = remaining engine sqls dbName tables db table
  other : ∀ key, (∀ table ∈ tables, key ≠ fold table ∧ key ≠ fold (tempOf table)) →
    mid.lookup key =
      (db.lookup key).or (created engine (matched (configured sqls dbName) tables) key)

/-- The same, for a list that may name a table more than once. -/
def standing (engine : Engine V) (sqls : KtAutoSqls) (dbName : String) (tables : List String)
    (db : Database V) (table : String) : Option (Table V) :=
  (backedTimes engine db table (tables.count table)).or
    (recreated engine sqls dbName tables (tempOf table))

/-- What the second phase leaves of such a list. -/
structure Between (engine : Engine V) (sqls : KtAutoSqls) (dbName : String) (tables : List String)
    (db mid : Database V) : Prop where
  table : ∀ table ∈ tables, mid.find table = recreated engine sqls dbName tables table
  temp : ∀ table ∈ tables,
    mid.find (tempOf table) = standing engine sqls dbName tables db table
  other : ∀ key, (∀ table ∈ tables, key ≠ fold table ∧ key ≠ fold (tempOf table)) →
    mid.lookup key =
      (db.lookup key).or (created engine (matched (configured sqls dbName) tables) key)

/-- What the second phase leaves. -/
structure Midway (engine : Engine V) (sqls : KtAutoSqls) (dbName : String) (tables : List String)
    (db mid : Database V) : Prop where
  table : ∀ table ∈ tables, mid.find table = recreated engine sqls dbName tables table
  temp : ∀ table ∈ tables, mid.find (tempOf table) =
    (backup engine db table).or (recreated engine sqls dbName tables (tempOf table))
  other : ∀ key, (∀ table ∈ tables, key ≠ fold table ∧ key ≠ fold (tempOf table)) →
    mid.lookup key =
      (db.lookup key).or (created engine (matched (configured sqls dbName) tables) key)

theorem recreated_name {engine : Engine V} {sqls : KtAutoSqls} {dbName : String}
    {tables : List String} {table : String} {target : Table V}
    (makes : recreated engine sqls dbName tables table = some target) :
    fold target.name = fold table ∧ target.rows = [] := by
  rcases List.exists_of_findSome?_eq_some makes with ⟨sql, -, creation⟩
  exact ⟨creates_name creation, creates_rows creation⟩

/-- Without an earlier backup, what remains is the new one. -/
theorem Halfway.midway {engine : Engine V} {sqls : KtAutoSqls} {dbName : String}
    {tables : List String} {db mid : Database V} (halfway : Halfway engine sqls dbName tables db mid)
    (noLeftover : ∀ table ∈ tables, db.find (tempOf table) = none) :
    Midway engine sqls dbName tables db mid where
  table := halfway.table
  temp := by
    intro table member
    have made : backedUp engine db table = backup engine db table := by
      rw [backedUp, backup, noLeftover table member]
      cases db.named table <;> rfl
    rw [halfway.temp table member, remaining, made]
  other := halfway.other

theorem standing_eq_remaining {engine : Engine V} {sqls : KtAutoSqls} {dbName : String}
    {tables : List String} (listing : Listing engine tables) {db : Database V} {table : String}
    (member : table ∈ tables) :
    standing engine sqls dbName tables db table = remaining engine sqls dbName tables db table := by
  rw [standing, remaining, List.count_eq_one_of_mem listing.nodup member, backedTimes_one]

/-- On a list without repetitions, it is what is left of that. -/
theorem Between.halfway {engine : Engine V} {sqls : KtAutoSqls} {dbName : String}
    {tables : List String} {db mid : Database V} (between : Between engine sqls dbName tables db mid)
    (listing : Listing engine tables) : Halfway engine sqls dbName tables db mid where
  table := between.table
  temp := by
    intro table member
    rw [between.temp table member, standing_eq_remaining listing member]
  other := between.other

section Composition

variable {engine : Engine V} (documented : engine.Documented) (steady : engine.Steady)
  {sqls : KtAutoSqls} {dbName : String} {tables : List String} {conn : Conn V}
include documented steady

/-- A migration is its second phase, from the backups on, and then its third. -/
theorem run_phases_times (spelled : Spelled engine tables)
    (creating : Creating engine (configured sqls dbName)) (nonempty : tables ≠ [])
    (copyable : Copyable engine conn.db tables) :
    ∃ backed : Conn V,
      ((∀ table ∈ tables, backed.db.find (tempOf table) =
          backedTimes engine conn.db table (tables.count table)) ∧
        ∀ key, (∀ table ∈ tables, key ≠ fold (tempOf table)) →
          backed.db.lookup key = conn.db.lookup key) ∧
      (migrateSpecifyTable engine sqls dbName tables).run conn =
        (match (rebuildSpecifyTables engine sqls dbName tables).run backed with
          | .ok _ mid => (restoreTable engine true tables).run mid
          | .error thrown last => .error thrown last) ∧
      ∀ mid, (rebuildSpecifyTables engine sqls dbName tables).run backed = .ok () mid →
        Between engine sqls dbName tables conn.db mid.db := by
  rcases run_buildTempTable_times documented steady spelled nonempty copyable with
    ⟨backed, backs, temps, others⟩
  refine ⟨backed, ⟨temps, others⟩, ?_, ?_⟩
  · simp only [migrateSpecifyTable, EStateM.run_bind, backs]
    cases (rebuildSpecifyTables engine sqls dbName tables).run backed <;> rfl
  · intro mid ends
    have rebuilt := rebuilt_of_rebuildSpecifyTables documented spelled.plain creating nonempty ends
    constructor
    · intro table member
      exact (rebuilt (fold table)).trans (if_pos (List.mem_map_of_mem member))
    · intro table member
      have unlisted : fold (tempOf table) ∉ tables.map fold := by
        intro inside
        rcases List.mem_map.mp inside with ⟨other, among, same⟩
        exact spelled.ne_temp among table same
      have made : backed.db.lookup (fold (tempOf table)) =
          backedTimes engine conn.db table (tables.count table) := temps table member
      refine (rebuilt (fold (tempOf table))).trans ?_
      rw [if_neg unlisted, made]
      rfl
    · intro key apart
      have unlisted : key ∉ tables.map fold := by
        intro inside
        rcases List.mem_map.mp inside with ⟨other, among, same⟩
        exact (apart other among).1 same.symm
      rw [rebuilt key, if_neg unlisted, others key fun table member => (apart table member).2]

variable (listing : Listing engine tables)
include listing

/-- The same for a list without repetitions. -/
theorem run_phases (creating : Creating engine (configured sqls dbName)) (nonempty : tables ≠ [])
    (copyable : Copyable engine conn.db tables) :
    ∃ backed : Conn V,
      Backed engine tables conn.db backed.db ∧
      (migrateSpecifyTable engine sqls dbName tables).run conn =
        (match (rebuildSpecifyTables engine sqls dbName tables).run backed with
          | .ok _ mid => (restoreTable engine true tables).run mid
          | .error thrown last => .error thrown last) ∧
      ∀ mid, (rebuildSpecifyTables engine sqls dbName tables).run backed = .ok () mid →
        Halfway engine sqls dbName tables conn.db mid.db := by
  rcases run_phases_times documented steady listing.spelled creating nonempty copyable with
    ⟨backed, ⟨temps, others⟩, phases, betweens⟩
  refine ⟨backed, ⟨?_, others⟩, phases, fun mid ends => (betweens mid ends).halfway listing⟩
  intro table member
  rw [temps table member, List.count_eq_one_of_mem listing.nodup member, backedTimes_one]

/-- A run that returns ends with the third phase. -/
theorem restored_of_run {next : Conn V} (creating : Creating engine (configured sqls dbName))
    (nonempty : tables ≠ []) (copyable : Copyable engine conn.db tables)
    (plainShared : ∀ mid : Database V, Halfway engine sqls dbName tables conn.db mid →
      PlainShared engine mid tables)
    (returns : (migrateSpecifyTable engine sqls dbName tables).run conn = .ok () next) :
    ∃ mid : Database V, Halfway engine sqls dbName tables conn.db mid ∧
      Restored engine tables mid next.db := by
  rcases run_phases documented steady listing creating nonempty copyable with
    ⟨backed, -, phases, halfways⟩
  rw [returns] at phases
  cases rebuilds : (rebuildSpecifyTables engine sqls dbName tables).run backed with
  | error thrown last =>
      rw [rebuilds] at phases
      cases phases
  | ok done mid =>
      rw [rebuilds] at phases
      have halfway := halfways mid rebuilds
      rcases run_restoreTable documented listing steady (plainShared mid.db halfway) with
        ⟨last, ends, restored⟩
      dsimp only at phases
      rw [ends] at phases
      cases phases
      exact ⟨mid.db, halfway, restored⟩

/-- The same, if no backup is left from an earlier migration. -/
theorem run_migrateSpecifyTable (creating : Creating engine (configured sqls dbName))
    (nonempty : tables ≠ []) (copyable : Copyable engine conn.db tables)
    (noLeftover : ∀ table ∈ tables, conn.db.find (tempOf table) = none) :
    ∃ backed : Conn V,
      (migrateSpecifyTable engine sqls dbName tables).run conn =
        (match (rebuildSpecifyTables engine sqls dbName tables).run backed with
          | .ok _ mid => (restoreTable engine true tables).run mid
          | .error thrown last => .error thrown last) ∧
      ∀ mid, (rebuildSpecifyTables engine sqls dbName tables).run backed = .ok () mid →
        Midway engine sqls dbName tables conn.db mid.db := by
  rcases run_phases documented steady listing creating nonempty copyable with
    ⟨backed, -, phases, halfways⟩
  refine ⟨backed, phases, ?_⟩
  intro mid ends
  exact (halfways mid ends).midway noLeftover

end Composition

/-! ## What a backup holds -/

section Contents

variable {engine : Engine V} {table made : Table V}

theorem has_of_mem {schema : Schema V} {name : String} (member : name ∈ schema.names) :
    schema.has name = true := by
  rcases List.mem_map.mp member with ⟨column, inside, same⟩
  apply List.any_eq_true.mpr
  refine ⟨column, inside, ?_⟩
  rw [Column.key, same, beq_self_eq_true]

theorem backup_names (documented : engine.Documented)
    (defines : engine.Defines (table.schema.columns.map backupDef)) :
    (engine.schema (table.schema.columns.map backupDef)).names = table.schema.names := by
  rw [documented.schema_names _ defines, List.map_map]
  rfl

/-- The columns of a backup can be defined, if those of the table have plain names
and at most one of them is numbered 1 in the primary key. -/
theorem defines_backup (plain : ∀ column ∈ table.schema.columns, engine.Plain column.name)
    (typed : ∀ column ∈ table.schema.columns, engine.isType column.type = true)
    (oneKey : (table.schema.columns.filter fun column => decide (column.pk = 1)).length ≤ 1) :
    engine.Defines (table.schema.columns.map backupDef) where
  nonempty := fun empty => table.schema.nonempty (List.map_eq_nil_iff.mp empty)
  plain := by
    intro definition member
    rcases List.mem_map.mp member with ⟨column, inside, same⟩
    rw [← same]
    exact plain column inside
  typed := by
    intro definition member
    rcases List.mem_map.mp member with ⟨column, inside, same⟩
    rw [← same]
    exact typed column inside
  distinct := by
    rw [List.map_map]
    exact table.schema.distinct
  oneKey := by
    rw [List.filter_map, List.length_map]
    exact oneKey
  undefaulted := by
    intro definition member key
    rcases List.mem_map.mp member with ⟨column, inside, same⟩
    rw [← same] at key ⊢
    have one : decide (column.pk = 1) = true := key
    rw [backupDef, one, Bool.not_true, Bool.and_false]

/-- A new backup that accepts the rows is filled. -/
theorem copyFrom_backupBase (documented : engine.Documented)
    (defines : engine.Defines (table.schema.columns.map backupDef)) {columns : List String}
    (among : ∀ name ∈ columns, name ∈ table.schema.names)
    (admits : ((engine.schema (table.schema.columns.map backupDef)).insertAll (columns.map fold) []
      table.rows).isSome = true) :
    ∃ filled, (backupBase engine none table).copyFrom columns table = some filled := by
  rcases Option.isSome_iff_exists.mp admits with ⟨rows, inserted⟩
  refine ⟨⟨tempOf table.name, engine.schema (table.schema.columns.map backupDef), rows,
    Schema.insertAll_apart _ _ (keysDiffer_nil _) inserted⟩, ?_⟩
  apply Table.copyFrom_eq_some_iff.mpr
  refine ⟨?_, inserted, rfl, rfl⟩
  intro column member
  refine ⟨has_of_mem ?_, has_of_mem (among column member)⟩
  rw [show (backupBase engine none table).schema =
    engine.schema (table.schema.columns.map backupDef) from rfl, backup_names documented defines]
  exact among column member

/-- A new backup is as its definition says, and it is empty or filled. -/
theorem backupOf_none_cases (backs : backupOf engine none table = some made) :
    made.name = tempOf table.name ∧
      made.schema = engine.schema (table.schema.columns.map backupDef) ∧
      (made.rows = [] ∨ filledBackup engine none table = some made) := by
  have vacuous : ∀ left, (none : Option (Table V)) = some left → left.name = tempOf table.name := by
    intro left impossible
    cases impossible
  have named := backupOf_name vacuous backs
  rcases backupOf_schema backs with noSchema | schema
  · cases noSchema
  refine ⟨named, schema, ?_⟩
  unfold backupOf at backs
  split at backs
  · cases backs
  · cases copies : filledBackup engine none table with
    | none =>
        left
        rw [copies] at backs
        cases backs
        rfl
    | some filled =>
        right
        rw [copies] at backs
        exact backs

/-- A filled backup holds the old rows, on columns that are copied and stored as
they are. -/
theorem filledBackup_project {leftover : Option (Table V)} {names : List String}
    (empty : (backupBase engine leftover table).rows = [])
    (among : ∀ name ∈ names, name ∈ backupColumns table.schema.names)
    (stores : (backupBase engine leftover table).schema.Stores names table.rows)
    (fills : filledBackup engine leftover table = some made) :
    made.rows.map (Row.project names) = table.rows.map (Row.project names) := by
  rcases Table.copyFrom_rows among stores (Engine.copyFrom_of_copied fills) with
    ⟨stored, split, projected⟩
  rw [split, ← projected, empty, List.nil_append]

theorem mem_backupColumns_of {names : List String} {name : String} (member : name ∈ names)
    (other : sameIgnoringCase name "_id" = false) : name ∈ backupColumns names := by
  have lower : name ≠ "_id" := by
    intro same
    rw [same] at other
    revert other
    decide
  have upper : name ≠ "_ID" := by
    intro same
    rw [same] at other
    revert other
    decide
  exact (List.mem_erase_of_ne upper).mpr ((List.mem_erase_of_ne lower).mpr member)

/-- A table that is restored from an empty state holds the rows of the backup,
on columns that are shared and stored as they are. -/
theorem restoredFrom_project {name : String} {target restored : Table V} {names : List String}
    (empty : target.rows = [])
    (among : ∀ column ∈ names, column ∈ sharedColumns target.schema.columns made.schema.names)
    (stores : target.schema.Stores names made.rows)
    (restores : restoredFrom engine name (some target) made = some restored) :
    restored.name = target.name ∧ restored.schema = target.schema ∧
      restored.rows.map (Row.project names) = made.rows.map (Row.project names) := by
  rcases Engine.copied_name restores with ⟨sameName, sameSchema⟩
  refine ⟨sameName, sameSchema, ?_⟩
  rcases Table.copyFrom_rows among stores (Engine.copyFrom_of_copied restores) with
    ⟨stored, split, projected⟩
  rw [split, empty, List.nil_append, projected]

/-- Rows that agree on some columns agree on fewer. -/
theorem map_project_subset {names fewer : List String} (sub : ∀ name ∈ fewer, name ∈ names)
    {first second : List (Row V)}
    (agree : first.map (Row.project names) = second.map (Row.project names)) :
    first.map (Row.project fewer) = second.map (Row.project fewer) := by
  induction first generalizing second with
  | nil => rw [List.map_eq_nil_iff.mp agree.symm]
  | cons row rest ih =>
      cases second with
      | nil => cases agree
      | cons other others =>
          rw [List.map_cons, List.map_cons, List.cons.injEq] at agree
          rw [List.map_cons, List.map_cons, ih agree.2]
          congr 1
          exact Row.project_congr fun name member =>
            List.map_inj_left.mp agree.1 name (sub name member)

/-- Rows that agree on some columns are given alike in these. -/
theorem map_only_of_project {names : List String} {first second : List (Row V)}
    (agree : first.map (Row.project names) = second.map (Row.project names)) :
    first.map (Row.only (names.map fold)) = second.map (Row.only (names.map fold)) := by
  induction first generalizing second with
  | nil => rw [List.map_eq_nil_iff.mp agree.symm]
  | cons row rest ih =>
      cases second with
      | nil => cases agree
      | cons other others =>
          rw [List.map_cons, List.map_cons, List.cons.injEq] at agree
          rw [List.map_cons, List.map_cons, ih agree.2]
          congr 1
          funext key
          unfold Row.only
          split
          · rename_i given
            rcases List.mem_map.mp given with ⟨name, member, same⟩
            rw [← same]
            exact List.map_inj_left.mp agree.1 name member
          · rfl

end Contents

/-! ## What a run leaves -/

/-- The new table after its restoring `INSERT`. -/
def reinserted (engine : Engine V) (sqls : KtAutoSqls) (dbName : String) (tables : List String)
    (db : Database V) (name : String) : Option (Table V) :=
  (backup engine db name).bind
    (restoredFrom engine name (recreated engine sqls dbName tables name))

/-- A table has a backup, and its restoring `INSERT` throws. -/
def reinsertThrows (engine : Engine V) (sqls : KtAutoSqls) (dbName : String)
    (tables : List String) (db : Database V) (name : String) : Bool :=
  (backup engine db name).isSome && (reinserted engine sqls dbName tables db name).isNone

/-- What a migration that returns leaves. -/
structure Migrated (engine : Engine V) (sqls : KtAutoSqls) (dbName : String)
    (tables : List String) (db next : Database V) : Prop where
  table : ∀ before name after, tables = before ++ name :: after →
    next.find name =
      if before.any (reinsertThrows engine sqls dbName tables db) then
        recreated engine sqls dbName tables name
      else (reinserted engine sqls dbName tables db name).or
        (recreated engine sqls dbName tables name)
  temp : ∀ name ∈ tables, next.find (tempOf name) = none
  other : ∀ key, (∀ name ∈ tables, key ≠ fold name ∧ key ≠ fold (tempOf name)) →
    next.lookup key =
      (db.lookup key).or (created engine (matched (configured sqls dbName) tables) key)

section Backups

variable {engine : Engine V} {db : Database V} {name : String} {made : Table V}

theorem backup_eq_some_iff : backup engine db name = some made ↔
    ∃ old, db.named name = some old ∧ backupOf engine none old = some made :=
  Option.bind_eq_some_iff

theorem backup_name (backs : backup engine db name = some made) : made.name = tempOf name := by
  rcases backup_eq_some_iff.mp backs with ⟨old, named, madeOf⟩
  rw [(backupOf_none_cases madeOf).1, (Database.named_eq_some.mp named).2]

theorem recreated_eq_none {sqls : KtAutoSqls} {dbName : String} {tables : List String}
    (unclaimed : created engine (configured sqls dbName) (fold name) = none) :
    recreated engine sqls dbName tables name = none := by
  apply List.findSome?_eq_none_iff.mpr
  intro sql member
  exact List.findSome?_eq_none_iff.mp unclaimed sql (mem_matched.mp member).1

end Backups

/-- A listed table exists in the end if it is created again. -/
theorem Migrated.find_isSome {engine : Engine V} {sqls : KtAutoSqls} {dbName : String}
    {tables : List String} {db next : Database V}
    (migrated : Migrated engine sqls dbName tables db next) {name : String}
    (member : name ∈ tables) :
    (next.find name).isSome = (recreated engine sqls dbName tables name).isSome := by
  rcases List.append_of_mem member with ⟨before, after, split⟩
  rw [migrated.table before name after split]
  cases makes : recreated engine sqls dbName tables name with
  | some target => cases reinserted engine sqls dbName tables db name <;> split <;> rfl
  | none =>
      have nothing : reinserted engine sqls dbName tables db name = none := by
        rw [reinserted, makes]
        cases backup engine db name <;> rfl
      rw [nothing]
      exact congrArg Option.isSome (ite_self none)

/-- A listed table has the columns with which it is created again. -/
theorem Migrated.schema {engine : Engine V} {sqls : KtAutoSqls} {dbName : String}
    {tables : List String} {db next : Database V}
    (migrated : Migrated engine sqls dbName tables db next) {name : String}
    (member : name ∈ tables) {new : Table V} (found : next.find name = some new) :
    ∃ target, recreated engine sqls dbName tables name = some target ∧
      new.schema = target.schema := by
  rcases List.append_of_mem member with ⟨before, after, split⟩
  rw [migrated.table before name after split] at found
  split at found
  · exact ⟨new, found, rfl⟩
  · rcases Option.or_eq_some_iff.mp found with reinserts | ⟨-, makes⟩
    · rcases Option.bind_eq_some_iff.mp reinserts with ⟨made, -, restores⟩
      rcases Option.bind_eq_some_iff.mp restores with ⟨target, makes, copies⟩
      exact ⟨target, makes, (Engine.copied_name copies).2⟩
    · exact ⟨new, makes, rfl⟩

section Leaving

variable {engine : Engine V} (documented : engine.Documented) {sqls : KtAutoSqls} {dbName : String}
  {tables : List String} {db : Database V} (copyable : Copyable engine db tables)
  (noLeftover : ∀ name ∈ tables, db.find (tempOf name) = none)
  (unclaimed : ∀ name ∈ tables,
    created engine (configured sqls dbName) (fold (tempOf name)) = none)

include noLeftover unclaimed in
/-- Under the name of a backup there is the backup or nothing. -/
theorem Halfway.find_temp {mid : Database V} (halfway : Halfway engine sqls dbName tables db mid)
    {name : String} (member : name ∈ tables) :
    mid.find (tempOf name) = backup engine db name := by
  rw [(halfway.midway noLeftover).temp name member, recreated_eq_none (unclaimed name member),
    Option.or_none]

include noLeftover unclaimed in
theorem Halfway.named_temp {mid : Database V} (halfway : Halfway engine sqls dbName tables db mid)
    {name : String} (member : name ∈ tables) :
    mid.named (tempOf name) = backup engine db name := by
  have found := halfway.find_temp noLeftover unclaimed member
  cases backs : backup engine db name with
  | none => rw [Database.named, found, backs, Option.filter_none]
  | some made => exact Database.named_eq_some.mpr ⟨found.trans backs, backup_name backs⟩

include documented copyable noLeftover unclaimed in
theorem Halfway.plainBackups {mid : Database V}
    (halfway : Halfway engine sqls dbName tables db mid) : PlainBackups engine mid tables := by
  intro name member made namedTemp column inside
  rw [halfway.named_temp noLeftover unclaimed member] at namedTemp
  rcases backup_eq_some_iff.mp namedTemp with ⟨old, namedOld, backs⟩
  have defines := copyable name member old namedOld
  rw [(backupOf_none_cases backs).2.1, backup_names documented defines] at inside
  rcases List.mem_map.mp inside with ⟨original, within, same⟩
  rw [← same]
  exact defines.plain (backupDef original) (List.mem_map_of_mem within)

end Leaving

/-- Every run that returns leaves this, whatever statements threw in the first
and the third phase. -/
theorem migrated_of_run {engine : Engine V} (documented : engine.Documented)
    (steady : engine.Steady) {sqls : KtAutoSqls} {dbName : String} {tables : List String}
    (listing : Listing engine tables) {conn next : Conn V}
    (creating : Creating engine (configured sqls dbName)) (nonempty : tables ≠ [])
    (copyable : Copyable engine conn.db tables)
    (noLeftover : ∀ name ∈ tables, conn.db.find (tempOf name) = none)
    (unclaimed : ∀ name ∈ tables,
      created engine (configured sqls dbName) (fold (tempOf name)) = none)
    (returns : (migrateSpecifyTable engine sqls dbName tables).run conn = .ok () next) :
    Migrated engine sqls dbName tables conn.db next.db := by
  have plainShared : ∀ mid : Database V, Halfway engine sqls dbName tables conn.db mid →
      PlainShared engine mid tables := fun mid halfway =>
    (halfway.plainBackups documented copyable noLeftover unclaimed).shared
  rcases restored_of_run documented steady listing creating nonempty copyable plainShared returns
    with ⟨mid, halfway, restored⟩
  have sameBrings : ∀ t ∈ tables,
      brings engine mid t = reinserted engine sqls dbName tables conn.db t := by
    intro t among
    rw [brings, halfway.named_temp noLeftover unclaimed among, halfway.table t among, reinserted]
  have sameJams : ∀ t ∈ tables,
      jams engine mid t = reinsertThrows engine sqls dbName tables conn.db t := by
    intro t among
    rw [jams, halfway.named_temp noLeftover unclaimed among, sameBrings t among, reinsertThrows]
  constructor
  · intro before name after split
    have member : name ∈ tables := List.mem_iff_append.mpr ⟨_, _, split⟩
    have earlier : before.any (jams engine mid) =
        before.any (reinsertThrows engine sqls dbName tables conn.db) := by
      apply any_congr_of_mem
      intro t inside
      exact sameJams t (by rw [split]; exact List.mem_append_left _ inside)
    rw [restored.table before name after split, earlier, sameBrings name member,
      halfway.table name member]
  · intro name member
    rw [restored.temp name member, halfway.named_temp noLeftover unclaimed member,
      halfway.find_temp noLeftover unclaimed member]
    cases backup engine conn.db name with
    | none => exact ite_self none
    | some made => rfl
  · intro key apart
    rw [restored.other key apart, halfway.other key apart]

end Migration
end ModuleDatabase
