import ModuleDatabase.Migration.Columns

namespace ModuleDatabase
namespace Migration

open Text
open Sql

/-!
# Does migrating keep every row?

If no statement fails, each listed table is copied to its backup, created once
more, and filled from the backup.  A backup has no constraint but its primary
key, and old rows differ in that, so the first copy is not refused.  The new
table admits the old rows on the common columns; but the second copy gives it
only those that are spelled alike.  The others get defaults, or the copy is
refused, and then so is that of every later table.

The list must not be empty: without a list, all tables of the database are
taken, and whatever they are called.
-/

variable {V : Type}

/-- The beginning of a statement that creates a table, as the README has it. -/
def createPrefix (name : String) : String := "CREATE TABLE IF NOT EXISTS " ++ name ++ " ("

/-- The name stands in such a statement as `buildTables` looks for it. -/
theorem contains_createPrefix (name body : String) :
    contains (createPrefix name ++ body) (name ++ " (") = true := by
  have split : createPrefix name = "CREATE TABLE IF NOT EXISTS " ++ (name ++ " (") :=
    String.append_assoc
  rw [split]
  exact contains_append _ _ _

/-- A statement of this form, for a table. -/
def Form (engine : Engine V) (name : String) (schema : Schema V) (sql : String) : Prop :=
  (∃ body, sql = createPrefix name ++ body) ∧ engine.prepare sql = some (.create name true schema)

/-- What is asked of a listed table, old, and of the schema that is configured
for it. -/
structure Carries (engine : Engine V) (statements : List String) (name : String) (old : Table V)
    (schema : Schema V) : Prop where
  plain : ∀ column ∈ old.schema.columns, engine.Plain column.name
  typed : ∀ column ∈ old.schema.columns, engine.isType column.type = true
  pk : ∀ column ∈ old.schema.columns, column.pk ≤ 1
  oneKey : (old.schema.columns.filter fun column => decide (column.pk = 1)).length ≤ 1
  once : ∃ sql, Form engine name schema sql ∧
    (statements.filter fun sql => (creates engine (fold name) sql).isSome) = [sql]
  common : commonColumns schema old.schema ≠ []
  admitted : (schema.insertAll ((commonColumns schema old.schema).map fold) [] old.rows).isSome =
    true

/-- What is asked of a list of tables, of the configuration and of the database. -/
structure Migratable (engine : Engine V) (sqls : KtAutoSqls) (dbName : String)
    (tables : List String) (db : Database V) : Prop where
  listing : Listing engine tables
  noLeftover : ∀ name ∈ tables, db.find (tempOf name) = none
  form : ∀ sql ∈ configured sqls dbName, ∃ name schema, Form engine name schema sql
  carries : ∀ name ∈ tables, ∃ old schema, db.named name = some old ∧
    Carries engine (configured sqls dbName) name old schema

/-- Each listed table is there after the migration, as configured, and has the
old rows, on the common columns. -/
def KeepsEveryRow (engine : Engine V) (sqls : KtAutoSqls) (dbName : String)
    (tables : List String) (conn : Conn V) : Prop :=
  ∃ next, (migrateSpecifyTable engine sqls dbName tables).run conn = .ok () next ∧
    ∀ name ∈ tables, ∀ old schema, conn.db.named name = some old →
      Carries engine (configured sqls dbName) name old schema →
      ∃ new, next.db.named name = some new ∧ new.schema = schema ∧
        (new.rows.map (Row.project (commonColumns schema old.schema))).Perm
          (old.rows.map (Row.project (commonColumns schema old.schema)))

/-- A table with this schema takes the old rows, given in the columns that are
spelled alike. -/
def Takes (schema : Schema V) (old : Table V) : Prop :=
  sharedColumns schema.columns old.schema.names ≠ [] ∧
    (schema.insertAll ((sharedColumns schema.columns old.schema.names).map fold) []
      old.rows).isSome = true

/-- What it stores then has the old values in all common columns. -/
def Refills (schema : Schema V) (old : Table V) : Prop :=
  sharedColumns schema.columns old.schema.names ≠ [] ∧
    ∃ stored, schema.insertAll ((sharedColumns schema.columns old.schema.names).map fold) []
        old.rows = some stored ∧
      (stored.map (Row.project (commonColumns schema old.schema))).Perm
        (old.rows.map (Row.project (commonColumns schema old.schema)))

/-- Each listed table is empty, or the rows fit into the new one, and those of the
tables before it do. -/
def EachRefills (engine : Engine V) (statements tables : List String) (db : Database V) : Prop :=
  ∀ before name after, tables = before ++ name :: after → ∀ old schema,
    db.named name = some old → Carries engine statements name old schema →
      old.rows = [] ∨
        (∀ earlier ∈ before, ∀ old schema, db.named earlier = some old →
          Carries engine statements earlier old schema → Takes schema old) ∧
        Refills schema old

/-- The common columns of each listed table are spelled alike, and none of them
numbers the rows of the new table where an old row has null. -/
def EachSpelledAlike (engine : Engine V) (statements tables : List String) (db : Database V) :
    Prop :=
  ∀ name ∈ tables, ∀ old schema, db.named name = some old →
    Carries engine statements name old schema →
      SpelledAlike schema old.schema ∧ schema.Stores (commonColumns schema old.schema) old.rows

/-- Integers stand in the columns that number the rows of the backups. -/
def EachNumbers (engine : Engine V) (tables : List String) (db : Database V) : Prop :=
  ∀ name ∈ tables, ∀ old, db.named name = some old → Numbers engine old

/-! ## The backup is filled -/

theorem eq_singleton_of_mem {α : Type} {values : List α} (few : values.length ≤ 1) {value : α}
    (member : value ∈ values) : values = [value] := by
  cases values with
  | nil => cases member
  | cons first rest =>
      have single : rest = [] :=
        List.length_eq_zero_iff.mp (Nat.le_zero.mp (Nat.le_of_succ_le_succ few))
      subst single
      rw [List.mem_singleton.mp member]

/-- At most one column is numbered 1 in the primary key. -/
theorem primaryKey_eq {columns : List Column} (pk : ∀ column ∈ columns, column.pk ≤ 1)
    (oneKey : (columns.filter fun column => decide (column.pk = 1)).length ≤ 1)
    {column : Column} (member : column ∈ columns) (key : column.pk = 1) :
    primaryKey columns = [column.key] := by
  have same : (columns.filter fun column => decide (0 < column.pk)) =
      columns.filter fun column => decide (column.pk = 1) := by
    apply List.filter_congr
    intro other inside
    have bound := pk other inside
    apply decide_eq_decide.mpr
    omega
  have among : column ∈ columns.filter fun column => decide (column.pk = 1) :=
    List.mem_filter.mpr ⟨member, decide_eq_true key⟩
  rw [primaryKey, same, eq_singleton_of_mem oneKey among, List.map_singleton]

section Success

variable {engine : Engine V} (documented : engine.Documented)
  (faultless : ∀ clock sql, engine.fails clock sql = false) {statements : List String}
  {name : String} {old : Table V} {schema : Schema V}
  (carries : Carries engine statements name old schema)

include carries in
theorem Carries.defines : engine.Defines (old.schema.columns.map backupDef) :=
  defines_backup carries.plain carries.typed carries.oneKey

/-- A shared column is a column of the old table that is copied. -/
theorem shared_subset {name : String}
    (member : name ∈ sharedColumns schema.columns old.schema.names) :
    name ∈ backupColumns old.schema.names :=
  have facts := mem_sharedColumns.mp member
  mem_backupColumns_of facts.2.2 facts.2.1

include carries in
/-- Some column of such a table is copied. -/
theorem Carries.copied : backupColumns old.schema.names ≠ [] := by
  intro nothing
  rcases List.exists_mem_of_ne_nil _ carries.common with ⟨column, member⟩
  rcases (mem_commonColumns.mp member).2 with ⟨notId, other, inside, same⟩
  have lower : other ≠ "_id" := by
    intro isId
    rw [← same, isId] at notId
    exact notId (by decide)
  have upper : other ≠ "_ID" := by
    intro isId
    rw [← same, isId] at notId
    exact notId (by decide)
  have among : other ∈ backupColumns old.schema.names :=
    (List.mem_erase_of_ne upper).mpr ((List.mem_erase_of_ne lower).mpr inside)
  rw [nothing] at among
  cases among

include documented faultless carries

/-- The backup of such a table is filled. -/
theorem Carries.fills (numbers : Numbers engine old) :
    ∃ made, filledBackup engine none old = some made := by
  have defines := carries.defines
  have whole : ∀ definition ∈ old.schema.columns.map backupDef, definition.numbered = true →
      fold definition.name ∈ (backupColumns old.schema.names).map fold → ∀ row ∈ old.rows,
        ∃ value, row (fold definition.name) = some value ∧ engine.isInteger value = true := by
    intro definition member numbered among
    rcases List.mem_map.mp member with ⟨column, inside, same⟩
    rw [← same, ColumnDef.numbered, Bool.and_eq_true, beq_iff_eq] at numbered
    rcases List.mem_map.mp among with ⟨other, listed, folds⟩
    have named : other = column.name :=
      Schema.eq_of_fold (mem_backupColumns listed) (List.mem_map_of_mem inside)
        (by rw [folds, ← same]; rfl)
    rw [← same]
    exact numbers column inside (of_decide_eq_true numbered.1) numbered.2 (named ▸ listed)
  have admits := backup_admits documented defines [] old.rows (by
      intro definition member key among
      rcases List.mem_map.mp member with ⟨column, inside, same⟩
      have one : column.pk = 1 := by
        rw [← same] at key
        exact of_decide_eq_true key
      have keys := primaryKey_eq carries.pk carries.oneKey inside one
      have keyName : fold definition.name = column.key := by
        rw [← same]
        rfl
      refine ⟨fun row impossible => absurd impossible List.not_mem_nil, ?_⟩
      have differ := old.apart
      rw [keys] at differ
      rw [keyName]
      exact differ.single) whole
  rcases copyFrom_backupBase documented defines (fun name => mem_backupColumns) admits with
    ⟨filled, copies⟩
  exact ⟨filled, Engine.copied_eq_some_iff.mpr ⟨carries.copied, faultless 0 _, copies⟩⟩

/-- The backup of such a table holds its rows. -/
theorem Carries.backs (numbers : Numbers engine old) :
    ∃ made, backupOf engine none old = some made ∧
      made.name = tempOf old.name ∧ made.schema.names = old.schema.names ∧
      made.rows.map (Row.project (backupColumns old.schema.names)) =
        old.rows.map (Row.project (backupColumns old.schema.names)) := by
  rcases carries.fills documented faultless numbers with ⟨made, fills⟩
  have backs : backupOf engine none old = some made := by
    rw [backupOf, faultless, if_neg Bool.false_ne_true, fills, Option.getD_some]
  rcases backupOf_none_cases backs with ⟨sameName, columns, -⟩
  have stores : (backupBase engine none old).schema.Stores (backupColumns old.schema.names)
      old.rows := numbers.stores documented carries.defines fun _ member => member
  refine ⟨made, backs, sameName, ?_,
    filledBackup_project rfl (fun _ member => member) stores fills⟩
  rw [columns, backup_names documented carries.defines]

omit documented carries in
/-- Such a table is filled from its backup with what the new schema makes of the
old rows, if it takes them. -/
theorem restoredFrom_eq_some_iff {made new : Table V}
    (names : made.schema.names = old.schema.names)
    (rows : made.rows.map (Row.project (backupColumns old.schema.names)) =
      old.rows.map (Row.project (backupColumns old.schema.names))) :
    restoredFrom engine name (some (Table.empty name schema)) made = some new ↔
      sharedColumns schema.columns old.schema.names ≠ [] ∧
        schema.insertAll ((sharedColumns schema.columns old.schema.names).map fold) []
          old.rows = some new.rows ∧ new.name = name ∧ new.schema = schema := by
  have agree : made.rows.map (Row.project (sharedColumns schema.columns old.schema.names)) =
      old.rows.map (Row.project (sharedColumns schema.columns old.schema.names)) :=
    map_project_subset (fun name member => shared_subset member) rows
  have present : ∀ column ∈ sharedColumns schema.columns old.schema.names,
      schema.has column = true ∧ made.schema.has column = true := by
    intro column member
    have facts := mem_sharedColumns.mp member
    exact ⟨has_of_mem facts.1, has_of_mem (by rw [names]; exact facts.2.2)⟩
  rw [restoredFrom, Option.bind_some, Engine.copied_eq_some_iff, Table.copyFrom_eq_some_iff,
    Table.empty_schema, Table.empty_rows, Table.empty_name, names, and_iff_right (faultless 0 _),
    and_iff_right present, Schema.insertAll_congr schema (map_only_of_project agree) []]

omit documented faultless in
/-- Such a table is created as configured, if it is listed. -/
theorem Carries.recreated {sqls : KtAutoSqls} {dbName : String} {tables : List String}
    (same : configured sqls dbName = statements) (member : name ∈ tables) :
    recreated engine sqls dbName tables name = some (Table.empty name schema) := by
  rcases carries.once with ⟨sql, ⟨⟨body, text⟩, reads⟩, single⟩
  have makes : creates engine (fold name) sql = some (Table.empty name schema) := by
    rw [creates, reads]
    exact if_pos rfl
  have among : sql ∈ statements := by
    have inside : sql ∈ statements.filter fun sql => (creates engine (fold name) sql).isSome := by
      rw [single]
      exact List.mem_singleton.mpr rfl
    exact (List.mem_filter.mp inside).1
  have isMatched : sql ∈ matched statements tables := by
    refine mem_matched.mpr ⟨among, name, member, ?_⟩
    rw [text]
    exact contains_createPrefix name body
  rw [Migration.recreated, created, same]
  cases first : (matched statements tables).findSome? (creates engine (fold name)) with
  | none =>
      have nothing := List.findSome?_eq_none_iff.mp first sql isMatched
      rw [makes] at nothing
      cases nothing
  | some table =>
      rcases List.exists_of_findSome?_eq_some first with ⟨other, inside, made⟩
      have alone : other ∈ [sql] := by
        rw [← single]
        refine List.mem_filter.mpr ⟨(mem_matched.mp inside).1, ?_⟩
        rw [made]
        rfl
      rw [List.mem_singleton.mp alone, makes] at made
      exact made.symm

end Success

/-! ## Between the phases -/

/-- What the third phase finds: the listed tables as they are configured, and backups
with the old rows. -/
structure BackedUp (engine : Engine V) (statements tables : List String)
    (db mid : Database V) : Prop where
  created : ∀ name ∈ tables, ∀ old schema, db.named name = some old →
    Carries engine statements name old schema → mid.find name = some (Table.empty name schema)
  backups : ∀ name ∈ tables, ∀ old schema, db.named name = some old →
    Carries engine statements name old schema →
    ∃ made, mid.named (tempOf name) = some made ∧ made.schema.names = old.schema.names ∧
      made.rows.map (Row.project (backupColumns old.schema.names)) =
        old.rows.map (Row.project (backupColumns old.schema.names))

/-- What a listed table gets from its backup: nothing, unless all before it are
refilled. -/
structure Refilled (engine : Engine V) (statements tables : List String)
    (db next : Database V) : Prop where
  stuck : ∀ before name after, tables = before ++ name :: after → ∀ old schema,
    db.named name = some old → Carries engine statements name old schema →
    ¬ ((∀ earlier ∈ before, ∀ old schema, db.named earlier = some old →
        Carries engine statements earlier old schema → Takes schema old) ∧ Takes schema old) →
    next.named name = some (Table.empty name schema)
  filled : ∀ before name after, tables = before ++ name :: after → ∀ old schema,
    db.named name = some old → Carries engine statements name old schema →
    (∀ earlier ∈ before, ∀ old schema, db.named earlier = some old →
      Carries engine statements earlier old schema → Takes schema old) → Takes schema old →
    ∃ new, next.named name = some new ∧ new.schema = schema ∧
      schema.insertAll ((sharedColumns schema.columns old.schema.names).map fold) [] old.rows =
        some new.rows

section Between

variable {engine : Engine V} (faultless : ∀ clock sql, engine.fails clock sql = false)
  {statements tables : List String} {db mid next : Database V}
  (backedUp : BackedUp engine statements tables db mid)
  (each : ∀ name ∈ tables, ∃ old schema, db.named name = some old ∧
    Carries engine statements name old schema)

include backedUp each in
theorem BackedUp.plainBackups : PlainBackups engine mid tables := by
  intro name member found namedTemp column inside
  rcases each name member with ⟨old, schema, named, carries⟩
  rcases backedUp.backups name member old schema named carries with ⟨made, namedMade, names, -⟩
  rw [namedTemp, Option.some.injEq] at namedMade
  rw [namedMade, names] at inside
  rcases List.mem_map.mp inside with ⟨original, among, same⟩
  rw [← same]
  exact carries.plain original among

section Single

variable {name : String} (member : name ∈ tables) {old : Table V} {schema : Schema V}
  (named : db.named name = some old) (carries : Carries engine statements name old schema)
include faultless backedUp member named carries

/-- What the restoring statement of a table does is seen on the old rows. -/
theorem BackedUp.brings_iff (new : Table V) :
    brings engine mid name = some new ↔
      sharedColumns schema.columns old.schema.names ≠ [] ∧
        schema.insertAll ((sharedColumns schema.columns old.schema.names).map fold) []
          old.rows = some new.rows ∧ new.name = name ∧ new.schema = schema := by
  rcases backedUp.backups name member old schema named carries with
    ⟨made, namedMade, names, rows⟩
  rw [brings, namedMade, Option.bind_some, backedUp.created name member old schema named carries]
  exact restoredFrom_eq_some_iff faultless names rows

theorem BackedUp.jams_iff : jams engine mid name = false ↔ Takes schema old := by
  have brings_iff := backedUp.brings_iff faultless member named carries
  rcases backedUp.backups name member old schema named carries with ⟨made, namedMade, -, -⟩
  rw [jams, namedMade, Option.isSome_some, Bool.true_and, Option.isNone_eq_false_iff,
    Option.isSome_iff_exists]
  constructor
  · rintro ⟨new, brought⟩
    rcases (brings_iff new).mp brought with ⟨shared, inserted, -⟩
    exact ⟨shared, Option.isSome_iff_exists.mpr ⟨_, inserted⟩⟩
  · rintro ⟨shared, takes⟩
    rcases Option.isSome_iff_exists.mp takes with ⟨rows, inserted⟩
    exact ⟨⟨name, schema, rows, Schema.insertAll_apart _ _ (keysDiffer_nil _) inserted⟩,
      (brings_iff _).mpr ⟨shared, inserted, rfl, rfl⟩⟩

end Single

include faultless backedUp each

/-- No statement before a table jams if their tables take the old rows. -/
theorem BackedUp.clear_iff {before after : List String} {name : String}
    (split : tables = before ++ name :: after) :
    before.any (jams engine mid) = false ↔ ∀ earlier ∈ before, ∀ old schema,
      db.named earlier = some old → Carries engine statements earlier old schema →
        Takes schema old := by
  have among : ∀ earlier ∈ before, earlier ∈ tables := by
    intro earlier inside
    rw [split]
    exact List.mem_append_left _ inside
  rw [List.any_eq_false]
  constructor
  · intro clear earlier inside old schema named carries
    exact (backedUp.jams_iff faultless (among earlier inside) named carries).mp
      (Bool.eq_false_iff.mpr (clear earlier inside))
  · intro takes earlier inside
    rcases each earlier (among earlier inside) with ⟨old, schema, named, carries⟩
    rw [(backedUp.jams_iff faultless (among earlier inside) named carries).mpr
      (takes earlier inside old schema named carries)]
    exact Bool.false_ne_true

/-- The third phase refills each table as far as it goes. -/
theorem BackedUp.refilled (restored : Restored engine tables mid next) :
    Refilled engine statements tables db next where
  stuck := by
    intro before name after split old schema named carries refused
    have member : name ∈ tables := List.mem_iff_append.mpr ⟨_, _, split⟩
    have found := restored.table before name after split
    rw [backedUp.created name member old schema named carries] at found
    apply Database.named_eq_some.mpr
    refine ⟨?_, rfl⟩
    cases stuck : before.any (jams engine mid) with
    | true =>
        rw [stuck, if_pos rfl] at found
        exact found
    | false =>
        have nothing : brings engine mid name = none := by
          cases brought : brings engine mid name with
          | none => rfl
          | some new =>
              exfalso
              apply refused
              refine ⟨(backedUp.clear_iff faultless each split).mp stuck,
                (backedUp.jams_iff faultless member named carries).mp ?_⟩
              rw [jams, brought, Option.isNone_some, Bool.and_false]
        rw [stuck, if_neg Bool.false_ne_true, nothing, Option.none_or] at found
        exact found
  filled := by
    intro before name after split old schema named carries earlier takes
    have member : name ∈ tables := List.mem_iff_append.mpr ⟨_, _, split⟩
    rcases Option.isSome_iff_exists.mp takes.2 with ⟨rows, inserted⟩
    have brought : brings engine mid name = some ⟨name, schema, rows,
        Schema.insertAll_apart _ _ (keysDiffer_nil _) inserted⟩ :=
      (backedUp.brings_iff faultless member named carries _).mpr ⟨takes.1, inserted, rfl, rfl⟩
    have found := restored.table before name after split
    rw [(backedUp.clear_iff faultless each split).mpr earlier, if_neg Bool.false_ne_true, brought,
      Option.some_or] at found
    exact ⟨_, Database.named_eq_some.mpr ⟨found, rfl⟩, rfl, inserted⟩

end Between

/-! ## All tables -/

section Whole

variable {engine : Engine V} (documented : engine.Documented)
  (faultless : ∀ clock sql, engine.fails clock sql = false) {sqls : KtAutoSqls} {dbName : String}
  {tables : List String} (nonempty : tables ≠ []) {conn : Conn V}
  (migratable : Migratable engine sqls dbName tables conn.db)
  (numbers : EachNumbers engine tables conn.db)

include migratable in
theorem Migratable.creating : Creating engine (configured sqls dbName) := by
  intro sql member stmt reads
  rcases migratable.form sql member with ⟨name, schema, -, prepared⟩
  rw [prepared, Option.some.injEq] at reads
  exact ⟨name, true, schema, reads.symm⟩

include migratable in
theorem Migratable.copyable : Copyable engine conn.db tables := by
  intro name member table named
  rcases migratable.carries name member with ⟨old, schema, found, holds⟩
  rw [named, Option.some.injEq] at found
  rw [found]
  exact holds.defines

include documented faultless numbers in
/-- The first two phases make the backups and create the tables. -/
theorem Midway.backedUp {mid : Database V}
    (midway : Midway engine sqls dbName tables conn.db mid) :
    BackedUp engine (configured sqls dbName) tables conn.db mid where
  created := by
    intro name member old schema named holds
    rw [midway.table name member, holds.recreated rfl member]
  backups := by
    intro name member old schema named holds
    rcases holds.backs documented faultless (numbers name member old named) with
      ⟨made, backs, madeName, madeNames, madeRows⟩
    refine ⟨made, Database.named_eq_some.mpr ⟨?_, ?_⟩, madeNames, madeRows⟩
    · rw [midway.temp name member, backup, named, Option.bind_some, backs, Option.some_or]
    · rw [madeName, (Database.named_eq_some.mp named).2]

include documented faultless nonempty migratable numbers

/-- The migration returns, and each table is refilled as far as it goes. -/
theorem run_migrateSpecifyTable_refills :
    ∃ next, (migrateSpecifyTable engine sqls dbName tables).run conn = .ok () next ∧
      Refilled engine (configured sqls dbName) tables conn.db next.db := by
  have steady : engine.Steady := by
    intro clock sql
    rw [faultless, faultless]
  have readable : ∀ sql ∈ configured sqls dbName, ∃ name schema,
      engine.prepare sql = some (.create name true schema) := by
    intro sql member
    rcases migratable.form sql member with ⟨name, schema, -, prepared⟩
    exact ⟨name, schema, prepared⟩
  rcases run_migrateSpecifyTable documented steady migratable.listing migratable.creating nonempty
    migratable.copyable migratable.noLeftover with ⟨backed, phases, midways⟩
  rcases run_rebuildSpecifyTables documented migratable.listing.plain faultless readable nonempty
    backed with ⟨mid, rebuilds⟩
  rw [rebuilds] at phases
  have backedUp := (midways mid rebuilds).backedUp documented faultless numbers
  rcases run_restoreTable documented migratable.listing steady
    (backedUp.plainBackups migratable.carries).shared with ⟨next, ends, restored⟩
  exact ⟨next, phases.trans ends, backedUp.refilled faultless migratable.carries restored⟩

/-- The rows are kept if and only if each listed table that has rows is refilled,
and nothing before it is refused. -/
theorem keepsEveryRow_iff :
    KeepsEveryRow engine sqls dbName tables conn ↔
      EachRefills engine (configured sqls dbName) tables conn.db := by
  rcases run_migrateSpecifyTable_refills documented faultless nonempty migratable numbers with
    ⟨next, ends, refilled⟩
  constructor
  · rintro ⟨last, returns, keeps⟩ before name after split old schema named holds
    rw [ends] at returns
    cases returns
    have member : name ∈ tables := List.mem_iff_append.mpr ⟨_, _, split⟩
    rcases keeps name member old schema named holds with ⟨new, namedNew, -, kept⟩
    by_cases noRows : old.rows = []
    · exact Or.inl noRows
    right
    by_cases taken : (∀ earlier ∈ before, ∀ old schema, conn.db.named earlier = some old →
        Carries engine (configured sqls dbName) earlier old schema → Takes schema old) ∧
          Takes schema old
    · refine ⟨taken.1, taken.2.1, ?_⟩
      rcases refilled.filled before name after split old schema named holds taken.1 taken.2 with
        ⟨found, namedFound, -, inserted⟩
      rw [namedNew, Option.some.injEq] at namedFound
      subst namedFound
      exact ⟨new.rows, inserted, kept⟩
    · have lost := refilled.stuck before name after split old schema named holds taken
      rw [namedNew, Option.some.injEq] at lost
      rw [lost, Table.empty_rows, List.map_nil] at kept
      exact absurd (List.map_eq_nil_iff.mp (List.nil_perm.mp kept)) noRows
  · intro each
    refine ⟨next, ends, ?_⟩
    intro name member old schema named holds
    rcases List.append_of_mem member with ⟨before, after, split⟩
    by_cases taken : (∀ earlier ∈ before, ∀ old schema, conn.db.named earlier = some old →
        Carries engine (configured sqls dbName) earlier old schema → Takes schema old) ∧
          Takes schema old
    · rcases refilled.filled before name after split old schema named holds taken.1 taken.2 with
        ⟨new, namedNew, sameSchema, inserted⟩
      refine ⟨new, namedNew, sameSchema, ?_⟩
      rcases each before name after split old schema named holds with
        noRows | ⟨-, -, stored, found, kept⟩
      · have counts := schema.insertAll_length inserted
        rw [noRows, List.length_nil, Nat.add_zero] at counts
        rw [List.length_eq_zero_iff.mp counts, noRows]
      · rw [inserted, Option.some.injEq] at found
        rw [found]
        exact kept
    · refine ⟨_, refilled.stuck before name after split old schema named holds taken, rfl, ?_⟩
      rcases each before name after split old schema named holds with
        noRows | ⟨earlier, shared, stored, found, -⟩
      · rw [Table.empty_rows, noRows]
      · exact absurd ⟨earlier, shared, Option.isSome_iff_exists.mpr ⟨stored, found⟩⟩ taken

end Whole

/-- Columns that are spelled alike are refilled. -/
theorem EachSpelledAlike.refills {engine : Engine V} {statements tables : List String}
    {db : Database V} (alike : EachSpelledAlike engine statements tables db) :
    EachRefills engine statements tables db := by
  have takes : ∀ name ∈ tables, ∀ old schema, db.named name = some old →
      Carries engine statements name old schema → Takes schema old := by
    intro name member old schema named holds
    have columns := (alike name member old schema named holds).1.columns
    rw [Takes, ← columns]
    exact ⟨holds.common, holds.admitted⟩
  intro before name after split old schema named holds
  have member : name ∈ tables := List.mem_iff_append.mpr ⟨_, _, split⟩
  right
  constructor
  · intro earlier inside
    apply takes earlier
    rw [split]
    exact List.mem_append_left _ inside
  · rcases takes name member old schema named holds with ⟨shared, taken⟩
    rcases Option.isSome_iff_exists.mp taken with ⟨stored, inserted⟩
    refine ⟨shared, stored, inserted, ?_⟩
    rcases alike name member old schema named holds with ⟨spelled, stores⟩
    have among : ∀ column ∈ commonColumns schema old.schema,
        fold column ∈ (sharedColumns schema.columns old.schema.names).map fold := by
      intro column inside
      rw [← spelled.columns]
      exact List.mem_map_of_mem inside
    rcases schema.insertAll_project among stores inserted with ⟨rows, same, projected⟩
    rw [List.nil_append] at same
    rw [same, projected]

/-- The rows of all listed tables are kept if the list is not empty, integers stand
where the backups number their rows, and each table that has rows is refilled,
as it is if its columns are spelled alike; and not otherwise, where the first
two are so. -/
theorem migrateSpecifyTable_keeps_rows_iff {engine : Engine V} (documented : engine.Documented)
    (faultless : ∀ clock sql, engine.fails clock sql = false) {sqls : KtAutoSqls}
    {dbName : String} {tables : List String} {conn : Conn V}
    (migratable : Migratable engine sqls dbName tables conn.db) :
    (tables ≠ [] ∧ EachNumbers engine tables conn.db ∧
        EachRefills engine (configured sqls dbName) tables conn.db →
      KeepsEveryRow engine sqls dbName tables conn) ∧
    (tables ≠ [] ∧ EachNumbers engine tables conn.db ∧
        EachSpelledAlike engine (configured sqls dbName) tables conn.db →
      KeepsEveryRow engine sqls dbName tables conn) ∧
    (KeepsEveryRow engine sqls dbName tables conn → tables ≠ [] →
      EachNumbers engine tables conn.db →
        EachRefills engine (configured sqls dbName) tables conn.db) := by
  refine ⟨?_, ?_, ?_⟩
  · rintro ⟨nonempty, numbers, refills⟩
    exact (keepsEveryRow_iff documented faultless nonempty migratable numbers).mpr refills
  · rintro ⟨nonempty, numbers, alike⟩
    exact (keepsEveryRow_iff documented faultless nonempty migratable numbers).mpr alike.refills
  · intro keeps nonempty numbers
    exact (keepsEveryRow_iff documented faultless nonempty migratable numbers).mp keeps

/-! ## A table, and no list -/

section Small

open Sql.Reference

/-- `A` with one row, and nothing else. -/
def oneRow : Conn Int := ⟨valueTables [("A", [7])], 0⟩

/-- The configuration creates `A` as it is, and leaves version 1 with its
migration. -/
def onlyA : KtAutoSqls := .ofEntries [valueText "A"] 2 (some "1:A") none

theorem oneRow_find : oneRow.db.find "A" = some (valueTable "A" [7]) := by
  unfold oneRow
  rw [valueTables_cons_find, if_pos rfl]

theorem form_value (texts : List String) :
    Form (failing texts) "A" valueSchema (valueText "A") := by
  refine ⟨⟨"X TEXT);", by decide⟩, ?_⟩
  exact (documented_failing texts).create "A" [valueColumn] (plain_failing (by decide) texts)
    (defines_value texts)

theorem form_onlyA (texts : List String) :
    ∀ sql ∈ configured onlyA "demo", ∃ name schema, Form (failing texts) name schema sql := by
  intro sql member
  rw [List.mem_singleton.mp member]
  exact ⟨"A", valueSchema, form_value texts⟩

/-- Without a list, a table that is called `A B` cannot be dropped. -/
theorem not_migrateSpecifyTable_returns_empty_list :
    Migratable (failing []) onlyA "demo" [] (valueTables [("A B", [])]) ∧
      ¬ ∃ next, (migrateSpecifyTable (failing []) onlyA "demo" []).run
        ⟨valueTables [("A B", [])], 0⟩ = .ok () next := by
  constructor
  · refine ⟨listing_failing [] rfl (by decide) List.Pairwise.nil, ?_, form_onlyA [], ?_⟩
    · exact fun name member => absurd member List.not_mem_nil
    · exact fun name member => absurd member List.not_mem_nil
  · rintro ⟨next, ends⟩
    have evaluated : Effect.endsIn (migrateSpecifyTable (failing []) onlyA "demo" [])
        (fun _ => true) ⟨valueTables [("A B", [])], 0⟩ = false := by decide +kernel
    rw [Effect.endsIn_of_ok ends] at evaluated
    cases evaluated

/-- The row of `A` is among the rows that are asked for. -/
theorem carries_oneRow :
    Carries (failing []) (configured onlyA "demo") "A" (valueTable "A" [7]) valueSchema where
  plain := fun column member => by
    rw [List.mem_singleton.mp member]
    exact plain_failing (by decide) []
  typed := fun column member => by
    rw [List.mem_singleton.mp member]
    exact (by decide : plain "TEXT" = true)
  pk := by decide +kernel
  oneKey := by decide +kernel
  once := ⟨valueText "A", form_value [], by decide +kernel⟩
  common := by decide +kernel
  admitted := by decide +kernel

theorem migratable_oneRow : Migratable (failing []) onlyA "demo" ["A"] oneRow.db where
  listing := listing_failing [] (by decide) (by decide) (by decide)
  noLeftover := by decide +kernel
  form := form_onlyA []
  carries := by
    intro name member
    rw [List.mem_singleton.mp member]
    exact ⟨_, valueSchema, Database.named_eq_some.mpr ⟨oneRow_find, rfl⟩, carries_oneRow⟩

/-- The row of `A` is kept. -/
theorem keepsEveryRow_oneRow : KeepsEveryRow (failing []) onlyA "demo" ["A"] oneRow := by
  apply (migrateSpecifyTable_keeps_rows_iff (documented_failing []) (fun _ _ => rfl)
    migratable_oneRow).2.1
  refine ⟨List.cons_ne_nil _ _, ?_, ?_⟩
  · intro name member old named column inside one
    rw [List.mem_singleton.mp member] at named
    have same := (Database.named_eq_some.mp named).1
    rw [oneRow_find, Option.some.injEq] at same
    subst same
    rw [List.mem_singleton.mp inside] at one
    cases one
  · intro name member old schema named holds
    rw [List.mem_singleton.mp member] at named holds
    have same := (Database.named_eq_some.mp named).1
    rw [oneRow_find, Option.some.injEq] at same
    subst same
    have made : recreated (failing []) onlyA "demo" ["A"] "A" = some (Table.empty "A" schema) :=
      holds.recreated rfl List.mem_cons_self
    rw [carries_oneRow.recreated rfl List.mem_cons_self, Option.some.injEq] at made
    have sameSchema : schema = valueSchema := (congrArg Table.schema made).symm
    subst sameSchema
    have alike : ∀ name ∈ valueSchema.names, ∀ other ∈ valueSchema.names,
        fold name = fold other → fold name ≠ "_id" →
          name = other ∧ sameIgnoringCase name "_id" = false := by decide +kernel
    have unnumbered : ∀ column ∈ commonColumns valueSchema valueSchema,
        fold column ∉ valueSchema.numbered := by decide +kernel
    exact ⟨alike, fun column inside numbered => absurd numbered (unnumbered column inside)⟩

/-! ## A column in lower case -/

def lowerColumns : List ColumnDef := [⟨"x", "TEXT", false, false⟩, ⟨"Y", "TEXT", false, false⟩]

def upperColumns : List ColumnDef := [⟨"X", "TEXT", false, false⟩, ⟨"Y", "TEXT", false, false⟩]

/-- `A (x TEXT, Y TEXT)` with one row. -/
def lowerTable : Table Int where
  name := "A"
  schema := schemaOf lowerColumns
  rows := [fun key => if key = "x" then some 7 else if key = "y" then some 8 else none]
  apart := List.pairwise_singleton _ _

def lowerDb : Database Int := Database.empty.put lowerTable

/-- The configuration creates `A (X TEXT, Y TEXT)`. -/
def upperA : KtAutoSqls := .ofEntries [createText "A" upperColumns] 2 (some "1:A") none

theorem lowerDb_find : lowerDb.find "A" = some lowerTable := by
  unfold lowerDb
  rw [Database.find, Database.lookup_put]
  exact if_pos rfl

theorem form_upperA :
    Form (failing []) "A" (schemaOf upperColumns) (createText "A" upperColumns) := by
  refine ⟨⟨"X TEXT,Y TEXT);", by decide⟩, ?_⟩
  apply (documented_failing []).create "A" upperColumns (plain_failing (by decide) [])
  have names : upperColumns.all (fun column => plain column.name) = true := by decide
  have types : upperColumns.all (fun column => plain column.type) = true := by decide
  exact {
    nonempty := List.cons_ne_nil _ _
    plain := fun column member => plain_failing (List.all_eq_true.mp names column member) []
    typed := fun column member => List.all_eq_true.mp types column member
    distinct := by decide
    oneKey := by decide
    undefaulted := by decide }

theorem carries_lower :
    Carries (failing []) (configured upperA "demo") "A" lowerTable (schemaOf upperColumns) where
  plain := by
    have words : lowerTable.schema.columns.all (fun column => plain column.name) = true := by
      decide +kernel
    exact fun column member => plain_failing (List.all_eq_true.mp words column member) []
  typed := by
    have words : lowerTable.schema.columns.all (fun column => plain column.type) = true := by
      decide +kernel
    exact fun column member => List.all_eq_true.mp words column member
  pk := by decide +kernel
  oneKey := by decide +kernel
  once := ⟨createText "A" upperColumns, form_upperA, by decide +kernel⟩
  common := by decide +kernel
  admitted := by decide +kernel

/-- `X` is a common column, and its value is lost. -/
theorem not_keepsEveryRow_lower_case :
    Migratable (failing []) upperA "demo" ["A"] lowerDb ∧ ["A"] ≠ [] ∧
      ¬ KeepsEveryRow (failing []) upperA "demo" ["A"] ⟨lowerDb, 0⟩ := by
  have named : lowerDb.named "A" = some lowerTable :=
    Database.named_eq_some.mpr ⟨lowerDb_find, rfl⟩
  refine ⟨⟨listing_failing [] (by decide) (by decide) (by decide), by decide +kernel, ?_, ?_⟩,
    List.cons_ne_nil _ _, ?_⟩
  · intro sql member
    rw [List.mem_singleton.mp member]
    exact ⟨"A", schemaOf upperColumns, form_upperA⟩
  · intro name member
    rw [List.mem_singleton.mp member]
    exact ⟨lowerTable, schemaOf upperColumns, named, carries_lower⟩
  · rintro ⟨next, ends, keeps⟩
    rcases keeps "A" List.mem_cons_self lowerTable _ named carries_lower with
      ⟨new, namedNew, -, kept⟩
    have evaluated : Effect.endsIn (migrateSpecifyTable (failing []) upperA "demo" ["A"])
        (fun next => (next.db.find "A").all fun new =>
          new.rows.all fun row => (row "x").isNone) ⟨lowerDb, 0⟩ = true := by decide +kernel
    rw [Effect.endsIn_of_ok ends] at evaluated
    have found := (Database.named_eq_some.mp namedNew).1
    rw [found, Option.all_some] at evaluated
    have columns : commonColumns (schemaOf upperColumns) lowerTable.schema = ["X", "Y"] := by
      decide +kernel
    rw [columns] at kept
    have stored : [some (7 : Int), some 8] ∈ new.rows.map (Row.project ["X", "Y"]) :=
      kept.mem_iff.mpr (by decide +kernel)
    rcases List.mem_map.mp stored with ⟨row, inside, values⟩
    have lost := List.all_eq_true.mp evaluated row inside
    have kept : row "x" = some 7 := (List.cons.inj values).1
    rw [kept] at lost
    cases lost

end Small

end Migration
end ModuleDatabase
