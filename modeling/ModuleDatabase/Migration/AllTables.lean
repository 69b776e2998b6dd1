import ModuleDatabase.Migration.Leftovers
import ModuleDatabase.Migration.Passes

namespace ModuleDatabase
namespace Migration

open Text
open Sql

/-!
# Migrating all tables

Without a list, each phase takes its tables from the catalog as it is then.
The second phase so finds the backups of the first one, drops them with all
other tables and creates nothing in their place; the third phase finds no
backup at all.  Every table that is created again stays empty.

The two entries therefore agree if and only if the one with a list leaves every
table empty too, apart from one thing: with the backups in the list there are
more passes, which matters if there is a single table and a statement that can
be executed once only.
-/

variable {V : Type}

/-- The tables that no migration takes for its own. -/
def isSystem (name : String) : Bool :=
  sameIgnoringCase name "sqlite_sequence" || sameIgnoringCase name "android_metadata"

/-- The tables that are migrated without a list, in order. -/
def userTables (db : Database V) : List String :=
  (db.names.mergeSort fun first second => first ≤ second).filter fun name => !isSystem name

/-- The tables of a database can be migrated by name, none of them and no table
of the configuration is called like a backup, and no configured statement
mentions one. -/
structure Whole (engine : Engine V) (sqls : KtAutoSqls) (dbName : String) (db : Database V) :
    Prop where
  plain : ∀ name ∈ userTables db, engine.Plain name
  own : ∀ name ∈ userTables db, endsWithIgnoringCase name tableTempName = false
  copyable : Copyable engine db (userTables db)
  creates : ∀ sql ∈ configured sqls dbName, ∀ stmt, engine.prepare sql = some stmt →
    ∃ name ifNotExists schema, stmt = .create name ifNotExists schema ∧ engine.Plain name ∧
      endsWithIgnoringCase name tableTempName = false
  unmentioned : ∀ sql ∈ configured sqls dbName, ∀ name ∈ userTables db,
    contains sql (tempOf name ++ " (") = false

/-! ## The catalog -/

section Catalog

variable {db : Database V}

theorem mem_userTables {name : String} :
    name ∈ userTables db ↔ (db.named name).isSome = true ∧ isSystem name = false := by
  rw [userTables, List.mem_filter, List.mem_mergeSort, Database.mem_names, Bool.not_eq_true']

/-- No two tables of the catalog have the same key. -/
theorem names_distinct (db : Database V) : (db.names.map fold).Nodup := by
  have keys : db.names.map fold = db.tables.keys := by
    rw [Database.names, List.map_map, AList.keys, List.keys]
    apply List.map_congr_left
    intro entry member
    exact db.keyed entry.1 entry.2 (AList.mem_lookup_iff.mpr member)
  rw [keys]
  exact AList.keys_nodup db.tables

theorem userTables_distinct (db : Database V) : ((userTables db).map fold).Nodup := by
  have sorted : (db.names.mergeSort fun first second => first ≤ second).Perm db.names :=
    List.mergeSort_perm _ _
  apply List.Nodup.sublist (List.Sublist.map fold List.filter_sublist)
  exact (sorted.map fold).nodup_iff.mpr (names_distinct db)

/-- A system table is not called like a backup. -/
theorem isSystem_of_temp {name : String} (ends : endsWithIgnoringCase name tableTempName = true) :
    isSystem name = false := by
  rw [endsWithIgnoringCase, List.isSuffixOf_iff_suffix] at ends
  apply Bool.or_eq_false_iff.mpr
  constructor
  · apply Bool.eq_false_iff.mpr
    intro same
    rw [sameIgnoringCase, beq_iff_eq] at same
    rw [same] at ends
    revert ends
    decide
  · apply Bool.eq_false_iff.mpr
    intro same
    rw [sameIgnoringCase, beq_iff_eq] at same
    rw [same] at ends
    revert ends
    decide

/-- Where no table is called like a backup, there is none. -/
theorem find_temp_of_own
    (own : ∀ name ∈ userTables db, endsWithIgnoringCase name tableTempName = false)
    (name : String) : db.find (tempOf name) = none := by
  cases found : db.find (tempOf name) with
  | none => rfl
  | some table =>
      have same : fold table.name = fold (name ++ "_TEMP") := Database.fold_name_of_find found
      have ends : endsWithIgnoringCase table.name tableTempName = true :=
        endsWithIgnoringCase_of_fold (by decide) same
      have named : db.named table.name = some table := by
        apply Database.named_eq_some.mpr
        refine ⟨?_, rfl⟩
        rw [Database.find, same]
        exact found
      have member : table.name ∈ userTables db := by
        apply mem_userTables.mpr
        exact ⟨by rw [named]; rfl, isSystem_of_temp ends⟩
      rw [own table.name member] at ends
      cases ends

/-- The loop over the catalog passes the system tables over. -/
theorem run_collect (engine : Engine V) (conn : Conn V) {rows : List String}
    (own : ∀ name ∈ rows, isSystem name = false → sameIgnoringCase name tableTempName = false)
    (list : List String) :
    (getAllTables.collect engine rows list).run conn =
      .ok (list ++ rows.filter fun name => !isSystem name) conn := by
  induction rows generalizing list with
  | nil =>
      rw [List.filter_nil, List.append_nil]
      rfl
  | cons name rest ih =>
      have later := ih fun other member => own other (List.mem_cons_of_mem _ member)
      cases system : isSystem name with
      | true =>
          have skipped : (sameIgnoringCase name "sqlite_sequence" ||
              sameIgnoringCase name "android_metadata") = true := system
          rw [List.filter_cons_of_neg (by rw [system]; exact Bool.false_ne_true), ← later list,
            EStateM.run, EStateM.run, getAllTables.collect]
          dsimp only
          rw [if_pos skipped]
      | false =>
          have ordinary : (sameIgnoringCase name "sqlite_sequence" ||
              sameIgnoringCase name "android_metadata") = false := system
          rw [List.filter_cons_of_pos (by rw [system]; rfl), List.append_cons, ← later,
            EStateM.run, EStateM.run, getAllTables.collect]
          dsimp only
          rw [if_neg (Bool.eq_false_iff.mp ordinary), own name List.mem_cons_self system,
            if_neg Bool.false_ne_true]

/-- What is not called like a backup is not called `_TEMP`. -/
theorem not_temp_of_own {name : String} (own : endsWithIgnoringCase name tableTempName = false) :
    sameIgnoringCase name tableTempName = false := by
  apply Bool.eq_false_iff.mpr
  intro same
  rw [sameIgnoringCase, beq_iff_eq] at same
  have ends : endsWithIgnoringCase name tableTempName = true := by
    rw [endsWithIgnoringCase, same, List.isSuffixOf_iff_suffix]
  rw [own] at ends
  cases ends

/-- Neither is the backup of a table. -/
theorem not_temp_of_temp {name : String} (notBlank : name ≠ "") :
    sameIgnoringCase (tempOf name) tableTempName = false := by
  apply Bool.eq_false_iff.mpr
  intro same
  rw [sameIgnoringCase, beq_iff_eq, tempOf, String.toList_append, List.map_append] at same
  have lengths := congrArg List.length same
  rw [List.length_append] at lengths
  have empty : (name.toList.map foldJava).length = 0 := by omega
  rw [List.length_map] at empty
  exact notBlank (String.toList_eq_nil_iff.mp (List.length_eq_zero_iff.mp empty))

/-- `getAllTables`, if no table is called `_TEMP`. -/
theorem run_getAllTables {engine : Engine V} (documented : engine.Documented) {conn : Conn V}
    (ordinary : ∀ name ∈ userTables conn.db, sameIgnoringCase name tableTempName = false) :
    (getAllTables engine).run conn = .ok (userTables conn.db) conn := by
  set rows := conn.db.names.mergeSort fun first second => first ≤ second with rowsEq
  have reads : (rawQuery engine
      "select name from sqlite_master where type='table' order by name").run conn =
        .ok (.names rows) conn := run_rawQuery_of_some documented.allTables rfl
  have kept : ∀ name ∈ rows, isSystem name = false →
      sameIgnoringCase name tableTempName = false := by
    intro name member user
    exact ordinary name (List.mem_filter.mpr ⟨member, by rw [user]; rfl⟩)
  have collects := run_collect engine conn kept []
  rw [List.nil_append] at collects
  rw [EStateM.run, getAllTables, reads]
  exact collects

end Catalog

/-! ## The tables after the first phase -/

theorem Listing.perm {engine : Engine V} {first second : List String}
    (listing : Listing engine first) (same : first.Perm second) : Listing engine second where
  plain := fun name member => listing.plain name (same.mem_iff.mpr member)
  own := fun name member => listing.own name (same.mem_iff.mpr member)
  distinct := (same.pairwise_iff fun differ => Ne.symm differ).mp listing.distinct

/-- The backups that the first phase makes. -/
def backupsOf (engine : Engine V) (db : Database V) (tables : List String) : List String :=
  (tables.filter fun name => (backup engine db name).isSome).map tempOf

section First

variable {engine : Engine V} {sqls : KtAutoSqls} {dbName : String} {db backed : Database V}

theorem Whole.listing (whole : Whole engine sqls dbName db) : Listing engine (userTables db) where
  plain := whole.plain
  own := whole.own
  distinct := List.pairwise_map.mp (userTables_distinct db)

theorem Whole.creating (whole : Whole engine sqls dbName db) :
    Creating engine (configured sqls dbName) := by
  intro sql member stmt reads
  rcases whole.creates sql member stmt reads with ⟨name, ifNotExists, schema, same, -⟩
  exact ⟨name, ifNotExists, schema, same⟩

/-- The configuration creates no backup. -/
theorem Whole.unclaimed (whole : Whole engine sqls dbName db) {statements : List String}
    (among : ∀ sql ∈ statements, sql ∈ configured sqls dbName) (name : String) :
    created engine statements (fold (tempOf name)) = none := by
  apply List.findSome?_eq_none_iff.mpr
  intro sql member
  unfold Migration.creates
  split
  · rename_i made ifNotExists schema reads
    rcases whole.creates sql (among sql member) _ reads with ⟨other, _, _, same, -, own⟩
    cases same
    exact if_neg (ne_temp_of_own own name)
  · rfl

theorem mem_backupsOf {tables : List String} {name : String} :
    name ∈ backupsOf engine db tables ↔
      ∃ table ∈ tables, (backup engine db table).isSome = true ∧ tempOf table = name := by
  rw [backupsOf, List.mem_map]
  constructor
  · rintro ⟨table, member, same⟩
    exact ⟨table, (List.mem_filter.mp member).1, (List.mem_filter.mp member).2, same⟩
  · rintro ⟨table, member, backs, same⟩
    exact ⟨table, List.mem_filter.mpr ⟨member, backs⟩, same⟩

theorem tempOf_inj {first second : String} (same : tempOf first = tempOf second) :
    first = second := by
  have lists := congrArg String.toList same
  rw [tempOf, tempOf, String.toList_append, String.toList_append] at lists
  exact String.toList_inj.mp (List.append_cancel_right lists)

variable (whole : Whole engine sqls dbName db)
  (backs : Backed engine (userTables db) db backed)
include whole backs

theorem Whole.find_temp {name : String} (member : name ∈ userTables db) :
    backed.find (tempOf name) = backup engine db name := by
  rw [backs.temp name member, backedUp, find_temp_of_own whole.own, backup]
  cases db.named name <;> rfl

/-- After the first phase the catalog shows the backups too. -/
theorem Whole.mem_backed {name : String} :
    name ∈ userTables backed ↔
      name ∈ userTables db ∨ name ∈ backupsOf engine db (userTables db) := by
  by_cases temp : ∃ table ∈ userTables db, fold name = fold (tempOf table)
  · rcases temp with ⟨table, member, same⟩
    have found : backed.find name = backup engine db table := by
      rw [Database.find, same]
      exact whole.find_temp backs member
    have notOwn : name ∉ userTables db :=
      fun inside => ne_temp_of_own (whole.own name inside) table same
    rw [or_iff_right notOwn, mem_userTables, mem_backupsOf]
    constructor
    · rintro ⟨there, -⟩
      rcases Option.isSome_iff_exists.mp there with ⟨made, named⟩
      rcases Database.named_eq_some.mp named with ⟨present, called⟩
      rw [found] at present
      exact ⟨table, member, by rw [present]; rfl, by rw [← backup_name present, called]⟩
    · rintro ⟨other, among, there, called⟩
      subst called
      have distinct := List.inj_on_of_nodup_map (userTables_distinct db) among member
        (temp_inj same)
      subst distinct
      rcases Option.isSome_iff_exists.mp there with ⟨made, present⟩
      have named : backed.named (tempOf other) = some made :=
        Database.named_eq_some.mpr ⟨found.trans present, backup_name present⟩
      refine ⟨by rw [named]; rfl, isSystem_of_temp ?_⟩
      exact endsWithIgnoringCase_of_fold (by decide) rfl
  · have notBackup : name ∉ backupsOf engine db (userTables db) := by
      intro inside
      rcases mem_backupsOf.mp inside with ⟨table, member, -, called⟩
      exact temp ⟨table, member, by rw [called]⟩
    have same : backed.named name = db.named name := by
      have found : backed.find name = db.find name :=
        backs.other (fold name) fun table member key => temp ⟨table, member, key⟩
      rw [Database.named, Database.named, found]
    rw [or_iff_left notBackup, mem_userTables, mem_userTables, same]

theorem Whole.userTables_backed :
    (userTables backed).Perm (userTables db ++ backupsOf engine db (userTables db)) := by
  have nodup : ∀ other : Database V, (userTables other).Nodup :=
    fun other => List.Nodup.of_map fold (userTables_distinct other)
  have backups : (backupsOf engine db (userTables db)).Nodup :=
    List.Nodup.map (fun _ _ => tempOf_inj) ((nodup db).filter _)
  have disjoint : List.Disjoint (userTables db) (backupsOf engine db (userTables db)) := by
    intro name member inside
    rcases mem_backupsOf.mp inside with ⟨table, -, -, called⟩
    exact ne_temp_of_own (whole.own name member) table (by rw [called])
  apply (List.perm_ext_iff_of_nodup (nodup backed) ((nodup db).append backups disjoint)).mpr
  intro name
  rw [whole.mem_backed backs, List.mem_append]

theorem Whole.plain_backed (documented : engine.Documented) :
    ∀ name ∈ userTables backed, engine.Plain name := by
  intro name member
  rcases (whole.mem_backed backs).mp member with own | inside
  · exact whole.plain name own
  · rcases mem_backupsOf.mp inside with ⟨table, among, -, called⟩
    rw [← called]
    exact (whole.plain table among).temp documented

/-- With the backups in the list no other statements are executed. -/
theorem Whole.matched_backed {tables : List String} (same : tables.Perm (userTables db)) :
    matched (configured sqls dbName) (userTables backed) =
      matched (configured sqls dbName) tables := by
  apply matched_congr
  intro sql member
  have noBackups : (backupsOf engine db (userTables db)).filter
      (fun s => contains sql (s ++ " (")) = [] := by
    apply List.filter_eq_nil_iff.mpr
    intro name inside
    rcases mem_backupsOf.mp inside with ⟨table, among, -, called⟩
    rw [← called, whole.unmentioned sql member table among]
    exact Bool.false_ne_true
  have counts := ((whole.userTables_backed backs).filter
    fun s => contains sql (s ++ " (")).length_eq
  rw [counts, List.filter_append, noBackups, List.append_nil,
    (same.filter fun s => contains sql (s ++ " (")).length_eq]

/-- A key that is not that of a backup is listed with the backups if it is listed
without. -/
theorem Whole.mem_keys_backed {tables : List String} (same : tables.Perm (userTables db))
    {key : String} (apart : ∀ name, key ≠ fold (tempOf name)) :
    key ∈ (userTables backed).map fold ↔ key ∈ tables.map fold := by
  rw [((whole.userTables_backed backs).map fold).mem_iff, (same.map fold).mem_iff, List.map_append,
    List.mem_append, or_iff_left]
  intro inside
  rcases List.mem_map.mp inside with ⟨name, among, called⟩
  rcases mem_backupsOf.mp among with ⟨table, -, -, temp⟩
  rw [← temp] at called
  exact apart table called.symm

end First

/-! ## The phases without a list -/

section Phases

variable {engine : Engine V} (documented : engine.Documented) {conn : Conn V}
  (ordinary : ∀ name ∈ userTables conn.db, sameIgnoringCase name tableTempName = false)
include documented ordinary

theorem run_buildTempTable_nil (anyTable : userTables conn.db ≠ []) :
    (buildTempTable engine []).run conn =
      (buildTempTable engine (userTables conn.db)).run conn := by
  rw [buildTempTable, if_pos List.isEmpty_nil, EStateM.run_bind,
    run_getAllTables documented ordinary, buildTempTable,
    if_neg (fun empty => anyTable (List.isEmpty_iff.mp empty))]

theorem run_rebuildSpecifyTables_nil (sqls : KtAutoSqls) (dbName : String)
    (anyTable : userTables conn.db ≠ []) :
    (rebuildSpecifyTables engine sqls dbName []).run conn =
      (rebuildSpecifyTables engine sqls dbName (userTables conn.db)).run conn := by
  rw [rebuildSpecifyTables, rebuildSpecifyTables, if_pos List.isEmpty_nil, EStateM.run_bind,
    run_getAllTables documented ordinary,
    if_neg (fun empty => anyTable (List.isEmpty_iff.mp empty))]
  rfl

omit ordinary in
/-- The loop over tables without backups does nothing. -/
theorem run_restoreLoop_of_absent (isSpecify : Bool) {tables : List String} {state : Restoring V}
    (plain : ∀ table ∈ tables, engine.Plain table)
    (absent : ∀ table ∈ tables, state.conn.db.named (tempOf table) = none) :
    (restoreLoop engine isSpecify tables).run state = .ok tables state := by
  induction tables with
  | nil => rfl
  | cons table rest ih =>
      have asked := run_tableIsExist documented ((plain table List.mem_cons_self).temp documented)
        state.conn
      rw [show table ++ "_TEMP" = tempOf table from rfl, absent table List.mem_cons_self] at asked
      have later := ih (fun other member => plain other (List.mem_cons_of_mem _ member))
        fun other member => absent other (List.mem_cons_of_mem _ member)
      rw [restoreLoop, EStateM.run_bind, show table ++ tableTempName = tempOf table from rfl,
        run_onConn_of_ok asked]
      dsimp only
      rw [Option.isSome_none, if_neg Bool.false_ne_true, EStateM.run_bind, later]
      rfl

omit ordinary in
/-- The third phase does nothing either, where no table is called like a backup. -/
theorem run_restoreTable_all (listing : Listing engine (userTables conn.db)) :
    ∃ next, (restoreTable engine false []).run conn = .ok () next ∧
      ∀ key, next.db.lookup key = conn.db.lookup key := by
  have absent : ∀ name, conn.db.find (tempOf name) = none := find_temp_of_own listing.own
  have unnamed : ∀ table ∈ userTables conn.db, conn.db.named (tempOf table) = none := by
    intro table _
    rw [Database.named, absent table, Option.filter_none]
  have reads := run_getAllTables documented fun name member => not_temp_of_own (listing.own name member)
  have loops : (runRestoreLoop engine false (userTables conn.db)).run conn =
      .ok (userTables conn.db) conn := by
    rw [EStateM.run, runRestoreLoop,
      run_restoreLoop_of_absent documented false listing.plain unnamed]
  rcases run_sweep documented listing.spelled conn with ⟨next, sweeps, temps, others⟩
  refine ⟨next, ?_, ?_⟩
  · simp only [restoreTable, if_neg Bool.false_ne_true, EStateM.run_bind, reads, loops]
    exact sweeps
  · intro key
    by_cases temp : ∃ table ∈ userTables conn.db, key = fold (tempOf table)
    · rcases temp with ⟨table, member, same⟩
      have gone : next.db.find (tempOf table) = none := by
        rw [temps table member, absent table, ite_self]
      rw [same]
      exact gone.trans (absent table).symm
    · exact others key fun table member same => temp ⟨table, member, same⟩

end Phases

/-! ## Whole runs -/

/-- A program returns. -/
def Returns (program : Program V Unit) (conn : Conn V) : Prop :=
  ∃ next, program.run conn = .ok () next

/-- So many passes over a list of tables return. -/
def Passes (engine : Engine V) (sqls : KtAutoSqls) (dbName : String) (tables : List String)
    (db : Database V) (passes : Nat) : Prop :=
  executes engine (matched (configured sqls dbName) tables) (left tables db) = true ∧
    (passes ≤ 1 ∨ Repeatable engine (matched (configured sqls dbName) tables) tables)

/-- What a migration of all tables leaves. -/
structure Emptied (engine : Engine V) (sqls : KtAutoSqls) (dbName : String) (tables : List String)
    (db next : Database V) : Prop where
  table : ∀ name ∈ tables, next.find name = recreated engine sqls dbName tables name
  temp : ∀ name ∈ tables, next.find (tempOf name) = none
  other : ∀ key, (∀ name ∈ tables, key ≠ fold name ∧ key ≠ fold (tempOf name)) →
    next.lookup key =
      (db.lookup key).or (created engine (matched (configured sqls dbName) tables) key)

theorem created_eq_some {engine : Engine V} {statements : List String} {key : String}
    {table : Table V} (makes : created engine statements key = some table) :
    ∃ sql ∈ statements, ∃ ifNotExists schema,
      engine.prepare sql = some (.create table.name ifNotExists schema) := by
  rcases List.exists_of_findSome?_eq_some makes with ⟨sql, member, creation⟩
  unfold creates at creation
  split at creation
  · rename_i name ifNotExists schema reads
    split at creation
    · cases creation
      exact ⟨sql, member, ifNotExists, schema, reads⟩
    · cases creation
  · cases creation

section Runs

variable {engine : Engine V} (documented : engine.Documented) (steady : engine.Steady)
  {sqls : KtAutoSqls} {dbName : String} {conn : Conn V}
  (whole : Whole engine sqls dbName conn.db) {tables : List String}
  (same : tables.Perm (userTables conn.db)) (anyTable : tables ≠ [])

include whole in
/-- Whether statements execute does not depend on backups. -/
theorem Whole.executes_left {statements first second : List String}
    (among : ∀ sql ∈ statements, sql ∈ configured sqls dbName) {db other : Database V}
    (agree : ∀ key, (∀ name, key ≠ fold (tempOf name)) →
      (key ∈ first.map fold ↔ key ∈ second.map fold) ∧ db.lookup key = other.lookup key) :
    executes engine statements (left first db) = executes engine statements (left second other) := by
  apply executes_congr
  intro sql member name schema reads
  rcases whole.creates sql (among sql member) _ reads with ⟨made, _, _, called, -, own⟩
  cases called
  have facts := agree (fold name) fun table => ne_temp_of_own own table
  by_cases listed : fold name ∈ second.map fold
  · rw [left_of_mem listed, left_of_mem (facts.1.mpr listed)]
  · rw [left_of_not_mem listed, left_of_not_mem (fun inside => listed (facts.1.mp inside)), facts.2]

include whole in
theorem Whole.repeatable_iff {statements first second : List String}
    (among : ∀ sql ∈ statements, sql ∈ configured sqls dbName)
    (agree : ∀ key, (∀ name, key ≠ fold (tempOf name)) →
      (key ∈ first.map fold ↔ key ∈ second.map fold)) :
    Repeatable engine statements first ↔ Repeatable engine statements second := by
  apply forall₂_congr
  intro sql member
  apply forall₂_congr
  intro name schema
  apply imp_congr_right
  intro reads
  rcases whole.creates sql (among sql member) _ reads with ⟨made, _, _, called, -, own⟩
  cases called
  exact agree (fold name) fun table => ne_temp_of_own own table

theorem among_matched {statements list : List String} :
    ∀ sql ∈ matched statements list, sql ∈ statements :=
  fun _ member => (mem_matched.mp member).1

include whole same in
theorem Whole.copyable_of_perm : Copyable engine conn.db tables :=
  fun name member => whole.copyable name (same.mem_iff.mp member)

include documented steady whole same anyTable in
/-- A migration by name returns if and only if as many passes as tables do. -/
theorem Whole.returns_specify_iff :
    Returns (migrateSpecifyTable engine sqls dbName tables) conn ↔
      Passes engine sqls dbName tables conn.db tables.length := by
  have listing := whole.listing.perm same.symm
  have noLeftover : ∀ name ∈ tables, conn.db.find (tempOf name) = none :=
    fun name _ => find_temp_of_own whole.own name
  have unclaimed : ∀ name ∈ tables,
      created engine (configured sqls dbName) (fold (tempOf name)) = none :=
    fun name _ => whole.unclaimed (fun _ member => member) name
  have copyable := whole.copyable_of_perm same
  rcases run_phases documented steady listing whole.creating anyTable copyable with
    ⟨backed, backs, phases, halfways⟩
  have works : executes engine (matched (configured sqls dbName) tables)
      (left tables backed.db) =
        executes engine (matched (configured sqls dbName) tables) (left tables conn.db) :=
    whole.executes_left among_matched fun key apart =>
      ⟨Iff.rfl, backs.other key fun table _ => apart table⟩
  rw [Passes, ← works, ← rebuildSpecifyTables_returns_iff documented steady listing.plain
    whole.creating anyTable backed, Returns, phases]
  cases rebuilds : (rebuildSpecifyTables engine sqls dbName tables).run backed with
  | error thrown last =>
      apply exists_congr
      intro next
      exact Iff.rfl
  | ok done mid =>
      have plainBackups := (halfways mid rebuilds).plainBackups documented copyable noLeftover
        unclaimed
      rcases run_restoreTable documented listing steady plainBackups.shared with ⟨last, ends, -⟩
      exact iff_of_true ⟨last, ends⟩ ⟨mid, rfl⟩

include documented steady whole same anyTable in
/-- A migration of all tables is its second phase, with the backups in the list,
and then nothing. -/
theorem Whole.run_migrateAllTable :
    ∃ backed : Conn V, Backed engine (userTables conn.db) conn.db backed.db ∧
      (migrateAllTable engine sqls dbName).run conn =
        match (rebuildSpecifyTables engine sqls dbName (userTables backed.db)).run backed with
        | .ok _ mid => (restoreTable engine false []).run mid
        | .error thrown last => .error thrown last := by
  have present : userTables conn.db ≠ [] := by
    intro empty
    rw [empty] at same
    exact anyTable same.eq_nil
  rcases run_buildTempTable documented steady whole.listing present whole.copyable with
    ⟨backed, ends, temps, others⟩
  have backs : Backed engine (userTables conn.db) conn.db backed.db := ⟨temps, others⟩
  have shown : ∀ name ∈ userTables backed.db, sameIgnoringCase name tableTempName = false := by
    intro name member
    rcases (whole.mem_backed backs).mp member with own | inside
    · exact not_temp_of_own (whole.own name own)
    · rcases mem_backupsOf.mp inside with ⟨table, among, -, called⟩
      rw [← called]
      exact not_temp_of_temp (isWord_ne_empty (whole.plain table among).1)
  have later : userTables backed.db ≠ [] := by
    intro empty
    have counts := (whole.userTables_backed backs).length_eq
    rw [empty, List.length_append] at counts
    exact present (List.length_eq_zero_iff.mp (by rw [List.length_nil] at counts; omega))
  refine ⟨backed, backs, ?_⟩
  rw [migrateAllTable, EStateM.run_bind,
    run_buildTempTable_nil documented (fun name member => not_temp_of_own (whole.own name member))
      present, ends]
  dsimp only
  rw [EStateM.run_bind, run_rebuildSpecifyTables_nil documented shown sqls dbName later]
  cases (rebuildSpecifyTables engine sqls dbName (userTables backed.db)).run backed <;> rfl

include whole in
/-- After the second phase no table is called like a backup. -/
theorem Whole.listing_mid {backed mid : Conn V}
    (rebuilt : Rebuilt engine (configured sqls dbName) (userTables backed.db) backed mid) :
    Listing engine (userTables mid.db) := by
  have proper : ∀ name ∈ userTables mid.db,
      engine.Plain name ∧ endsWithIgnoringCase name tableTempName = false := by
    intro name member
    rcases mem_userTables.mp member with ⟨there, user⟩
    rcases Option.isSome_iff_exists.mp there with ⟨table, named⟩
    rcases Database.named_eq_some.mp named with ⟨found, called⟩
    rw [Database.find, rebuilt (fold name)] at found
    have makes : created engine (matched (configured sqls dbName) (userTables backed.db))
        (fold name) = some table := by
      split at found
      · exact found
      · rename_i unlisted
        rcases Option.or_eq_some_iff.mp found with old | ⟨-, new⟩
        · exfalso
          have oldNamed : backed.db.named name = some table :=
            Database.named_eq_some.mpr ⟨old, called⟩
          apply unlisted
          exact List.mem_map_of_mem (mem_userTables.mpr ⟨by rw [oldNamed]; rfl, user⟩)
        · exact new
    rcases created_eq_some makes with ⟨sql, among, ifNotExists, schema, reads⟩
    rcases whole.creates sql (mem_matched.mp among).1 _ reads with ⟨made, _, _, same, plain, own⟩
    cases same
    rw [← called]
    exact ⟨plain, own⟩
  exact {
    plain := fun name member => (proper name member).1
    own := fun name member => (proper name member).2
    distinct := List.pairwise_map.mp (userTables_distinct mid.db) }

include documented steady whole same anyTable in
/-- A migration of all tables returns if and only if as many passes do as there
are tables and backups; and then every table is as it is created. -/
theorem Whole.returns_all_iff :
    (Returns (migrateAllTable engine sqls dbName) conn ↔
      Passes engine sqls dbName tables conn.db
        (tables.length + (backupsOf engine conn.db tables).length)) ∧
    ∀ next, (migrateAllTable engine sqls dbName).run conn = .ok () next →
      Emptied engine sqls dbName tables conn.db next.db := by
  rcases whole.run_migrateAllTable documented steady same anyTable with ⟨backed, backs, phases⟩
  set listed := userTables backed.db with listedEq
  have plain : ∀ name ∈ listed, engine.Plain name := whole.plain_backed backs documented
  have statements : matched (configured sqls dbName) listed =
      matched (configured sqls dbName) tables := whole.matched_backed backs same
  have counts : listed.length = tables.length + (backupsOf engine conn.db tables).length := by
    have backups : (backupsOf engine conn.db tables).length =
        (backupsOf engine conn.db (userTables conn.db)).length := by
      rw [backupsOf, backupsOf, List.length_map, List.length_map,
        (same.filter fun name => (backup engine conn.db name).isSome).length_eq]
    rw [(whole.userTables_backed backs).length_eq, List.length_append, same.length_eq, backups]
  have nonempty : listed ≠ [] := by
    intro empty
    rw [empty, List.length_nil] at counts
    exact anyTable (List.length_eq_zero_iff.mp (by omega))
  have agree : ∀ key, (∀ name, key ≠ fold (tempOf name)) →
      (key ∈ listed.map fold ↔ key ∈ tables.map fold) ∧
        backed.db.lookup key = conn.db.lookup key := fun key apart =>
    ⟨whole.mem_keys_backed backs same apart, backs.other key fun table _ => apart table⟩
  have ends : ∀ mid, (rebuildSpecifyTables engine sqls dbName listed).run backed = .ok () mid →
      ∃ next, (restoreTable engine false []).run mid = .ok () next ∧
        (∀ key, next.db.lookup key = mid.db.lookup key) ∧
        Rebuilt engine (configured sqls dbName) listed backed mid := by
    intro mid rebuilds
    have rebuilt := rebuilt_of_rebuildSpecifyTables documented plain whole.creating nonempty rebuilds
    rcases run_restoreTable_all documented (whole.listing_mid rebuilt) with
      ⟨next, ends, lookups⟩
    exact ⟨next, ends, lookups, rebuilt⟩
  constructor
  · rw [Passes, ← counts, ← whole.executes_left among_matched agree,
      ← whole.repeatable_iff among_matched fun key apart => (agree key apart).1, ← statements,
      ← rebuildSpecifyTables_returns_iff documented steady plain whole.creating nonempty backed,
      Returns, phases]
    cases rebuilds : (rebuildSpecifyTables engine sqls dbName listed).run backed with
    | error thrown last =>
        apply exists_congr
        intro next
        exact Iff.rfl
    | ok done mid =>
        rcases ends mid rebuilds with ⟨next, restores, -⟩
        exact iff_of_true ⟨next, restores⟩ ⟨mid, rfl⟩
  · intro next returns
    rw [phases] at returns
    cases rebuilds : (rebuildSpecifyTables engine sqls dbName listed).run backed with
    | error thrown last =>
        rw [rebuilds] at returns
        cases returns
    | ok done mid =>
        rw [rebuilds] at returns
        rcases ends mid rebuilds with ⟨last, restores, lookups, rebuilt⟩
        dsimp only at returns
        rw [restores] at returns
        cases returns
        constructor
        · intro name member
          have among : fold name ∈ listed.map fold :=
            (agree (fold name) (whole.listing.ne_temp (same.mem_iff.mp member))).1.mpr
              (List.mem_map_of_mem member)
          rw [Database.find, lookups, rebuilt, if_pos among, statements]
          rfl
        · intro name member
          have temp := whole.find_temp backs (same.mem_iff.mp member)
          have unclaimed : created engine (matched (configured sqls dbName) listed)
              (fold (tempOf name)) = none := whole.unclaimed among_matched name
          rw [Database.find, lookups, rebuilt, unclaimed]
          split
          · rfl
          · rename_i unlisted
            rw [Option.or_none]
            cases backsUp : backup engine conn.db name with
            | none => exact temp.trans backsUp
            | some made =>
                exfalso
                apply unlisted
                apply List.mem_map_of_mem
                apply (whole.mem_backed backs).mpr
                right
                exact mem_backupsOf.mpr ⟨name, same.mem_iff.mp member, by rw [backsUp]; rfl, rfl⟩
        · intro key apart
          have unlisted : key ∉ listed.map fold := by
            intro inside
            rcases List.mem_map.mp inside with ⟨name, among, called⟩
            rcases (whole.mem_backed backs).mp among with own | temp
            · exact (apart name (same.mem_iff.mpr own)).1 called.symm
            · rcases mem_backupsOf.mp temp with ⟨table, member, -, isTemp⟩
              rw [← isTemp] at called
              exact (apart table (same.mem_iff.mpr member)).2 called.symm
          rw [lookups, rebuilt, if_neg unlisted, statements,
            backs.other key fun table member => (apart table (same.mem_iff.mpr member)).2]

end Runs

/-! ## The two entries -/

/-- The same name, the same columns and the same rows. -/
def Alike (first second : Option (Table V)) : Prop :=
  (first.map fun table => (table.name, table.schema.columns)) =
      (second.map fun table => (table.name, table.schema.columns)) ∧
    SameRows first second

/-- Migrating all tables comes to the same as migrating each by name. -/
def Agree (engine : Engine V) (sqls : KtAutoSqls) (dbName : String) (tables : List String)
    (conn : Conn V) : Prop :=
  (Returns (migrateAllTable engine sqls dbName) conn ↔
      Returns (migrateSpecifyTable engine sqls dbName tables) conn) ∧
    ∀ next other, (migrateAllTable engine sqls dbName).run conn = .ok () next →
      (migrateSpecifyTable engine sqls dbName tables).run conn = .ok () other →
      ∀ key, Alike (next.db.lookup key) (other.db.lookup key)

/-- If the entry with a list returns, the passes for the backups return too, and
no row survives. -/
def KeepsNothing (engine : Engine V) (sqls : KtAutoSqls) (dbName : String) (tables : List String)
    (db : Database V) : Prop :=
  Passes engine sqls dbName tables db tables.length →
    Passes engine sqls dbName tables db (tables.length + (backupsOf engine db tables).length) ∧
      ∀ before name after, tables = before ++ name :: after → ∀ old, db.find name = some old →
        old.rows = [] ∨ ¬ Survives engine sqls dbName tables before db name old

theorem Alike.refl (found : Option (Table V)) : Alike found found := ⟨rfl, SameRows.refl found⟩

theorem alike_of_shape {first second : Option (Table V)}
    (shape : first.map Table.shape = second.map Table.shape) (same : SameRows first second) :
    Alike first second := by
  have columns := congrArg
    (Option.map fun shape : String × Schema V => (shape.1, shape.2.columns)) shape
  rw [Option.map_map, Option.map_map] at columns
  exact ⟨columns, same⟩

theorem rowsOf_eq_nil_iff {table : Table V} : rowsOf (some table) = [] ↔ table.rows = [] :=
  List.map_eq_nil_iff

section Comparing

variable {engine : Engine V} {sqls : KtAutoSqls} {dbName : String} {tables : List String}
  {db next : Database V} (migrated : Migrated engine sqls dbName tables db next)
include migrated

/-- A listed table has the name and the columns with which it is created. -/
theorem Migrated.shape {before after : List String} {name : String}
    (split : tables = before ++ name :: after) :
    (next.find name).map Table.shape =
      (recreated engine sqls dbName tables name).map Table.shape := by
  rw [migrated.table before name after split]
  split
  · rfl
  · cases reinserts : reinserted engine sqls dbName tables db name with
    | none => rfl
    | some new =>
        rcases Option.bind_eq_some_iff.mp reinserts with ⟨made, -, restores⟩
        rcases Option.bind_eq_some_iff.mp restores with ⟨target, makes, copies⟩
        rcases Engine.copied_name copies with ⟨sameName, sameSchema⟩
        rw [makes, Option.some_or, Option.map_some, Option.map_some, Table.shape, Table.shape,
          sameName, sameSchema]

/-- A listed table is empty in the end if and only if it was before, or does not
survive. -/
theorem Migrated.rows_eq_nil_iff {before after : List String} {name : String}
    (split : tables = before ++ name :: after) {old : Table V} (found : db.find name = some old) :
    rowsOf (next.find name) = [] ↔
      old.rows = [] ∨ ¬ Survives engine sqls dbName tables before db name old := by
  -- What survives holds as many rows as before.
  have carried : ∀ made target new,
      CarriedOver engine sqls dbName tables before db name old made target new →
      next.find name = some new ∧ (new.rows = [] ↔ old.rows = []) := by
    intro made target new carries
    refine ⟨carries.find migrated split found, ?_⟩
    rw [← List.length_eq_zero_iff, carries.length, List.length_eq_zero_iff]
  constructor
  · intro nothing
    by_contra both
    rw [not_or, not_not] at both
    rcases both.2 with ⟨made, target, new, carries⟩
    rcases carried made target new carries with ⟨foundNew, rows⟩
    rw [foundNew, rowsOf_eq_nil_iff] at nothing
    exact both.1 (rows.mp nothing)
  · intro lost
    cases foundNew : next.find name with
    | none => rfl
    | some new =>
        apply rowsOf_eq_nil_iff.mpr
        by_contra rows
        rcases carriedOver_of_find migrated split found foundNew rows with ⟨made, target, carries⟩
        rcases lost with empty | dead
        · exact rows ((carried made target new carries).2.mpr empty)
        · exact dead ⟨made, target, new, carries⟩

end Comparing

section Entries

variable {engine : Engine V} (documented : engine.Documented) (steady : engine.Steady)
  {sqls : KtAutoSqls} {dbName : String} {conn : Conn V}
  (whole : Whole engine sqls dbName conn.db)
include documented

/-- Without tables neither entry does anything. -/
theorem agree_of_no_tables (noTables : userTables conn.db = []) :
    Agree engine sqls dbName [] conn := by
  have reads : (getAllTables engine).run conn = .ok [] conn := by
    rw [← noTables]
    apply run_getAllTables documented
    intro name member
    rw [noTables] at member
    cases member
  have backs : (buildTempTable engine []).run conn = .ok () conn := by
    rw [buildTempTable, if_pos List.isEmpty_nil, EStateM.run_bind, reads]
    rfl
  have rebuilds : (rebuildSpecifyTables engine sqls dbName []).run conn = .ok () conn := by
    rw [rebuildSpecifyTables, if_pos List.isEmpty_nil, EStateM.run_bind, reads]
    rfl
  have restores : (restoreTable engine false []).run conn = .ok () conn := by
    rw [restoreTable, if_neg Bool.false_ne_true, EStateM.run_bind, reads]
    rfl
  have all : (migrateAllTable engine sqls dbName).run conn = .ok () conn := by
    simp only [migrateAllTable, EStateM.run_bind, backs, rebuilds, restores]
  have specify : (migrateSpecifyTable engine sqls dbName []).run conn = .ok () conn := by
    simp only [migrateSpecifyTable, EStateM.run_bind, backs, rebuilds]
    rfl
  refine ⟨iff_of_true ⟨conn, all⟩ ⟨conn, specify⟩, ?_⟩
  intro next other ends otherEnds key
  rw [all] at ends
  rw [specify] at otherEnds
  cases ends
  cases otherEnds
  exact Alike.refl _

include steady whole in
theorem Whole.agree_iff {tables : List String} (same : tables.Perm (userTables conn.db)) :
    Agree engine sqls dbName tables conn ↔
      KeepsNothing engine sqls dbName tables conn.db := by
  by_cases anyTable : tables = []
  · subst anyTable
    refine iff_of_true (agree_of_no_tables documented same.symm.eq_nil) ?_
    intro passes
    refine ⟨passes, ?_⟩
    intro before name after impossible
    cases before <;> cases impossible
  have listing := whole.listing.perm same.symm
  have copyable := whole.copyable_of_perm same
  rcases whole.returns_all_iff documented steady same anyTable with ⟨all, empties⟩
  have specify := whole.returns_specify_iff documented steady same anyTable
  have migrated : ∀ other, (migrateSpecifyTable engine sqls dbName tables).run conn = .ok () other →
      Migrated engine sqls dbName tables conn.db other.db :=
    fun other returns => migrated_of_run documented steady listing whole.creating anyTable copyable
      (fun name _ => find_temp_of_own whole.own name)
      (fun name _ => whole.unclaimed (fun _ member => member) name) returns
  have fresh : ∀ name, rowsOf (recreated engine sqls dbName tables name) = [] :=
    fun name => rowsOf_of_empty fun table makes => (recreated_name makes).2
  constructor
  · rintro ⟨returns, alike⟩ passes
    rcases specify.mpr passes with ⟨other, otherEnds⟩
    rcases returns.mpr ⟨other, otherEnds⟩ with ⟨next, ends⟩
    refine ⟨all.mp ⟨next, ends⟩, ?_⟩
    intro before name after split old found
    have member : name ∈ tables := List.mem_iff_append.mpr ⟨_, _, split⟩
    apply ((migrated other otherEnds).rows_eq_nil_iff split found).mp
    have rows := (alike next other ends otherEnds (fold name)).2
    have nothing : rowsOf (next.db.lookup (fold name)) = [] := by
      rw [← fresh name, ← (empties next ends).table name member]
      rfl
    rw [SameRows, nothing] at rows
    exact rows.symm.eq_nil
  · intro condition
    constructor
    · rw [all, specify]
      constructor
      · rintro ⟨works, several⟩
        refine ⟨works, several.imp ?_ id⟩
        omega
      · exact fun passes => (condition passes).1
    · intro next other ends otherEnds key
      have lost := (condition (specify.mp ⟨other, otherEnds⟩)).2
      have emptied := empties next ends
      have restored := migrated other otherEnds
      by_cases listed : ∃ name ∈ tables, key = fold name
      · rcases listed with ⟨name, member, here⟩
        subst here
        rcases List.append_of_mem member with ⟨before, after, split⟩
        have made : next.db.lookup (fold name) = recreated engine sqls dbName tables name :=
          emptied.table name member
        rw [made]
        apply alike_of_shape (restored.shape split).symm
        rcases Option.isSome_iff_exists.mp (mem_userTables.mp (same.mem_iff.mp member)).1 with
          ⟨old, named⟩
        have found := (Database.named_eq_some.mp named).1
        have nothing := (restored.rows_eq_nil_iff split found).mpr
          (lost before name after split old found)
        rw [SameRows, fresh name, nothing]
      · by_cases temp : ∃ name ∈ tables, key = fold (tempOf name)
        · rcases temp with ⟨name, member, here⟩
          have first : next.db.lookup key = none := by
            rw [here]
            exact emptied.temp name member
          have second : other.db.lookup key = none := by
            rw [here]
            exact restored.temp name member
          rw [first, second]
          exact Alike.refl none
        · have apart : ∀ name ∈ tables, key ≠ fold name ∧ key ≠ fold (tempOf name) :=
            fun name member =>
              ⟨fun here => listed ⟨name, member, here⟩, fun here => temp ⟨name, member, here⟩⟩
          rw [emptied.other key apart, restored.other key apart]
          exact Alike.refl _

omit whole in
include steady in
/-- The entries agree if no name is that of a backup and no row survives; and
where no name is that of a backup, only then. -/
theorem migrateAllTable_agrees_iff {tables : List String} (same : tables.Perm (userTables conn.db)) :
    (Whole engine sqls dbName conn.db ∧ KeepsNothing engine sqls dbName tables conn.db →
        Agree engine sqls dbName tables conn) ∧
      (Whole engine sqls dbName conn.db → Agree engine sqls dbName tables conn →
        KeepsNothing engine sqls dbName tables conn.db) := by
  constructor
  · rintro ⟨whole, nothing⟩
    exact (whole.agree_iff documented steady same).mpr nothing
  · intro whole agree
    exact (whole.agree_iff documented steady same).mp agree

end Entries

/-! ## One table -/

section Small

open Sql.Reference

/-- `A` as the only table, with these values. -/
def aloneA (values : List Int) : Conn Int := ⟨valueTables [("A", values)], 0⟩

theorem userTables_aloneA (values : List Int) : userTables (aloneA values).db = ["A"] := by
  have names : (aloneA values).db.names = ["A"] := rfl
  have user : isSystem "A" = false := by decide
  rw [userTables, names, List.mergeSort_singleton, List.filter_cons_of_pos (by rw [user]; rfl),
    List.filter_nil]

theorem whole_aloneA (values : List Int) :
    Whole (failing []) onlyA "demo" (aloneA values).db where
  plain := by
    rw [userTables_aloneA]
    intro name member
    rw [List.mem_singleton.mp member]
    exact plain_failing (by decide) []
  own := by
    rw [userTables_aloneA]
    decide
  copyable := copyable_value [] _ _
  creates := by
    intro sql member stmt reads
    rw [List.mem_singleton.mp member, (form_value []).2, Option.some.injEq] at reads
    exact ⟨_, _, _, reads.symm, plain_failing (by decide) [], by decide⟩
  unmentioned := by
    rw [userTables_aloneA]
    decide +kernel

theorem repeatable_onlyA : Repeatable (failing [])
    (matched (configured onlyA "demo") ["A"]) ["A"] := by
  intro sql member name schema reads
  rw [List.mem_singleton.mp (mem_matched.mp member).1, (form_value []).2] at reads
  cases reads

/-- The row of `A` is lost, although `A` is configured and keeps it by name. -/
theorem not_agree_row :
    Whole (failing []) onlyA "demo" (aloneA [7]).db ∧
      ["A"].Perm (userTables (aloneA [7]).db) ∧
      (∀ name ∈ ["A"], ∃ sql ∈ configured onlyA "demo", ∃ schema,
        Form (failing []) name schema sql) ∧
      ¬ Agree (failing []) onlyA "demo" ["A"] (aloneA [7]) := by
  have same : ["A"].Perm (userTables (aloneA [7]).db) := by rw [userTables_aloneA]
  have works : executes (failing []) (matched (configured onlyA "demo") ["A"])
      (left ["A"] (aloneA [7]).db) = true := by decide +kernel
  rcases (whole_aloneA [7]).returns_all_iff (documented_failing []) (steady_failing []) same
    (List.cons_ne_nil _ _) with ⟨returns, empties⟩
  rcases returns.mpr ⟨works, Or.inr repeatable_onlyA⟩ with ⟨next, ends⟩
  rcases run_oneRow with ⟨other, otherEnds, new, found, one⟩
  refine ⟨whole_aloneA [7], same, ?_, ?_⟩
  · intro name member
    rw [List.mem_singleton.mp member]
    exact ⟨valueText "A", List.mem_cons_self, valueSchema, form_value []⟩
  · rintro ⟨-, alike⟩
    have counts := (alike next other ends otherEnds (fold "A")).2.length_eq
    have empty : rowsOf (next.db.find "A") = [] := by
      rw [(empties next ends).table "A" List.mem_cons_self]
      exact rowsOf_of_empty fun table makes => (recreated_name makes).2
    have first : (rowsOf (next.db.lookup (fold "A"))).length = 0 :=
      List.length_eq_zero_iff.mpr empty
    have second : (rowsOf (other.db.lookup (fold "A"))).length = 1 := by
      have present : other.db.lookup (fold "A") = some new := found
      rw [present, ← one]
      exact List.length_map _
    rw [first, second] at counts
    cases counts

/-- An empty table is migrated alike by both entries. -/
theorem agree_empty : Agree (failing []) onlyA "demo" ["A"] (aloneA []) := by
  apply (migrateAllTable_agrees_iff (documented_failing []) (steady_failing [])
    (by rw [userTables_aloneA])).1
  refine ⟨whole_aloneA [], ?_⟩
  rintro ⟨works, -⟩
  refine ⟨⟨works, Or.inr repeatable_onlyA⟩, ?_⟩
  · intro before name after split old found
    left
    rcases List.append_eq_singleton_iff.mp split.symm with ⟨-, same⟩ | ⟨-, impossible⟩
    · cases same
      have present : (aloneA []).db.find "A" = some (valueTable "A" []) := by
        unfold aloneA
        rw [valueTables_cons_find, if_pos rfl]
      rw [present, Option.some.injEq] at found
      rw [← found]
      rfl
    · cases impossible

end Small

end Migration
end ModuleDatabase
