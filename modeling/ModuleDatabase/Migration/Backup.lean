import Mathlib.Logic.Function.Iterate
import ModuleDatabase.Migration.Reading
import ModuleDatabase.Sql.Reference

namespace ModuleDatabase
namespace Migration

open Text
open Sql

/-!
# The first phase: backups

For a listed table that exists, `generateTempTable` creates the backup and
fills it.  Both statements may throw; the exception is swallowed, and what is
left is no backup in the one case and an empty one in the other.  A backup of
an earlier upgrade that is still there takes the place of the new one.  No
other table changes.

The lists considered are those of plain names that differ for the engine and
are not names of backups themselves.
-/

/-- A list of tables to migrate. -/
structure Listing {V : Type} (engine : Engine V) (tables : List String) : Prop where
  plain : ∀ table ∈ tables, engine.Plain table
  own : ∀ table ∈ tables, endsWithIgnoringCase table tableTempName = false
  distinct : tables.Pairwise fun first second => fold first ≠ fold second

/-- The same, where a table may be named more than once. -/
structure Spelled {V : Type} (engine : Engine V) (tables : List String) : Prop where
  plain : ∀ table ∈ tables, engine.Plain table
  own : ∀ table ∈ tables, endsWithIgnoringCase table tableTempName = false
  once : ∀ first ∈ tables, ∀ second ∈ tables, fold first = fold second → first = second

/-- The name of the backup of a table. -/
def tempOf (table : String) : String := table ++ tableTempName

section Names

variable {V : Type} {engine : Engine V} {tables : List String}

/-- A table is not its own backup. -/
theorem ne_temp (table : String) : fold table ≠ fold (tempOf table) := by
  intro same
  have lengths := congrArg (fun text => text.toList.length) same
  simp only [toList_fold, tempOf, tableTempName, String.toList_append, List.length_map,
    List.length_append] at lengths
  have longer : 0 < "_TEMP".toList.length := by decide
  omega

/-- A table that is not called like a backup is not the backup of one. -/
theorem ne_temp_of_own {table : String}
    (own : endsWithIgnoringCase table tableTempName = false) (other : String) :
    fold table ≠ fold (tempOf other) := by
  intro same
  have ends := endsWithIgnoringCase_of_fold (by decide) same
  rw [own] at ends
  cases ends

theorem Listing.ne_temp (listing : Listing engine tables) {table : String}
    (member : table ∈ tables) (other : String) : fold table ≠ fold (tempOf other) :=
  ne_temp_of_own (listing.own table member) other

theorem temp_inj {first second : String} (same : fold (tempOf first) = fold (tempOf second)) :
    fold first = fold second :=
  fold_append_inj.mp same

theorem Listing.sublist {fewer : List String} (listing : Listing engine tables)
    (sub : fewer.Sublist tables) : Listing engine fewer where
  plain := fun other member => listing.plain other (sub.subset member)
  own := fun other member => listing.own other (sub.subset member)
  distinct := listing.distinct.sublist sub

theorem Listing.spelled (listing : Listing engine tables) : Spelled engine tables where
  plain := listing.plain
  own := listing.own
  once := by
    have symmetric : Std.Symm fun first second : String => fold first ≠ fold second :=
      ⟨fun _ _ => Ne.symm⟩
    intro first among second inside same
    by_contra differ
    exact listing.distinct.forall among inside differ same

theorem Listing.nodup (listing : Listing engine tables) : tables.Nodup :=
  listing.distinct.imp fun differ same => differ (congrArg fold same)

theorem Spelled.ne_temp (spelled : Spelled engine tables) {table : String}
    (member : table ∈ tables) (other : String) : fold table ≠ fold (tempOf other) :=
  ne_temp_of_own (spelled.own table member) other

/-- Two listed names that differ have different backups. -/
theorem Spelled.temp_ne (spelled : Spelled engine tables) {first second : String}
    (among : first ∈ tables) (inside : second ∈ tables) (differ : first ≠ second) :
    fold (tempOf first) ≠ fold (tempOf second) :=
  fun same => differ (spelled.once first among second inside (temp_inj same))

theorem Spelled.subset (spelled : Spelled engine tables) {others : List String}
    (subset : others ⊆ tables) : Spelled engine others where
  plain := fun table member => spelled.plain table (subset member)
  own := fun table member => spelled.own table (subset member)
  once := fun first among second inside =>
    spelled.once first (subset among) second (subset inside)

/-- A listed table is none of those before it. -/
theorem Listing.ne_before (listing : Listing engine tables) {before after : List String}
    {table earlier : String} (split : tables = before ++ table :: after)
    (inside : earlier ∈ before) : fold earlier ≠ fold table := by
  have distinct := listing.distinct
  rw [split, List.pairwise_append] at distinct
  exact distinct.2.2 earlier inside table List.mem_cons_self

end Names

theorem mem_backupColumns {names : List String} {name : String}
    (member : name ∈ backupColumns names) : name ∈ names :=
  List.mem_of_mem_erase (List.mem_of_mem_erase member)

variable {V : Type}

/-! ## What a backup is -/

/-- The backup of a table, before it is filled: a leftover of an earlier
upgrade, or a new table. -/
def backupBase (engine : Engine V) (leftover : Option (Table V)) (table : Table V) : Table V :=
  leftover.getD
    (Table.empty (tempOf table.name) (engine.schema (table.schema.columns.map backupDef)))

/-- The backup of a table, after it is filled; none if the statement throws. -/
def filledBackup (engine : Engine V) (leftover : Option (Table V)) (table : Table V) :
    Option (Table V) :=
  let columns := backupColumns table.schema.names
  engine.copied (copyText (tempOf table.name) columns table.name) columns
    (backupBase engine leftover table) table

/-- The backup that `generateTempTable` makes of a table. -/
def backupOf (engine : Engine V) (leftover : Option (Table V)) (table : Table V) :
    Option (Table V) :=
  if engine.fails 0 (createText (tempOf table.name) (table.schema.columns.map backupDef)) then
    leftover
  else some ((filledBackup engine leftover table).getD (backupBase engine leftover table))

/-- The same, at a moment: two statements are executed. -/
def backupAt (engine : Engine V) (clock : Nat) (leftover : Option (Table V)) (table : Table V) :
    Option (Table V) :=
  let columns := backupColumns table.schema.names
  let base := backupBase engine leftover table
  if engine.fails clock (createText (tempOf table.name) (table.schema.columns.map backupDef)) then
    leftover
  else if columns = [] ∨
      engine.fails (clock + 1) (copyText (tempOf table.name) columns table.name) = true then
    some base
  else some ((base.copyFrom columns table).getD base)

/-- If failures are steady, the moment does not matter. -/
theorem backupAt_eq {engine : Engine V} (steady : engine.Steady) (clock : Nat)
    (leftover : Option (Table V)) (table : Table V) :
    backupAt engine clock leftover table = backupOf engine leftover table := by
  unfold backupAt backupOf filledBackup Engine.copied
  dsimp only
  rw [steady clock, steady (clock + 1)]
  split
  · rfl
  · split <;> rfl

/-- The backup of a listed table after the first phase. -/
def backedUp (engine : Engine V) (db : Database V) (table : String) : Option (Table V) :=
  match db.named table with
  | none => db.find (tempOf table)
  | some original => backupOf engine (db.find (tempOf table)) original

/-- The backup of a listed table after so many turns for it. -/
def backedTimes (engine : Engine V) (db : Database V) (table : String) (times : Nat) :
    Option (Table V) :=
  match db.named table with
  | none => db.find (tempOf table)
  | some original => (fun temp => backupOf engine temp original)^[times] (db.find (tempOf table))

section Times

variable {engine : Engine V} {db : Database V} {table : String}

theorem backedTimes_of_absent (absent : db.named table = none) (times : Nat) :
    backedTimes engine db table times = db.find (tempOf table) := by
  rw [backedTimes, absent]

theorem backedTimes_zero : backedTimes engine db table 0 = db.find (tempOf table) := by
  rw [backedTimes]
  cases db.named table <;> rfl

theorem backedTimes_one : backedTimes engine db table 1 = backedUp engine db table := by
  rw [backedTimes, backedUp]
  cases db.named table <;> rfl

theorem backedTimes_succ {original : Table V} (named : db.named table = some original)
    (times : Nat) : backedTimes engine db table (times + 1) =
      backupOf engine (backedTimes engine db table times) original := by
  rw [backedTimes, backedTimes, named]
  exact Function.iterate_succ_apply' _ _ _

end Times

theorem backupBase_name {engine : Engine V} {leftover : Option (Table V)} {table : Table V}
    (calledSo : ∀ left, leftover = some left → left.name = tempOf table.name) :
    (backupBase engine leftover table).name = tempOf table.name := by
  cases leftover with
  | none => rfl
  | some left => exact calledSo left rfl

theorem backupOf_name {engine : Engine V} {leftover : Option (Table V)} {table backup : Table V}
    (calledSo : ∀ left, leftover = some left → left.name = tempOf table.name)
    (backs : backupOf engine leftover table = some backup) :
    backup.name = tempOf table.name := by
  unfold backupOf at backs
  split at backs
  · exact calledSo backup backs
  · cases backs
    cases copies : filledBackup engine leftover table with
    | none => exact backupBase_name calledSo
    | some filled =>
        rw [Option.getD_some, (Engine.copied_name copies).1]
        exact backupBase_name calledSo

theorem backupOf_schema {engine : Engine V} {leftover : Option (Table V)} {table backup : Table V}
    (backs : backupOf engine leftover table = some backup) :
    leftover = some backup ∨ backup.schema = (backupBase engine leftover table).schema := by
  unfold backupOf at backs
  split at backs
  · exact Or.inl backs
  · right
    cases backs
    cases copies : filledBackup engine leftover table with
    | none => rfl
    | some filled => exact (Engine.copied_name copies).2

/-- The statement that creates a backup leaves one, and the table itself. -/
theorem created_backup {engine : Engine V} (db : Database V) (table : Table V)
    (own : endsWithIgnoringCase table.name tableTempName = false)
    (present : db.find table.name = some table) :
    ∃ next, Stmt.run db (.create (tempOf table.name) true
        (engine.schema (table.schema.columns.map backupDef))) = some next ∧
      next.find (tempOf table.name) =
        some (backupBase engine (db.find (tempOf table.name)) table) ∧
      next.find table.name = some table ∧
      ∀ key, key ≠ fold (tempOf table.name) → next.lookup key = db.lookup key := by
  have apart := ne_temp_of_own own table.name
  cases leftover : db.find (tempOf table.name) with
  | some left =>
      refine ⟨db, ?_, leftover, present, fun _ _ => rfl⟩
      rw [Stmt.run, leftover]
      rfl
  | none =>
      refine ⟨_, by rw [Stmt.run, leftover], ?_, ?_, ?_⟩
      · rw [Database.find, Database.lookup_put]
        exact if_pos rfl
      · rw [Database.find, Database.lookup_put]
        exact (if_neg apart).trans present
      · intro key other
        rw [Database.lookup_put]
        exact if_neg other

/-! ## The backup of one table -/

section Backup

variable {engine : Engine V} (documented : engine.Documented) {conn : Conn V}
include documented

/-- No column with a plain name is taken for a keyword. -/
theorem not_purged {name : String} (plain : engine.Plain name) :
    (sameIgnoringCase name "FROM" || sameIgnoringCase name "TO") = false := by
  apply Bool.or_eq_false_iff.mpr
  constructor
  · apply Bool.eq_false_iff.mpr
    intro same
    have reserved := documented.keyword_from name same
    rw [plain.2] at reserved
    cases reserved
  · apply Bool.eq_false_iff.mpr
    intro same
    have reserved := documented.keyword_to name same
    rw [plain.2] at reserved
    cases reserved

theorem run_generateTempTable_of_absent {name : String} (plain : engine.Plain name)
    (absent : conn.db.named name = none) :
    (generateTempTable engine name).run conn = .ok () conn := by
  rw [generateTempTable, EStateM.run_bind, run_tableIsExist documented plain, absent]
  rfl

/-- The statements of `fillTempTable` that can change something. -/
theorem run_fillTempTable {name : String} {table : Table V} (plain : engine.Plain name)
    (found : conn.db.find name = some table)
    (defines : engine.Defines (table.schema.columns.map backupDef)) (temp : String) :
    (fillTempTable engine temp name).run conn =
      match (execSQL engine (createText temp (table.schema.columns.map backupDef))).run conn with
      | .error _ next => .ok () next
      | .ok _ next =>
          match (execSQL engine (copyText temp (backupColumns table.schema.names) name)).run
            next with
          | .error _ last => .ok () last
          | .ok _ last => .ok () last := by
  have skipped : ∀ migrate ∈ migratesOf table.schema.columns,
      (if sameIgnoringCase migrate.name "FROM" || sameIgnoringCase migrate.name "TO" then
        execSQL engine ("DELETE FROM " ++ name) else pure ()) = pure () := by
    intro migrate member
    have among : migrate.name ∈ table.schema.columns.map Column.name := by
      rw [← migratesOf_names]
      exact List.mem_map_of_mem member
    rcases List.mem_map.mp among with ⟨column, inside, same⟩
    have plainName : engine.Plain migrate.name := by
      rw [← same]
      exact defines.plain (backupDef column) (List.mem_map_of_mem inside)
    rw [not_purged documented plainName, if_neg Bool.false_ne_true]
  rw [fillTempTable, Effect.run_tryCatch, EStateM.run_bind, run_getMigrates documented plain,
    found]
  dsimp only [Option.elim]
  rw [EStateM.run_bind, Effect.run_forM_pure _ skipped, migratesOf_definitions, migratesOf_names]
  dsimp only
  rw [EStateM.run_bind]
  cases (execSQL engine (createText temp (table.schema.columns.map backupDef))).run conn with
  | error thrown next => rfl
  | ok value next =>
      dsimp only
      rw [Schema.names]
      cases (execSQL engine (copyText temp (backupColumns
        (table.schema.columns.map Column.name)) name)).run next <;> rfl

/-- For a listed table that exists, `generateTempTable` leaves the backup and
changes nothing else. -/
theorem run_generateTempTable_at {table : Table V} (plain : engine.Plain table.name)
    (own : endsWithIgnoringCase table.name tableTempName = false)
    (present : conn.db.find table.name = some table)
    (defines : engine.Defines (table.schema.columns.map backupDef)) :
    ∃ next, (generateTempTable engine table.name).run conn = .ok () next ∧
      ∀ key, next.db.lookup key =
        if key = fold (tempOf table.name) then
          backupAt engine conn.clock (conn.db.find (tempOf table.name)) table
        else conn.db.lookup key := by
  have plainTemp : engine.Plain (tempOf table.name) := plain.temp documented
  have named : conn.db.named table.name = some table :=
    Database.named_eq_some.mpr ⟨present, rfl⟩
  have unfolded : (generateTempTable engine table.name).run conn =
      (fillTempTable engine (tempOf table.name) table.name).run conn := by
    rw [generateTempTable, EStateM.run_bind, run_tableIsExist documented plain, named]
    dsimp only [Option.isSome_some]
    rw [if_pos rfl, own, if_neg Bool.false_ne_true]
    rfl
  rw [unfolded, run_fillTempTable documented plain present defines]
  have creates := documented.create (tempOf table.name) _ plainTemp defines
  unfold backupAt
  cases throws : engine.fails conn.clock
      (createText (tempOf table.name) (table.schema.columns.map backupDef)) with
  | true =>
      rw [run_execSQL_of_throws creates (Or.inl throws)]
      refine ⟨_, rfl, ?_⟩
      rw [if_pos rfl]
      exact Database.lookup_eq_ite rfl fun _ _ => rfl
  | false =>
      rcases created_backup conn.db table own present with
        ⟨db, created, foundTemp, foundTable, others⟩
      rw [run_execSQL_of_some creates throws created, if_neg Bool.false_ne_true]
      dsimp only
      set base := backupBase engine (conn.db.find (tempOf table.name)) table with baseEq
      set columns := backupColumns table.schema.names with columnsEq
      -- What does not fill the backup leaves it as it was created.
      have unfilled : ∀ last : Conn V, last.db = db → ∀ key, last.db.lookup key =
          if key = fold (tempOf table.name) then some base else conn.db.lookup key := by
        intro last same
        rw [same]
        exact Database.lookup_eq_ite foundTemp others
      have plainColumns : ∀ column ∈ columns, engine.Plain column := by
        intro column member
        rcases List.mem_map.mp (mem_backupColumns member) with ⟨inner, among, same⟩
        rw [← same]
        exact defines.plain (backupDef inner) (List.mem_map_of_mem among)
      by_cases empty : columns = []
      · have unreadable := documented.copy_nil (tempOf table.name) table.name "" plainTemp plain
        rw [String.append_empty, ← empty] at unreadable
        rw [run_execSQL_of_none unreadable, if_pos (Or.inl empty)]
        exact ⟨_, rfl, unfilled _ rfl⟩
      · have copies := documented.copy (tempOf table.name) columns table.name "" plainTemp plain
          empty plainColumns
        rw [String.append_empty] at copies
        have runs : Stmt.run (conn.executed db).db
            (.copy (tempOf table.name) columns table.name) =
              (base.copyFrom columns table).map db.put := by
          rw [Stmt.run, Conn.executed_db, foundTemp, foundTable]
        cases refuses : engine.fails (conn.clock + 1)
            (copyText (tempOf table.name) columns table.name) with
        | true =>
            have later : (true && engine.fails (conn.executed db).clock
              (copyText (tempOf table.name) columns table.name)) = true := refuses
            rw [run_execSQL_of_throws copies (Or.inl later), if_pos (Or.inr rfl)]
            exact ⟨_, rfl, unfilled _ rfl⟩
        | false =>
            have later : (true && engine.fails (conn.executed db).clock
              (copyText (tempOf table.name) columns table.name)) = false := refuses
            rw [if_neg (not_or.mpr ⟨empty, Bool.false_ne_true⟩)]
            cases filled : base.copyFrom columns table with
            | none =>
                rw [filled] at runs
                rw [run_execSQL_of_throws copies (Or.inr runs)]
                exact ⟨_, rfl, unfilled _ rfl⟩
            | some made =>
                rw [filled] at runs
                rw [run_execSQL_of_some copies later runs]
                refine ⟨_, rfl, ?_⟩
                intro key
                have name := Database.fold_name_of_find foundTemp
                rw [Conn.executed_db, Database.lookup_put,
                  (Table.copyFrom_eq_some_iff.mp filled).2.2.1, name]
                by_cases here : key = fold (tempOf table.name)
                · rw [if_pos here, if_pos here, Option.getD_some]
                · rw [if_neg here, if_neg here]
                  exact others key here

theorem run_generateTempTable_of_present (steady : engine.Steady) {table : Table V}
    (plain : engine.Plain table.name)
    (own : endsWithIgnoringCase table.name tableTempName = false)
    (present : conn.db.find table.name = some table)
    (defines : engine.Defines (table.schema.columns.map backupDef)) :
    ∃ next, (generateTempTable engine table.name).run conn = .ok () next ∧
      ∀ key, next.db.lookup key =
        if key = fold (tempOf table.name) then
          backupOf engine (conn.db.find (tempOf table.name)) table
        else conn.db.lookup key := by
  rw [← backupAt_eq steady conn.clock]
  exact run_generateTempTable_at documented plain own present defines

/-! ## The whole phase -/

/-- The tables of a list can be backed up: the definitions of their columns can
be read again. -/
def Copyable (engine : Engine V) (db : Database V) (tables : List String) : Prop :=
  ∀ name ∈ tables, ∀ table, db.named name = some table →
    engine.Defines (table.schema.columns.map backupDef)

variable (steady : engine.Steady)
include steady

/-- The first phase makes a backup as often as its table is listed, and changes
nothing else. -/
theorem run_buildTempTable_times {tables : List String} (spelled : Spelled engine tables)
    (nonempty : tables ≠ []) (copyable : Copyable engine conn.db tables) :
    ∃ next, (buildTempTable engine tables).run conn = .ok () next ∧
      (∀ table ∈ tables, next.db.find (tempOf table) =
        backedTimes engine conn.db table (tables.count table)) ∧
      ∀ key, (∀ table ∈ tables, key ≠ fold (tempOf table)) →
        next.db.lookup key = conn.db.lookup key := by
  have phase : (buildTempTable engine tables).run conn =
      (tables.forM (generateTempTable engine)).run conn := by
    rw [buildTempTable, if_neg (fun empty => nonempty (List.isEmpty_iff.mp empty))]
  rw [phase]
  -- A backup is made as often as its table has been visited, all else is untouched.
  apply Effect.run_forM_invariant tables fun visited (state : Conn V) =>
    (∀ table ∈ tables, state.db.find (tempOf table) =
        backedTimes engine conn.db table (visited.count table)) ∧
      ∀ key, (∀ table ∈ tables, key ≠ fold (tempOf table)) →
        state.db.lookup key = conn.db.lookup key
  · intro visited name rest state split ⟨backups, others⟩
    have member : name ∈ tables := List.mem_iff_append.mpr ⟨_, _, split⟩
    have sameTable : state.db.find name = conn.db.find name :=
      others (fold name) fun table _ => spelled.ne_temp member table
    have sameNamed : state.db.named name = conn.db.named name := by
      rw [Database.named, Database.named, sameTable]
    have still : ∀ table, table ≠ name →
        (visited ++ [name]).count table = visited.count table := by
      intro table differ
      rw [List.count_append, List.count_singleton, if_neg (by simpa using Ne.symm differ),
        Nat.add_zero]
    have once_more : (visited ++ [name]).count name = visited.count name + 1 := by
      rw [List.count_append, List.count_singleton_self]
    cases named : conn.db.named name with
    | none =>
        rw [named] at sameNamed
        refine ⟨state, run_generateTempTable_of_absent documented (spelled.plain name member)
          sameNamed, ?_, others⟩
        intro table inside
        rw [backups table inside]
        by_cases here : table = name
        · rw [here, backedTimes_of_absent named, backedTimes_of_absent named]
        · rw [still table here]
    | some table =>
        rcases Database.named_eq_some.mp named with ⟨found, sameName⟩
        subst sameName
        rcases run_generateTempTable_of_present documented steady (spelled.plain _ member)
          (spelled.own _ member) (sameTable.trans found) (copyable _ member table named) with
          ⟨next, runs, lookups⟩
        refine ⟨next, runs, ?_, ?_⟩
        · intro other inside
          rw [Database.find, lookups]
          by_cases here : other = table.name
          · rw [here, if_pos rfl, once_more, backedTimes_succ named, backups _ member]
          · rw [if_neg (spelled.temp_ne inside member here), still other here]
            exact backups other inside
        · intro key apart
          rw [lookups, if_neg (apart _ member)]
          exact others key apart
  · refine ⟨?_, fun _ _ => rfl⟩
    intro table inside
    rw [List.count_nil, backedTimes_zero]

/-- The first phase makes the backups and changes nothing else. -/
theorem run_buildTempTable {tables : List String} (listing : Listing engine tables)
    (nonempty : tables ≠ []) (copyable : Copyable engine conn.db tables) :
    ∃ next, (buildTempTable engine tables).run conn = .ok () next ∧
      (∀ table ∈ tables, next.db.find (tempOf table) = backedUp engine conn.db table) ∧
      ∀ key, (∀ table ∈ tables, key ≠ fold (tempOf table)) →
        next.db.lookup key = conn.db.lookup key := by
  rcases run_buildTempTable_times documented steady listing.spelled nonempty copyable with
    ⟨next, runs, temps, others⟩
  refine ⟨next, runs, ?_, others⟩
  intro table member
  rw [temps table member, List.count_eq_one_of_mem listing.nodup member, backedTimes_one]

end Backup

/-! ## Small tables -/

section Small

open Sql.Reference

theorem listing_failing (texts : List String) {names : List String}
    (words : names.all plain = true)
    (own : ∀ name ∈ names, endsWithIgnoringCase name tableTempName = false)
    (distinct : names.Pairwise fun first second => fold first ≠ fold second) :
    Listing (failing texts) names where
  plain := fun name member => plain_failing (List.all_eq_true.mp words name member) texts
  own := own
  distinct := distinct

theorem copyable_value (texts : List String) (tables : List (String × List Int))
    (listed : List String) : Copyable (failing texts) (valueTables tables) listed := by
  intro name member table named
  rcases valueTables_find (Database.named_eq_some.mp named).1 with ⟨values, same⟩
  have columns : (valueTable table.name values).schema.columns.map backupDef = [valueColumn] := rfl
  rw [same, columns]
  exact defines_value texts

end Small

end Migration
end ModuleDatabase
