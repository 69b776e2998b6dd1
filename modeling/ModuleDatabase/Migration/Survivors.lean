import ModuleDatabase.Migration.Bystanders
import ModuleDatabase.Migration.Leftovers

namespace ModuleDatabase
namespace Migration

open Text
open Sql

/-!
# Does a backup survive?

The loop of the third phase asks the catalog for the backup of each listed table
and drops it, whether the rows could be copied back or not; the handler of the
exception drops it as well.  Nothing behind that creates a table.  So no table
with exactly the name of a backup is left, whatever the first two phases have
done and whichever of their statements threw.

But the catalog compares names letter by letter.  A table that has the name of a
backup only for SQL, which ignores case, is passed over by the loop, although
the first phase may have filled it.  The sweep at the end finds it if the listed
table exists, and only then.  No such table is made by the first phase: it was
there under its own spelling, or the configuration creates it.
-/

variable {V : Type}

/-- Every table was there under its name, or has a new one. -/
def Gains (new : String → Prop) (db next : Database V) : Prop :=
  ∀ key table, next.lookup key = some table →
    (∃ before, db.lookup key = some before ∧ before.name = table.name) ∨ new table.name

/-- A configured statement creates a table with this name. -/
def ConfiguresName (engine : Engine V) (statements : List String) (name : String) : Prop :=
  ∃ sql ∈ statements, ∃ ifNotExists schema,
    engine.prepare sql = some (.create name ifNotExists schema)

/-- If the migration returns, no table is left that SQL takes for the backup of a
listed one. -/
def LeavesNoBackup (engine : Engine V) (sqls : KtAutoSqls) (dbName : String)
    (tables : List String) (conn : Conn V) : Prop :=
  ∀ next, (migrateSpecifyTable engine sqls dbName tables).run conn = .ok () next →
    ∀ table ∈ tables, next.db.find (tempOf table) = none

/-- What is called like a backup of a listed table, or will be, is spelled like it. -/
structure SpelledLikeBackups (engine : Engine V) (statements tables : List String)
    (db : Database V) : Prop where
  creating : Creating engine statements
  present : ∀ table ∈ tables, ∀ left, db.find (tempOf table) = some left →
    left.name = tempOf table
  configured : ∀ table ∈ tables, ∀ name, ConfiguresName engine statements name →
    fold name = fold (tempOf table) → name = tempOf table

/-- A table called like the backup in other letters is there, or the second phase
creates one in the place of the backup. -/
def Misspelled (engine : Engine V) (sqls : KtAutoSqls) (dbName : String) (tables : List String)
    (db : Database V) (table : String) : Prop :=
  (∃ left, db.find (tempOf table) = some left ∧ left.name ≠ tempOf table) ∨
    db.find (tempOf table) = none ∧ backup engine db table = none ∧
      ∃ made, recreated engine sqls dbName tables (tempOf table) = some made ∧
        made.name ≠ tempOf table

/-- The listed table is created again, in the letters of the list. -/
def Respelled (engine : Engine V) (sqls : KtAutoSqls) (dbName : String) (tables : List String)
    (table : String) : Prop :=
  ∃ target, recreated engine sqls dbName tables table = some target ∧ target.name = table

/-! ## New names -/

section Gaining

variable {new more : String → Prop} {db next : Database V}

theorem Shrinks.gains (shrinks : Shrinks db next) : Gains new db next :=
  fun key table found => (shrinks key table found).elim fun before both =>
    Or.inl ⟨before, both.1, congrArg Prod.fst both.2⟩

theorem Gains.refl (new : String → Prop) (db : Database V) : Gains new db db :=
  (Shrinks.refl db).gains

theorem Gains.trans {first second third : Database V} (before : Gains new first second)
    (after : Gains new second third) : Gains new first third := by
  intro key table found
  rcases after key table found with ⟨middle, between, same⟩ | fresh
  · rcases before key middle between with ⟨original, there, sameName⟩ | fresh
    · exact Or.inl ⟨original, there, sameName.trans same⟩
    · rw [same] at fresh
      exact Or.inr fresh
  · exact Or.inr fresh

theorem Gains.mono (gains : Gains new db next) (weaker : ∀ name, new name → more name) :
    Gains more db next :=
  fun key table found => (gains key table found).imp_right (weaker table.name)

theorem gains_of_create {name : String} {ifNotExists : Bool} {schema : Schema V}
    (runs : Stmt.run db (.create name ifNotExists schema) = some next) :
    Gains (fun other => other = name) db next := by
  intro key table found
  rw [Stmt.lookup_of_create runs] at found
  cases present : db.lookup key with
  | some before =>
      rw [present, Option.some_or, Option.some.injEq] at found
      exact Or.inl ⟨before, rfl, congrArg Table.name found⟩
  | none =>
      rw [present, Option.none_or] at found
      split at found
      · rw [← Option.some.inj found]
        exact Or.inr rfl
      · cases found

end Gaining

/-! ## The first phase -/

section Backup

variable {engine : Engine V} (documented : engine.Documented) (prefixed : engine.Prefixed)

include documented prefixed in
/-- Deleting rows changes no name. -/
theorem shrinks_delete {name : String} (chars : name.toList.all isWordChar = true)
    (conn : Conn V) :
    Shrinks conn.db (Effect.final (execSQL engine ("DELETE FROM " ++ name)) conn).db := by
  apply final_execSQL Shrinks (Shrinks.refl conn.db)
  intro stmt db reads runs
  rw [documented.delete name (prefixed.delete name stmt chars reads), Option.some.injEq] at reads
  rw [← reads, Stmt.run] at runs
  rcases Option.map_eq_some_iff.mp runs with ⟨table, found, same⟩
  intro key other there
  rw [← same, Database.lookup_put] at there
  by_cases here : key = fold table.clear.name
  · rw [if_pos here, Option.some.injEq] at there
    refine ⟨table, ?_, ?_⟩
    · rw [here, ← found, Database.find, ← Database.fold_name_of_find found]
      rfl
    · rw [← there]
      rfl
  · rw [if_neg here] at there
    exact ⟨other, there, rfl⟩

include prefixed in
theorem gains_create {name : String} (plain : engine.Plain name) (columns : List ColumnDef)
    (conn : Conn V) :
    Gains (fun other => other = name) conn.db
      (Effect.final (execSQL engine (createText name columns)) conn).db := by
  have begins : createText name columns = "CREATE TABLE IF NOT EXISTS " ++ name ++ " (" ++
      (join "," (columns.map ColumnDef.text) ++ ");") := by
    unfold createText
    rw [String.append_assoc]
  apply final_execSQL (Gains fun other => other = name)
    (Gains.refl (fun other => other = name) conn.db)
  intro stmt db reads runs
  rw [begins] at reads
  rcases prefixed.create name _ stmt plain reads with ⟨schema, same⟩
  rw [same] at runs
  exact gains_of_create runs

include prefixed in
theorem shrinks_copy {name : String} (plain : engine.Plain name) (columns : List String)
    (source : String) (conn : Conn V) :
    Shrinks conn.db (Effect.final (execSQL engine (copyText name columns source)) conn).db := by
  have plainOnly : ∀ table ∈ [name], engine.Plain table := by
    intro table member
    rw [List.mem_singleton.mp member]
    exact plain
  rcases copyText_begins name columns source with ⟨rest, text⟩
  rw [text]
  exact (kept_insert prefixed plainOnly (List.mem_singleton_self name) rest conn).2

include documented prefixed

/-- Filling a backup makes no table but the backup. -/
theorem gains_fillTempTable {temp name : String} (plainTemp : engine.Plain temp)
    (chars : name.toList.all isWordChar = true) (conn : Conn V) :
    Gains (fun other => other = temp) conn.db
      (Effect.final (fillTempTable engine temp name) conn).db := by
  rcases run_getMigrates_conn engine name conn with ⟨migrates, reads⟩
  rw [fillTempTable, Effect.final_of_ok (Effect.run_tryCatch_ignored _ conn), Effect.final_bind,
    reads]
  dsimp only
  have deletes : Shrinks conn.db (Effect.final (migrates.forM fun migrate =>
      if sameIgnoringCase migrate.name "FROM" || sameIgnoringCase migrate.name "TO" then
        execSQL engine ("DELETE FROM " ++ name)
      else pure () : Program V Unit) conn).db := by
    apply Effect.final_forM_relation (fun state next : Conn V => Shrinks state.db next.db)
      (fun state => Shrinks.refl state.db) (fun _ _ _ before after => before.trans after)
    intro migrate _ state
    split
    · exact shrinks_delete documented prefixed chars state
    · exact Shrinks.refl state.db
  rw [Effect.final_bind]
  cases purges : (migrates.forM fun migrate =>
      if sameIgnoringCase migrate.name "FROM" || sameIgnoringCase migrate.name "TO" then
        execSQL engine ("DELETE FROM " ++ name)
      else pure () : Program V Unit).run conn with
  | error thrown next =>
      rw [Effect.final_of_error purges] at deletes
      exact deletes.gains
  | ok done next =>
      rw [Effect.final_of_ok purges] at deletes
      have creates := gains_create prefixed plainTemp (migrates.map Migrate.definition) next
      dsimp only
      rw [Effect.final_bind]
      cases makes : (execSQL engine
          (createText temp (migrates.map Migrate.definition))).run next with
      | error thrown last =>
          rw [Effect.final_of_error makes] at creates
          exact deletes.gains.trans creates
      | ok done last =>
          rw [Effect.final_of_ok makes] at creates
          have fills := shrinks_copy prefixed plainTemp
            (backupColumns (migrates.map Migrate.name)) name last
          exact (deletes.gains.trans creates).trans fills.gains

/-- Backing up a listed name makes no table but its backup. -/
theorem gains_generateTempTable {name : String} (plain : engine.Plain name) (conn : Conn V) :
    Gains (fun other => other = tempOf name) conn.db
      (Effect.final (generateTempTable engine name) conn).db := by
  have chars : name.toList.all isWordChar = true := (Bool.and_eq_true_iff.mp plain.1).1
  rw [generateTempTable, Effect.final_bind, run_tableIsExist documented plain conn]
  dsimp only
  cases present : (conn.db.named name).isSome with
  | false => exact Gains.refl _ conn.db
  | true =>
      rw [if_pos rfl]
      cases ending : endsWithIgnoringCase name tableTempName with
      | false =>
          rw [if_neg Bool.false_ne_true]
          exact gains_fillTempTable documented prefixed (plain.temp documented) chars conn
      | true =>
          -- The table is taken for a backup, so the table that would be made is there.
          rw [if_pos rfl]
          have gains : Gains (fun other => other = name) conn.db (Effect.final (do
              execSQL engine ("DELETE FROM " ++ name)
              fillTempTable engine name (baseOf name) : Program V Unit) conn).db := by
            have deletes := shrinks_delete documented prefixed chars conn
            rw [Effect.final_bind]
            cases empties : (execSQL engine ("DELETE FROM " ++ name)).run conn with
            | error thrown next =>
                rw [Effect.final_of_error empties] at deletes
                exact deletes.gains
            | ok done next =>
                rw [Effect.final_of_ok empties] at deletes
                exact deletes.gains.trans
                  (gains_fillTempTable documented prefixed plain (baseOf_chars plain.1) next)
          rcases Option.isSome_iff_exists.mp present with ⟨before, named⟩
          rcases Database.named_eq_some.mp named with ⟨there, spelled⟩
          intro key table found
          rcases gains key table found with old | same
          · exact Or.inl old
          · have here := Database.keyed _ key table found
            rw [same] at here
            exact Or.inl ⟨before, here ▸ there, spelled.trans same.symm⟩

/-- The first phase makes no table but backups of listed tables. -/
theorem gains_buildTempTable {tables : List String} (plain : ∀ table ∈ tables, engine.Plain table)
    (nonempty : tables ≠ []) (conn : Conn V) :
    Gains (fun other => ∃ table ∈ tables, other = tempOf table) conn.db
      (Effect.final (buildTempTable engine tables) conn).db := by
  rw [buildTempTable, if_neg (fun empty => nonempty (List.isEmpty_iff.mp empty))]
  apply Effect.final_forM_relation (fun state next : Conn V =>
    Gains (fun other => ∃ table ∈ tables, other = tempOf table) state.db next.db)
    (fun state => Gains.refl _ state.db) (fun _ _ _ before after => before.trans after)
  intro table member state
  apply (gains_generateTempTable documented prefixed (plain table member) state).mono
  intro other same
  exact ⟨table, member, same⟩

end Backup

/-! ## The second phase -/

/-- The second phase makes no table but configured ones. -/
theorem gains_rebuildSpecifyTables {engine : Engine V} (documented : engine.Documented)
    {sqls : KtAutoSqls} {dbName : String} (creating : Creating engine (configured sqls dbName))
    {tables : List String} (plain : ∀ table ∈ tables, engine.Plain table) (nonempty : tables ≠ [])
    (conn : Conn V) :
    Gains (ConfiguresName engine (configured sqls dbName)) conn.db
      (Effect.final (rebuildSpecifyTables engine sqls dbName tables) conn).db := by
  rw [Effect.final, run_rebuildSpecifyTables_texts engine sqls dbName nonempty conn, ← Effect.final]
  apply Effect.final_forM_relation (fun state next : Conn V =>
    Gains (ConfiguresName engine (configured sqls dbName)) state.db next.db)
    (fun state => Gains.refl _ state.db) (fun _ _ _ before after => before.trans after)
  intro sql member state
  apply final_execSQL (Gains (ConfiguresName engine (configured sqls dbName)))
    (Gains.refl _ state.db)
  intro stmt db reads runs
  rcases mem_phaseTexts member with ⟨table, among, text⟩ | among
  · rw [text, documented.drop table (plain table among), Option.some.injEq] at reads
    rw [← reads, Stmt.run] at runs
    cases found : state.db.find table with
    | none =>
        rw [found] at runs
        rw [← Option.some.inj runs]
        exact Gains.refl _ state.db
    | some present =>
        rw [found] at runs
        rw [← Option.some.inj runs]
        exact (Shrinks.erase state.db table).gains
  · rcases creating sql among stmt reads with ⟨name, ifNotExists, schema, same⟩
    rw [same] at runs reads
    apply (gains_of_create runs).mono
    intro other sameName
    rw [sameName]
    exact ⟨sql, among, ifNotExists, schema, reads⟩

/-! ## All three phases -/

section Whole

variable {engine : Engine V} (documented : engine.Documented) (prefixed : engine.Prefixed)
  {sqls : KtAutoSqls} {dbName : String} {tables : List String}
  (plain : ∀ table ∈ tables, engine.Plain table) {conn next : Conn V}
  (returns : (migrateSpecifyTable engine sqls dbName tables).run conn = .ok () next)

include documented prefixed plain returns

/-- No table with exactly the name of a backup of a listed table is left. -/
theorem named_temp_of_run :
    ∀ table ∈ tables, next.db.named (tempOf table) = none := by
  rcases phases_of_migrateSpecifyTable returns with ⟨backed, mid, -, -, restores⟩
  rcases run_restoreTable_frame documented prefixed plain mid with ⟨last, ends, -, -, gone⟩
  rw [ends] at restores
  cases restores
  exact gone

/-- What SQL still takes for the backup of a listed table is spelled differently,
and was there before the migration or is configured. -/
theorem survivor_was_there (creating : Creating engine (configured sqls dbName)) {table : String}
    (member : table ∈ tables) {survivor : Table V}
    (found : next.db.find (tempOf table) = some survivor) :
    survivor.name ≠ tempOf table ∧
      ((∃ before, conn.db.find (tempOf table) = some before ∧ before.name = survivor.name) ∨
        ConfiguresName engine (configured sqls dbName) survivor.name) := by
  have nonempty := List.ne_nil_of_mem member
  rcases phases_of_migrateSpecifyTable returns with ⟨backed, mid, backs, rebuilds, restores⟩
  have first := gains_buildTempTable documented prefixed plain nonempty conn
  have second := gains_rebuildSpecifyTables documented creating plain nonempty backed
  have free := named_temp_of_run documented prefixed plain returns
  rcases run_restoreTable_frame documented prefixed plain mid with ⟨last, ends, -, third, -⟩
  rw [Effect.final_of_ok backs] at first
  rw [Effect.final_of_ok rebuilds] at second
  rw [ends] at restores
  cases restores
  have gone : ∀ other ∈ tables, survivor.name ≠ tempOf other := by
    intro other among spelled
    have unfound := free other among
    have same := Database.fold_name_of_find found
    rw [spelled] at same
    rw [Database.find, ← same] at found
    rw [Database.named_eq_some.mpr ⟨found, spelled⟩] at unfound
    cases unfound
  refine ⟨gone table member, ?_⟩
  rcases third _ survivor found with ⟨left, there, sameShape⟩
  have sameLeft : left.name = survivor.name := congrArg Prod.fst sameShape
  rcases second _ left there with ⟨made, between, sameMade⟩ | isConfigured
  · rcases first _ made between with ⟨before, original, sameBefore⟩ | ⟨other, among, spelled⟩
    · exact Or.inl ⟨before, original, (sameBefore.trans sameMade).trans sameLeft⟩
    · exact absurd ((sameMade.trans sameLeft).symm.trans spelled) (gone other among)
  · rw [sameLeft] at isConfigured
    exact Or.inr isConfigured

end Whole

section Spelling

variable {engine : Engine V} (documented : engine.Documented) {sqls : KtAutoSqls}
  {dbName : String} {tables : List String} {conn : Conn V}

/-- What stands under the name of a backup before the third phase is misspelled, or
it has exactly this name. -/
theorem misspelled_iff {table : String} :
    Misspelled engine sqls dbName tables conn.db table ↔
      ∃ made, remaining engine sqls dbName tables conn.db table = some made ∧
        made.name ≠ tempOf table := by
  have madeUp : ∀ old made, conn.db.named table = some old →
      (∀ left, conn.db.find (tempOf table) = some left → left.name = tempOf table) →
      backupOf engine (conn.db.find (tempOf table)) old = some made →
      made.name = tempOf table := by
    intro old made named calledSo backs
    have oldName := (Database.named_eq_some.mp named).2
    rw [← oldName] at calledSo ⊢
    apply backupOf_name _ backs
    rw [oldName] at calledSo ⊢
    exact calledSo
  cases leftover : conn.db.find (tempOf table) with
  | some left =>
      rw [remaining, backedUp_of_leftover leftover, Option.some_or]
      have sameName : ((appended engine left (conn.db.named table)).getD left).name =
          left.name := by
        cases appends : appended engine left (conn.db.named table) with
        | none => rfl
        | some mixed =>
            rcases appended_eq_some_iff.mp appends with ⟨old, -, -, fills⟩
            exact (Engine.copied_name fills).1
      constructor
      · rintro (⟨other, found, differs⟩ | ⟨absent, -⟩)
        · rw [leftover, Option.some.injEq] at found
          subst found
          exact ⟨_, rfl, by rw [sameName]; exact differs⟩
        · rw [leftover] at absent
          cases absent
      · rintro ⟨made, same, differs⟩
        left
        rw [← Option.some.inj same, sameName] at differs
        exact ⟨left, leftover, differs⟩
  | none =>
      have same : backedUp engine conn.db table = backup engine conn.db table := by
        rw [backedUp, backup, leftover]
        cases conn.db.named table <;> rfl
      rw [remaining, same, Misspelled, leftover]
      constructor
      · rintro (⟨other, found, -⟩ | ⟨-, absent, made, makes, differs⟩)
        · cases found
        · rw [absent, Option.none_or]
          exact ⟨made, makes, differs⟩
      · rintro ⟨made, stands, differs⟩
        right
        rcases Option.or_eq_some_iff.mp stands with backs | ⟨absent, makes⟩
        · exact absurd (backup_name backs) differs
        · exact ⟨rfl, absent, made, makes, differs⟩

include documented in
/-- On the lists that are considered elsewhere, a table is left under the name of a
backup if it is misspelled and the listed table is not created again. -/
theorem find_temp_of_run (steady : engine.Steady)
    (comparable : Comparable engine sqls dbName tables conn.db) {next : Conn V}
    (returns : (migrateSpecifyTable engine sqls dbName tables).run conn = .ok () next)
    {table : String} (member : table ∈ tables) :
    next.db.find (tempOf table) = none ↔
      ¬ Misspelled engine sqls dbName tables conn.db table ∨
        Respelled engine sqls dbName tables table := by
  rcases comparable with ⟨listing, creating, copyable, plainTargets⟩
  rcases restored_of_run documented steady listing creating (List.ne_nil_of_mem member) copyable
    (plainShared_of_targets plainTargets) returns with ⟨mid, halfway, restored⟩
  have respelled : (mid.named table).isSome = true ↔
      Respelled engine sqls dbName tables table := by
    rw [Option.isSome_iff_exists, Respelled, ← halfway.table table member]
    exact exists_congr fun target => Database.named_eq_some
  rw [restored.temp table member, misspelled_iff, ← halfway.temp table member, ← respelled]
  cases again : (mid.named table).isSome with
  | true =>
      rw [Bool.or_true, if_pos rfl]
      simp
  | false =>
      rw [Bool.or_false]
      cases stands : mid.find (tempOf table) with
      | none =>
          rw [ite_self]
          simp
      | some made =>
          rw [Database.named, stands, Option.filter_some]
          by_cases spelledSo : made.name = tempOf table
          · rw [spelledSo, beq_self_eq_true, if_pos rfl]
            simp [spelledSo]
          · rw [beq_false_of_ne spelledSo, if_neg Bool.false_ne_true]
            simp [spelledSo]

end Spelling

/-- No backup survives if nothing is called like one in other letters; and on lists
of tables that are no backups, exactly if what is so called goes with a table
that is created again in the letters of the list. -/
theorem migrateSpecifyTable_leaves_no_backup_iff {engine : Engine V}
    (documented : engine.Documented) (prefixed : engine.Prefixed) {sqls : KtAutoSqls}
    {dbName : String} {tables : List String} (plain : ∀ table ∈ tables, engine.Plain table)
    {conn : Conn V} :
    (SpelledLikeBackups engine (configured sqls dbName) tables conn.db →
      LeavesNoBackup engine sqls dbName tables conn) ∧
    (engine.Steady → Comparable engine sqls dbName tables conn.db →
      (∃ next, (migrateSpecifyTable engine sqls dbName tables).run conn = .ok () next) →
      (LeavesNoBackup engine sqls dbName tables conn ↔ ∀ table ∈ tables,
        ¬ Misspelled engine sqls dbName tables conn.db table ∨
          Respelled engine sqls dbName tables table)) := by
  constructor
  · intro spelled next returns table member
    rw [Option.eq_none_iff_forall_ne_some]
    intro survivor found
    rcases survivor_was_there documented prefixed plain returns spelled.creating member found with
      ⟨differs, ⟨before, there, same⟩ | configures⟩
    · exact differs (same.symm.trans (spelled.present table member before there))
    · exact differs (spelled.configured table member survivor.name configures
        (Database.fold_name_of_find found))
  · rintro steady comparable ⟨next, returns⟩
    constructor
    · intro leaves table member
      exact (find_temp_of_run documented steady comparable returns member).mp
        (leaves next returns table member)
    · intro each last ends table member
      exact (find_temp_of_run documented steady comparable ends member).mpr (each table member)

/-! ## A table and a backup in one list -/

section Small

open Sql.Reference

/-- `A` with one row, and a backup of an earlier upgrade. -/
def rowAndBackup : Conn Int := ⟨valueTables [("A", [7]), ("A_TEMP", [1])], 0⟩

/-- Both are listed, and the new backup cannot be filled. -/
theorem leavesNoBackup_listed :
    (∃ next, (migrateSpecifyTable (failing [fillA]) onlyA "demo" ["A", "A_TEMP"]).run
      rowAndBackup = .ok () next) ∧
      LeavesNoBackup (failing [fillA]) onlyA "demo" ["A", "A_TEMP"] rowAndBackup := by
  have plain : ∀ table ∈ ["A", "A_TEMP"], (failing [fillA]).Plain table := by
    have plainA : (failing [fillA]).Plain "A" := plain_failing (by decide) _
    intro table member
    rcases List.mem_cons.mp member with same | member
    · rw [same]
      exact plainA
    · rw [List.mem_singleton.mp member]
      exact plainA.temp (documented_failing _)
  have evaluated : Effect.endsIn
      (migrateSpecifyTable (failing [fillA]) onlyA "demo" ["A", "A_TEMP"]) (fun _ => true)
      rowAndBackup = true := by decide +kernel
  rcases Effect.exists_of_endsIn evaluated with ⟨⟨⟩, next, ends, -⟩
  refine ⟨⟨next, ends⟩, (migrateSpecifyTable_leaves_no_backup_iff (documented_failing _)
    (prefixed _) plain).1 ⟨creating_onlyA _, ?_, ?_⟩⟩
  · have spelled : ∀ table ∈ ["A", "A_TEMP"],
        (rowAndBackup.db.find (tempOf table)).all fun left => left.name == tempOf table := by
      decide +kernel
    intro table member left found
    have same := spelled table member
    rw [found, Option.all_some] at same
    exact beq_iff_eq.mp same
  · rintro table member name ⟨sql, among, ifNotExists, schema, reads⟩ folds
    rw [List.mem_singleton.mp among, (form_value _).2, Option.some.injEq] at reads
    cases reads
    have differ : ∀ table ∈ ["A", "A_TEMP"], fold "A" ≠ fold (tempOf table) := by decide
    exact absurd folds (differ table member)

/-- `A` with one row, and a backup of an earlier upgrade in other letters. -/
def rowAndLowerBackup : Conn Int := ⟨valueTables [("A", [7]), ("a_temp", [])], 0⟩

/-- The configuration creates `B` only. -/
def configuresB : KtAutoSqls := .ofEntries [valueText "B"] 2 (some "1:A") none

/-- The row of `A` is put into `a_temp`, and there it stays. -/
theorem not_leavesNoBackup_lower_case :
    ¬ LeavesNoBackup (failing []) configuresB "demo" ["A"] rowAndLowerBackup := by
  intro leaves
  have evaluated : Effect.endsIn (migrateSpecifyTable (failing []) configuresB "demo" ["A"])
      (fun next => (next.db.find (tempOf "A")).isSome) rowAndLowerBackup = true := by
    decide +kernel
  rcases Effect.exists_of_endsIn evaluated with ⟨⟨⟩, next, ends, stays⟩
  rw [leaves next ends "A" List.mem_cons_self] at stays
  cases stays

end Small

end Migration
end ModuleDatabase
