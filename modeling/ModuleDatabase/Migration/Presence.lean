import ModuleDatabase.Migration.Frame
import ModuleDatabase.Migration.Passes

namespace ModuleDatabase
namespace Migration

open Text
open Sql

/-!
# Which tables are there

Whether a statement that creates a table works, and whether it makes anything,
depends on the keys under which there are tables, and not on what they hold.
The first phase adds the keys of the backups that it makes; it makes none for a
name that is itself that of a backup, and none if the text cannot be executed.
The second phase adds those of its statements.

With the tables comes `sqlite_sequence`, as soon as the first one is made that
says `AUTOINCREMENT`.  A pass that is repeated makes no such table that the first
pass has not made already.
-/

variable {V : Type}

/-- The same tables are there, and `sqlite_sequence` or not. -/
structure SameKeys (db next : Database V) : Prop where
  keys : ∀ key, (next.lookup key).isSome = (db.lookup key).isSome
  sequence : next.sequence = db.sequence

/-- One table is there besides, with this schema, if it has not been there. -/
structure Adds (key : String) (schema : Option (Schema V)) (db next : Database V) : Prop where
  keys : ∀ other, (next.lookup other).isSome =
    ((db.lookup other).isSome || (schema.isSome && other == key))
  sequence : next.sequence =
    (db.sequence || ((db.lookup key).isNone && schema.any Schema.autoincrement))

/-- The schema of the table that a statement creates; none if it throws whatever is
there. -/
def createdSchema (engine : Engine V) (sql : String) : Option (Schema V) :=
  if engine.fails 0 sql then none
  else
    match engine.prepare sql with
    | some (.create _ _ schema) => some schema
    | _ => none

/-- The schema of the backup that the first phase makes of a table. -/
def backupSchema (engine : Engine V) (db : Database V) (name : String) : Option (Schema V) :=
  if endsWithIgnoringCase name tableTempName then none
  else
    (db.named name).bind fun table =>
      createdSchema engine (createText (tempOf name) (table.schema.columns.map backupDef))

/-- There is a backup with this key, after the first phase. -/
def backsUp (engine : Engine V) (db : Database V) (tables : List String) (key : String) : Bool :=
  tables.any fun name => (backupSchema engine db name).isSome && key == fold (tempOf name)

/-- A backup that is new says `AUTOINCREMENT`. -/
def backupsCount (engine : Engine V) (db : Database V) (tables : List String) : Bool :=
  tables.any fun name => (db.lookup (fold (tempOf name))).isNone &&
    (backupSchema engine db name).any Schema.autoincrement

/-- The keys of the tables that are left when the first phase has ended and the
listed tables are dropped. -/
def keysLeft (engine : Engine V) (db : Database V) (tables : List String) (key : String) : Bool :=
  !(tables.map fold).contains key &&
    ((db.lookup key).isSome || backsUp engine db tables key)

/-- Statements that create tables make one that says `AUTOINCREMENT`, if there are
tables under some keys. -/
def counts (engine : Engine V) : List String → (String → Bool) → Bool
  | [], _ => false
  | sql :: rest, present =>
      match engine.prepare sql with
      | some (.create name ifNotExists schema) =>
          if engine.fails 0 sql || (!ifNotExists && present (fold name)) then false
          else
            (!present (fold name) && schema.autoincrement) ||
              counts engine rest fun key => present key || key == fold name
      | _ => false

/-! ## Keys that stay or are added -/

section Relations

variable {key : String} {schema : Option (Schema V)} {db middle next : Database V}

theorem SameKeys.refl (db : Database V) : SameKeys db db := ⟨fun _ => rfl, rfl⟩

theorem SameKeys.trans (before : SameKeys db middle) (after : SameKeys middle next) :
    SameKeys db next where
  keys := fun key => (after.keys key).trans (before.keys key)
  sequence := after.sequence.trans before.sequence

theorem SameKeys.isNone (same : SameKeys db next) (key : String) :
    (next.lookup key).isNone = (db.lookup key).isNone := by
  rw [← Option.not_isSome, ← Option.not_isSome, same.keys]

theorem Adds.nothing (same : SameKeys db next) : Adds key none db next where
  keys := by
    intro other
    rw [same.keys, Option.isSome_none, Bool.false_and, Bool.or_false]
  sequence := by rw [same.sequence, Option.any_none, Bool.and_false, Bool.or_false]

theorem Adds.after (before : SameKeys db middle) (adds : Adds key schema middle next) :
    Adds key schema db next where
  keys := fun other => by rw [adds.keys, before.keys]
  sequence := by rw [adds.sequence, before.sequence, before.isNone]

theorem Adds.before (adds : Adds key schema db middle) (after : SameKeys middle next) :
    Adds key schema db next where
  keys := fun other => (after.keys other).trans (adds.keys other)
  sequence := after.sequence.trans adds.sequence

/-- What is there already is not added. -/
theorem Adds.sameKeys (adds : Adds key schema db next) (present : (db.lookup key).isSome = true) :
    SameKeys db next where
  keys := by
    intro other
    rw [adds.keys]
    by_cases here : other = key
    · rw [here, present, Bool.true_or]
    · rw [beq_false_of_ne here, Bool.and_false, Bool.or_false]
  sequence := by
    rw [adds.sequence, ← Option.not_isSome, present, Bool.not_true, Bool.false_and, Bool.or_false]

/-- A table in place of one with the same columns. -/
theorem sameKeys_of_shape (name : String)
    (others : ∀ key, key ≠ fold name → next.lookup key = db.lookup key)
    (shape : (next.find name).map Table.shape = (db.find name).map Table.shape)
    (sequence : next.sequence = db.sequence) : SameKeys db next where
  keys := by
    intro key
    by_cases here : key = fold name
    · have same := congrArg Option.isSome shape
      rwa [Option.isSome_map, Option.isSome_map, Database.find, Database.find, ← here] at same
    · rw [others key here]
  sequence := sequence

end Relations

/-! ## The first phase -/

section Backup

variable {engine : Engine V}

theorem sameKeys_delete {name : String}
    (reads : ∀ stmt, engine.prepare ("DELETE FROM " ++ name) = some stmt → stmt = .delete name)
    (conn : Conn V) :
    SameKeys conn.db (Effect.final (execSQL engine ("DELETE FROM " ++ name)) conn).db := by
  apply final_execSQL SameKeys (SameKeys.refl conn.db)
  intro stmt db prepared runs
  rw [reads stmt prepared, Stmt.run] at runs
  rcases Option.map_eq_some_iff.mp runs with ⟨table, found, same⟩
  subst same
  have here : fold table.name = fold name := Database.fold_name_of_find found
  apply sameKeys_of_shape name
  · intro key apart
    exact (Database.lookup_put conn.db table.clear key).trans
      (if_neg fun same => apart (same.trans here))
  · have now : (conn.db.put table.clear).find name = some table.clear :=
      (Database.lookup_put conn.db table.clear (fold name)).trans (if_pos here.symm)
    rw [now, found]
    rfl
  · exact Database.sequence_put_of_find found rfl

variable (prefixed : engine.Prefixed) (steady : engine.Steady) {temp : String}
  (plainTemp : engine.Plain temp)
include prefixed plainTemp

theorem sameKeys_copy (columns : List String) (source : String) (conn : Conn V) :
    SameKeys conn.db (Effect.final (execSQL engine (copyText temp columns source)) conn).db := by
  rcases copyText_begins temp columns source with ⟨rest, text⟩
  rw [text]
  apply final_execSQL SameKeys (SameKeys.refl conn.db)
  intro stmt db reads runs
  rcases prefixed.insert temp rest stmt plainTemp reads conn.db db runs with
    ⟨others, shape, sequence⟩
  exact sameKeys_of_shape temp others shape sequence

include steady

/-- The statement that creates a backup adds it if it works. -/
theorem adds_create (columns : List ColumnDef) (conn : Conn V) :
    Adds (fold temp) (createdSchema engine (createText temp columns)) conn.db
      (Effect.final (execSQL engine (createText temp columns)) conn).db := by
  have begins : createText temp columns = "CREATE TABLE IF NOT EXISTS " ++ temp ++ " (" ++
      (join "," (columns.map ColumnDef.text) ++ ");") := by
    unfold createText
    rw [String.append_assoc]
  cases reads : engine.prepare (createText temp columns) with
  | none =>
      have nothing : createdSchema engine (createText temp columns) = none := by
        rw [createdSchema, reads]
        exact ite_self none
      rw [nothing, Effect.final_of_error (run_execSQL_of_none reads)]
      exact Adds.nothing (SameKeys.refl conn.db)
  | some stmt =>
      have created := reads
      rw [begins] at created
      rcases prefixed.create temp _ stmt plainTemp created with ⟨schema, same⟩
      subst same
      cases fails : engine.fails 0 (createText temp columns) with
      | true =>
          have nothing : createdSchema engine (createText temp columns) = none := by
            rw [createdSchema, fails, if_pos rfl]
          have throws : (execSQL engine (createText temp columns)).run conn =
              .error .sqlite (conn.executed conn.db) :=
            run_execSQL_of_throws reads (Or.inl (by rw [steady, fails]; rfl))
          rw [nothing, Effect.final_of_error throws]
          exact Adds.nothing (SameKeys.refl conn.db)
      | false =>
          have something : createdSchema engine (createText temp columns) = some schema := by
            rw [createdSchema, fails, if_neg Bool.false_ne_true, reads]
          rcases Stmt.run_create_isSome conn.db temp schema with ⟨db, runs⟩
          rw [something, Effect.final_of_ok (run_execSQL_of_some reads
            (by rw [steady, fails]; rfl) runs), Conn.executed_db]
          constructor
          · intro other
            rw [Stmt.lookup_of_create runs, Option.isSome_or, Option.isSome_some, Bool.true_and]
            congr 1
            by_cases here : fold temp = other
            · rw [if_pos here, here, beq_self_eq_true]
              rfl
            · rw [if_neg here, beq_false_of_ne (Ne.symm here)]
              rfl
          · rw [Stmt.sequence_of_create runs, Option.any_some]

/-- Filling it adds nothing more. -/
theorem adds_create_and_fill (columns : List ColumnDef) (copied : List String) (source : String)
    (conn : Conn V) :
    Adds (fold temp) (createdSchema engine (createText temp columns)) conn.db
      (Effect.final (do
        execSQL engine (createText temp columns)
        execSQL engine (copyText temp copied source) : Program V Unit) conn).db := by
  have creates := adds_create prefixed steady plainTemp columns conn
  rw [Effect.final_bind]
  cases runs : (execSQL engine (createText temp columns)).run conn with
  | error thrown next =>
      rw [Effect.final_of_error runs] at creates
      exact creates
  | ok done next =>
      rw [Effect.final_of_ok runs] at creates
      exact creates.before (sameKeys_copy prefixed plainTemp copied source next)

omit steady plainTemp prefixed in
/-- Deleting the rows of a table, once for each reserved name. -/
theorem sameKeys_deletes (documented : engine.Documented) (prefixed : engine.Prefixed)
    {name : String} (chars : name.toList.all isWordChar = true) (migrates : List Migrate)
    (conn : Conn V) :
    SameKeys conn.db (Effect.final (migrates.forM fun migrate =>
      if sameIgnoringCase migrate.name "FROM" || sameIgnoringCase migrate.name "TO" then
        execSQL engine ("DELETE FROM " ++ name)
      else pure () : Program V Unit) conn).db := by
  apply Effect.final_forM_relation (fun state next : Conn V => SameKeys state.db next.db)
    (fun state => SameKeys.refl state.db) (fun _ _ _ before after => before.trans after)
  intro migrate _ state
  split
  · apply sameKeys_delete
    intro stmt reads
    rw [documented.delete name (prefixed.delete name stmt chars reads), Option.some.injEq] at reads
    exact reads.symm
  · exact SameKeys.refl state.db

omit steady plainTemp prefixed in
/-- Deleting the rows of a table that is there does not throw. -/
theorem returns_deletes (documented : engine.Documented) {name : String}
    (plain : engine.Plain name) (migrates : List Migrate) {conn : Conn V}
    (present : (conn.db.find name).isSome = true) :
    ∃ next, (migrates.forM fun migrate =>
      if sameIgnoringCase migrate.name "FROM" || sameIgnoringCase migrate.name "TO" then
        execSQL engine ("DELETE FROM " ++ name)
      else pure () : Program V Unit).run conn = .ok () next := by
  refine (Effect.run_forM_invariant migrates
    (fun _ (state : Conn V) => (state.db.find name).isSome = true) ?_ present).imp
    fun _ ends => ends.1
  intro visited migrate rest state _ there
  rcases Option.isSome_iff_exists.mp there with ⟨table, found⟩
  split
  · have deletes : Stmt.run state.db (.delete name) = some (state.db.put table.clear) := by
      rw [Stmt.run, found]
      rfl
    refine ⟨_, run_execSQL_of_some (documented.delete name plain) rfl deletes, ?_⟩
    rw [Conn.executed_db, Database.find, Database.lookup_put,
      ← Database.fold_name_of_find found]
    exact congrArg Option.isSome (if_pos rfl)
  · exact ⟨state, rfl, there⟩

/-- Filling a backup that is there adds nothing. -/
theorem sameKeys_fillTempTable (documented : engine.Documented) {name : String}
    (chars : name.toList.all isWordChar = true) {conn : Conn V}
    (present : (conn.db.lookup (fold temp)).isSome = true) :
    SameKeys conn.db (Effect.final (fillTempTable engine temp name) conn).db := by
  rcases run_getMigrates_conn engine name conn with ⟨migrates, reads⟩
  have deletes := sameKeys_deletes documented prefixed chars migrates conn
  rw [fillTempTable, Effect.final_of_ok (Effect.run_tryCatch_ignored _ conn), Effect.final_bind,
    reads]
  dsimp only
  rw [Effect.final_bind]
  cases purges : (migrates.forM fun migrate =>
      if sameIgnoringCase migrate.name "FROM" || sameIgnoringCase migrate.name "TO" then
        execSQL engine ("DELETE FROM " ++ name)
      else pure () : Program V Unit).run conn with
  | error thrown next =>
      rw [Effect.final_of_error purges] at deletes
      exact deletes
  | ok done next =>
      rw [Effect.final_of_ok purges] at deletes
      have still : (next.db.lookup (fold temp)).isSome = true := by rw [deletes.keys, present]
      exact deletes.trans ((adds_create_and_fill prefixed steady plainTemp
        (migrates.map Migrate.definition) (backupColumns (migrates.map Migrate.name)) name
        next).sameKeys still)

/-- Filling the backup of a table with a plain name adds the backup, if its text can
be executed. -/
theorem adds_fillTempTable (documented : engine.Documented) {name : String}
    (plain : engine.Plain name) {conn : Conn V} {table : Table V}
    (found : conn.db.find name = some table) :
    Adds (fold temp) (createdSchema engine (createText temp (table.schema.columns.map backupDef)))
      conn.db (Effect.final (fillTempTable engine temp name) conn).db := by
  have chars : name.toList.all isWordChar = true := (Bool.and_eq_true_iff.mp plain.1).1
  have reads := run_getMigrates documented plain conn
  rw [found] at reads
  set migrates := migratesOf table.schema.columns with migratesEq
  rcases returns_deletes documented plain migrates
    (Option.isSome_iff_exists.mpr ⟨table, found⟩) with ⟨next, purges⟩
  have deletes := sameKeys_deletes documented prefixed chars migrates conn
  rw [Effect.final_of_ok purges] at deletes
  rw [← migratesOf_definitions, ← migratesEq, fillTempTable,
    Effect.final_of_ok (Effect.run_tryCatch_ignored _ conn), Effect.final_bind, reads]
  dsimp only [Option.elim]
  rw [Effect.final_bind, purges]
  exact Adds.after deletes (adds_create_and_fill prefixed steady plainTemp
    (migrates.map Migrate.definition) (backupColumns (migrates.map Migrate.name)) name next)

omit plainTemp in
/-- Backing up a listed name adds its backup, or nothing. -/
theorem adds_generateTempTable (documented : engine.Documented) {name : String}
    (plain : engine.Plain name) (conn : Conn V) :
    Adds (fold (tempOf name)) (backupSchema engine conn.db name) conn.db
      (Effect.final (generateTempTable engine name) conn).db := by
  rw [generateTempTable, Effect.final_bind, run_tableIsExist documented plain conn]
  dsimp only
  cases named : conn.db.named name with
  | none =>
      have nothing : backupSchema engine conn.db name = none := by
        rw [backupSchema, named, Option.bind_none, ite_self]
      rw [nothing, Option.isSome_none, if_neg Bool.false_ne_true]
      exact Adds.nothing (SameKeys.refl conn.db)
  | some table =>
      have found := (Database.named_eq_some.mp named).1
      rw [Option.isSome_some, if_pos rfl]
      cases ending : endsWithIgnoringCase name tableTempName with
      | true =>
          -- The table is taken for a backup, so the one that would be made is there.
          have nothing : backupSchema engine conn.db name = none := by
            rw [backupSchema, ending, if_pos rfl]
          have empties : SameKeys conn.db
              (Effect.final (execSQL engine ("DELETE FROM " ++ name)) conn).db := by
            apply sameKeys_delete
            intro stmt reads
            rw [documented.delete name plain, Option.some.injEq] at reads
            exact reads.symm
          rw [nothing, if_pos rfl]
          apply Adds.nothing
          rw [Effect.final_bind]
          cases runs : (execSQL engine ("DELETE FROM " ++ name)).run conn with
          | error thrown next =>
              rw [Effect.final_of_error runs] at empties
              exact empties
          | ok done next =>
              rw [Effect.final_of_ok runs] at empties
              have present : (next.db.lookup (fold name)).isSome = true := by
                rw [empties.keys]
                exact Option.isSome_iff_exists.mpr ⟨table, found⟩
              exact empties.trans (sameKeys_fillTempTable prefixed steady plain documented
                (baseOf_chars plain.1) present)
      | false =>
          have something : backupSchema engine conn.db name =
              createdSchema engine (createText (tempOf name)
                (table.schema.columns.map backupDef)) := by
            rw [backupSchema, ending, if_neg Bool.false_ne_true, named, Option.bind_some]
          rw [something, if_neg Bool.false_ne_true]
          exact adds_fillTempTable prefixed steady (plain.temp documented) documented plain found

omit prefixed steady plainTemp in
/-- What is made of a table depends on its name and columns. -/
theorem backupSchema_of_shape {db next : Database V} {name : String}
    (shape : (next.find name).map Table.shape = (db.find name).map Table.shape) :
    backupSchema engine next name = backupSchema engine db name := by
  unfold backupSchema Database.named
  cases first : next.find name with
  | none =>
      cases second : db.find name with
      | none => rfl
      | some table =>
          rw [first, second] at shape
          cases shape
  | some other =>
      cases second : db.find name with
      | none =>
          rw [first, second] at shape
          cases shape
      | some table =>
          rw [first, second, Option.map_some, Option.map_some, Option.some.injEq] at shape
          have sameName : other.name = table.name := congrArg Prod.fst shape
          have sameSchema : other.schema = table.schema := congrArg Prod.snd shape
          rw [Option.filter_some, Option.filter_some, sameName]
          split
          · rfl
          · split
            · rw [Option.bind_some, Option.bind_some, sameSchema]
            · rfl

omit prefixed steady plainTemp in
theorem named_of_backupSchema {db : Database V} {name : String}
    (backs : (backupSchema engine db name).isSome = true) :
    ∃ table, db.named name = some table := by
  rcases Option.isSome_iff_exists.mp backs with ⟨schema, makes⟩
  unfold backupSchema at makes
  split at makes
  · cases makes
  · rcases Option.bind_eq_some_iff.mp makes with ⟨table, named, -⟩
    exact ⟨table, named⟩

omit prefixed steady plainTemp in
/-- Of the tables with one key one is backed up. -/
theorem backsUp_unique {db : Database V} {first second : String}
    (backs : (backupSchema engine db first).isSome = true)
    (alsoBacks : (backupSchema engine db second).isSome = true)
    (same : fold first = fold second) : first = second := by
  rcases named_of_backupSchema backs with ⟨table, named⟩
  rcases named_of_backupSchema alsoBacks with ⟨other, alsoNamed⟩
  rcases Database.named_eq_some.mp named with ⟨found, called⟩
  rcases Database.named_eq_some.mp alsoNamed with ⟨alsoFound, alsoCalled⟩
  rw [Database.find, ← same, ← Database.find, found, Option.some.injEq] at alsoFound
  rw [← called, ← alsoCalled, alsoFound]

end Backup

section Phase

variable {engine : Engine V} (documented : engine.Documented) (prefixed : engine.Prefixed)
  (steady : engine.Steady) {tables : List String}
  (plain : ∀ table ∈ tables, engine.Plain table) (nonempty : tables ≠ [])
include documented prefixed steady plain nonempty

/-- After the first phase there are the backups besides. -/
theorem keys_buildTempTable {conn backed : Conn V}
    (backs : (buildTempTable engine tables).run conn = .ok () backed) :
    (∀ key, (backed.db.lookup key).isSome =
        ((conn.db.lookup key).isSome || backsUp engine conn.db tables key)) ∧
      backed.db.sequence = (conn.db.sequence || backupsCount engine conn.db tables) := by
  have visits : ∃ next, (buildTempTable engine tables).run conn = .ok () next ∧
      (∀ key, (next.db.lookup key).isSome =
          ((conn.db.lookup key).isSome || backsUp engine conn.db tables key)) ∧
        next.db.sequence = (conn.db.sequence || backupsCount engine conn.db tables) ∧
        ∀ name, endsWithIgnoringCase name tableTempName = false →
          (next.db.find name).map Table.shape = (conn.db.find name).map Table.shape := by
    rw [buildTempTable, if_neg (fun empty => nonempty (List.isEmpty_iff.mp empty))]
    apply Effect.run_forM_invariant tables fun visited (state : Conn V) =>
      (∀ key, (state.db.lookup key).isSome =
          ((conn.db.lookup key).isSome || backsUp engine conn.db visited key)) ∧
        state.db.sequence = (conn.db.sequence || backupsCount engine conn.db visited) ∧
        ∀ name, endsWithIgnoringCase name tableTempName = false →
          (state.db.find name).map Table.shape = (conn.db.find name).map Table.shape
    · rintro visited name rest state split ⟨keys, sequence, shapes⟩
      have member : name ∈ tables := List.mem_iff_append.mpr ⟨_, _, split⟩
      rcases run_generateTempTable_frame documented prefixed (plain name member) state with
        ⟨next, ends, shape, -⟩
      have adds := adds_generateTempTable prefixed steady documented (plain name member) state
      rw [Effect.final_of_ok ends] at adds
      -- The turn makes the same backup as it would have made at the beginning.
      have same : backupSchema engine state.db name = backupSchema engine conn.db name := by
        cases ending : endsWithIgnoringCase name tableTempName with
        | true => rw [backupSchema, backupSchema, ending, if_pos rfl, if_pos rfl]
        | false => exact backupSchema_of_shape (shapes name ending)
      rw [same] at adds
      refine ⟨next, ends, ?_, ?_, ?_⟩
      · intro key
        rw [adds.keys, keys, Bool.or_assoc, backsUp, backsUp, List.any_append, List.any_cons,
          List.any_nil, Bool.or_false]
      · rw [adds.sequence, sequence, Bool.or_assoc, backupsCount, backupsCount, List.any_append,
          List.any_cons, List.any_nil, Bool.or_false]
        congr 1
        cases made : visited.any fun name => (conn.db.lookup (fold (tempOf name))).isNone &&
            (backupSchema engine conn.db name).any Schema.autoincrement with
        | true => rw [Bool.true_or, Bool.true_or]
        | false =>
            rw [Bool.false_or, Bool.false_or, ← Option.not_isSome, ← Option.not_isSome, keys]
            cases earlier : backsUp engine conn.db visited (fold (tempOf name)) with
            | false => rw [Bool.or_false]
            | true =>
                -- The backup is there already, so this name has had its turn.
                rcases List.any_eq_true.mp earlier with ⟨other, inside, backsOther⟩
                rw [Bool.and_eq_true, beq_iff_eq] at backsOther
                cases backsHere : backupSchema engine conn.db name with
                | none => rw [Option.any_none, Bool.and_false, Bool.and_false]
                | some schema =>
                    have called : name = other :=
                      backsUp_unique (by rw [backsHere]; rfl) backsOther.1 (temp_inj backsOther.2)
                    have uncounted := List.any_eq_false.mp made other inside
                    rw [← called, backsHere, ← Option.not_isSome, Bool.not_eq_true] at uncounted
                    rw [uncounted, Bool.or_true]
                    rfl
      · intro other ending
        rw [← shapes other ending]
        exact shape (fold other) (ne_temp_of_own ending name)
    · exact ⟨fun key => (Bool.or_false _).symm, (Bool.or_false _).symm, fun _ _ => rfl⟩
  rcases visits with ⟨next, ends, keys, sequence, -⟩
  rw [ends] at backs
  cases backs
  exact ⟨keys, sequence⟩

/-- What is left when the listed tables are dropped. -/
theorem left_of_buildTempTable {conn backed : Conn V}
    (backs : (buildTempTable engine tables).run conn = .ok () backed) :
    left tables backed.db = keysLeft engine conn.db tables := by
  funext key
  rw [left, keysLeft, (keys_buildTempTable documented prefixed steady plain nonempty backs).1]

end Phase

/-- No backup of a table with plain columns says `AUTOINCREMENT`. -/
theorem backupsCount_eq_false {engine : Engine V} (documented : engine.Documented)
    {tables : List String} (plain : ∀ name ∈ tables, engine.Plain name) {db : Database V}
    (copyable : Copyable engine db tables) : backupsCount engine db tables = false := by
  apply List.any_eq_false.mpr
  intro name member autoincrements
  rw [Bool.and_eq_true] at autoincrements
  rcases (Option.any_eq_true _ _).mp autoincrements.2 with ⟨schema, makes, autoincrement⟩
  unfold backupSchema at makes
  split at makes
  · cases makes
  · rcases Option.bind_eq_some_iff.mp makes with ⟨table, named, makes⟩
    have defines := copyable name member table named
    have reads : engine.prepare (createText (tempOf name) (table.schema.columns.map backupDef)) =
        some (.create (tempOf name) true (engine.schema (table.schema.columns.map backupDef))) :=
      documented.create _ _ ((plain name member).temp documented) defines
    unfold createdSchema at makes
    rw [reads] at makes
    split at makes
    · cases makes
    · rw [← Option.some.inj makes, documented.schema_autoincrement _ defines] at autoincrement
      cases autoincrement

/-! ## The second phase -/

section Statements

variable {engine : Engine V} {statements : List String}

theorem counts_cons_of_create {sql name : String} {rest : List String} {ifNotExists : Bool}
    {schema : Schema V} (reads : engine.prepare sql = some (.create name ifNotExists schema))
    (present : String → Bool) :
    counts engine (sql :: rest) present =
      if engine.fails 0 sql || (!ifNotExists && present (fold name)) then false
      else (!present (fold name) && schema.autoincrement) ||
        counts engine rest fun key => present key || key == fold name := by
  rw [counts, reads]

/-- `sqlite_sequence` is there behind statements if it has been, or they make a table
that says `AUTOINCREMENT`. -/
theorem sequence_statements (steady : engine.Steady) (creating : Creating engine statements)
    (conn : Conn V) :
    (Effect.final (statements.forM (execSQL engine)) conn).db.sequence =
      (conn.db.sequence ||
        counts engine statements fun key => (conn.db.lookup key).isSome) := by
  induction statements generalizing conn with
  | nil => exact (Bool.or_false _).symm
  | cons sql rest ih =>
      have tail : Creating engine rest :=
        fun other member => creating other (List.mem_cons_of_mem _ member)
      rw [Effect.final_forM_cons]
      cases reads : engine.prepare sql with
      | none => rw [run_execSQL_of_none reads, counts, reads, Bool.or_false]
      | some stmt =>
          rcases creating sql List.mem_cons_self stmt reads with ⟨name, ifNotExists, schema, same⟩
          subst same
          have known := run_create_isSome_eq conn.db name ifNotExists schema
          have runnable : (ifNotExists || !(conn.db.lookup (fold name)).isSome) =
              !(!ifNotExists && (conn.db.lookup (fold name)).isSome) := by
            rw [Bool.not_and, Bool.not_not]
          rw [counts_cons_of_create reads]
          cases fails : engine.fails 0 sql with
          | true =>
              rw [run_execSQL_of_throws reads (Or.inl (by rw [steady, fails]; rfl)), Bool.true_or,
                if_pos rfl, Bool.or_false]
              rfl
          | false =>
              rw [Bool.false_or]
              cases runs : Stmt.run conn.db (.create name ifNotExists schema) with
              | none =>
                  rw [runs, runnable, Option.isSome_none, eq_comm, Bool.not_eq_false'] at known
                  rw [run_execSQL_of_throws reads (Or.inr runs), known, if_pos rfl, Bool.or_false]
                  rfl
              | some db =>
                  rw [runs, runnable, Option.isSome_some, eq_comm, Bool.not_eq_true'] at known
                  have grown : (fun key => ((conn.executed db).db.lookup key).isSome) =
                      fun key => (conn.db.lookup key).isSome || key == fold name := by
                    funext key
                    rw [Conn.executed_db, Stmt.lookup_of_create runs key, Option.isSome_or]
                    congr 1
                    by_cases here : fold name = key
                    · rw [if_pos here, here, beq_self_eq_true]
                      rfl
                    · rw [if_neg here, beq_false_of_ne (Ne.symm here)]
                      rfl
                  rw [run_execSQL_of_some reads (by rw [steady, fails]; rfl) runs, known,
                    if_neg Bool.false_ne_true]
                  dsimp only
                  rw [ih tail, grown, Conn.executed_db, Stmt.sequence_of_create runs,
                    ← Option.not_isSome, Bool.or_assoc]

/-- What makes `sqlite_sequence` is the first statement for a key that is free. -/
theorem created_of_counts {present : String → Bool}
    (makes : counts engine statements present = true) :
    ∃ key table, present key = false ∧ created engine statements key = some table ∧
      table.schema.autoincrement = true := by
  induction statements generalizing present with
  | nil => cases makes
  | cons sql rest ih =>
      unfold counts at makes
      split at makes
      · rename_i name ifNotExists schema reads
        have here : ∀ key, creates engine key sql =
            if fold name = key then some (Table.empty name schema) else none := by
          intro key
          rw [creates, reads]
        split at makes
        · cases makes
        · rcases Bool.or_eq_true_iff.mp makes with now | later
          · rw [Bool.and_eq_true, Bool.not_eq_true'] at now
            refine ⟨fold name, Table.empty name schema, now.1, ?_, now.2⟩
            rw [created, List.findSome?_cons, here, if_pos rfl]
          · rcases ih later with ⟨key, table, free, creation, autoincrement⟩
            rcases Bool.or_eq_false_iff.mp free with ⟨absent, differ⟩
            refine ⟨key, table, absent, ?_, autoincrement⟩
            rw [created, List.findSome?_cons, here, if_neg (Ne.symm (ne_of_beq_false differ))]
            exact creation
      · cases makes

/-- If statements work, a table that they make shows whether they count. -/
theorem counts_of_created {present : String → Bool}
    (ends : executes engine statements present = true) {key : String} {table : Table V}
    (free : present key = false) (makes : created engine statements key = some table)
    (autoincrement : table.schema.autoincrement = true) :
    counts engine statements present = true := by
  induction statements generalizing present with
  | nil => cases makes
  | cons sql rest ih =>
      unfold executes at ends
      split at ends
      · rename_i name ifNotExists schema reads
        rw [Bool.and_eq_true, Bool.and_eq_true, Bool.not_eq_true'] at ends
        have works : (engine.fails 0 sql || (!ifNotExists && present (fold name))) = false := by
          rw [ends.1.1, Bool.false_or]
          cases ifNotExists with
          | true => rfl
          | false =>
              rw [Bool.not_false, Bool.true_and]
              simpa only [Bool.false_or, Bool.not_eq_true'] using ends.1.2
        rw [counts_cons_of_create reads, works, if_neg Bool.false_ne_true, Bool.or_eq_true]
        rw [created, List.findSome?_cons, creates, reads] at makes
        dsimp only at makes
        by_cases here : fold name = key
        · rw [if_pos here, Option.some.injEq] at makes
          left
          rw [here, free, ← autoincrement, ← makes]
          rfl
        · rw [if_neg here] at makes
          right
          apply ih ends.2 ?_ makes
          rw [free, beq_false_of_ne (Ne.symm here), Bool.false_or]
      · cases ends

end Statements

section Passes

variable {engine : Engine V} (documented : engine.Documented) (steady : engine.Steady)
  {sqls : KtAutoSqls} {dbName : String} {list : List String}
  (plain : ∀ table ∈ list, engine.Plain table) (creating : Creating engine (configured sqls dbName))
include documented plain

theorem sequence_cleanTables (conn : Conn V) :
    (Effect.final (cleanTables engine list) conn).db.sequence = conn.db.sequence := by
  apply Effect.final_forM_relation (fun state next : Conn V => next.db.sequence = state.db.sequence)
    (fun _ => rfl) (fun _ _ _ before after => after.trans before)
  intro table member state
  rw [Effect.final_of_ok (run_dropIfExists documented (plain table member) state)]
  rfl

include steady creating

theorem sequence_pass (conn : Conn V) :
    (Effect.final (do
        cleanTables engine list
        buildTables engine sqls dbName list : Program V Unit) conn).db.sequence =
      (conn.db.sequence ||
        counts engine (matched (configured sqls dbName) list) (left list conn.db)) := by
  rcases run_cleanTables documented plain conn with ⟨cleaned, cleans, lookups⟩
  have creatingMatched : Creating engine (matched (configured sqls dbName) list) :=
    fun sql member => creating sql (mem_matched.mp member).1
  have keys : (fun key => (cleaned.db.lookup key).isSome) = left list conn.db := by
    funext key
    rw [lookups key]
    by_cases listed : key ∈ list.map fold
    · rw [if_pos listed, left_of_mem listed]
      rfl
    · rw [if_neg listed, left_of_not_mem listed]
  have sequence := sequence_cleanTables documented plain conn
  rw [Effect.final_of_ok cleans] at sequence
  have builds : Effect.final (buildTables engine sqls dbName list) cleaned =
      Effect.final ((matched (configured sqls dbName) list).forM (execSQL engine)) cleaned := by
    rw [Effect.final, run_buildTables, Effect.final]
  rw [Effect.final_bind, cleans]
  dsimp only
  rw [builds, sequence_statements steady creatingMatched, keys, sequence]

omit documented steady plain creating in
/-- A pass behind another one makes no table that says `AUTOINCREMENT` and has not
been there. -/
theorem sequence_of_counts {conn next : Conn V}
    (rebuilt : Rebuilt engine (configured sqls dbName) list conn next)
    (makes : counts engine (matched (configured sqls dbName) list) (left list next.db) = true) :
    next.db.sequence = true := by
  rcases created_of_counts makes with ⟨key, table, free, creation, autoincrement⟩
  by_cases listed : key ∈ list.map fold
  · have there := rebuilt key
    rw [if_pos listed, creation] at there
    exact next.db.counted key table there autoincrement
  · have there := rebuilt key
    rw [if_neg listed, creation] at there
    rw [left_of_not_mem listed, there, Option.isSome_or, Option.isSome_some, Bool.or_true] at free
    cases free

theorem sequence_passes {α : Type} (turns : List α) (nonempty : turns ≠ []) (conn : Conn V) :
    (Effect.final (turns.forM fun _ => do
        cleanTables engine list
        buildTables engine sqls dbName list : Program V Unit) conn).db.sequence =
      (conn.db.sequence ||
        counts engine (matched (configured sqls dbName) list) (left list conn.db)) := by
  induction turns generalizing conn with
  | nil => exact absurd rfl nonempty
  | cons turn rest ih =>
      have first := sequence_pass documented steady plain creating conn
      rw [Effect.final_forM_cons]
      cases runs : (do
          cleanTables engine list
          buildTables engine sqls dbName list : Program V Unit).run conn with
      | error thrown next =>
          rw [Effect.final_of_error runs] at first
          exact first
      | ok done next =>
          rw [Effect.final_of_ok runs] at first
          dsimp only
          cases rest with
          | nil => exact first
          | cons other others =>
              rw [ih (List.cons_ne_nil _ _) next, ← first]
              cases makes : counts engine (matched (configured sqls dbName) list)
                  (left list next.db) with
              | false => exact Bool.or_false _
              | true =>
                  rw [sequence_of_counts (rebuilt_of_pass documented plain creating runs) makes,
                    Bool.true_or]

theorem sequence_rebuildSpecifyTables (nonempty : list ≠ []) (conn : Conn V) :
    (Effect.final (rebuildSpecifyTables engine sqls dbName list) conn).db.sequence =
      (conn.db.sequence ||
        counts engine (matched (configured sqls dbName) list) (left list conn.db)) := by
  rw [rebuildSpecifyTables, if_neg (fun empty => nonempty (List.isEmpty_iff.mp empty))]
  exact sequence_passes documented steady plain creating list nonempty conn

end Passes

/-! ## The whole migration -/

section Whole

variable {engine : Engine V} (documented : engine.Documented) (prefixed : engine.Prefixed)
  (steady : engine.Steady) {sqls : KtAutoSqls} {dbName : String} {tables : List String}
  (plain : ∀ table ∈ tables, engine.Plain table) (nonempty : tables ≠ [])
  (creating : Creating engine (configured sqls dbName))
include documented prefixed steady plain nonempty creating

/-- `sqlite_sequence` is there in the end if it has been, or a backup or a statement
brings it. -/
theorem sequence_final_migrate (conn : Conn V) :
    (Effect.final (migrateSpecifyTable engine sqls dbName tables) conn).db.sequence =
      (conn.db.sequence || (backupsCount engine conn.db tables ||
        counts engine (matched (configured sqls dbName) tables)
          (keysLeft engine conn.db tables))) := by
  rcases run_buildTempTable_frame documented prefixed plain nonempty conn with ⟨backed, backs, -⟩
  have phase := sequence_rebuildSpecifyTables documented steady plain creating nonempty backed
  rw [left_of_buildTempTable documented prefixed steady plain nonempty backs,
    (keys_buildTempTable documented prefixed steady plain nonempty backs).2, Bool.or_assoc] at phase
  rw [migrateSpecifyTable, Effect.final_bind, backs]
  dsimp only
  rw [Effect.final_bind]
  cases runs : (rebuildSpecifyTables engine sqls dbName tables).run backed with
  | error thrown last =>
      rw [Effect.final_of_error runs] at phase
      exact phase
  | ok done mid =>
      rw [Effect.final_of_ok runs] at phase
      rcases run_restoreTable_frame documented prefixed plain mid with ⟨next, ends, kept, -⟩
      dsimp only
      rw [Effect.final_of_ok ends, kept.sequence]
      exact phase

/-- If the migration returns, the statements of its first pass work. -/
theorem executes_of_migrate {conn next : Conn V}
    (returns : (migrateSpecifyTable engine sqls dbName tables).run conn = .ok () next) :
    executes engine (matched (configured sqls dbName) tables) (keysLeft engine conn.db tables) =
      true := by
  rcases phases_of_migrateSpecifyTable returns with ⟨backed, mid, backs, rebuilds, -⟩
  rw [← left_of_buildTempTable documented prefixed steady plain nonempty backs]
  exact ((rebuildSpecifyTables_returns_iff documented steady plain creating nonempty
    backed).mp ⟨mid, rebuilds⟩).1

end Whole

end Migration
end ModuleDatabase
