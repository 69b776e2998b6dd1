import ModuleDatabase.Migration.Restore

namespace ModuleDatabase
namespace Migration

open Text
open Sql

/-!
# What the phases leave alone

Nothing is asked here of the listed names but that they are plain.  They may
occur twice, in any case, and be called like backups; the columns of the tables
may have any names, and any statement may throw.  What can still be said is
which tables a phase touches at all, since the beginning of every text that it
executes names one.

The first phase never throws.  It changes the listed tables and their backups,
with one exception: a listed table that is itself called like a backup is taken
for the backup of another one, and that one loses its rows if a column of it is
called `FROM` or `TO`.  The third phase never throws either, and leaves all
columns as they are.
-/

variable {V : Type}

/-- The key is neither that of a listed table nor that of the backup of one. -/
def Unlisted (tables : List String) (key : String) : Prop :=
  ∀ table ∈ tables, key ≠ fold table ∧ key ≠ fold (tempOf table)

/-- The table whose backup is called so. -/
def baseOf (name : String) : String := String.ofList (name.toList.take (name.toList.length - 5))

/-- A column of the table is called `FROM` or `TO`. -/
def HasReserved (table : Table V) : Prop :=
  ∃ column ∈ table.schema.columns,
    (sameIgnoringCase column.name "FROM" || sameIgnoringCase column.name "TO") = true

/-- The rows of the table with this key are deleted before it is copied. -/
structure Deletes (engine : Engine V) (db : Database V) (name key : String) : Prop where
  plain : engine.Plain name
  same : fold name = key
  reserved : ∃ table, db.lookup key = some table ∧ HasReserved table

/-- A listed name takes the table with this key for its own, and deletes its
rows. -/
structure Purges (engine : Engine V) (db : Database V) (name key : String) : Prop where
  ending : endsWithIgnoringCase name tableTempName = true
  present : (db.named name).isSome = true
  deletes : Deletes engine db (baseOf name) key

/-- A table has lost its rows, in a certain case, or is as it was. -/
def Cleared (lost : Prop) (before after : Option (Table V)) : Prop :=
  (lost → after = before.map Table.clear) ∧ (¬ lost → after = before)

/-- This table may have changed or be new, but has kept its columns if it was
there; all others are the same. -/
structure Touched (name : String) (db next : Database V) : Prop where
  shape : (db.find name).isSome = true →
    (next.find name).map Table.shape = (db.find name).map Table.shape
  others : ∀ key, key ≠ fold name → next.lookup key = db.lookup key

/-- Listed tables may have other rows, and their backups may be dropped or
changed, but nothing else, and `sqlite_sequence` does not come or go. -/
structure Kept (tables : List String) (db next : Database V) : Prop where
  others : ∀ key, Unlisted tables key → next.lookup key = db.lookup key
  shapes : ∀ key, (∀ table ∈ tables, key ≠ fold (tempOf table)) →
    (next.lookup key).map Table.shape = (db.lookup key).map Table.shape
  sequence : next.sequence = db.sequence

/-- No table is new, and none has another name or other columns. -/
def Shrinks (db next : Database V) : Prop :=
  ∀ key table, next.lookup key = some table →
    ∃ before, db.lookup key = some before ∧ before.shape = table.shape

/-! ## Lost rows -/

section Clearing

variable {lost further : Prop} {before middle after : Option (Table V)}

theorem Cleared.of_not (kept : ¬ lost) (same : after = before) : Cleared lost before after :=
  ⟨fun loses => absurd loses kept, fun _ => same⟩

theorem Cleared.of_lost (loses : lost) (same : after = before.map Table.clear) :
    Cleared lost before after :=
  ⟨fun _ => same, fun kept => absurd loses kept⟩

theorem Cleared.congr (cleared : Cleared lost before after) (same : lost ↔ further) :
    Cleared further before after :=
  ⟨fun loses => cleared.1 (same.mpr loses), fun kept => cleared.2 fun loses => kept (same.mp loses)⟩

theorem Cleared.trans (first : Cleared lost before middle) (second : Cleared further middle after) :
    Cleared (lost ∨ further) before after := by
  have twice : (before.map Table.clear).map Table.clear = before.map Table.clear := by
    cases before <;> rfl
  by_cases losesFirst : lost
  · apply Cleared.of_lost (Or.inl losesFirst)
    by_cases losesSecond : further
    · rw [second.1 losesSecond, first.1 losesFirst, twice]
    · rw [second.2 losesSecond, first.1 losesFirst]
  · by_cases losesSecond : further
    · apply Cleared.of_lost (Or.inr losesSecond)
      rw [second.1 losesSecond, first.2 losesFirst]
    · apply Cleared.of_not (not_or.mpr ⟨losesFirst, losesSecond⟩)
      rw [second.2 losesSecond, first.2 losesFirst]

/-- The columns stay in any case. -/
theorem Cleared.shape (cleared : Cleared lost before after) :
    after.map Table.shape = before.map Table.shape := by
  by_cases loses : lost
  · rw [cleared.1 loses]
    cases before <;> rfl
  · rw [cleared.2 loses]

theorem Cleared.isSome (cleared : Cleared lost before after) : after.isSome = before.isSome := by
  have shape := congrArg Option.isSome cleared.shape
  rwa [Option.isSome_map, Option.isSome_map] at shape

end Clearing

/-- Tables of one shape have the same name. -/
theorem named_isSome_of_shape {db next : Database V} {name : String}
    (shape : (next.find name).map Table.shape = (db.find name).map Table.shape) :
    (next.named name).isSome = (db.named name).isSome := by
  unfold Database.named
  cases first : next.find name with
  | none =>
      cases second : db.find name with
      | none => rfl
      | some table =>
          rw [first, second] at shape
          cases shape
  | some other =>
      cases second : db.find name with
      | none =>
          rw [first, second] at shape
          cases shape
      | some table =>
          rw [first, second, Option.map_some, Option.map_some, Option.some.injEq] at shape
          have sameName : other.name = table.name := congrArg Prod.fst shape
          rw [Option.filter, Option.filter, sameName]
          split <;> rfl

theorem hasReserved_of_shape {first second : Table V} (shape : first.shape = second.shape)
    (reserved : HasReserved first) : HasReserved second := by
  have schema : first.schema = second.schema := congrArg Prod.snd shape
  rwa [HasReserved, ← schema]

theorem Touched.refl (name : String) (db : Database V) : Touched name db db :=
  ⟨fun _ => rfl, fun _ _ => rfl⟩

theorem Touched.trans {name : String} {first second third : Database V}
    (before : Touched name first second) (after : Touched name second third) :
    Touched name first third where
  shape := by
    intro present
    have earlier := before.shape present
    have still : (second.find name).isSome = true := by
      have sames := congrArg Option.isSome earlier
      rw [Option.isSome_map, Option.isSome_map] at sames
      rw [sames, present]
    exact (after.shape still).trans earlier
  others := fun key apart => (after.others key apart).trans (before.others key apart)

theorem Kept.refl (tables : List String) (db : Database V) : Kept tables db db :=
  ⟨fun _ _ => rfl, fun _ _ => rfl, rfl⟩

theorem Kept.trans {tables : List String} {first second third : Database V}
    (before : Kept tables first second) (after : Kept tables second third) :
    Kept tables first third where
  others := fun key unlisted => (after.others key unlisted).trans (before.others key unlisted)
  shapes := fun key apart => (after.shapes key apart).trans (before.shapes key apart)
  sequence := after.sequence.trans before.sequence

theorem Shrinks.refl (db : Database V) : Shrinks db db :=
  fun _ table found => ⟨table, found, rfl⟩

theorem Shrinks.trans {first second third : Database V} (before : Shrinks first second)
    (after : Shrinks second third) : Shrinks first third := by
  intro key table found
  rcases after key table found with ⟨middle, between, same⟩
  rcases before key middle between with ⟨original, there, sameShape⟩
  exact ⟨original, there, sameShape.trans same⟩

theorem Shrinks.erase (db : Database V) (name : String) : Shrinks db (db.erase name) := by
  intro key table found
  rw [Database.lookup_erase] at found
  split at found
  · cases found
  · exact ⟨table, found, rfl⟩

/-- A name that is free stays free. -/
theorem Shrinks.named_eq_none {db next : Database V} (shrinks : Shrinks db next) {name : String}
    (free : db.named name = none) : next.named name = none := by
  rw [Option.eq_none_iff_forall_ne_some] at free ⊢
  intro table named
  rcases Database.named_eq_some.mp named with ⟨found, same⟩
  rcases shrinks (fold name) table found with ⟨before, there, sameShape⟩
  have sameName : before.name = table.name := congrArg Prod.fst sameShape
  exact free before (Database.named_eq_some.mpr ⟨there, sameName.trans same⟩)

/-! ## Names of backups -/

theorem baseOf_of_fold {name table : String} (same : fold name = fold (tempOf table)) :
    fold (baseOf name) = fold table := by
  have lists := congrArg String.toList same
  rw [tempOf, fold_append, String.toList_append, toList_fold, toList_fold, toList_fold] at lists
  have lengths := congrArg List.length lists
  have five : (tableTempName.toList.map Char.toLower).length = 5 := by decide
  rw [List.length_append, five, List.length_map, List.length_map] at lengths
  have shorter : name.toList.length - 5 = (table.toList.map Char.toLower).length := by
    rw [List.length_map, lengths, Nat.add_sub_cancel]
  apply String.toList_inj.mp
  rw [toList_fold, toList_fold, baseOf, String.toList_ofList, List.map_take, lists, shorter,
    List.take_left]

theorem baseOf_ne {name : String} (nonempty : name ≠ "") : fold (baseOf name) ≠ fold name := by
  intro same
  have lengths := congrArg (fun text => text.toList.length) same
  simp only [toList_fold, baseOf, String.toList_ofList, List.length_map, List.length_take]
    at lengths
  have positive : 0 < name.toList.length :=
    List.length_pos_iff.mpr fun empty => nonempty (String.toList_eq_nil_iff.mp empty)
  omega

theorem baseOf_chars {name : String} (word : isWord name = true) :
    (baseOf name).toList.all isWordChar = true := by
  rw [isWord, Bool.and_eq_true] at word
  rw [baseOf, String.toList_ofList]
  apply List.all_eq_true.mpr
  intro c member
  exact List.all_eq_true.mp word.1 c (List.mem_of_mem_take member)

/-! ## Reading changes nothing -/

section Reading

variable (engine : Engine V) (name : String) (conn : Conn V)

theorem run_rawQuery_cases (sql : String) :
    (rawQuery engine sql).run conn = .error .sqlite conn ∨
      ∃ cursor, (rawQuery engine sql).run conn = .ok cursor conn := by
  rw [EStateM.run, rawQuery]
  cases (engine.prepareQuery sql).bind fun query => query.answer conn.db with
  | none => exact Or.inl rfl
  | some cursor => exact Or.inr ⟨cursor, rfl⟩

theorem run_getMigrates_conn :
    ∃ migrates, (getMigrates engine name).run conn = .ok migrates conn := by
  rw [getMigrates, Effect.run_tryCatch, EStateM.run_bind]
  rcases run_rawQuery_cases engine conn ("PRAGMA table_info(" ++ name ++ ")") with
    fails | ⟨cursor, reads⟩
  · rw [fails]
    exact ⟨[], rfl⟩
  · rw [reads]
    cases cursor <;> exact ⟨_, rfl⟩

end Reading

/-! ## The first phase -/

section Backup

variable {engine : Engine V} (documented : engine.Documented) (prefixed : engine.Prefixed)
  {conn : Conn V}

include documented in
/-- Deleting rows once is as good as deleting them several times. -/
theorem run_purge {α : Type} {name : String} (plain : engine.Plain name) {table : Table V}
    (found : conn.db.find name = some table) {times : List α} (nonempty : times ≠ []) :
    ∃ next, (times.forM fun _ => execSQL engine ("DELETE FROM " ++ name)).run conn = .ok () next ∧
      ∀ key, next.db.lookup key =
        if key = fold name then some table.clear else conn.db.lookup key := by
  induction times generalizing conn table with
  | nil => exact absurd rfl nonempty
  | cons first rest ih =>
      have deletes : Stmt.run conn.db (.delete name) = some (conn.db.put table.clear) := by
        rw [Stmt.run, found]
        rfl
      have runs : (execSQL engine ("DELETE FROM " ++ name)).run conn =
          .ok () (conn.executed (conn.db.put table.clear)) :=
        run_execSQL_of_some (documented.delete name plain) rfl deletes
      have lookups : ∀ key, (conn.executed (conn.db.put table.clear)).db.lookup key =
          if key = fold name then some table.clear else conn.db.lookup key := by
        intro key
        rw [Conn.executed_db, Database.lookup_put, ← Database.fold_name_of_find found]
        rfl
      rw [Effect.run_forM_cons, runs]
      cases rest with
      | nil => exact ⟨_, rfl, lookups⟩
      | cons second others =>
          have still : (conn.executed (conn.db.put table.clear)).db.find name =
              some table.clear := by
            rw [Database.find, lookups, if_pos rfl]
          rcases ih still (List.cons_ne_nil _ _) with ⟨next, ends, further⟩
          refine ⟨next, ends, ?_⟩
          intro key
          rw [further, lookups]
          split <;> rfl

include prefixed in
/-- A text that begins like this touches this table only, whatever follows. -/
theorem touched_create {name : String} (plain : engine.Plain name) (rest : String) (conn : Conn V) :
    Touched name conn.db (Effect.final (execSQL engine
      ("CREATE TABLE IF NOT EXISTS " ++ name ++ " (" ++ rest)) conn).db := by
  apply final_execSQL (Touched name) (Touched.refl name conn.db)
  intro stmt db reads runs
  rcases prefixed.create name rest stmt plain reads with ⟨schema, same⟩
  subst same
  have lookups := Stmt.lookup_of_create runs
  constructor
  · intro present
    rw [Database.find, lookups]
    rcases Option.isSome_iff_exists.mp present with ⟨table, found⟩
    rw [Database.find] at found ⊢
    rw [found, Option.some_or]
  · intro key apart
    rw [lookups, if_neg (Ne.symm apart), Option.or_none]

include prefixed in
theorem touched_insert {name : String} (plain : engine.Plain name) (rest : String) (conn : Conn V) :
    Touched name conn.db (Effect.final (execSQL engine
      ("INSERT INTO " ++ name ++ " (" ++ rest)) conn).db := by
  apply final_execSQL (Touched name) (Touched.refl name conn.db)
  intro stmt db reads runs
  rcases prefixed.insert name rest stmt plain reads conn.db db runs with ⟨others, shape, -⟩
  exact ⟨fun _ => shape, others⟩

include prefixed in
/-- Creating a backup and filling it touches nothing else. -/
theorem touched_create_and_fill {temp : String} (plain : engine.Plain temp)
    (columns : List ColumnDef) (copied : List String) (source : String) (conn : Conn V) :
    Touched temp conn.db (Effect.final (do
      execSQL engine (createText temp columns)
      execSQL engine (copyText temp copied source) : Program V Unit) conn).db := by
  have createBegins : createText temp columns = "CREATE TABLE IF NOT EXISTS " ++ temp ++ " (" ++
      (join "," (columns.map ColumnDef.text) ++ ");") := by
    unfold createText
    rw [String.append_assoc]
  have copyBegins : copyText temp copied source = "INSERT INTO " ++ temp ++ " (" ++
      (join "," copied ++ ") SELECT " ++ join "," copied ++ " FROM " ++ source ++ ";") := by
    unfold copyText
    simp only [String.append_assoc]
  have creates := touched_create prefixed plain
    (join "," (columns.map ColumnDef.text) ++ ");") conn
  rw [← createBegins] at creates
  rw [Effect.final_bind]
  cases runs : (execSQL engine (createText temp columns)).run conn with
  | error thrown next =>
      rw [Effect.final_of_error runs] at creates
      exact creates
  | ok done next =>
      rw [Effect.final_of_ok runs] at creates
      have fills := touched_insert prefixed plain
        (join "," copied ++ ") SELECT " ++ join "," copied ++ " FROM " ++ source ++ ";") next
      rw [← copyBegins] at fills
      exact creates.trans fills

/-- Whether there is a reserved name can be seen from the properties that are read. -/
theorem reserved_migratesOf_ne_nil (columns : List Column) :
    ((migratesOf columns).filter fun migrate =>
        sameIgnoringCase migrate.name "FROM" || sameIgnoringCase migrate.name "TO") ≠ [] ↔
      ∃ column ∈ columns,
        (sameIgnoringCase column.name "FROM" || sameIgnoringCase column.name "TO") = true := by
  have names : ∀ name, (∃ migrate ∈ migratesOf columns, migrate.name = name) ↔
      ∃ column ∈ columns, column.name = name := by
    intro name
    rw [← List.mem_map, migratesOf_names, List.mem_map]
  constructor
  · intro nonempty
    rcases List.exists_mem_of_ne_nil _ nonempty with ⟨migrate, member⟩
    rcases List.mem_filter.mp member with ⟨inside, reserved⟩
    rcases (names migrate.name).mp ⟨migrate, inside, rfl⟩ with ⟨column, among, same⟩
    exact ⟨column, among, by rw [same]; exact reserved⟩
  · rintro ⟨column, among, reserved⟩
    rcases (names column.name).mpr ⟨column, among, rfl⟩ with ⟨migrate, inside, same⟩
    rw [← same] at reserved
    exact List.ne_nil_of_mem (List.mem_filter.mpr ⟨inside, reserved⟩)

include documented prefixed

/-- Filling a backup never throws.  It touches the backup, and the rows of the
table may be deleted. -/
theorem run_fillTempTable_frame {temp name : String} (plainTemp : engine.Plain temp)
    (chars : name.toList.all isWordChar = true) (apart : fold name ≠ fold temp) (conn : Conn V) :
    ∃ next, (fillTempTable engine temp name).run conn = .ok () next ∧
      ((conn.db.find temp).isSome = true →
        (next.db.find temp).map Table.shape = (conn.db.find temp).map Table.shape) ∧
      ∀ key, key ≠ fold temp →
        Cleared (Deletes engine conn.db name key) (conn.db.lookup key) (next.db.lookup key) := by
  rcases run_getMigrates_conn engine name conn with ⟨migrates, reads⟩
  set doomed := migrates.filter fun migrate =>
    sameIgnoringCase migrate.name "FROM" || sameIgnoringCase migrate.name "TO" with doomedEq
  rw [fillTempTable, Effect.run_tryCatch_ignored, Effect.final_bind, reads]
  refine ⟨_, rfl, ?_⟩
  dsimp only
  rw [Effect.final_bind, Effect.run_forM_filter (fun _ => execSQL engine ("DELETE FROM " ++ name)),
    ← doomedEq]
  -- The columns of the table decide whether there is a reserved name among them.
  have doomed_iff : engine.Plain name →
      (doomed ≠ [] ↔ ∃ table, conn.db.find name = some table ∧ HasReserved table) := by
    intro plain
    rw [run_getMigrates documented plain] at reads
    have listed : migratesOf ((conn.db.find name).elim [] fun table => table.schema.columns) =
        migrates := by
      cases reads
      rfl
    rw [doomedEq, ← listed, reserved_migratesOf_ne_nil]
    cases found : conn.db.find name with
    | none => simp
    | some table => simp [HasReserved]
  by_cases plain : engine.Plain name
  · by_cases nothing : doomed = []
    · rw [nothing, Effect.run_forM_nil]
      dsimp only
      have touched := touched_create_and_fill prefixed plainTemp (migrates.map Migrate.definition)
        (backupColumns (migrates.map Migrate.name)) name conn
      refine ⟨touched.shape, ?_⟩
      intro key other
      apply Cleared.of_not _ (touched.others key other)
      rintro ⟨-, same, table, found, reserved⟩
      subst same
      exact (doomed_iff plain).mpr ⟨table, found, reserved⟩ nothing
    · rcases (doomed_iff plain).mp nothing with ⟨table, found, reserved⟩
      rcases run_purge documented plain found nothing with ⟨next, ends, lookups⟩
      rw [ends]
      dsimp only
      have touched := touched_create_and_fill prefixed plainTemp (migrates.map Migrate.definition)
        (backupColumns (migrates.map Migrate.name)) name next
      have sameTemp : next.db.find temp = conn.db.find temp := by
        rw [Database.find, lookups, if_neg (Ne.symm apart)]
        rfl
      constructor
      · rw [← sameTemp]
        exact touched.shape
      · intro key other
        have lookup := (touched.others key other).trans (lookups key)
        by_cases here : key = fold name
        · subst here
          apply Cleared.of_lost ⟨plain, rfl, table, found, reserved⟩
          rw [lookup, if_pos rfl]
          rw [Database.find] at found
          rw [found, Option.map_some]
        · rw [if_neg here] at lookup
          exact Cleared.of_not (fun deletes => here deletes.same.symm) lookup
  · have kept : ∀ key, ¬ Deletes engine conn.db name key := fun key deletes => plain deletes.plain
    cases doomed with
    | nil =>
        rw [Effect.run_forM_nil]
        dsimp only
        have touched := touched_create_and_fill prefixed plainTemp
          (migrates.map Migrate.definition) (backupColumns (migrates.map Migrate.name)) name conn
        exact ⟨touched.shape, fun key other => Cleared.of_not (kept key) (touched.others key other)⟩
    | cons first rest =>
        -- The name cannot be read, and the exception ends the attempt.
        have unreadable : engine.prepare ("DELETE FROM " ++ name) = none := by
          rw [Option.eq_none_iff_forall_ne_some]
          exact fun stmt reads => plain (prefixed.delete name stmt chars reads)
        rw [Effect.run_forM_cons, run_execSQL_of_none unreadable]
        exact ⟨fun _ => rfl, fun key _ => Cleared.of_not (kept key) rfl⟩

/-- A name that ends like that of a backup is taken for one: its rows are deleted,
and no other table changes but the one that it is the backup of. -/
theorem run_generateTempTable_ending {name : String} (plain : engine.Plain name)
    (ending : endsWithIgnoringCase name tableTempName = true)
    (present : (conn.db.named name).isSome = true) :
    ∃ next, (generateTempTable engine name).run conn = .ok () next ∧
      (∀ key, (next.db.lookup key).map Table.shape = (conn.db.lookup key).map Table.shape) ∧
      ∀ key, key ≠ fold name →
        Cleared (Purges engine conn.db name key) (conn.db.lookup key) (next.db.lookup key) := by
  rcases Option.isSome_iff_exists.mp present with ⟨table, named⟩
  have found := (Database.named_eq_some.mp named).1
  have emptied : Stmt.run conn.db (.delete name) = some (conn.db.put table.clear) := by
    rw [Stmt.run, found]
    rfl
  have lookups : ∀ key, (conn.executed (conn.db.put table.clear)).db.lookup key =
      if key = fold name then some table.clear else conn.db.lookup key := by
    intro key
    rw [Conn.executed_db, Database.lookup_put, ← Database.fold_name_of_find found]
    rfl
  have apart := baseOf_ne (isWord_ne_empty plain.1)
  rcases run_fillTempTable_frame documented prefixed plain (baseOf_chars plain.1) apart
    (conn.executed (conn.db.put table.clear)) with ⟨next, ends, shape, cleared⟩
  refine ⟨next, ?_, ?_, ?_⟩
  · rw [generateTempTable, EStateM.run_bind, run_tableIsExist documented plain conn]
    dsimp only
    rw [present, if_pos rfl, ending, if_pos rfl, EStateM.run_bind,
      run_execSQL_of_some (documented.delete name plain) rfl emptied]
    exact ends
  · intro key
    by_cases here : key = fold name
    · subst here
      have still : (conn.executed (conn.db.put table.clear)).db.find name = some table.clear := by
        rw [Database.find, lookups, if_pos rfl]
      have kept := shape (by rw [still]; rfl)
      rw [still] at kept
      rw [Database.find] at kept found
      rw [kept, found]
      rfl
    · rw [(cleared key here).shape, lookups, if_neg here]
  · intro key other
    have same := lookups key
    rw [if_neg other] at same
    rw [← same]
    apply (cleared key other).congr
    constructor
    · rintro ⟨plainBase, sameBase, reserved⟩
      rw [same] at reserved
      exact ⟨ending, present, plainBase, sameBase, reserved⟩
    · rintro ⟨-, -, plainBase, sameBase, reserved⟩
      rw [← same] at reserved
      exact ⟨plainBase, sameBase, reserved⟩

/-- Backing up a listed name never throws, and keeps all columns. -/
theorem run_generateTempTable_frame {name : String} (plain : engine.Plain name) (conn : Conn V) :
    ∃ next, (generateTempTable engine name).run conn = .ok () next ∧
      (∀ key, key ≠ fold (tempOf name) →
        (next.db.lookup key).map Table.shape = (conn.db.lookup key).map Table.shape) ∧
      ∀ key, key ≠ fold name → key ≠ fold (tempOf name) →
        Cleared (Purges engine conn.db name key) (conn.db.lookup key) (next.db.lookup key) := by
  have asked := run_tableIsExist documented plain conn
  cases present : (conn.db.named name).isSome with
  | false =>
      rw [generateTempTable, EStateM.run_bind, asked]
      dsimp only
      rw [present]
      refine ⟨conn, rfl, fun _ _ => rfl, ?_⟩
      intro key _ _
      apply Cleared.of_not _ rfl
      intro purges
      have found := purges.present
      rw [present] at found
      cases found
  | true =>
      cases ending : endsWithIgnoringCase name tableTempName with
      | false =>
          rw [generateTempTable, EStateM.run_bind, asked]
          dsimp only
          rw [present, if_pos rfl, ending, if_neg Bool.false_ne_true]
          have word : name.toList.all isWordChar = true := (Bool.and_eq_true_iff.mp plain.1).1
          rcases run_fillTempTable_frame documented prefixed (plain.temp documented) word
            (ne_temp name) conn with ⟨next, ends, -, cleared⟩
          refine ⟨next, ends, fun key apart => (cleared key apart).shape, ?_⟩
          intro key other apart
          apply (cleared key apart).congr
          constructor
          · exact fun deletes => absurd deletes.same.symm other
          · intro purges
            have ends := purges.ending
            rw [ending] at ends
            cases ends
      | true =>
          rcases run_generateTempTable_ending documented prefixed plain ending present with
            ⟨next, ends, shapes, cleared⟩
          exact ⟨next, ends, fun key _ => shapes key, fun key other _ => cleared key other⟩

/-- The first phase never throws.  It keeps all columns but those of backups,
and the rows of unlisted tables but those that a listed name purges. -/
theorem run_buildTempTable_frame {tables : List String}
    (plain : ∀ table ∈ tables, engine.Plain table) (nonempty : tables ≠ []) (conn : Conn V) :
    ∃ next, (buildTempTable engine tables).run conn = .ok () next ∧
      (∀ key, (∀ table ∈ tables, key ≠ fold (tempOf table)) →
        (next.db.lookup key).map Table.shape = (conn.db.lookup key).map Table.shape) ∧
      ∀ key, Unlisted tables key →
        Cleared (∃ name ∈ tables, Purges engine conn.db name key) (conn.db.lookup key)
          (next.db.lookup key) := by
  have phase : (buildTempTable engine tables).run conn =
      (tables.forM (generateTempTable engine)).run conn := by
    rw [buildTempTable, if_neg (fun empty => nonempty (List.isEmpty_iff.mp empty))]
  rw [phase]
  apply Effect.run_forM_invariant tables fun visited (state : Conn V) =>
    (∀ key, (∀ table ∈ tables, key ≠ fold (tempOf table)) →
        (state.db.lookup key).map Table.shape = (conn.db.lookup key).map Table.shape) ∧
      ∀ key, Unlisted tables key →
        Cleared (∃ name ∈ visited, Purges engine conn.db name key) (conn.db.lookup key)
          (state.db.lookup key)
  · rintro visited name rest state split ⟨shapes, cleared⟩
    have member : name ∈ tables := List.mem_iff_append.mpr ⟨_, _, split⟩
    rcases run_generateTempTable_frame documented prefixed (plain name member) state with
      ⟨next, ends, shape, turn⟩
    refine ⟨next, ends, ?_, ?_⟩
    · intro key apart
      rw [shape key (apart name member), shapes key apart]
    · intro key unlisted
      have here := unlisted name member
      -- What this name purges now, it would have purged at the beginning.
      have same : Purges engine state.db name key ↔ Purges engine conn.db name key := by
        by_cases base : fold (baseOf name) = key
        · have nameApart : ∀ table ∈ tables, fold name ≠ fold (tempOf table) := by
            intro table among isTemp
            exact (unlisted table among).1 (base.symm.trans (baseOf_of_fold isTemp))
          have found := named_isSome_of_shape (shapes (fold name) nameApart)
          have shapeKey := shapes key fun table among => (unlisted table among).2
          constructor
          · rintro ⟨ending, present, plainBase, sameBase, table, lookup, reserved⟩
            rw [lookup, Option.map_some] at shapeKey
            rcases Option.map_eq_some_iff.mp shapeKey.symm with ⟨other, original, sameShape⟩
            exact ⟨ending, found ▸ present, plainBase, sameBase, other, original,
              hasReserved_of_shape sameShape.symm reserved⟩
          · rintro ⟨ending, present, plainBase, sameBase, table, lookup, reserved⟩
            rw [lookup, Option.map_some] at shapeKey
            rcases Option.map_eq_some_iff.mp shapeKey with ⟨other, original, sameShape⟩
            exact ⟨ending, found ▸ present, plainBase, sameBase, other, original,
              hasReserved_of_shape sameShape.symm reserved⟩
        · constructor
          · exact fun purges => absurd purges.deletes.same base
          · exact fun purges => absurd purges.deletes.same base
      apply ((cleared key unlisted).trans (turn key here.1 here.2)).congr
      rw [same]
      constructor
      · rintro (⟨other, inside, purges⟩ | purges)
        · exact ⟨other, List.mem_append_left _ inside, purges⟩
        · exact ⟨name, List.mem_append_right _ (List.mem_singleton.mpr rfl), purges⟩
      · rintro ⟨other, inside, purges⟩
        rcases List.mem_append.mp inside with inside | inside
        · exact Or.inl ⟨other, inside, purges⟩
        · rw [List.mem_singleton.mp inside] at purges
          exact Or.inr purges
  · refine ⟨fun _ _ => rfl, ?_⟩
    intro key _
    apply Cleared.of_not _ rfl
    rintro ⟨name, inside, -⟩
    cases inside

end Backup

/-! ## The statements of the second phase -/

/-- The statements of a pass. -/
def passTexts (statements list : List String) : List String :=
  (list.map fun table => "DROP TABLE IF EXISTS " ++ table) ++ matched statements list

/-- The statements of the second phase. -/
def phaseTexts (statements list : List String) : List String :=
  list.flatMap fun _ => passTexts statements list

theorem run_rebuildSpecifyTables_texts (engine : Engine V) (sqls : KtAutoSqls) (dbName : String)
    {tables : List String} (nonempty : tables ≠ []) (conn : Conn V) :
    (rebuildSpecifyTables engine sqls dbName tables).run conn =
      ((phaseTexts (configured sqls dbName) tables).forM (execSQL engine)).run conn := by
  have pass : ∀ state : Conn V, (do
      cleanTables engine tables
      buildTables engine sqls dbName tables : Program V Unit).run state =
        ((passTexts (configured sqls dbName) tables).forM (execSQL engine)).run state := by
    intro state
    rw [EStateM.run_bind, passTexts, Effect.run_forM_append, Effect.run_forM_map]
    unfold cleanTables
    cases (tables.forM fun table => execSQL engine ("DROP TABLE IF EXISTS " ++ table)).run state with
    | error thrown next => rfl
    | ok done next => exact run_buildTables engine sqls dbName tables next
  have bodies : (fun _ : String => (do
      cleanTables engine tables
      buildTables engine sqls dbName tables : Program V Unit)) =
        fun _ => (passTexts (configured sqls dbName) tables).forM (execSQL engine) := by
    funext _ state
    exact pass state
  rw [rebuildSpecifyTables, if_neg (fun empty => nonempty (List.isEmpty_iff.mp empty)), phaseTexts,
    ← Effect.run_forM_flatMap, ← bodies]
  rfl

/-! ## The third phase -/

section Restore

variable {engine : Engine V} (documented : engine.Documented) (prefixed : engine.Prefixed)
  {tables : List String} (plain : ∀ table ∈ tables, engine.Plain table)

/-- The builder holds nothing, or it begins like an `INSERT` into a listed
table. -/
def Begun (tables : List String) (insert : String) : Prop :=
  insert = "" ∨ ∃ table ∈ tables, ∃ rest, insert = "INSERT INTO " ++ table ++ " (" ++ rest

theorem copyText_begins (table : String) (columns : List String) (source : String) :
    ∃ rest, copyText table columns source = "INSERT INTO " ++ table ++ " (" ++ rest := by
  refine ⟨join "," columns ++ ") SELECT " ++ join "," columns ++ " FROM " ++ source ++ ";", ?_⟩
  unfold copyText
  simp only [String.append_assoc]

theorem Begun.append {insert : String} (begun : Begun tables insert) {table : String}
    (member : table ∈ tables) (columns : List String) (source : String) :
    ∃ target ∈ tables, ∃ rest,
      insert ++ copyText table columns source = "INSERT INTO " ++ target ++ " (" ++ rest := by
  rcases begun with nothing | ⟨target, among, rest, text⟩
  · rcases copyText_begins table columns source with ⟨rest, text⟩
    exact ⟨table, member, rest, by rw [nothing, text, String.empty_append]⟩
  · exact ⟨target, among, rest ++ copyText table columns source, by
      rw [text, String.append_assoc]⟩

/-- If only rows change, no table is new. -/
theorem shrinks_of_touched {db next : Database V} {table : String}
    (touched : Touched table db next)
    (present : (next.find table).map Table.shape = (db.find table).map Table.shape) :
    Shrinks db next := by
  intro key other found
  by_cases here : key = fold table
  · rw [Database.find, Database.find, ← here, found] at present
    rcases Option.map_eq_some_iff.mp present.symm with ⟨before, there, shape⟩
    exact ⟨before, there, shape⟩
  · rw [touched.others key here] at found
    exact ⟨other, found, rfl⟩

theorem kept_of_touched {db next : Database V} {table : String} (member : table ∈ tables)
    (touched : Touched table db next)
    (present : (next.find table).map Table.shape = (db.find table).map Table.shape)
    (sequence : next.sequence = db.sequence) : Kept tables db next where
  others := fun key unlisted => touched.others key (unlisted table member).1
  shapes := by
    intro key _
    by_cases here : key = fold table
    · subst here
      exact present
    · rw [touched.others key here]
  sequence := sequence

include prefixed plain in
theorem kept_insert {table : String} (member : table ∈ tables) (rest : String) (conn : Conn V) :
    Kept tables conn.db (Effect.final (execSQL engine
        ("INSERT INTO " ++ table ++ " (" ++ rest)) conn).db ∧
      Shrinks conn.db (Effect.final (execSQL engine
        ("INSERT INTO " ++ table ++ " (" ++ rest)) conn).db := by
  apply final_execSQL (fun db next => Kept tables db next ∧ Shrinks db next)
    ⟨Kept.refl tables conn.db, Shrinks.refl conn.db⟩
  intro stmt db reads runs
  rcases prefixed.insert table rest stmt (plain table member) reads conn.db db runs with
    ⟨others, shape, sequence⟩
  have touched : Touched table conn.db db := ⟨fun _ => shape, others⟩
  exact ⟨kept_of_touched member touched shape sequence, shrinks_of_touched touched shape⟩

theorem kept_erase {table : String} (member : table ∈ tables) (db : Database V) :
    Kept tables db (db.erase (tempOf table)) where
  others := by
    intro key unlisted
    rw [Database.lookup_erase, if_neg (unlisted table member).2]
  shapes := by
    intro key apart
    rw [Database.lookup_erase, if_neg (apart table member)]
  sequence := rfl

include documented prefixed plain

/-- A turn of the loop. -/
theorem run_restoreOne_frame {conn : Conn V} {insert : String} (begun : Begun tables insert)
    {table : String} (member : table ∈ tables) {backup : Table V}
    (named : conn.db.named (tempOf table) = some backup) (properties : List String) :
    ∃ next, (restoreOne engine table).run ⟨conn, insert, "", properties⟩ = .ok () next ∧
      next.delete = "" ∧ Begun tables next.insert ∧ Kept tables conn.db next.conn.db ∧
        Shrinks conn.db next.conn.db ∧ next.conn.db.named (tempOf table) = none := by
  have plainTemp : engine.Plain (tempOf table) := (plain table member).temp documented
  rw [run_restoreOne documented (plain table member) named]
  set columns := sharedColumns ((conn.db.find table).elim [] fun target => target.schema.columns)
    backup.schema.names
  rcases begun.append member columns (tempOf table) with ⟨target, among, rest, text⟩
  have inserts := kept_insert prefixed plain among rest conn
  have gone : ∀ db : Database V, (db.erase (tempOf table)).named (tempOf table) = none := by
    intro db
    rw [Database.named, Database.find, Database.lookup_erase, if_pos rfl]
    rfl
  rw [← text] at inserts
  cases runs : (execSQL engine (insert ++ copyText table columns (tempOf table))).run conn with
  | ok done next =>
      rw [Effect.final_of_ok runs] at inserts
      refine ⟨_, run_tryRestore_of_ok documented plainTemp runs, rfl, Or.inl rfl, ?_, ?_, ?_⟩
      · exact inserts.1.trans (kept_erase member next.db)
      · exact inserts.2.trans (Shrinks.erase next.db (tempOf table))
      · exact gone next.db
  | error thrown next =>
      rw [Effect.final_of_error runs] at inserts
      refine ⟨_, run_tryRestore_of_error documented plainTemp runs, rfl, ?_, ?_, ?_, ?_⟩
      · exact Or.inr ⟨target, among, rest, text⟩
      · exact inserts.1.trans (kept_erase member next.db)
      · exact inserts.2.trans (Shrinks.erase next.db (tempOf table))
      · exact gone next.db

/-- The loop never throws, and leaves no backup of the tables it has visited. -/
theorem run_restoreLoop_frame {visited : List String} (among : ∀ table ∈ visited, table ∈ tables)
    {conn : Conn V} {insert : String} (begun : Begun tables insert) (properties : List String) :
    ∃ next, (restoreLoop engine true visited).run ⟨conn, insert, "", properties⟩ =
        .ok visited next ∧ Kept tables conn.db next.conn.db ∧ Shrinks conn.db next.conn.db ∧
      ∀ table ∈ visited, next.conn.db.named (tempOf table) = none := by
  induction visited generalizing conn insert properties with
  | nil =>
      refine ⟨_, rfl, Kept.refl tables conn.db, Shrinks.refl conn.db, ?_⟩
      intro table inside
      cases inside
  | cons table rest ih =>
      have member := among table List.mem_cons_self
      have later : ∀ other ∈ rest, other ∈ tables :=
        fun other inside => among other (List.mem_cons_of_mem _ inside)
      have asked := run_tableIsExist documented ((plain table member).temp documented) conn
      rw [show table ++ "_TEMP" = tempOf table from rfl] at asked
      rw [restoreLoop, EStateM.run_bind, show table ++ tableTempName = tempOf table from rfl,
        run_onConn_of_ok asked]
      dsimp only
      cases named : conn.db.named (tempOf table) with
      | none =>
          rcases ih later begun properties with ⟨next, ends, kept, shrinks, gone⟩
          refine ⟨next, ?_, kept, shrinks, ?_⟩
          · rw [Option.isSome_none, if_neg Bool.false_ne_true, EStateM.run_bind, ends]
            rfl
          · intro other inside
            rcases List.mem_cons.mp inside with same | inside
            · rw [same]
              exact shrinks.named_eq_none named
            · exact gone other inside
      | some backup =>
          rcases run_restoreOne_frame documented prefixed plain begun member named properties with
            ⟨⟨middle, middleInsert, middleDelete, middleProperties⟩, turn, clean, begunMiddle,
              keptMiddle, shrinksMiddle, goneMiddle⟩
          dsimp only at clean begunMiddle keptMiddle shrinksMiddle goneMiddle
          subst clean
          rcases ih later begunMiddle middleProperties with ⟨next, ends, kept, shrinks, gone⟩
          refine ⟨next, ?_, keptMiddle.trans kept, shrinksMiddle.trans shrinks, ?_⟩
          · rw [Option.isSome_some, if_pos rfl, EStateM.run_bind, turn]
            dsimp only
            rw [if_pos rfl, EStateM.run_bind, ends]
            rfl
          · intro other inside
            rcases List.mem_cons.mp inside with same | inside
            · rw [same]
              exact shrinks.named_eq_none goneMiddle
            · exact gone other inside

/-- The third phase never throws; it changes rows of listed tables, and
backups, and leaves no backup of a listed table. -/
theorem run_restoreTable_frame (conn : Conn V) :
    ∃ next, (restoreTable engine true tables).run conn = .ok () next ∧
      Kept tables conn.db next.db ∧ Shrinks conn.db next.db ∧
      ∀ table ∈ tables, next.db.named (tempOf table) = none := by
  have listed : (tables.filter fun table => !table.isEmpty) = tables := by
    apply List.filter_eq_self.mpr
    intro table member
    rw [Bool.not_eq_true', Bool.eq_false_iff]
    exact fun empty => isWord_ne_empty (plain table member).1 (String.isEmpty_iff.mp empty)
  rcases run_restoreLoop_frame documented prefixed plain (fun _ member => member)
    (Or.inl rfl : Begun tables "") [] with ⟨restored, ends, keptLoop, shrinksLoop, gone⟩
  have loop : (runRestoreLoop engine true tables).run conn = .ok tables restored.conn := by
    rw [EStateM.run, runRestoreLoop, ends]
  have sweep : ∃ next, (tables.forM fun table => do
      if ← tableIsExist engine table then
        execSQL engine ("DROP TABLE IF EXISTS " ++ tempOf table) : Program V Unit).run
          restored.conn = .ok () next ∧ Kept tables conn.db next.db ∧
            Shrinks restored.conn.db next.db := by
    apply Effect.run_forM_invariant tables (fun _ (state : Conn V) =>
      Kept tables conn.db state.db ∧ Shrinks restored.conn.db state.db)
    · rintro visited table rest state split ⟨keptState, shrinksState⟩
      have member : table ∈ tables := List.mem_iff_append.mpr ⟨_, _, split⟩
      have asked := run_tableIsExist documented (plain table member) state
      cases present : (state.db.named table).isSome with
      | false =>
          refine ⟨state, ?_, keptState, shrinksState⟩
          simp only [EStateM.run_bind, asked, present, if_neg Bool.false_ne_true]
          rfl
      | true =>
          have drops := run_dropIfExists documented ((plain table member).temp documented) state
          refine ⟨state.executed (state.db.erase (tempOf table)), ?_,
            keptState.trans (kept_erase member state.db),
            shrinksState.trans (Shrinks.erase state.db (tempOf table))⟩
          simp only [EStateM.run_bind, asked, present, if_pos]
          exact drops
    · exact ⟨keptLoop, Shrinks.refl restored.conn.db⟩
  rcases sweep with ⟨next, sweeps, keptNext, shrinksNext⟩
  refine ⟨next, ?_, keptNext, shrinksLoop.trans shrinksNext, ?_⟩
  · simp only [restoreTable, if_pos, listed, EStateM.run_bind, EStateM.run_pure, loop]
    exact sweeps
  · intro table member
    exact shrinksNext.named_eq_none (gone table member)

end Restore

/-! ## All three phases -/

/-- If the migration returns, each of its phases does. -/
theorem phases_of_migrateSpecifyTable {engine : Engine V} {sqls : KtAutoSqls} {dbName : String}
    {tables : List String} {conn next : Conn V}
    (returns : (migrateSpecifyTable engine sqls dbName tables).run conn = .ok () next) :
    ∃ backed mid, (buildTempTable engine tables).run conn = .ok () backed ∧
      (rebuildSpecifyTables engine sqls dbName tables).run backed = .ok () mid ∧
      (restoreTable engine true tables).run mid = .ok () next := by
  rw [migrateSpecifyTable, EStateM.run_bind] at returns
  cases backs : (buildTempTable engine tables).run conn with
  | error thrown backed =>
      rw [backs] at returns
      cases returns
  | ok done backed =>
      rw [backs] at returns
      dsimp only at returns
      rw [EStateM.run_bind] at returns
      cases rebuilds : (rebuildSpecifyTables engine sqls dbName tables).run backed with
      | error thrown mid =>
          rw [rebuilds] at returns
          cases returns
      | ok done mid =>
          rw [rebuilds] at returns
          exact ⟨backed, mid, rfl, rebuilds, returns⟩

end Migration
end ModuleDatabase
