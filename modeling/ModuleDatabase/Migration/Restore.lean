import ModuleDatabase.Migration.Rebuild

namespace ModuleDatabase
namespace Migration

open Text
open Sql

/-!
# The third phase: restoring

For every listed table with a backup, `restoreTable` appends an `INSERT` to a
builder, executes what the builder holds and empties it, then drops the
backup.  If the statement throws, the handler drops the backup too, but it
does not empty the builder.  Since only the first statement of a text is
executed, every later `INSERT` of the loop is then the one that has thrown,
and it throws again, for its backup is gone.  The loop is jammed.

`settle` says what this makes of the tables.
-/

variable {V : Type}

/-- The columns that a table shares with those of its backup. -/
def sharedColumns (columns : List Column) (tempColumns : List String) : List String :=
  (columns.map Column.name).filter fun name =>
    !sameIgnoringCase name "_id" && tempColumns.contains name

/-- A table after its restoring `INSERT` from a backup; none if that throws. -/
def restoredFrom (engine : Engine V) (table : String) (target : Option (Table V))
    (backup : Table V) : Option (Table V) :=
  target.bind fun target =>
    let columns := sharedColumns target.schema.columns backup.schema.names
    engine.copied (copyText table columns (tempOf table)) columns target backup

/-- A table after its restoring `INSERT`, if it has a backup and nothing throws. -/
def brings (engine : Engine V) (db : Database V) (table : String) : Option (Table V) :=
  (db.named (tempOf table)).bind (restoredFrom engine table (db.find table))

/-- The restoring `INSERT` of a table throws. -/
def jams (engine : Engine V) (db : Database V) (table : String) : Bool :=
  (db.named (tempOf table)).isSome && (brings engine db table).isNone

/-- What the loop makes of one table; the flag says that the loop is jammed. -/
def settleOne (engine : Engine V) (jammed : Bool) (db : Database V) (table : String) :
    Bool × Database V :=
  match db.named (tempOf table) with
  | none => (jammed, db)
  | some _ =>
      match if jammed then none else brings engine db table with
      | some restored => (false, (db.put restored).erase (tempOf table))
      | none => (true, db.erase (tempOf table))

/-- What the loop makes of a list of tables. -/
def settle (engine : Engine V) : Bool → List String → Database V → Bool × Database V
  | jammed, [], db => (jammed, db)
  | jammed, table :: rest, db =>
      let (jammed', db') := settleOne engine jammed db table
      settle engine jammed' rest db'

theorem sharedProperties_migratesOf (columns : List Column) (tempColumns : List String) :
    sharedProperties (migratesOf columns) tempColumns = sharedColumns columns tempColumns := by
  rw [sharedProperties, migratesOf_names, sharedColumns]

theorem mem_sharedColumns {columns : List Column} {tempColumns : List String} {name : String} :
    name ∈ sharedColumns columns tempColumns ↔
      name ∈ columns.map Column.name ∧ sameIgnoringCase name "_id" = false ∧
        name ∈ tempColumns := by
  rw [sharedColumns, List.mem_filter, Bool.and_eq_true, Bool.not_eq_true', List.contains_iff_mem]

/-! ## What the loop makes of the tables -/

section Settling

variable {engine : Engine V} {db other : Database V} {table : String}

theorem brings_eq_some_iff {restored : Table V} :
    brings engine db table = some restored ↔
      ∃ backup target, db.named (tempOf table) = some backup ∧ db.find table = some target ∧
        engine.copied (copyText table (sharedColumns target.schema.columns backup.schema.names)
          (tempOf table)) (sharedColumns target.schema.columns backup.schema.names) target
          backup = some restored := by
  rw [brings, Option.bind_eq_some_iff]
  apply exists_congr
  intro backup
  rw [restoredFrom, Option.bind_eq_some_iff, exists_and_left]

theorem brings_name {restored : Table V} (restores : brings engine db table = some restored) :
    ∃ target, db.find table = some target ∧ restored.name = target.name ∧
      restored.schema = target.schema := by
  rcases brings_eq_some_iff.mp restores with ⟨backup, target, -, found, copies⟩
  exact ⟨target, found, Engine.copied_name copies⟩

/-- Restoring looks at the table and its backup only. -/
theorem brings_congr (sameTable : other.find table = db.find table)
    (sameTemp : other.find (tempOf table) = db.find (tempOf table)) :
    brings engine other table = brings engine db table := by
  have sameNamed : other.named (tempOf table) = db.named (tempOf table) := by
    rw [Database.named, Database.named, sameTemp]
  rw [brings, brings, sameNamed, sameTable]

theorem jams_congr (sameTable : other.find table = db.find table)
    (sameTemp : other.find (tempOf table) = db.find (tempOf table)) :
    jams engine other table = jams engine db table := by
  have sameNamed : other.named (tempOf table) = db.named (tempOf table) := by
    rw [Database.named, Database.named, sameTemp]
  rw [jams, jams, brings_congr sameTable sameTemp, sameNamed]

/-- The loop jams at a table that throws. -/
theorem settleOne_jammed (engine : Engine V) (jammed : Bool) (db : Database V) (table : String) :
    (settleOne engine jammed db table).1 = (jammed || jams engine db table) := by
  unfold settleOne jams
  cases db.named (tempOf table) with
  | none => exact (Bool.or_false jammed).symm
  | some backup =>
      cases jammed with
      | true => rfl
      | false => cases brings engine db table <;> rfl

theorem settleOne_find (engine : Engine V) (jammed : Bool) (db : Database V) {table : String}
    (apart : fold table ≠ fold (tempOf table)) :
    (settleOne engine jammed db table).2.find table =
      if jammed then db.find table else (brings engine db table).or (db.find table) := by
  unfold settleOne
  cases present : db.named (tempOf table) with
  | none =>
      have nothing : brings engine db table = none := by
        rw [brings, present, Option.bind_none]
      dsimp only
      rw [nothing, Option.none_or, ite_self]
  | some backup =>
      have erased : (db.erase (tempOf table)).find table = db.find table := by
        rw [Database.find, Database.lookup_erase, if_neg apart]
        rfl
      cases jammed with
      | true => exact erased
      | false =>
          dsimp only
          rw [if_neg Bool.false_ne_true, if_neg Bool.false_ne_true]
          cases restores : brings engine db table with
          | none => exact erased
          | some restored =>
              rcases brings_name restores with ⟨target, found, sameName, -⟩
              dsimp only
              rw [Option.some_or, Database.find, Database.lookup_erase, if_neg apart,
                Database.lookup_put, sameName, if_pos (Database.fold_name_of_find found).symm]

theorem settleOne_temp (engine : Engine V) (jammed : Bool) (db : Database V) (table : String) :
    (settleOne engine jammed db table).2.find (tempOf table) =
      if (db.named (tempOf table)).isSome then none else db.find (tempOf table) := by
  unfold settleOne
  cases present : db.named (tempOf table) with
  | none => rfl
  | some backup =>
      dsimp only
      rw [Option.isSome_some, if_pos rfl]
      split
      · rw [Database.find, Database.lookup_erase, if_pos rfl]
      · rw [Database.find, Database.lookup_erase, if_pos rfl]

/-- No other table changes. -/
theorem settleOne_other (engine : Engine V) (jammed : Bool) (db : Database V) {table key : String}
    (notTable : key ≠ fold table) (notTemp : key ≠ fold (tempOf table)) :
    (settleOne engine jammed db table).2.lookup key = db.lookup key := by
  unfold settleOne
  split
  · rfl
  · split
    · rename_i restored attempted
      have restores : brings engine db table = some restored := by
        cases jammed with
        | true => cases attempted
        | false => exact attempted
      rcases brings_name restores with ⟨target, found, sameName, -⟩
      have elsewhere : key ≠ fold target.name := by
        rw [Database.fold_name_of_find found]
        exact notTable
      rw [Database.lookup_erase, if_neg notTemp, Database.lookup_put, sameName, if_neg elsewhere]
    · rw [Database.lookup_erase, if_neg notTemp]

theorem settle_other (engine : Engine V) (jammed : Bool) (tables : List String) (db : Database V)
    {key : String} (notListed : ∀ table ∈ tables, key ≠ fold table ∧ key ≠ fold (tempOf table)) :
    (settle engine jammed tables db).2.lookup key = db.lookup key := by
  induction tables generalizing jammed db with
  | nil => rfl
  | cons table rest ih =>
      rw [settle]
      rw [ih _ _ fun other member => notListed other (List.mem_cons_of_mem _ member)]
      have here := notListed table List.mem_cons_self
      exact settleOne_other engine jammed db here.1 here.2

/-- The first table of a list leaves the others and their backups. -/
theorem settleOne_apart (spelled : Spelled engine (table :: rest)) (jammed : Bool)
    (db : Database V) {later : String} (member : later ∈ rest) (differ : later ≠ table) :
    (settleOne engine jammed db table).2.find later = db.find later ∧
      (settleOne engine jammed db table).2.find (tempOf later) = db.find (tempOf later) := by
  have among : later ∈ table :: rest := List.mem_cons_of_mem _ member
  have here : table ∈ table :: rest := List.mem_cons_self
  have apart : fold later ≠ fold table :=
    fun same => differ (spelled.once later among table here same)
  constructor
  · exact settleOne_other engine jammed db apart (spelled.ne_temp among table)
  · apply settleOne_other engine jammed db
    · exact Ne.symm (spelled.ne_temp here later)
    · exact spelled.temp_ne among here differ

/-- A table without a backup stays as it is, and so does what is left under the
name of the backup. -/
theorem settle_still (spelled : Spelled engine (table :: tables)) (jammed : Bool)
    (db : Database V) (absent : db.named (tempOf table) = none) :
    (settle engine jammed tables db).2.find table = db.find table ∧
      (settle engine jammed tables db).2.find (tempOf table) = db.find (tempOf table) := by
  induction tables generalizing jammed db with
  | nil => exact ⟨rfl, rfl⟩
  | cons first rest ih =>
      have fewer : Spelled engine (table :: rest) :=
        spelled.subset (List.cons_subset_cons _ (List.subset_cons_self _ _))
      rw [settle]
      by_cases here : table = first
      · subst here
        have nothing : settleOne engine jammed db table = (jammed, db) := by
          unfold settleOne
          rw [absent]
        rw [nothing]
        exact ih fewer jammed db absent
      · have swapped : Spelled engine (first :: [table]) := by
          apply spelled.subset
          intro other member
          rcases List.mem_cons.mp member with same | last
          · exact same ▸ List.mem_cons_of_mem _ List.mem_cons_self
          · exact List.mem_singleton.mp last ▸ List.mem_cons_self
        have apart := settleOne_apart swapped jammed db List.mem_cons_self here
        have still := ih fewer (settleOne engine jammed db first).1
          (settleOne engine jammed db first).2 (by rw [Database.named, apart.2]; exact absent)
        exact ⟨still.1.trans apart.1, still.2.trans apart.2⟩

/-- After its turn a table has no backup. -/
theorem settleOne_absent (engine : Engine V) (jammed : Bool) (db : Database V) (table : String) :
    (settleOne engine jammed db table).2.named (tempOf table) = none := by
  rw [Database.named, settleOne_temp]
  cases present : db.named (tempOf table) with
  | none => exact present
  | some backup => rfl

/-- Tests that agree on a list agree on whether one of it passes. -/
theorem any_congr_of_mem {α : Type} {test other : α → Bool} {values : List α}
    (same : ∀ value ∈ values, test value = other value) : values.any test = values.any other := by
  induction values with
  | nil => rfl
  | cons value rest ih =>
      rw [List.any_cons, List.any_cons, same value List.mem_cons_self,
        ih fun later member => same later (List.mem_cons_of_mem _ member)]

/-- A table is restored at its first turn, unless the loop is jammed before. -/
theorem settle_find {before after : List String}
    (spelled : Spelled engine (before ++ table :: after)) (first : table ∉ before) (jammed : Bool)
    (db : Database V) :
    (settle engine jammed (before ++ table :: after) db).2.find table =
      if jammed || before.any (jams engine db) then db.find table
      else (brings engine db table).or (db.find table) := by
  induction before generalizing jammed db with
  | nil =>
      have apart : fold table ≠ fold (tempOf table) := spelled.ne_temp List.mem_cons_self table
      rw [List.nil_append, settle, List.any_nil, Bool.or_false,
        ← settleOne_find engine jammed db apart]
      exact (settle_still spelled _ _ (settleOne_absent engine jammed db table)).1
  | cons earlier before ih =>
      have member : table ∈ before ++ table :: after :=
        List.mem_append_right _ List.mem_cons_self
      have differ : table ≠ earlier := fun same => first (same ▸ List.mem_cons_self)
      have same := settleOne_apart spelled jammed db member differ
      -- A further turn of the table that has just been restored cannot jam the loop.
      have sameJams : (jammed || jams engine db earlier ||
          before.any (jams engine (settleOne engine jammed db earlier).2)) =
            (jammed || jams engine db earlier || before.any (jams engine db)) := by
        cases stuck : jams engine db earlier with
        | true => rw [Bool.or_true, Bool.true_or, Bool.true_or]
        | false =>
            congr 1
            apply any_congr_of_mem
            intro other inside
            by_cases here : other = earlier
            · rw [here, stuck, jams, settleOne_absent]
              rfl
            · have apart := settleOne_apart spelled jammed db (List.mem_append_left _ inside) here
              exact jams_congr apart.1 apart.2
      rw [List.cons_append, settle,
        ih (spelled.subset (List.subset_cons_self _ _))
          (fun inside => first (List.mem_cons_of_mem _ inside)),
        settleOne_jammed, sameJams, same.1, brings_congr same.1 same.2, List.any_cons,
        Bool.or_assoc]

/-- A backup is gone in the end. -/
theorem settle_temp {tables : List String} (spelled : Spelled engine tables) (jammed : Bool)
    (db : Database V) (member : table ∈ tables) :
    (settle engine jammed tables db).2.find (tempOf table) =
      if (db.named (tempOf table)).isSome then none else db.find (tempOf table) := by
  induction tables generalizing jammed db with
  | nil => cases member
  | cons first rest ih =>
      rw [settle]
      by_cases here : table = first
      · subst here
        rw [← settleOne_temp engine jammed db table]
        exact (settle_still spelled _ _ (settleOne_absent engine jammed db table)).2
      · have later := (List.mem_cons.mp member).resolve_left here
        have apart := settleOne_apart spelled jammed db later here
        rw [ih (spelled.subset (List.subset_cons_self _ _)) _ _ later, apart.2, Database.named,
          Database.named, apart.2]

end Settling

/-! ## The builders -/

/-- What the builder `insert` holds: nothing, or a statement that reads from a
backup that is gone. -/
inductive Pending (engine : Engine V) (db : Database V) : Bool → String → Prop
  | clean : Pending engine db false ""
  | stuck (table : String) (columns : List String) (rest : String) (plain : engine.Plain table)
      (plainColumns : ∀ column ∈ columns, engine.Plain column)
      (gone : db.find (tempOf table) = none) :
      Pending engine db true (copyText table columns (tempOf table) ++ rest)

/-- A builder that is stuck stays stuck when a table is dropped. -/
theorem Pending.erase {engine : Engine V} {db : Database V} {insert : String}
    (pending : Pending engine db true insert) (name more : String) :
    Pending engine (db.erase name) true (insert ++ more) := by
  cases pending with
  | stuck table columns rest plain plainColumns gone =>
      rw [String.append_assoc]
      refine .stuck table columns (rest ++ more) plain plainColumns ?_
      rw [Database.find, Database.lookup_erase]
      split
      · rfl
      · exact gone

section Loop

variable {engine : Engine V} {α : Type} {state : Restoring V} {conn : Conn V}
  {insert delete : String} {properties : List String}

theorem run_onConn_of_ok {program : Program V α} {value : α} {next : Conn V}
    (ends : program.run conn = .ok value next) :
    (onConn program).run ⟨conn, insert, delete, properties⟩ =
      .ok value ⟨next, insert, delete, properties⟩ := by
  rw [EStateM.run, onConn, ends]

theorem run_onConn_of_error {program : Program V α} {thrown : Thrown} {next : Conn V}
    (ends : program.run conn = .error thrown next) :
    (onConn program).run ⟨conn, insert, delete, properties⟩ =
      .error thrown ⟨next, insert, delete, properties⟩ := by
  rw [EStateM.run, onConn, ends]

variable (documented : engine.Documented)
include documented

theorem run_runDelete {temp : String} (plain : engine.Plain temp) :
    (runDelete engine temp).run ⟨conn, insert, "", properties⟩ =
      .ok () ⟨conn.executed (conn.db.erase temp), insert, "", properties⟩ := by
  have drops := run_dropIfExists documented plain conn
  rw [runDelete, EStateM.run_bind, EStateM.run_modify]
  dsimp only
  rw [String.empty_append, EStateM.run_bind, EStateM.run_get]
  dsimp only
  rw [EStateM.run_bind, run_onConn_of_ok drops]
  rfl

theorem run_tryRestore_of_ok {table temp : String} (plain : engine.Plain temp) {next : Conn V}
    (ends : (execSQL engine (insert ++ copyText table properties temp)).run conn = .ok () next) :
    (tryRestore engine table temp).run ⟨conn, insert, "", properties⟩ =
      .ok () ⟨next.executed (next.db.erase temp), "", "", properties⟩ := by
  rw [tryRestore, Effect.run_tryCatch, EStateM.run_bind, EStateM.run_modify]
  dsimp only
  rw [EStateM.run_bind, EStateM.run_get]
  dsimp only
  rw [EStateM.run_bind, run_onConn_of_ok ends]
  dsimp only
  rw [EStateM.run_bind, EStateM.run_modify]
  dsimp only
  rw [run_runDelete documented plain]

/-- The handler drops the backup, and the builder keeps its text. -/
theorem run_tryRestore_of_error {table temp : String} (plain : engine.Plain temp)
    {thrown : Thrown} {next : Conn V}
    (ends : (execSQL engine (insert ++ copyText table properties temp)).run conn =
      .error thrown next) :
    (tryRestore engine table temp).run ⟨conn, insert, delete, properties⟩ =
      .ok () ⟨next.executed (next.db.erase temp), insert ++ copyText table properties temp, "",
        properties⟩ := by
  rw [tryRestore, Effect.run_tryCatch, EStateM.run_bind, EStateM.run_modify]
  dsimp only
  rw [EStateM.run_bind, EStateM.run_get]
  dsimp only
  rw [EStateM.run_bind, run_onConn_of_error ends]
  dsimp only
  rw [EStateM.run_bind, EStateM.run_modify]
  dsimp only
  rw [run_runDelete documented plain]

/-- The part of a turn before the `INSERT` only reads. -/
theorem run_restoreOne {table : String} {backup : Table V} (plain : engine.Plain table)
    (named : conn.db.named (tempOf table) = some backup) :
    (restoreOne engine table).run ⟨conn, insert, delete, properties⟩ =
      (tryRestore engine table (tempOf table)).run ⟨conn, insert, delete,
        sharedColumns ((conn.db.find table).elim [] fun target => target.schema.columns)
          backup.schema.names⟩ := by
  have found := (Database.named_eq_some.mp named).1
  have reads := run_getColumns documented (plain.temp documented) conn
  have migrates := run_getMigrates documented plain conn
  rw [show table ++ "_TEMP" = tempOf table from rfl, found, Option.elim] at reads
  have nonempty : backup.schema.names.isEmpty = false := by
    rw [List.isEmpty_eq_false_iff]
    exact fun empty => backup.schema.nonempty (List.map_eq_nil_iff.mp empty)
  rw [restoreOne, EStateM.run_bind, EStateM.run_modify]
  dsimp only
  rw [EStateM.run_bind, show table ++ tableTempName = tempOf table from rfl,
    run_onConn_of_ok reads]
  dsimp only
  rw [nonempty, Bool.not_false, if_pos rfl, EStateM.run_bind, run_onConn_of_ok migrates]
  dsimp only
  rw [EStateM.run_bind, EStateM.run_modify, sharedProperties_migratesOf]

variable (steady : engine.Steady)
include steady

/-- A turn of the loop for a table with a backup does what `settleOne` says. -/
theorem settles_one {table : String} {backup : Table V} (plain : engine.Plain table)
    (named : conn.db.named (tempOf table) = some backup)
    (plainShared : ∀ column ∈ sharedColumns
      ((conn.db.find table).elim [] fun target => target.schema.columns) backup.schema.names,
        engine.Plain column) {jammed : Bool}
    (pending : Pending engine conn.db jammed insert) (properties : List String) :
    ∃ next, (restoreOne engine table).run ⟨conn, insert, "", properties⟩ = .ok () next ∧
      next.delete = "" ∧ next.conn.db = (settleOne engine jammed conn.db table).2 ∧
      Pending engine next.conn.db (settleOne engine jammed conn.db table).1 next.insert ∧
      next.properties = sharedColumns
        ((conn.db.find table).elim [] fun target => target.schema.columns) backup.schema.names := by
  have found := (Database.named_eq_some.mp named).1
  have plainTemp : engine.Plain (tempOf table) := plain.temp documented
  rw [run_restoreOne documented plain named]
  set columns := sharedColumns ((conn.db.find table).elim [] fun target => target.schema.columns)
    backup.schema.names with columnsEq
  have tried : brings engine conn.db table = (conn.db.find table).bind fun target =>
      engine.copied (copyText table columns (tempOf table)) columns target backup := by
    rw [brings, named, Option.bind_some, restoredFrom]
    cases present : conn.db.find table with
    | none => rfl
    | some target =>
        rw [columnsEq, present]
        rfl
  unfold settleOne
  rw [named]
  dsimp only
  cases pending with
  | clean =>
      rw [if_neg Bool.false_ne_true]
      cases restores : brings engine conn.db table with
      | some restored =>
          rw [tried] at restores
          rcases Option.bind_eq_some_iff.mp restores with ⟨target, present, copies⟩
          rw [← String.append_empty (s := copyText table columns (tempOf table))] at copies
          have ends := run_copyText_of_some documented steady plain plainTemp plainShared ""
            present found copies
          rw [String.append_empty, ← String.empty_append (s := copyText _ _ _)] at ends
          exact ⟨_, run_tryRestore_of_ok documented plainTemp ends, rfl, rfl, .clean, columnsEq⟩
      | none =>
          have refused : ∀ target origin, conn.db.find table = some target →
              conn.db.find (tempOf table) = some origin →
              engine.copied (copyText table columns (tempOf table) ++ "") columns target origin =
                none := by
            intro target origin present source
            rw [tried, present, Option.bind_some] at restores
            rw [found, Option.some.injEq] at source
            rw [String.append_empty, ← source]
            exact restores
          rcases run_copyText_of_none documented steady plain plainTemp plainShared "" refused with
            ⟨next, ends, unchanged⟩
          rw [String.append_empty, ← String.empty_append (s := copyText _ _ _)] at ends
          refine ⟨_, run_tryRestore_of_error documented plainTemp ends, rfl, ?_, ?_, columnsEq⟩
          · rw [Conn.executed_db, unchanged]
          · rw [String.empty_append, ← String.append_empty (s := copyText _ _ _)]
            refine .stuck table columns "" plain plainShared ?_
            rw [Conn.executed_db, Database.find, Database.lookup_erase, if_pos rfl]
  | stuck earlier earlierColumns rest plainEarlier plainEarlierColumns gone =>
      rw [if_pos rfl]
      have refused : ∀ target origin, conn.db.find earlier = some target →
          conn.db.find (tempOf earlier) = some origin →
          engine.copied (copyText earlier earlierColumns (tempOf earlier) ++
            (rest ++ copyText table columns (tempOf table))) earlierColumns target origin =
              none := by
        intro target origin present source
        rw [gone] at source
        cases source
      rcases run_copyText_of_none documented steady plainEarlier (plainEarlier.temp documented)
        plainEarlierColumns _ refused with ⟨next, ends, unchanged⟩
      rw [← String.append_assoc] at ends
      refine ⟨_, run_tryRestore_of_error documented plainTemp ends, rfl, ?_, ?_, columnsEq⟩
      · rw [Conn.executed_db, unchanged]
      · rw [Conn.executed_db, unchanged]
        exact Pending.erase (.stuck earlier earlierColumns rest plainEarlier plainEarlierColumns
          gone) _ _

/-- The backups that the loop meets have plain column names. -/
def PlainBackups (engine : Engine V) (db : Database V) (tables : List String) : Prop :=
  ∀ table ∈ tables, ∀ backup, db.named (tempOf table) = some backup →
    ∀ column ∈ backup.schema.names, engine.Plain column

/-- The columns that are carried over have plain names. -/
def PlainShared (engine : Engine V) (db : Database V) (tables : List String) : Prop :=
  ∀ table ∈ tables, ∀ backup, db.named (tempOf table) = some backup →
    ∀ column ∈ sharedColumns ((db.find table).elim [] fun target => target.schema.columns)
      backup.schema.names, engine.Plain column

omit documented steady in
theorem PlainBackups.shared {tables : List String} {db : Database V}
    (plainBackups : PlainBackups engine db tables) : PlainShared engine db tables :=
  fun table member backup named column inside =>
    plainBackups table member backup named column (mem_sharedColumns.mp inside).2.2

omit documented steady in
theorem PlainShared.tail {table : String} {rest : List String} {db : Database V}
    (spelled : Spelled engine (table :: rest)) (plainShared : PlainShared engine db (table :: rest))
    (jammed : Bool) : PlainShared engine (settleOne engine jammed db table).2 rest := by
  intro later member backup named
  by_cases here : later = table
  · rw [here, settleOne_absent] at named
    cases named
  · have apart := settleOne_apart spelled jammed db member here
    rw [Database.named, apart.2] at named
    rw [apart.1]
    exact plainShared later (List.mem_cons_of_mem _ member) backup named

/-- The loop does what `settle` says. -/
theorem settles {tables : List String} (spelled : Spelled engine tables)
    (plainShared : PlainShared engine conn.db tables) {jammed : Bool}
    (pending : Pending engine conn.db jammed insert) (properties : List String) :
    ∃ next, (restoreLoop engine true tables).run ⟨conn, insert, "", properties⟩ =
        .ok tables next ∧
      next.conn.db = (settle engine jammed tables conn.db).2 := by
  induction tables generalizing conn insert properties jammed with
  | nil => exact ⟨_, rfl, rfl⟩
  | cons table rest ih =>
      have plain := spelled.plain table List.mem_cons_self
      have fewer : Spelled engine rest := spelled.subset (List.subset_cons_self _ _)
      have asked := run_tableIsExist documented (plain.temp documented) conn
      rw [show table ++ "_TEMP" = tempOf table from rfl] at asked
      have laterShared := plainShared.tail spelled jammed
      rw [restoreLoop, EStateM.run_bind, show table ++ tableTempName = tempOf table from rfl,
        run_onConn_of_ok asked, settle]
      dsimp only
      cases named : conn.db.named (tempOf table) with
      | none =>
          have still : settleOne engine jammed conn.db table = (jammed, conn.db) := by
            unfold settleOne
            rw [named]
          rw [still] at laterShared ⊢
          rcases ih fewer laterShared pending properties with ⟨next, ends, db⟩
          refine ⟨next, ?_, db⟩
          rw [Option.isSome_none, if_neg Bool.false_ne_true, EStateM.run_bind, ends]
          rfl
      | some backup =>
          rcases settles_one documented steady plain named
            (plainShared table List.mem_cons_self backup named) pending properties with
            ⟨middle, turn, clean, db, stillPending, -⟩
          rcases middle with ⟨middleConn, middleInsert, middleDelete, middleProperties⟩
          dsimp only at clean db stillPending
          subst clean
          rw [← db] at laterShared
          rcases ih fewer laterShared stillPending middleProperties with
            ⟨next, ends, last⟩
          refine ⟨next, ?_, ?_⟩
          · rw [Option.isSome_some, if_pos rfl, EStateM.run_bind, turn]
            dsimp only
            rw [if_pos rfl, EStateM.run_bind, ends]
            rfl
          · rw [last, db]

end Loop

/-! ## The whole phase -/

/-- What the third phase leaves. -/
structure Restored (engine : Engine V) (tables : List String) (db next : Database V) : Prop where
  table : ∀ before table after, tables = before ++ table :: after →
    next.find table =
      if before.any (jams engine db) then db.find table
      else (brings engine db table).or (db.find table)
  temp : ∀ table ∈ tables, next.find (tempOf table) =
    if (db.named (tempOf table)).isSome || (db.named table).isSome then none
    else db.find (tempOf table)
  other : ∀ key, (∀ table ∈ tables, key ≠ fold table ∧ key ≠ fold (tempOf table)) →
    next.lookup key = db.lookup key

/-- The same, where it is the first turn of a table that counts. -/
structure Settled (engine : Engine V) (tables : List String) (db next : Database V) : Prop where
  table : ∀ before table after, tables = before ++ table :: after → table ∉ before →
    next.find table =
      if before.any (jams engine db) then db.find table
      else (brings engine db table).or (db.find table)
  temp : ∀ table ∈ tables, next.find (tempOf table) =
    if (db.named (tempOf table)).isSome || (db.named table).isSome then none
    else db.find (tempOf table)
  other : ∀ key, (∀ table ∈ tables, key ≠ fold table ∧ key ≠ fold (tempOf table)) →
    next.lookup key = db.lookup key

theorem Settled.restored {engine : Engine V} {tables : List String} {db next : Database V}
    (settled : Settled engine tables db next) (listing : Listing engine tables) :
    Restored engine tables db next where
  table := by
    intro before table after split
    apply settled.table before table after split
    intro inside
    exact listing.ne_before split inside rfl
  temp := settled.temp
  other := settled.other

/-- Restoring keeps the name of a table. -/
theorem settle_named {engine : Engine V} {tables : List String} (spelled : Spelled engine tables)
    (db : Database V) {table : String} (member : table ∈ tables) :
    ((settle engine false tables db).2.named table).isSome = (db.named table).isSome := by
  rcases List.eq_append_cons_of_mem member with ⟨before, after, split, first⟩
  rw [split] at spelled ⊢
  rw [Database.named, Database.named, settle_find spelled first]
  split
  · rfl
  · cases restores : brings engine db table with
    | none => rfl
    | some restored =>
        rcases brings_name restores with ⟨target, found, sameName, -⟩
        rw [found, Option.some_or, Option.filter, Option.filter, sameName]
        split <;> rfl

section Phase

variable {engine : Engine V} (documented : engine.Documented) {tables : List String} {conn : Conn V}
include documented

/-- The second loop drops the backups of the tables that exist. -/
theorem run_sweep (spelled : Spelled engine tables) (conn : Conn V) :
    ∃ next, (tables.forM fun table => do
        if ← tableIsExist engine table then
          execSQL engine ("DROP TABLE IF EXISTS " ++ tempOf table) : Program V Unit).run conn =
        .ok () next ∧
      (∀ table ∈ tables, next.db.find (tempOf table) =
        if (conn.db.named table).isSome then none else conn.db.find (tempOf table)) ∧
      ∀ key, (∀ table ∈ tables, key ≠ fold (tempOf table)) →
        next.db.lookup key = conn.db.lookup key := by
  have swept : ∃ next, (tables.forM fun table => do
        if ← tableIsExist engine table then
          execSQL engine ("DROP TABLE IF EXISTS " ++ tempOf table) : Program V Unit).run conn =
        .ok () next ∧
      (∀ table ∈ tables, next.db.find (tempOf table) =
        if table ∈ tables ∧ (conn.db.named table).isSome then none
        else conn.db.find (tempOf table)) ∧
      ∀ key, (∀ table ∈ tables, key ≠ fold (tempOf table)) →
        next.db.lookup key = conn.db.lookup key := by
    apply Effect.run_forM_invariant tables fun visited (state : Conn V) =>
      (∀ table ∈ tables, state.db.find (tempOf table) =
          if table ∈ visited ∧ (conn.db.named table).isSome then none
          else conn.db.find (tempOf table)) ∧
        ∀ key, (∀ table ∈ tables, key ≠ fold (tempOf table)) →
          state.db.lookup key = conn.db.lookup key
    · intro visited table rest state split ⟨temps, others⟩
      have member : table ∈ tables := List.mem_iff_append.mpr ⟨_, _, split⟩
      have plain := spelled.plain table member
      have sameTable : state.db.find table = conn.db.find table :=
        others (fold table) fun earlier _ => spelled.ne_temp member earlier
      have sameNamed : state.db.named table = conn.db.named table := by
        rw [Database.named, Database.named, sameTable]
      have asked := run_tableIsExist documented plain state
      rw [sameNamed] at asked
      cases present : (conn.db.named table).isSome with
      | false =>
          refine ⟨state, ?_, ?_, others⟩
          · simp only [EStateM.run_bind, asked, present, if_neg Bool.false_ne_true]
            rfl
          · intro other inside
            rw [temps other inside]
            by_cases here : other = table
            · rw [here, present, if_neg fun both => Bool.false_ne_true both.2,
                if_neg fun both => Bool.false_ne_true both.2]
            · simp only [List.mem_append, List.mem_singleton, here, or_false]
      | true =>
          have drops := run_dropIfExists documented (plain.temp documented) state
          refine ⟨state.executed (state.db.erase (tempOf table)), ?_, ?_, ?_⟩
          · simp only [EStateM.run_bind, asked, present, if_pos]
            exact drops
          · intro other inside
            rw [Conn.executed_db, Database.find, Database.lookup_erase]
            by_cases here : other = table
            · rw [here, if_pos rfl, if_pos ⟨List.mem_append_right _ List.mem_cons_self, present⟩]
            · rw [if_neg (spelled.temp_ne inside member here)]
              simp only [List.mem_append, List.mem_singleton, here, or_false]
              exact temps other inside
          · intro key apart
            rw [Conn.executed_db, Database.lookup_erase, if_neg (apart table member)]
            exact others key apart
    · refine ⟨?_, fun _ _ => rfl⟩
      intro table inside
      rw [if_neg fun both => List.not_mem_nil both.1]
  rcases swept with ⟨next, sweeps, temps, others⟩
  refine ⟨next, sweeps, ?_, others⟩
  intro table member
  rw [temps table member]
  simp only [member, true_and]

/-- On plain lists the third phase never throws. -/
theorem run_restoreTable_settled (spelled : Spelled engine tables) (steady : engine.Steady)
    (plainShared : PlainShared engine conn.db tables) :
    ∃ next, (restoreTable engine true tables).run conn = .ok () next ∧
      Settled engine tables conn.db next.db := by
  rcases settles documented steady spelled plainShared .clean [] with ⟨settled, ends, db⟩
  rcases run_sweep documented spelled settled.conn with ⟨next, sweeps, temps, others⟩
  have listed : (tables.filter fun table => !table.isEmpty) = tables := by
    apply List.filter_eq_self.mpr
    intro table member
    rw [Bool.not_eq_true', Bool.eq_false_iff]
    exact fun empty => isWord_ne_empty (spelled.plain table member).1 (String.isEmpty_iff.mp empty)
  refine ⟨next, ?_, ?_⟩
  · have loop : (runRestoreLoop engine true tables).run conn = .ok tables settled.conn := by
      rw [EStateM.run, runRestoreLoop, ends]
    simp only [restoreTable, if_pos, listed, EStateM.run_bind, EStateM.run_pure, loop]
    exact sweeps
  · constructor
    · intro before table after split first
      have member : table ∈ tables := List.mem_iff_append.mpr ⟨_, _, split⟩
      have kept : next.db.find table = settled.conn.db.find table :=
        others _ fun earlier _ => spelled.ne_temp member earlier
      rw [split] at spelled db
      rw [kept, db, settle_find spelled first, Bool.false_or]
    · intro table member
      rw [temps table member, db, settle_named spelled conn.db member,
        settle_temp spelled false conn.db member]
      cases (conn.db.named table).isSome <;> cases (conn.db.named (tempOf table)).isSome <;> rfl
    · intro key apart
      rw [others key fun table member => (apart table member).2, db]
      exact settle_other engine false tables conn.db apart

/-- On lists without repetition this is what every table gets. -/
theorem run_restoreTable (listing : Listing engine tables) (steady : engine.Steady)
    (plainShared : PlainShared engine conn.db tables) :
    ∃ next, (restoreTable engine true tables).run conn = .ok () next ∧
      Restored engine tables conn.db next.db := by
  rcases run_restoreTable_settled documented listing.spelled steady plainShared with
    ⟨next, ends, settled⟩
  exact ⟨next, ends, settled.restored listing⟩

end Phase

end Migration
end ModuleDatabase
