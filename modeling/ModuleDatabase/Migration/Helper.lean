import ModuleDatabase.Migration.Config
import ModuleDatabase.Sql.Engine

namespace ModuleDatabase
namespace Migration

open Text
open Sql

/-!
# `ModuleDBMigrationHelper`

A migration copies every table to a backup, drops and creates the tables as
often as there are tables, and copies the columns that are still there back.
Each of the three phases has its own handling of exceptions, and the last one
shares its string builders between the tables.

`tables` is the vararg of the source, whose elements are never null.  Building
a text by appends is written as one expression; the builders of `restoreTable`
outlive an exception and are part of its state.
-/

def tableTempName : String := "_TEMP"

/-- `Migrate`: a row of `PRAGMA table_info`, as strings. -/
structure Migrate where
  cid : String
  name : String
  type : String
  dflt_value : Option String
  notnull : String
  pk : String
  deriving DecidableEq, Repr

/-- What the cursor shows of a column. -/
def Migrate.ofColumn (cid : Nat) (column : Column) : Migrate where
  cid := toString cid
  name := column.name
  type := column.type
  dflt_value := column.dflt_value
  notnull := if column.notnull then "1" else "0"
  pk := toString column.pk

section Helper

variable {V : Type} (engine : Engine V) (sqls : KtAutoSqls)

/-! ## Reading the catalog -/

/-- `getAllTables`; the exceptions of the query and of the `drop` end the loop. -/
def getAllTables : Program V (List String) :=
  fun conn =>
    match (rawQuery engine "select name from sqlite_master where type='table' order by name").run
        conn with
    | .ok (.names rows) next => collect rows [] next
    | .ok _ next => .ok [] next
    | .error _ next => .ok [] next
where
  /-- The loop over the cursor, with the list so far. -/
  collect : List String → List String → Program V (List String)
    | [], list => pure list
    | tableName :: rows, list => fun conn =>
        if sameIgnoringCase tableName "sqlite_sequence" ||
            sameIgnoringCase tableName "android_metadata" then
          collect rows list conn
        else if sameIgnoringCase tableName tableTempName then
          match (execSQL engine ("drop table " ++ tableName)).run conn with
          | .ok () next => collect rows list next
          | .error _ next => .ok list next
        else collect rows (list ++ [tableName]) conn

/-- `getMigrates`. -/
def getMigrates (table : String) : Program V (List Migrate) :=
  tryCatch
    (do
      match ← rawQuery engine ("PRAGMA table_info(" ++ table ++ ")") with
      | .columns rows => pure (rows.zipIdx.map fun (column, cid) => Migrate.ofColumn cid column)
      | _ => throw .sqlite)
    fun _ => pure []

/-- `getColumns`. -/
def getColumns (table : String) : Program V (List String) :=
  tryCatch
    (do
      match ← rawQuery engine ("SELECT * FROM " ++ table ++ " limit 1") with
      | .columnNames names => pure names
      | _ => throw .sqlite)
    fun _ => pure []

/-- `tableIsExist`. -/
def tableIsExist (table : String) : Program V Bool :=
  if table.isEmpty then pure false
  else
    tryCatch
      (do
        match ← rawQuery engine
          ("SELECT COUNT(*) FROM sqlite_master WHERE type='table' AND name='" ++ table ++ "'") with
        | .count number => pure (0 < number)
        | _ => throw .sqlite)
      fun _ => pure false

/-! ## Backup -/

/-- The column definition that is appended for a column. -/
def Migrate.definition (migrate : Migrate) : ColumnDef where
  name := migrate.name
  type := migrate.type
  default0 := migrate.type == "INTEGER" && !(migrate.pk == "1")
  primaryKey := migrate.pk == "1"

/-- The columns that are copied: all but the first `_id` and the first `_ID`. -/
def backupColumns (names : List String) : List String := (names.erase "_id").erase "_ID"

/-- The part of `generateTempTable` that is tried. -/
def fillTempTable (tempName tableName : String) : Program V Unit :=
  tryCatch
    (do
      let migrates ← getMigrates engine tableName
      migrates.forM fun migrate =>
        if sameIgnoringCase migrate.name "FROM" || sameIgnoringCase migrate.name "TO" then
          execSQL engine ("DELETE FROM " ++ tableName)
        else pure ()
      execSQL engine (createText tempName (migrates.map Migrate.definition))
      execSQL engine (copyText tempName (backupColumns (migrates.map Migrate.name)) tableName))
    fun _ => pure ()

/-- `generateTempTable`. -/
def generateTempTable (table : String) : Program V Unit := do
  if ← tableIsExist engine table then
    if endsWithIgnoringCase table tableTempName then
      execSQL engine ("DELETE FROM " ++ table)
      fillTempTable engine table (String.ofList (table.toList.take (table.toList.length - 5)))
    else fillTempTable engine (table ++ tableTempName) table

/-- `buildTempTable`. -/
def buildTempTable (tables : List String) : Program V Unit := do
  if tables.isEmpty then
    let list ← getAllTables engine
    list.forM (generateTempTable engine)
  else tables.forM (generateTempTable engine)

/-! ## Rebuilding -/

/-- `cleanTables`; `dropSpecifyTable` has the same loop. -/
def cleanTables (list : List String) : Program V Unit :=
  list.forM fun table => execSQL engine ("DROP TABLE IF EXISTS " ++ table)

/-- `dropSpecifyTable`. -/
def dropSpecifyTable (tables : List String) : Program V Unit :=
  if tables.isEmpty then pure () else cleanTables engine tables

/-- `buildTables`. -/
def buildTables (dbName : String) (list : List String) : Program V Unit :=
  match ModuleReflectTool.getCreateTableSqls sqls dbName with
  | none => pure ()
  | some statements => statements.forM fun sql =>
      list.forM fun s => if contains sql (s ++ " (") then execSQL engine sql else pure ()

/-- `rebuildSpecifyTables`: one pass for each table. -/
def rebuildSpecifyTables (dbName : String) (tables : List String) : Program V Unit := do
  let list ← if tables.isEmpty then getAllTables engine else pure tables
  list.forM fun _ => do
    cleanTables engine list
    buildTables engine sqls dbName list

/-! ## Restoring -/

/-- The connection and the variables of `restoreTable` that outlive a turn of
its loop. -/
structure Restoring (V : Type) where
  conn : Conn V
  insert : String
  delete : String
  properties : List String

/-- A program on the connection alone. -/
def onConn {α : Type} (program : Program V α) : EStateM Thrown (Restoring V) α := fun state =>
  match program.run state.conn with
  | .ok value next => .ok value { state with conn := next }
  | .error thrown next => .error thrown { state with conn := next }

/-- The properties that a table shares with the columns of its backup. -/
def sharedProperties (migrates : List Migrate) (tempColumns : List String) : List String :=
  (migrates.map Migrate.name).filter fun name =>
    !sameIgnoringCase name "_id" && tempColumns.contains name

/-- The `DROP` of a backup, through the builder `delete`. -/
def runDelete (tableNameTemp : String) : EStateM Thrown (Restoring V) Unit := do
  modify fun state =>
    { state with delete := state.delete ++ ("DROP TABLE IF EXISTS " ++ tableNameTemp) }
  let state ← get
  onConn (execSQL engine state.delete)
  modify fun state => { state with delete := "" }

/-- The `try` of the loop in `restoreTable`, with its handler. -/
def tryRestore (table tableNameTemp : String) : EStateM Thrown (Restoring V) Unit :=
  tryCatch
    (do
      modify fun state =>
        { state with insert := state.insert ++ copyText table state.properties tableNameTemp }
      let state ← get
      onConn (execSQL engine state.insert)
      modify fun state => { state with insert := "" }
      runDelete engine tableNameTemp)
    fun _ => do
      modify fun state => { state with delete := "" }
      runDelete engine tableNameTemp

/-- What the loop of `restoreTable` does for a table whose backup exists. -/
def restoreOne (table : String) : EStateM Thrown (Restoring V) Unit := do
  let tableNameTemp := table ++ tableTempName
  modify fun state => { state with properties := [] }
  let tempColumns ← onConn (getColumns engine tableNameTemp)
  if !tempColumns.isEmpty then
    let migrates ← onConn (getMigrates engine table)
    modify fun state => { state with properties := sharedProperties migrates tempColumns }
    tryRestore engine table tableNameTemp

/-- The loop of `restoreTable`.  For all tables (`isSpecify` false) the list is
changed while it is visited: the loop then ends at once if exactly one element
follows, and throws otherwise. -/
def restoreLoop (isSpecify : Bool) : List String → EStateM Thrown (Restoring V) (List String)
  | [] => pure []
  | table :: rest => do
      if ← onConn (tableIsExist engine (table ++ tableTempName)) then
        restoreOne engine table
        if isSpecify then return table :: (← restoreLoop isSpecify rest)
        else if rest.length = 1 then return rest
        else throw .concurrentModification
      else return table :: (← restoreLoop isSpecify rest)

/-- The loop with its variables as they are at the start. -/
def runRestoreLoop (isSpecify : Bool) (list : List String) : Program V (List String) := fun conn =>
  match (restoreLoop engine isSpecify list).run ⟨conn, "", "", []⟩ with
  | .ok remaining state => .ok remaining state.conn
  | .error thrown state => .error thrown state.conn

/-- `restoreTable`. -/
def restoreTable (isSpecify : Bool) (tables : List String) : Program V Unit := do
  let list ← if isSpecify then pure (tables.filter fun table => !table.isEmpty)
    else getAllTables engine
  let remaining ← runRestoreLoop engine isSpecify list
  remaining.forM fun table => do
    let tempTable := table ++ tableTempName
    if ← tableIsExist engine table then
      execSQL engine ("DROP TABLE IF EXISTS " ++ tempTable)

/-! ## The two entries -/

/-- `migrateAllTable`. -/
def migrateAllTable (dbName : String) : Program V Unit := do
  buildTempTable engine []
  rebuildSpecifyTables engine sqls dbName []
  restoreTable engine false []

/-- `migrateSpecifyTable`. -/
def migrateSpecifyTable (dbName : String) (tables : List String) : Program V Unit := do
  buildTempTable engine tables
  rebuildSpecifyTables engine sqls dbName tables
  restoreTable engine true tables

end Helper

end Migration
end ModuleDatabase
