import ModuleDatabase.Migration.Helper
import ModuleDatabase.Opening.Session

namespace ModuleDatabase
namespace Opening

open Sql
open Migration

/-!
# `ModuleDatabaseHelper`

The helper is called by `SQLiteOpenHelper` when the stored version of a
database is not the configured one: `onCreate` for a database without a
version, `onUpgrade` for an older one.

`getDatabaseLocked` is modelled from the moment when the database file has been
opened for writing.  `onConfigure` and `onOpen` are not overridden and do
nothing.
-/

section Helper

variable {V : Type} (engine : Engine V) (sqls : KtAutoSqls) (dbName : String)

/-- `createAllTables`. -/
def createAllTables : InSession V Unit :=
  match ModuleReflectTool.getCreateTableSqls sqls dbName with
  | none => pure ()
  | some tables =>
      if tables.isEmpty then pure ()
      else do
        tryCatch
          (do
            beginTransaction
            tables.forM fun table => onTables (execSQL engine table)
            setTransactionSuccessful)
          fun _ => pure ()
        endTransaction

/-- `onCreate`. -/
def onCreate : InSession V Unit := createAllTables engine sqls dbName

/-- What `onUpgrade` does with the update directive. -/
def upgradeTables (oldVersion : Int) : Program V Unit :=
  match ModuleReflectTool.getDatabaseUpdateTables sqls dbName oldVersion with
  | none => pure ()
  | some updates =>
      if updates.isEmpty then pure () else migrateSpecifyTable engine sqls dbName updates

/-- What `onUpgrade` does with the delete directive. -/
def deleteTables (oldVersion : Int) : Program V Unit :=
  match ModuleReflectTool.getDatabaseDeleteTables sqls dbName oldVersion with
  | none => pure ()
  | some deletes => if deletes.isEmpty then pure () else dropSpecifyTable engine deletes

/-- `onUpgrade`, which only looks at the old version. -/
def onUpgrade (oldVersion _newVersion : Int) : Program V Unit := do
  upgradeTables engine sqls dbName oldVersion
  deleteTables engine sqls dbName oldVersion

/-- `onDowngrade`, which is not overridden. -/
def onDowngrade : InSession V Unit := throw .sqlite

/-- The callback of `getDatabaseLocked`. -/
def onVersion (version mNewVersion : Int) : InSession V Unit :=
  if version = 0 then onCreate engine sqls dbName
  else if mNewVersion < version then onDowngrade
  else onTables (onUpgrade engine sqls dbName version mNewVersion)

/-- `getDatabaseLocked`, for a database that has been opened for writing. -/
def getDatabaseLocked (mNewVersion : Int) : InSession V Unit := do
  let version ← getVersion
  if version = mNewVersion then pure ()
  else do
    beginTransaction
    Effect.ensuring
      (do
        onVersion engine sqls dbName version mNewVersion
        setVersion mNewVersion
        setTransactionSuccessful)
      endTransaction

end Helper

end Opening
end ModuleDatabase
