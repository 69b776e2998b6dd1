import Mathlib.Logic.Function.Basic

namespace ModuleDatabase
namespace Connection

/-!
# The connection manager

`ModuleDB` keeps one static instance per process.  Its state is spread over
the static field `mInstance`, the fields `helper`, `db` and `currentDb` of
every instance handed out so far, and the field `moduleDB` of every DAO
object.  All of these are references, so the model is a small heap: objects
are numbered in the order in which they are allocated, and none is freed.

An exception leaves the heap as it is at the point of the throw, which is
what `EStateM` does.  Whether an attempt to open a database file succeeds is
decided by the device, so it is a parameter: `opens k` says whether the `k`th
attempt of the process does.
-/

/-- The common suffix of all database files. -/
def DATABASE_NAME_SUFFIX : String := "_module.db"

/-- The file of the database with this name. -/
def fileOf (dbName : String) : String := dbName ++ DATABASE_NAME_SUFFIX

abbrev DatabaseRef := Nat
abbrev InstanceRef := Nat
abbrev DaoRef := Nat

/-- A framework handle: the file it was opened on, and `isOpen`. -/
structure SQLiteDatabase where
  file : String
  isOpen : Bool
  deriving DecidableEq, Repr

/-- The open helper of one instance.  No two instances share a helper, so it
is a value inside its instance and not an object of the heap. -/
structure ModuleDatabaseHelper where
  name : String
  mDatabase : Option DatabaseRef
  deriving DecidableEq, Repr

/-- The fields of one `ModuleDB` object; a fresh one has all of them null. -/
structure ModuleDB where
  helper : Option ModuleDatabaseHelper := none
  db : Option DatabaseRef := none
  currentDb : Option String := none
  deriving DecidableEq, Repr

/-- The heap, with the static field and the field of every DAO. -/
structure Manager where
  handles : DatabaseRef → SQLiteDatabase
  handleCount : Nat
  instances : InstanceRef → ModuleDB
  instanceCount : Nat
  mInstance : Option InstanceRef
  moduleDB : DaoRef → Option InstanceRef
  attempts : Nat

/-- A process that has not used the manager yet. -/
def Manager.initial : Manager where
  handles := fun _ => ⟨"", false⟩
  handleCount := 0
  instances := fun _ => {}
  instanceCount := 0
  mInstance := none
  moduleDB := fun _ => none
  attempts := 0

inductive Exception where
  /-- `SQLiteException`: the file cannot be opened, created or upgraded. -/
  | openFailed
  /-- A `!!` on null. -/
  | nullPointer
  deriving DecidableEq, Repr

abbrev Program := EStateM Exception Manager

namespace SQLiteDatabase

/-- `SQLiteDatabase.close`: closing a closed handle does nothing. -/
def close (handle : DatabaseRef) : Program Unit :=
  modify fun manager =>
    { manager with
      handles := Function.update manager.handles handle
        { manager.handles handle with isOpen := false } }

end SQLiteDatabase

namespace ModuleDatabaseHelper

/-- `getWritableDatabase`: the cached handle while it is open, otherwise a
new attempt to open the file. -/
def writableDatabase (opens : Nat → Bool) (helper : ModuleDatabaseHelper) :
    Program DatabaseRef := do
  let manager ← get
  match helper.mDatabase with
  | some cached =>
      if (manager.handles cached).isOpen then
        return cached
  | none => pure ()
  set { manager with attempts := manager.attempts + 1 }
  if opens manager.attempts then
    modify fun manager =>
      { manager with
        handles := Function.update manager.handles manager.handleCount ⟨helper.name, true⟩
        handleCount := manager.handleCount + 1 }
    return manager.handleCount
  else
    throw .openFailed

/-- `SQLiteOpenHelper.close`: the cached handle is closed if it is open. -/
def close (helper : ModuleDatabaseHelper) : Program Unit := do
  match helper.mDatabase with
  | some cached =>
      if ((← get).handles cached).isOpen then
        SQLiteDatabase.close cached
  | none => pure ()

end ModuleDatabaseHelper

namespace ModuleDB

/-- Assignment to the fields of an instance. -/
def assign (it : InstanceRef) (change : ModuleDB → ModuleDB) : Program Unit :=
  modify fun manager =>
    { manager with
      instances := Function.update manager.instances it (change (manager.instances it)) }

/-- `open`: the helper is installed before the file is opened. -/
def «open» (opens : Nat → Bool) (it : InstanceRef) (dbName : String) : Program Unit := do
  let helper : ModuleDatabaseHelper := ⟨fileOf dbName, none⟩
  assign it fun fields => { fields with helper := some helper }
  let handle ← helper.writableDatabase opens
  assign it fun fields =>
    { fields with helper := some { helper with mDatabase := some handle }, db := some handle }

/-- `mInstance = ModuleDB(); mInstance!!.open(dbName); mInstance!!.currentDb = dbName`,
the three statements of either branch of `create`. -/
def renew (opens : Nat → Bool) (dbName : String) : Program Unit := do
  let manager ← get
  let it := manager.instanceCount
  set { manager with
    instances := Function.update manager.instances it {}
    instanceCount := it + 1
    mInstance := some it }
  «open» opens it dbName
  assign it fun fields => { fields with currentDb := some dbName }

/-- `if (mInstance!!.db != null) mInstance!!.db!!.close()`. -/
def closeDb (it : InstanceRef) : Program Unit := do
  match ((← get).instances it).db with
  | some handle => SQLiteDatabase.close handle
  | none => pure ()

/-- `if (mInstance!!.helper != null) { ...close(); mInstance!!.helper = null }`. -/
def closeHelper (it : InstanceRef) : Program Unit := do
  match ((← get).instances it).helper with
  | some helper =>
      helper.close
      assign it fun fields => { fields with helper := none }
  | none => pure ()

/-- The private `close` of the companion object. -/
def close : Program Unit := do
  match (← get).mInstance with
  | none => pure ()
  | some it =>
      closeDb it
      closeHelper it
      modify fun manager => { manager with mInstance := none }

/-- `ModuleDB.create`. -/
def create (opens : Nat → Bool) (dbName : String) : Program (Option InstanceRef) := do
  let manager ← get
  match manager.mInstance with
  | none => renew opens dbName
  | some it =>
      let fields := manager.instances it
      if fields.db.isSome && fields.currentDb != some dbName then
        close
        renew opens dbName
  return (← get).mInstance

/-- `getDatabase` of one instance.  A closed or missing handle makes it call
`create`, but what it returns is the field `db` of the same instance. -/
def getDatabase (opens : Nat → Bool) (it : InstanceRef) (dbName : String) :
    Program DatabaseRef := do
  let manager ← get
  if !(manager.instances it).db.any (fun handle => (manager.handles handle).isOpen) then
    let _ ← create opens dbName
  match ((← get).instances it).db with
  | some handle => return handle
  | none => throw .nullPointer

end ModuleDB

namespace BaseDao

/-- `connectionDB`: the first of the two steps of `getDatabase`. -/
def connectionDB (opens : Nat → Bool) (dao : DaoRef) (dbName : String) : Program Unit := do
  let created ← ModuleDB.create opens dbName
  modify fun manager =>
    { manager with moduleDB := Function.update manager.moduleDB dao created }

/-- The second step: `moduleDB!!.getDatabase(dbName)`. -/
def fetch (opens : Nat → Bool) (dao : DaoRef) (dbName : String) : Program DatabaseRef := do
  match (← get).moduleDB dao with
  | some it => ModuleDB.getDatabase opens it dbName
  | none => throw .nullPointer

/-- `getDatabase` of a DAO. -/
def getDatabase (opens : Nat → Bool) (dao : DaoRef) (dbName : String) :
    Program DatabaseRef := do
  connectionDB opens dao dbName
  fetch opens dao dbName

end BaseDao

end Connection
end ModuleDatabase
