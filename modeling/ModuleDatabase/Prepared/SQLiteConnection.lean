import Mathlib.Logic.Function.Basic
import ModuleDatabase.Base.LruCache
import ModuleDatabase.Base.Run

namespace ModuleDatabase
namespace Prepared

/-!
# Prepared statements of a connection

A connection keeps the statements that it has prepared in a cache, by their text.  The
objects that stand for them are used again after their native statements were finalized:
free ones are linked from `mPreparedStatementPool`.

A statement can run a custom function, and the function can use the same connection, so a
use can come in the middle of another.  `mInUse` is there so that a statement is not
finalized, and not handed out a second time, before its use has ended.

Objects are numbers that their store maps to fields.  Native statements are numbers too, and
`finalized` lists those that have been finalized, in order.
-/

structure PreparedStatement where
  mPoolNext : Option Nat := none
  mSql : Option String := none
  mStatementPtr : Nat := 0
  mNumParameters : Nat := 0
  mType : Nat := 0
  mReadOnly : Bool := false
  mInCache : Bool := false
  mInUse : Bool := false

def STATEMENT_SELECT : Nat := 1

def STATEMENT_UPDATE : Nat := 2

def isCacheable (statementType : Nat) : Bool :=
  statementType == STATEMENT_UPDATE || statementType == STATEMENT_SELECT

structure SQLiteConnection where
  mPreparedStatementCache : LruCache String Nat
  mPreparedStatementPool : Option Nat := none
  objects : Nat → PreparedStatement := fun _ => {}
  allocated : Nat := 0
  /-- How many native statements have been prepared. -/
  prepared : Nat := 0
  finalized : List Nat := []

/-- What happens when a text is prepared. -/
inductive Preparation where
  /-- `nativePrepareStatement` throws. -/
  | failed
  /-- An exception is thrown after that, before the statement is in an object. -/
  | unread
  | read (numParameters type : Nat) (readOnly : Bool)
  deriving DecidableEq, Repr

namespace SQLiteConnection

variable (connection : SQLiteConnection)

/-- Writes the fields of an object. -/
def write (statement : Nat) (change : PreparedStatement → PreparedStatement) : SQLiteConnection :=
  { connection with
    objects := Function.update connection.objects statement (change (connection.objects statement)) }

def nativePrepareStatement : Nat × SQLiteConnection :=
  (connection.prepared, { connection with prepared := connection.prepared + 1 })

def nativeFinalizeStatement (statementPtr : Nat) : SQLiteConnection :=
  { connection with finalized := connection.finalized ++ [statementPtr] }

/-- An object from the pool, or a new one. -/
def obtainObject : Nat × SQLiteConnection :=
  match connection.mPreparedStatementPool with
  | some statement =>
      (statement, { connection with
        mPreparedStatementPool := (connection.objects statement).mPoolNext }.write statement
          fun fields => { fields with mPoolNext := none, mInCache := false })
  | none =>
      (connection.allocated, { connection with
        allocated := connection.allocated + 1 }.write connection.allocated fun _ => {})

def obtainPreparedStatement (sql : String) (statementPtr numParameters type : Nat)
    (readOnly : Bool) : Nat × SQLiteConnection :=
  match connection.obtainObject with
  | (statement, connection) =>
      (statement, connection.write statement fun fields => { fields with
        mSql := some sql
        mStatementPtr := statementPtr
        mNumParameters := numParameters
        mType := type
        mReadOnly := readOnly })

def recyclePreparedStatement (statement : Nat) : SQLiteConnection :=
  { connection.write statement fun fields => { fields with
      mSql := none
      mPoolNext := connection.mPreparedStatementPool } with
    mPreparedStatementPool := some statement }

def finalizePreparedStatement (statement : Nat) : SQLiteConnection :=
  (connection.nativeFinalizeStatement
    (connection.objects statement).mStatementPtr).recyclePreparedStatement statement

/-- `PreparedStatementCache.entryRemoved`. -/
def entryRemoved (oldValue : Nat) : SQLiteConnection :=
  let connection := connection.write oldValue fun fields => { fields with mInCache := false }
  if !(connection.objects oldValue).mInUse then connection.finalizePreparedStatement oldValue
  else connection

/-- The changed cache, which then reports what it removed. -/
def changeCache (change : List Nat × LruCache String Nat) : SQLiteConnection :=
  change.1.foldl entryRemoved { connection with mPreparedStatementCache := change.2 }

/-- `acquirePreparedStatement` from where the statement is prepared.  What the cache had is
`found`; then the new statement is a copy. -/
def prepareStatement (sql : String) (preparation : Preparation) (found : Option Nat) :
    Option Nat × SQLiteConnection :=
  match preparation with
  | .failed => (none, connection)
  | .unread =>
      match connection.nativePrepareStatement with
      | (statementPtr, connection) =>
          -- the condition reads `statement`, which is still what the cache had
          if found.all fun statement => !(connection.objects statement).mInCache then
            (none, connection.nativeFinalizeStatement statementPtr)
          else (none, connection)
  | .read numParameters type readOnly =>
      match connection.nativePrepareStatement with
      | (statementPtr, connection) =>
          match connection.obtainPreparedStatement sql statementPtr numParameters type readOnly with
          | (statement, connection) =>
              let connection :=
                if found.isNone && isCacheable type then
                  (connection.changeCache
                    (connection.mPreparedStatementCache.put sql statement)).write statement
                      fun fields => { fields with mInCache := true }
                else connection
              (some statement,
                connection.write statement fun fields => { fields with mInUse := true })

/-- The result is none if an exception is thrown. -/
def acquirePreparedStatement (sql : String) (preparation : Preparation) :
    Option Nat × SQLiteConnection :=
  match connection.mPreparedStatementCache.get sql with
  | (some statement, cache) =>
      let connection := { connection with mPreparedStatementCache := cache }
      if !(connection.objects statement).mInUse then (some statement, connection)
      else connection.prepareStatement sql preparation (some statement)
  | (none, cache) =>
      { connection with mPreparedStatementCache := cache }.prepareStatement sql preparation none

/-- Whether `nativeResetStatementAndClearBindings` throws is given. -/
def releasePreparedStatement (statement : Nat) (resetThrows : Bool) : SQLiteConnection :=
  let connection := connection.write statement fun fields => { fields with mInUse := false }
  if (connection.objects statement).mInCache then
    if resetThrows then
      match (connection.objects statement).mSql with
      | some sql =>
          match connection.mPreparedStatementCache.remove sql with
          | (previous, cache) => connection.changeCache (previous.toList, cache)
      -- a null key makes `LruCache.remove` throw
      | none => connection
    else connection
  else connection.finalizePreparedStatement statement

/-- A statement in the cache counts as used when somebody asks. -/
def isPreparedStatementInCache (sql : String) : Bool × SQLiteConnection :=
  match connection.mPreparedStatementCache.get sql with
  | (statement, cache) =>
      (statement.isSome, { connection with mPreparedStatementCache := cache })

/-- Closes the connection, up to `nativeClose`. -/
def dispose : SQLiteConnection :=
  connection.changeCache connection.mPreparedStatementCache.evictAll

end SQLiteConnection

/-! ## Uses of a connection -/

/-- A connection, and the statements that are in use, the innermost first. -/
structure Usage where
  connection : SQLiteConnection
  held : List Nat

inductive Action where
  | acquire (sql : String) (preparation : Preparation)
  /-- The innermost use ends. -/
  | release (resetThrows : Bool)
  | isPreparedStatementInCache (sql : String)
  deriving DecidableEq, Repr

/-- What comes out is the statement that is handed out, if one is. -/
def perform (action : Action) (usage : Usage) : Option Nat × Usage :=
  match action with
  | .acquire sql preparation =>
      match usage.connection.acquirePreparedStatement sql preparation with
      | (some statement, connection) => (some statement, ⟨connection, statement :: usage.held⟩)
      | (none, connection) => (none, ⟨connection, usage.held⟩)
  | .release resetThrows =>
      match usage.held with
      | [] => (none, usage)
      | statement :: held =>
          (none, ⟨usage.connection.releasePreparedStatement statement resetThrows, held⟩)
  | .isPreparedStatementInCache sql =>
      (none, { usage with connection := (usage.connection.isPreparedStatementInCache sql).2 })

def machine : Machine Usage Action (Option Nat) := ⟨perform⟩

/-- A new connection. -/
def opened (maxSqlCacheSize : Nat) (positive : 0 < maxSqlCacheSize) : Usage :=
  ⟨{ mPreparedStatementCache := .empty maxSqlCacheSize positive }, []⟩

end Prepared
end ModuleDatabase
