import Mathlib.Logic.Function.Basic
import ModuleDatabase.Base.Run

namespace ModuleDatabase
namespace Log

/-!
# The recent operations of a connection

The log keeps the last operations in a ring of slots.  Who begins an operation gets a
cookie, the slot together with a generation, and says with it later that the operation has
failed or ended.  An operation that has lost its slot is passed over.
-/

def MAX_RECENT_OPERATIONS : Nat := 20

def COOKIE_GENERATION_SHIFT : Nat := 8

def COOKIE_INDEX_MASK : BitVec 32 := 0xff

/-- An argument of a statement. -/
inductive Object where
  | null
  | bytes (value : List (BitVec 8))
  | string (value : String)
  /-- With its text. -/
  | other (text : String)
  deriving DecidableEq, Repr

structure Operation where
  mStartTime : Int := 0
  mEndTime : Int := 0
  mKind : String := ""
  mSql : Option String := none
  mBindArgs : Option (List Object) := none
  mFinished : Bool := false
  /-- The message of the exception. -/
  mException : Option String := none
  mCookie : BitVec 32 := 0
  deriving DecidableEq, Repr

/-! ## Descriptions -/

def isSpace (c : Char) : Bool := [' ', '\t', '\n', '\x0b', '\x0c', '\r'].contains c

/-- A run of spaces with a line break becomes one space. -/
def trimRun (run : List Char) : List Char := if run.contains '\n' then [' '] else run

def trimRuns : List Char → List Char → List Char
  | run, [] => trimRun run
  | run, c :: rest =>
      if isSpace c then trimRuns (run ++ [c]) rest else trimRun run ++ c :: trimRuns [] rest

def trimSqlForDisplay (sql : String) : String := String.ofList (trimRuns [] sql.toList)

namespace Object

def describe : Object → String
  | null => "null"
  | bytes _ => "<byte[]>"
  | string value => "\"" ++ value ++ "\""
  | other text => text

/-- Only an empty array is held in place of an array of bytes. -/
def withoutBytes : Object → Object
  | bytes _ => bytes []
  | object => object

end Object

/-- Nothing is described of no arguments, and of an empty list. -/
def describeBindArgs : List Object → String
  | [] => ""
  | first :: rest =>
      ", bindArgs=[" ++ ", ".intercalate ((first :: rest).map Object.describe) ++ "]"

namespace Operation

variable (operation : Operation)

def getStatus : String :=
  if !operation.mFinished then "running"
  else if operation.mException.isSome then "failed" else "succeeded"

def describeTime (now : Int) : String :=
  if operation.mFinished then
    " took " ++ toString (operation.mEndTime - operation.mStartTime) ++ "ms"
  else " started " ++ toString (now - operation.mStartTime) ++ "ms ago"

def describe (now : Int) (verbose : Bool) : String :=
  operation.mKind ++ operation.describeTime now ++ " - " ++ operation.getStatus ++
    operation.mSql.elim "" (fun sql => ", sql=\"" ++ trimSqlForDisplay sql ++ "\"") ++
    (if verbose then describeBindArgs (operation.mBindArgs.getD []) else "") ++
    operation.mException.elim "" fun message => ", exception=\"" ++ message ++ "\""

/-- A new operation, or the one of the slot, cleared. -/
def reuse : Option Operation → Operation
  | none => {}
  | some operation => { operation with
      mFinished := false
      mException := none
      mBindArgs := operation.mBindArgs.map fun _ => [] }

end Operation

/-! ## The ring -/

structure OperationLog where
  mOperations : Nat → Option Operation := fun _ => none
  mIndex : Nat := 0
  mGeneration : BitVec 32 := 0

namespace OperationLog

variable (log : OperationLog)

def newOperationCookieLocked (index : Nat) : BitVec 32 × OperationLog :=
  (log.mGeneration <<< COOKIE_GENERATION_SHIFT ||| BitVec.ofNat 32 index,
    { log with mGeneration := log.mGeneration + 1 })

def beginOperation (now : Int) (kind : String) (sql : Option String)
    (bindArgs : Option (List Object)) : BitVec 32 × OperationLog :=
  let index := (log.mIndex + 1) % MAX_RECENT_OPERATIONS
  let operation := Operation.reuse (log.mOperations index)
  match log.newOperationCookieLocked index with
  | (cookie, log) =>
      (cookie, { log with
        mOperations := Function.update log.mOperations index (some { operation with
          mStartTime := now
          mKind := kind
          mSql := sql
          mBindArgs := match bindArgs with
            | some bindArgs => some (bindArgs.map Object.withoutBytes)
            | none => operation.mBindArgs
          mCookie := cookie })
        mIndex := index })

/-- The slot of a cookie, and its operation if that is the one that got the cookie. -/
def getOperationLocked (cookie : BitVec 32) : Nat × Option Operation :=
  let index := (cookie &&& COOKIE_INDEX_MASK).toNat
  (index, (log.mOperations index).filter fun operation => operation.mCookie = cookie)

def changeOperation (cookie : BitVec 32) (change : Operation → Operation) : OperationLog :=
  match log.getOperationLocked cookie with
  | (index, some operation) =>
      { log with mOperations := Function.update log.mOperations index (some (change operation)) }
  | (_, none) => log

def failOperation (cookie : BitVec 32) (message : String) : OperationLog :=
  log.changeOperation cookie fun operation => { operation with mException := some message }

/-- Slow operations are not logged: `DEBUG_LOG_SLOW_QUERIES` is false. -/
def endOperation (cookie : BitVec 32) (now : Int) : OperationLog :=
  log.changeOperation cookie fun operation =>
    { operation with mEndTime := now, mFinished := true }

def describeCurrentOperation (now : Int) : Option String :=
  match log.mOperations log.mIndex with
  | some operation => if !operation.mFinished then some (operation.describe now false) else none
  | none => none

section Dump

-- how a time is written, and what the time is now
variable (formatted : Int → String) (now : Int) (verbose : Bool)

def dumpLine (operation : Operation) (n : Nat) : String :=
  "    " ++ toString n ++ ": [" ++ formatted operation.mStartTime ++ "] " ++
    operation.describe now verbose

/-- The loop, for as many operations as may still come. -/
def dumpFrom : Nat → Nat → Nat → List String
  | 0, _, _ => []
  | left + 1, n, index =>
      match log.mOperations index with
      | none => []
      | some operation =>
          dumpLine formatted now verbose operation n ::
            dumpFrom left (n + 1) (if 0 < index then index - 1 else MAX_RECENT_OPERATIONS - 1)

def dump : List String :=
  "  Most recently executed operations:" ::
    match log.mOperations log.mIndex with
    | some _ => log.dumpFrom formatted now verbose MAX_RECENT_OPERATIONS 0 log.mIndex
    | none => ["    <none>"]

end Dump

end OperationLog

/-! ## Runs -/

/-- A log, and the cookies that it has given, in order. -/
structure Use where
  log : OperationLog
  cookies : List (BitVec 32)

inductive Action where
  | begins (now : Int) (kind : String) (sql : Option String) (bindArgs : Option (List Object))
  /-- With the cookie of that operation; the operations are counted from zero. -/
  | fails (operation : Nat) (message : String)
  | ends (operation : Nat) (now : Int)
  | describesCurrent (now : Int)
  | dumps (now : Int) (verbose : Bool)
  deriving DecidableEq, Repr

/-- The lines that are printed. -/
abbrev Output := List String

def perform (formatted : Int → String) (action : Action) (use : Use) : Output × Use :=
  match action with
  | .begins now kind sql bindArgs =>
      match use.log.beginOperation now kind sql bindArgs with
      | (cookie, log) => ([], ⟨log, use.cookies ++ [cookie]⟩)
  | .fails operation message =>
      match use.cookies[operation]? with
      | some cookie => ([], { use with log := use.log.failOperation cookie message })
      | none => ([], use)
  | .ends operation now =>
      match use.cookies[operation]? with
      | some cookie => ([], { use with log := use.log.endOperation cookie now })
      | none => ([], use)
  | .describesCurrent now => ((use.log.describeCurrentOperation now).toList, use)
  | .dumps now verbose => (use.log.dump formatted now verbose, use)

def machine (formatted : Int → String) : Machine Use Action Output := ⟨perform formatted⟩

end Log
end ModuleDatabase
