import Mathlib.Logic.Function.Basic
import ModuleDatabase.Base.Ensures
import ModuleDatabase.Base.Nesting

namespace ModuleDatabase
namespace Session

open Effect Nesting

/-!
# The session of a thread

`SQLiteSession` belongs to one thread.  It takes a connection out of the pool for as long
as a statement runs or a transaction is open, and nests transactions: only the outermost
one is a transaction of the engine.

The device decides what the session meets: the connections that the pool hands out, the
statements that fail, the listeners that throw, the signals that are canceled.  Its
answers are numbered, and the session asks for them in order.  A listener does not call
the session back.  Assertions are checked.
-/

abbrev SQLiteConnection := Nat
abbrev SQLiteTransactionListener := Nat
abbrev CursorWindow := Nat

/-- Something that a statement has written. -/
abbrev Change := Nat

inductive Thrown where
  | illegalArgument
  | illegalState
  | operationCanceled
  /-- Any exception that a call of a connection ends with. -/
  | sqlite
  /-- Any exception of the pool. -/
  | pool
  | listener (listener : SQLiteTransactionListener)
  | assertion
  | nullPointer
  deriving DecidableEq, Repr

inductive Value where
  | nothing
  | bool (value : Bool)
  | long (value : Int)
  | string (value : Option String)
  | descriptor (value : Option Nat)
  deriving DecidableEq, Repr

inductive StatementType where
  | BEGIN
  | COMMIT
  | ABORT
  | OTHER
  deriving DecidableEq, Repr

def TRANSACTION_MODE_IMMEDIATE : Int := 1

def TRANSACTION_MODE_EXCLUSIVE : Int := 2

/-! ## The engine -/

/-- What a statement makes of the transaction that it finds. -/
inductive Deed where
  | writes (changes : List Change)
  | begins
  | commits
  | rollsBack
  deriving DecidableEq, Repr

inductive Control where
  | begin
  | commit
  | rollback
  deriving DecidableEq, Repr

/-- The statements by which the session controls the engine. -/
def controlOf : String → Option Control
  | "BEGIN IMMEDIATE;" => some .begin
  | "BEGIN EXCLUSIVE;" => some .begin
  | "BEGIN;" => some .begin
  | "COMMIT;" => some .commit
  | "ROLLBACK;" => some .rollback
  | _ => none

/-- The transaction that is open on each connection, with its changes so far, and the
changes of this session that are durable. -/
structure Engine where
  pending : SQLiteConnection → Option (List Change)
  kept : List Change

namespace Engine

variable (connection : SQLiteConnection) (engine : Engine)

def put (transaction : Option (List Change)) : Engine :=
  { engine with pending := Function.update engine.pending connection transaction }

def write (changes : List Change) : Engine :=
  match engine.pending connection with
  | some earlier => engine.put connection (some (earlier ++ changes))
  | none => { engine with kept := engine.kept ++ changes }

def begin : Engine :=
  if (engine.pending connection).isSome then engine else engine.put connection (some [])

def commit : Engine :=
  match engine.pending connection with
  | some changes => { engine.put connection none with kept := engine.kept ++ changes }
  | none => engine

def rollback : Engine := engine.put connection none

def apply (deed : Deed) : Engine :=
  match deed with
  | .writes changes => engine.write connection changes
  | .begins => engine.begin connection
  | .commits => engine.commit connection
  | .rollsBack => engine.rollback connection

/-- Whether a statement of the session fails.  `BEGIN` fails inside a transaction, and
`COMMIT` and `ROLLBACK` fail outside. -/
def refuses (control : Control) (fails : Bool) : Bool :=
  match control with
  | .begin => (engine.pending connection).isSome || fails
  | .commit => (engine.pending connection).isNone || fails
  | .rollback => (engine.pending connection).isNone || fails

def carryOut (control : Control) : Engine :=
  match control with
  | .begin => engine.begin connection
  | .commit => engine.commit connection
  | .rollback => engine.rollback connection

/-- A `COMMIT` or a `ROLLBACK` that fails may have ended the transaction all the same. -/
def obey (control : Control) (fails ends : Bool) : Engine :=
  if engine.refuses connection control fails then
    if control != .begin && ends then engine.rollback connection else engine
  else engine.carryOut connection control

/-- What other sessions have made of the connections. -/
def changed (others : SQLiteConnection → Option (List Change) → Option (List Change)) : Engine :=
  { engine with pending := fun connection => others connection (engine.pending connection) }

end Engine

/-! ## What the session meets -/

structure Answer where
  fails : Bool
  deed : Deed
  value : Value

structure Device where
  getSqlStatementType : String → StatementType
  isCanceled : Nat → Bool
  /-- Nothing, if the pool throws. -/
  acquireConnection : Nat → Option SQLiteConnection
  /-- What other sessions do while this one waits for a connection. -/
  meanwhile : Nat → SQLiteConnection → Option (List Change) → Option (List Change)
  releaseFails : Nat → Bool
  shouldYieldConnection : Nat → Bool
  /-- A statement that does not come from the session itself. -/
  answer : Nat → Answer
  controlFails : Nat → Bool
  controlEnds : Nat → Bool
  prepareFails : Nat → Bool
  callbackThrows : Nat → Bool

inductive Callback where
  | onBegin
  | onCommit
  | onRollback
  deriving DecidableEq, Repr

inductive Event where
  | acquired (connection : SQLiteConnection)
  | executed (connection : SQLiteConnection) (sql : String) (failed : Bool)
  | prepared (connection : SQLiteConnection) (sql : String) (failed : Bool)
  /-- With the word whether a transaction is open on the connection. -/
  | released (connection : SQLiteConnection) (inTransaction : Bool)
  | called (listener : SQLiteTransactionListener) (callback : Callback) (threw : Bool)
  | cleared (window : CursorWindow)
  deriving DecidableEq, Repr

structure Transaction where
  mMode : Int
  mListener : Option SQLiteTransactionListener
  mMarkedSuccessful : Bool
  mChildFailed : Bool
  deriving DecidableEq, Repr

/-- The lists are the objects that `mParent` links. -/
structure SQLiteSession where
  mConnection : Option SQLiteConnection
  mConnectionFlags : Int
  mConnectionUseCount : Int
  mTransactionPool : List Transaction
  mTransactionStack : List Transaction
  deriving DecidableEq, Repr

/-- A transaction of the engine that has come to its end: the block that it was, what was
written in it, and whether its last statement succeeded.  What is written outside of
transactions is durable at once. -/
inductive Past where
  | ended (block : Block) (changes : List Change) (accepted : Bool)
  | wrote (changes : List Change)

/-- What has happened, as the caller sees it.  The session does not read it. -/
structure Journal where
  /-- The blocks that are open, the innermost first. -/
  frames : List Frame
  /-- What was written since the outermost of them was opened. -/
  changes : List Change
  /-- The outermost block, while its last statement is executed. -/
  closing : Option Block
  history : List Past

structure World extends SQLiteSession where
  engine : Engine
  /-- The latest event first. -/
  traffic : List Event
  asked : Nat
  journal : Journal

def World.initial : World where
  mConnection := none
  mConnectionFlags := 0
  mConnectionUseCount := 0
  mTransactionPool := []
  mTransactionStack := []
  engine := ⟨fun _ => none, []⟩
  traffic := []
  asked := 0
  journal := ⟨[], [], none, []⟩

namespace Journal

variable (journal : Journal)

def opened : Journal := { journal with frames := .fresh :: journal.frames }

def marked : Journal :=
  match journal.frames with
  | [] => journal
  | frame :: rest => { journal with frames := frame.mark :: rest }

def closed (interrupted : Bool) : Journal :=
  match journal.frames with
  | [] => journal
  | [frame] => { journal with frames := [], closing := some (frame.close interrupted) }
  | frame :: outer :: rest =>
      { journal with frames := outer.enclose (frame.close interrupted) :: rest }

/-- The last statement of the outermost block has been executed. -/
def settled (accepted : Bool) : Journal :=
  match journal.closing with
  | none => journal
  | some block =>
      { journal with
        changes := []
        closing := none
        history := journal.history ++ [.ended block journal.changes accepted] }

def wrote (changes : List Change) : Journal :=
  if journal.frames.isEmpty then
    { journal with history := journal.history ++ [.wrote changes] }
  else { journal with changes := journal.changes ++ changes }

def did (deed : Deed) : Journal :=
  match deed with
  | .writes changes => journal.wrote changes
  | _ => journal

end Journal

/-! ## The session -/

section Methods

variable (device : Device)

/-- The next answer of the device. -/
def ask {α : Type} (answers : Nat → α) : EStateM Thrown World α :=
  modifyGet fun world => (answers world.asked, { world with asked := world.asked + 1 })

def note (event : Event) : EStateM Thrown World PUnit :=
  modify fun world => { world with traffic := event :: world.traffic }

def record (change : Journal → Journal) : EStateM Thrown World PUnit :=
  modify fun world => { world with journal := change world.journal }

def check (condition : Bool) : EStateM Thrown World PUnit :=
  if condition then pure ⟨⟩ else throw .assertion

/-- `if (cancellationSignal != null) cancellationSignal.throwIfCanceled()`. -/
def throwIfCanceled (cancellationSignal : Bool) : EStateM Thrown World PUnit :=
  if cancellationSignal then do
    let isCanceled ← ask device.isCanceled
    if isCanceled then throw .operationCanceled else pure ⟨⟩
  else pure ⟨⟩

/-! ### Calls of the connection and of listeners -/

/-- `mConnection`, where the source calls a method of it. -/
def connectionUsed : EStateM Thrown World SQLiteConnection := do
  let world ← get
  match world.mConnection with
  | none => throw .nullPointer
  | some connection => pure connection

def executeControl (connection : SQLiteConnection) (sql : String) (control : Control) :
    EStateM Thrown World Value := do
  let fails ← ask device.controlFails
  let ends ← ask device.controlEnds
  let world ← get
  let refused := world.engine.refuses connection control fails
  set { world with
    engine := world.engine.obey connection control fails ends
    traffic := .executed connection sql refused :: world.traffic
    journal := world.journal.settled (!refused) }
  if refused then throw .sqlite else pure .nothing

def executeOther (connection : SQLiteConnection) (sql : String) :
    EStateM Thrown World Value := do
  let answer ← ask device.answer
  modify fun world => { world with
    engine := world.engine.apply connection answer.deed
    traffic := .executed connection sql answer.fails :: world.traffic
    journal := world.journal.did answer.deed }
  if answer.fails then throw .sqlite else pure answer.value

/-- `mConnection.execute` and its variants. -/
def connectionExecute (sql : String) : EStateM Thrown World Value := do
  let connection ← connectionUsed
  match controlOf sql with
  | some control => executeControl device connection sql control
  | none => executeOther device connection sql

def connectionPrepare (sql : String) : EStateM Thrown World PUnit := do
  let connection ← connectionUsed
  let fails ← ask device.prepareFails
  note (.prepared connection sql fails)
  if fails then throw .sqlite else pure ⟨⟩

def callListener (listener : SQLiteTransactionListener) (callback : Callback) :
    EStateM Thrown World PUnit := do
  let throws ← ask device.callbackThrows
  note (.called listener callback throws)
  if throws then throw (.listener listener) else pure ⟨⟩

/-! ### Transactions and connections -/

/-- `mConnection = mConnectionPool.acquireConnection(..)`. -/
def acquireFromPool (connectionFlags : Int) : EStateM Thrown World PUnit := do
  let others ← ask device.meanwhile
  modify fun world => { world with engine := world.engine.changed others }
  let answer ← ask device.acquireConnection
  match answer with
  | none => throw .pool
  | some connection =>
      modify fun world => { world with
        mConnection := some connection
        mConnectionFlags := connectionFlags
        traffic := .acquired connection :: world.traffic }

def acquireConnection (connectionFlags : Int) : EStateM Thrown World PUnit := do
  let world ← get
  (if world.mConnection.isNone then do
    check (world.mConnectionUseCount == 0)
    acquireFromPool device connectionFlags
  else pure ⟨⟩)
  modify fun world => { world with mConnectionUseCount := world.mConnectionUseCount + 1 }

/-- `mConnectionPool.releaseConnection(mConnection)`. -/
def poolReleaseConnection : EStateM Thrown World PUnit := do
  let connection ← connectionUsed
  modify fun world => { world with
    traffic := .released connection (world.engine.pending connection).isSome :: world.traffic }
  let fails ← ask device.releaseFails
  if fails then throw .pool else pure ⟨⟩

def releaseConnection : EStateM Thrown World PUnit := do
  let world ← get
  check world.mConnection.isSome
  check (decide (world.mConnectionUseCount > 0))
  modify fun world => { world with mConnectionUseCount := world.mConnectionUseCount - 1 }
  let world ← get
  if world.mConnectionUseCount == 0 then
    ensuring (poolReleaseConnection device) (modify fun world => { world with mConnection := none })
  else pure ⟨⟩

def obtainTransaction (mode : Int) (listener : Option SQLiteTransactionListener) :
    EStateM Thrown World Transaction := do
  let world ← get
  match world.mTransactionPool with
  | transaction :: rest =>
      set { world with mTransactionPool := rest }
      pure { transaction with
        mMarkedSuccessful := false
        mChildFailed := false
        mMode := mode
        mListener := listener }
  | [] => pure ⟨mode, listener, false, false⟩

def recycleTransaction (transaction : Transaction) : EStateM Thrown World PUnit :=
  modify fun world => { world with
    mTransactionPool := { transaction with mListener := none } :: world.mTransactionPool }

def hasNestedTransaction : EStateM Thrown World Bool := do
  let world ← get
  pure (!world.mTransactionStack.tail.isEmpty)

def throwIfNoTransaction : EStateM Thrown World PUnit := do
  let world ← get
  if world.mTransactionStack.isEmpty then throw .illegalState else pure ⟨⟩

/-- `mTransactionStack.mMarkedSuccessful`, if there is a transaction. -/
def topMarked (stack : List Transaction) : Bool :=
  match stack with
  | [] => false
  | top :: _ => top.mMarkedSuccessful

def throwIfTransactionMarkedSuccessful : EStateM Thrown World PUnit := do
  let world ← get
  if topMarked world.mTransactionStack then throw .illegalState else pure ⟨⟩

def throwIfNestedTransaction : EStateM Thrown World PUnit := do
  let nested ← hasNestedTransaction
  if nested then throw .illegalState else pure ⟨⟩

/-- The text that begins a transaction of a mode. -/
def beginText (transactionMode : Int) : String :=
  if transactionMode = TRANSACTION_MODE_IMMEDIATE then "BEGIN IMMEDIATE;"
  else if transactionMode = TRANSACTION_MODE_EXCLUSIVE then "BEGIN EXCLUSIVE;"
  else "BEGIN;"

def executeIfOutermost (sql : String) : EStateM Thrown World PUnit := do
  let world ← get
  if world.mTransactionStack.isEmpty then do
    let _ ← connectionExecute device sql
    pure ⟨⟩
  else pure ⟨⟩

/-- `transactionListener.onBegin()`, and what follows if it throws. -/
def announce (transactionListener : Option SQLiteTransactionListener) :
    EStateM Thrown World PUnit :=
  match transactionListener with
  | none => pure ⟨⟩
  | some listener =>
      tryCatch (callListener device listener .onBegin) fun thrown => do
        executeIfOutermost device "ROLLBACK;"
        throw thrown

def pushTransaction (transactionMode : Int)
    (transactionListener : Option SQLiteTransactionListener) : EStateM Thrown World PUnit := do
  let transaction ← obtainTransaction transactionMode transactionListener
  modify fun world => { world with
    mTransactionStack := transaction :: world.mTransactionStack }
  record Journal.opened

def releaseIfOutermost : EStateM Thrown World PUnit := do
  let world ← get
  if world.mTransactionStack.isEmpty then releaseConnection device else pure ⟨⟩

def beginTransactionUnchecked (transactionMode : Int)
    (transactionListener : Option SQLiteTransactionListener) (connectionFlags : Int)
    (cancellationSignal : Bool) : EStateM Thrown World PUnit := do
  throwIfCanceled device cancellationSignal
  let world ← get
  (if world.mTransactionStack.isEmpty then acquireConnection device connectionFlags
  else pure ⟨⟩)
  ensuring
    (do
      executeIfOutermost device (beginText transactionMode)
      announce device transactionListener
      pushTransaction transactionMode transactionListener)
    (releaseIfOutermost device)

def beginTransaction (transactionMode : Int)
    (transactionListener : Option SQLiteTransactionListener) (connectionFlags : Int)
    (cancellationSignal : Bool) : EStateM Thrown World PUnit := do
  throwIfTransactionMarkedSuccessful
  beginTransactionUnchecked device transactionMode transactionListener connectionFlags
    cancellationSignal

/-- A change of the transaction on the top of the stack. -/
def onTop (change : Transaction → Transaction) : List Transaction → List Transaction
  | [] => []
  | top :: rest => change top :: rest

def setTransactionSuccessful : EStateM Thrown World PUnit := do
  throwIfNoTransaction
  throwIfTransactionMarkedSuccessful
  modify fun world => { world with
    mTransactionStack :=
      onTop (fun top => { top with mMarkedSuccessful := true }) world.mTransactionStack }
  record Journal.marked

/-- Calls `onCommit` or `onRollback`, and returns what is thrown. -/
def callEnding (listener : Option SQLiteTransactionListener) (successful : Bool) :
    EStateM Thrown World (Option Thrown) :=
  match listener with
  | none => pure none
  | some listener =>
      tryCatch
        (do
          callListener device listener (if successful then .onCommit else .onRollback)
          pure none)
        fun thrown => pure (some thrown)

/-- The end of the outermost transaction. -/
def endOutermost (successful : Bool) : EStateM Thrown World PUnit :=
  ensuring
    (do
      let _ ← connectionExecute device (if successful then "COMMIT;" else "ROLLBACK;")
      pure ⟨⟩)
    (releaseConnection device)

/-- The end of a nested transaction. -/
def endNested (successful : Bool) : EStateM Thrown World PUnit :=
  if successful then pure ⟨⟩
  else
    modify fun world => { world with
      mTransactionStack :=
        onTop (fun top => { top with mChildFailed := true }) world.mTransactionStack }

def rethrow (exception : Option Thrown) : EStateM Thrown World PUnit :=
  match exception with
  | none => pure ⟨⟩
  | some thrown => throw thrown

/-- What follows when the listener has been called. -/
def conclude (top : Transaction) (parent : List Transaction) (yielding successful : Bool)
    (listenerException : Option Thrown) : EStateM Thrown World PUnit := do
  modify fun world => { world with mTransactionStack := parent }
  recycleTransaction top
  record fun journal =>
    (if yielding then journal.marked else journal).closed listenerException.isSome
  (if parent.isEmpty then endOutermost device successful else endNested successful)
  rethrow listenerException

def endTransactionUnchecked (cancellationSignal yielding : Bool) :
    EStateM Thrown World PUnit := do
  throwIfCanceled device cancellationSignal
  let world ← get
  match world.mTransactionStack with
  | [] => throw .nullPointer
  | top :: parent => do
      let wanted := (top.mMarkedSuccessful || yielding) && !top.mChildFailed
      let listenerException ← callEnding device top.mListener wanted
      conclude device top parent yielding (wanted && listenerException.isNone) listenerException

def endTransaction (cancellationSignal : Bool) : EStateM Thrown World PUnit := do
  throwIfNoTransaction
  let world ← get
  check world.mConnection.isSome
  endTransactionUnchecked device cancellationSignal false

def yieldTransactionUnchecked (cancellationSignal : Bool) : EStateM Thrown World Bool := do
  throwIfCanceled device cancellationSignal
  let shouldYield ← ask device.shouldYieldConnection
  if shouldYield then do
    let world ← get
    match world.mTransactionStack with
    | [] => throw .nullPointer
    | top :: _ => do
        let connectionFlags := world.mConnectionFlags
        endTransactionUnchecked device cancellationSignal true
        beginTransactionUnchecked device top.mMode top.mListener connectionFlags
          cancellationSignal
        pure true
  else pure false

/-- Whether a transaction can be yielded: it is the only one, and is not marked. -/
def yieldable (stack : List Transaction) : Bool :=
  !stack.isEmpty && !topMarked stack && stack.tail.isEmpty

def topChildFailed (stack : List Transaction) : Bool :=
  match stack with
  | [] => false
  | top :: _ => top.mChildFailed

def throwIfUnyieldable : EStateM Thrown World PUnit := do
  throwIfNoTransaction
  throwIfTransactionMarkedSuccessful
  throwIfNestedTransaction

def yieldTransaction (throwIfUnsafe cancellationSignal : Bool) :
    EStateM Thrown World Bool := do
  (if throwIfUnsafe then throwIfUnyieldable else pure ⟨⟩)
  let world ← get
  if !throwIfUnsafe && !yieldable world.mTransactionStack then pure false
  else do
    check world.mConnection.isSome
    if topChildFailed world.mTransactionStack then pure false
    else yieldTransactionUnchecked device cancellationSignal

/-! ### Statements -/

def executeSpecial (sql : String) (connectionFlags : Int) (cancellationSignal : Bool) :
    EStateM Thrown World Bool := do
  throwIfCanceled device cancellationSignal
  match device.getSqlStatementType sql with
  | .BEGIN =>
      beginTransaction device TRANSACTION_MODE_EXCLUSIVE none connectionFlags cancellationSignal
      pure true
  | .COMMIT =>
      setTransactionSuccessful
      endTransaction device cancellationSignal
      pure true
  | .ABORT =>
      endTransaction device cancellationSignal
      pure true
  | .OTHER => pure false

/-- What `prepare` and the variants of `execute` do with the connection that they need. -/
def withConnection {α : Type} (connectionFlags : Int) (body : EStateM Thrown World α) :
    EStateM Thrown World α := do
  acquireConnection device connectionFlags
  ensuring body (releaseConnection device)

def prepare (sql : Option String) (connectionFlags : Int) (cancellationSignal : Bool) :
    EStateM Thrown World Value :=
  match sql with
  | none => throw .illegalArgument
  | some sql => do
      throwIfCanceled device cancellationSignal
      withConnection device connectionFlags do
        connectionPrepare device sql
        pure .nothing

/-- The variants of `execute`, by the value that they return for a statement that controls
a transaction. -/
def executing (special : EStateM Thrown World Value) (sql : Option String)
    (connectionFlags : Int) (cancellationSignal : Bool) : EStateM Thrown World Value :=
  match sql with
  | none => throw .illegalArgument
  | some sql => do
      let isSpecial ← executeSpecial device sql connectionFlags cancellationSignal
      if isSpecial then special
      else withConnection device connectionFlags (connectionExecute device sql)

def execute : Option String → Int → Bool → EStateM Thrown World Value :=
  executing device (pure .nothing)

def executeForLong : Option String → Int → Bool → EStateM Thrown World Value :=
  executing device (pure (.long 0))

def executeForString : Option String → Int → Bool → EStateM Thrown World Value :=
  executing device (pure (.string none))

def executeForBlobFileDescriptor : Option String → Int → Bool → EStateM Thrown World Value :=
  executing device (pure (.descriptor none))

def executeForChangedRowCount : Option String → Int → Bool → EStateM Thrown World Value :=
  executing device (pure (.long 0))

def executeForLastInsertedRowId : Option String → Int → Bool → EStateM Thrown World Value :=
  executing device (pure (.long 0))

def executeForCursorWindow (window : Option CursorWindow) (sql : Option String)
    (connectionFlags : Int) (cancellationSignal : Bool) : EStateM Thrown World Value :=
  match window with
  | none => throw .illegalArgument
  | some window =>
      executing device
        (do
          note (.cleared window)
          pure (.long 0))
        sql connectionFlags cancellationSignal

end Methods

/-! ## Runs -/

inductive Method where
  | execute
  | executeForLong
  | executeForString
  | executeForBlobFileDescriptor
  | executeForChangedRowCount
  | executeForLastInsertedRowId
  | executeForCursorWindow (window : Option CursorWindow)
  deriving DecidableEq, Repr

inductive Call where
  | beginTransaction (transactionMode : Int)
      (transactionListener : Option SQLiteTransactionListener) (connectionFlags : Int)
      (cancellationSignal : Bool)
  | setTransactionSuccessful
  | endTransaction (cancellationSignal : Bool)
  | yieldTransaction (throwIfUnsafe cancellationSignal : Bool)
  | prepare (sql : Option String) (connectionFlags : Int) (cancellationSignal : Bool)
  | execute (method : Method) (sql : Option String) (connectionFlags : Int)
      (cancellationSignal : Bool)
  deriving DecidableEq, Repr

variable (device : Device)

def Method.run : Method → Option String → Int → Bool → EStateM Thrown World Value
  | .execute => Session.execute device
  | .executeForLong => Session.executeForLong device
  | .executeForString => Session.executeForString device
  | .executeForBlobFileDescriptor => Session.executeForBlobFileDescriptor device
  | .executeForChangedRowCount => Session.executeForChangedRowCount device
  | .executeForLastInsertedRowId => Session.executeForLastInsertedRowId device
  | .executeForCursorWindow window => Session.executeForCursorWindow device window

def Call.run : Call → EStateM Thrown World Value
  | .beginTransaction mode listener flags signal => do
      Session.beginTransaction device mode listener flags signal
      pure .nothing
  | .setTransactionSuccessful => do
      Session.setTransactionSuccessful
      pure .nothing
  | .endTransaction signal => do
      Session.endTransaction device signal
      pure .nothing
  | .yieldTransaction throwIfUnsafe signal => do
      let yielded ← Session.yieldTransaction device throwIfUnsafe signal
      pure (.bool yielded)
  | .prepare sql flags signal => Session.prepare device sql flags signal
  | .execute method sql flags signal => method.run device sql flags signal

/-- The calls of one thread, one after the other. -/
def session : Machine World Call (Except Thrown Value) := object (Call.run device)

end Session
end ModuleDatabase
