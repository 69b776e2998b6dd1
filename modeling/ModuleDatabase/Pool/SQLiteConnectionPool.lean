import Mathlib.Logic.Function.Basic
import ModuleDatabase.Base.Effect

namespace ModuleDatabase
namespace Pool

/-!
# The pool of connections

`SQLiteConnectionPool` hands connections out and takes them back.  All of its
methods run under one lock, so each is a single step here; a thread that finds no
connection enqueues a waiter, and the steps of its wait are in `Pool.Threads`.

The linked lists of waiters are lists, waiters are numbered objects, and a
connection is known by its number.  What the connections do when they are called
is decided by the device.
-/

abbrev Thread := Nat
abbrev WaiterRef := Nat

inductive Thrown where
  | illegalState
  | illegalArgument
  /-- Any exception that a call of a connection ends with. -/
  | sqlite
  | operationCanceled
  | nullPointer
  deriving DecidableEq, Repr

def ENABLE_WRITE_AHEAD_LOGGING : BitVec 32 := 0x20000000#32

def CONNECTION_FLAG_READ_ONLY : BitVec 32 := 1#32 <<< 0

def CONNECTION_FLAG_PRIMARY_CONNECTION_AFFINITY : BitVec 32 := 1#32 <<< 1

def CONNECTION_FLAG_INTERACTIVE : BitVec 32 := 1#32 <<< 2

/-- `(flags & mask) != 0`. -/
def hasFlag (flags mask : BitVec 32) : Bool := flags &&& mask != 0#32

structure SQLiteDatabaseConfiguration where
  path : String
  openFlags : BitVec 32
  maxSqlCacheSize : Int
  locale : String
  foreignKeyConstraintsEnabled : Bool
  /-- The registered functions, by their numbers. -/
  customFunctions : List Nat
  deriving DecidableEq, Repr

/-- The number and the kind of a connection never change. -/
structure SQLiteConnection where
  mConnectionId : Nat
  mIsPrimaryConnection : Bool
  deriving DecidableEq, Repr

/-- The fields of a connection that the pool changes. -/
structure ConnectionFields where
  mConfiguration : SQLiteDatabaseConfiguration
  mOnlyAllowReadOnlyOperations : Bool
  deriving DecidableEq, Repr

/-- What becomes of an acquired connection when it is released. -/
inductive AcquiredConnectionStatus where
  | NORMAL
  | RECONFIGURE
  | DISCARD
  deriving DecidableEq, Repr

/-- `recyclings` counts how often `mNonce`, an `int`, has been incremented.  `arrival`
is not in the source: it numbers the requests that had to wait. -/
structure ConnectionWaiter where
  mThread : Option Thread := none
  mPriority : Nat := 0
  mWantPrimaryConnection : Bool := false
  mSql : Option String := none
  mConnectionFlags : BitVec 32 := 0#32
  mAssignedConnection : Option SQLiteConnection := none
  mException : Option Thrown := none
  recyclings : Nat := 0
  arrival : Nat := 0
  deriving DecidableEq, Repr

namespace ConnectionWaiter

/-- `waiter.mNonce`. -/
def mNonce (waiter : ConnectionWaiter) : BitVec 32 := BitVec.ofNat 32 waiter.recyclings

/-- `waiter.mAssignedConnection = connection`. -/
def assigned (connection : SQLiteConnection) (waiter : ConnectionWaiter) : ConnectionWaiter :=
  { waiter with mAssignedConnection := some connection }

/-- `waiter.mException = thrown`. -/
def failed (thrown : Thrown) (waiter : ConnectionWaiter) : ConnectionWaiter :=
  { waiter with mException := some thrown }

end ConnectionWaiter

/-- The fields of the pool and, below them, the objects that they refer to.
`opened` and `closed` list the connections that have been opened and those whose
`close` has been called, `calls` counts the calls of connections, and `permits`
says for which threads `LockSupport.unpark` has been called. -/
structure SQLiteConnectionPool where
  mConfiguration : SQLiteDatabaseConfiguration
  mMaxConnectionPoolSize : Nat
  mIsOpen : Bool
  mNextConnectionId : Nat
  mConnectionWaiterPool : List WaiterRef
  mConnectionWaiterQueue : List WaiterRef
  mAvailableNonPrimaryConnections : List SQLiteConnection
  mAvailablePrimaryConnection : Option SQLiteConnection
  mAcquiredConnections : List (SQLiteConnection × AcquiredConnectionStatus)
  mConnectionLeaked : Bool
  waiters : WaiterRef → ConnectionWaiter
  waiterCount : Nat
  arrivals : Nat
  fields : SQLiteConnection → ConnectionFields
  opened : List SQLiteConnection
  closed : List SQLiteConnection
  calls : Nat
  permits : Thread → Bool

/-- What the calls of connections do: whether opening the connection with a number
succeeds, whether `reconfigure` does when it is the call with a number, and what is in
which statement cache by then. -/
structure Device where
  opens : Nat → Bool
  reconfigures : Nat → Bool
  cached : Nat → SQLiteConnection → String → Bool

abbrev Locked := EStateM Thrown SQLiteConnectionPool

/-- `SQLiteGlobal.getWALConnectionPoolSize`. -/
def getWALConnectionPoolSize : Nat := max 2 10

/-- `setMaxConnectionPoolSizeLocked`, for these open flags. -/
def maxConnectionPoolSize (openFlags : BitVec 32) : Nat :=
  if hasFlag openFlags ENABLE_WRITE_AHEAD_LOGGING then getWALConnectionPoolSize else 1

def getPriority (connectionFlags : BitVec 32) : Nat :=
  if hasFlag connectionFlags CONNECTION_FLAG_INTERACTIVE then 1 else 0

namespace SQLiteConnectionPool

section Methods

variable (device : Device)

/-- The pool that `open` returns: the primary connection is open. -/
def «open» (configuration : SQLiteDatabaseConfiguration) : SQLiteConnectionPool where
  mConfiguration := configuration
  mMaxConnectionPoolSize := maxConnectionPoolSize configuration.openFlags
  mIsOpen := true
  mNextConnectionId := 1
  mConnectionWaiterPool := []
  mConnectionWaiterQueue := []
  mAvailableNonPrimaryConnections := []
  mAvailablePrimaryConnection := some ⟨0, true⟩
  mAcquiredConnections := []
  mConnectionLeaked := false
  waiters := fun _ => {}
  waiterCount := 0
  arrivals := 0
  fields := fun _ => ⟨configuration, false⟩
  opened := [⟨0, true⟩]
  closed := []
  calls := 0
  permits := fun _ => false

/-! ## Single connections -/

/-- A failing `close` is logged and has no other effect on the pool. -/
def closeConnectionAndLogExceptionsLocked (connection : SQLiteConnection)
    (pool : SQLiteConnectionPool) : SQLiteConnectionPool :=
  { pool with closed := connection :: pool.closed }

def openConnectionLocked (configuration : SQLiteDatabaseConfiguration)
    (primaryConnection : Bool) : Locked SQLiteConnection := fun pool =>
  let connection : SQLiteConnection := ⟨pool.mNextConnectionId, primaryConnection⟩
  if device.opens connection.mConnectionId then
    .ok connection { pool with
      mNextConnectionId := pool.mNextConnectionId + 1
      fields := Function.update pool.fields connection ⟨configuration, false⟩
      opened := connection :: pool.opened }
  else .error .sqlite { pool with mNextConnectionId := pool.mNextConnectionId + 1 }

/-- `connection.reconfigure(mConfiguration)`, and whether it returned. -/
def reconfigureConnection (connection : SQLiteConnection) (pool : SQLiteConnectionPool) :
    Bool × SQLiteConnectionPool :=
  (device.reconfigures pool.calls,
    { pool with
      calls := pool.calls + 1
      fields := Function.update pool.fields connection
        ⟨if device.reconfigures pool.calls then pool.mConfiguration
          else (pool.fields connection).mConfiguration, false⟩ })

/-- `mAcquiredConnections.put`. -/
def putAcquired (connection : SQLiteConnection) (status : AcquiredConnectionStatus)
    (pool : SQLiteConnectionPool) : SQLiteConnectionPool :=
  { pool with
    mAcquiredConnections :=
      (connection, status) :: pool.mAcquiredConnections.filter (·.1 != connection) }

/-- `setOnlyAllowReadOnlyOperations` is an assignment, so nothing here throws. -/
def finishAcquireConnectionLocked (connection : SQLiteConnection) (connectionFlags : BitVec 32)
    (pool : SQLiteConnectionPool) : SQLiteConnectionPool :=
  putAcquired connection .NORMAL { pool with
    calls := pool.calls + 1
    fields := Function.update pool.fields connection
      { pool.fields connection with
        mOnlyAllowReadOnlyOperations := hasFlag connectionFlags CONNECTION_FLAG_READ_ONLY } }

/-! ## Acquiring without waiting -/

def tryAcquirePrimaryConnectionLocked (connectionFlags : BitVec 32) :
    Locked (Option SQLiteConnection) := fun pool =>
  match pool.mAvailablePrimaryConnection with
  | some connection =>
      .ok (some connection) (finishAcquireConnectionLocked connection connectionFlags
        { pool with mAvailablePrimaryConnection := none })
  | none =>
      if pool.mAcquiredConnections.any (·.1.mIsPrimaryConnection) then .ok none pool
      else
        match openConnectionLocked device pool.mConfiguration true pool with
        | .ok connection pool =>
            .ok (some connection) (finishAcquireConnectionLocked connection connectionFlags pool)
        | .error thrown pool => .error thrown pool

/-- The available connection that is taken: one with the statement in its cache, where
there is a choice, and otherwise the last. -/
def nextNonPrimary (sql : Option String) (pool : SQLiteConnectionPool) : Option SQLiteConnection :=
  let available := pool.mAvailableNonPrimaryConnections
  let cached :=
    if 1 < available.length then
      sql.bind fun sql => available.find? fun connection => device.cached pool.calls connection sql
    else none
  cached.or available.getLast?

/-- The connections that count when the pool may grow. -/
def openConnections (pool : SQLiteConnectionPool) : Nat :=
  pool.mAcquiredConnections.length + (if pool.mAvailablePrimaryConnection.isSome then 1 else 0)

def tryAcquireNonPrimaryConnectionLocked (sql : Option String) (connectionFlags : BitVec 32) :
    Locked (Option SQLiteConnection) := fun pool =>
  match nextNonPrimary device sql pool with
  | some connection =>
      .ok (some connection) (finishAcquireConnectionLocked connection connectionFlags { pool with
        mAvailableNonPrimaryConnections := pool.mAvailableNonPrimaryConnections.erase connection })
  | none =>
      if pool.mMaxConnectionPoolSize ≤ pool.openConnections then .ok none pool
      else
        match openConnectionLocked device pool.mConfiguration false pool with
        | .ok connection pool =>
            .ok (some connection) (finishAcquireConnectionLocked connection connectionFlags pool)
        | .error thrown pool => .error thrown pool

/-! ## Waking waiters -/

/-- The pool and the two local variables of `wakeConnectionWaitersLocked`. -/
structure Waking where
  pool : SQLiteConnectionPool
  primaryConnectionNotAvailable : Bool := false
  nonPrimaryConnectionNotAvailable : Bool := false

/-- The first attempt for a waiter. -/
def offerNonPrimary (waiter : ConnectionWaiter) :
    EStateM Thrown Waking (Option SQLiteConnection) := fun waking =>
  if waiter.mWantPrimaryConnection || waking.nonPrimaryConnectionNotAvailable then .ok none waking
  else
    match tryAcquireNonPrimaryConnectionLocked device waiter.mSql waiter.mConnectionFlags
      waking.pool with
    | .ok (some connection) pool => .ok (some connection) { waking with pool := pool }
    | .ok none pool =>
        .ok none { waking with pool := pool, nonPrimaryConnectionNotAvailable := true }
    | .error thrown pool => .error thrown { waking with pool := pool }

/-- The second attempt for a waiter. -/
def offerPrimary (waiter : ConnectionWaiter) :
    EStateM Thrown Waking (Option SQLiteConnection) := fun waking =>
  if waking.primaryConnectionNotAvailable then .ok none waking
  else
    match tryAcquirePrimaryConnectionLocked device waiter.mConnectionFlags waking.pool with
    | .ok (some connection) pool => .ok (some connection) { waking with pool := pool }
    | .ok none pool =>
        .ok none { waking with pool := pool, primaryConnectionNotAvailable := true }
    | .error thrown pool => .error thrown { waking with pool := pool }

/-- The try of the loop. -/
def offer (waiter : ConnectionWaiter) : EStateM Thrown Waking (Option SQLiteConnection) :=
  fun waking =>
    match offerNonPrimary device waiter waking with
    | .ok none waking => offerPrimary device waiter waking
    | result => result

/-- `LockSupport.unpark`, which does nothing for a null thread. -/
def unparkThread (thread : Option Thread) (permits : Thread → Bool) : Thread → Bool :=
  match thread with
  | some thread => Function.update permits thread true
  | none => permits

/-- A waiter is changed, taken out of the queue and its thread is unparked. -/
def unpark (ref : WaiterRef) (change : ConnectionWaiter → ConnectionWaiter)
    (pool : SQLiteConnectionPool) : SQLiteConnectionPool :=
  { pool with
    waiters := Function.update pool.waiters ref (change (pool.waiters ref))
    mConnectionWaiterQueue := pool.mConnectionWaiterQueue.erase ref
    permits := unparkThread (pool.waiters ref).mThread pool.permits }

/-- The loop of `wakeConnectionWaitersLocked`, from a waiter of the queue on. -/
def wakeLoop : List WaiterRef → Waking → SQLiteConnectionPool
  | [], waking => waking.pool
  | ref :: successors, waking =>
      if waking.pool.mIsOpen then
        match offer device (waking.pool.waiters ref) waking with
        | .ok (some connection) waking =>
            wakeLoop successors { waking with pool := unpark ref (.assigned connection) waking.pool }
        | .ok none waking =>
            if waking.nonPrimaryConnectionNotAvailable && waking.primaryConnectionNotAvailable then
              waking.pool
            else wakeLoop successors waking
        | .error thrown waking =>
            wakeLoop successors { waking with pool := unpark ref (.failed thrown) waking.pool }
      else wakeLoop successors { waking with pool := unpark ref id waking.pool }

def wakeConnectionWaitersLocked (pool : SQLiteConnectionPool) : SQLiteConnectionPool :=
  wakeLoop device pool.mConnectionWaiterQueue { pool := pool }

/-! ## Closing and reconfiguring -/

def closeAvailableNonPrimaryConnectionsAndLogExceptionsLocked (pool : SQLiteConnectionPool) :
    SQLiteConnectionPool :=
  { pool.mAvailableNonPrimaryConnections.foldl
      (fun pool connection => closeConnectionAndLogExceptionsLocked connection pool) pool with
    mAvailableNonPrimaryConnections := [] }

def closeAvailableConnectionsAndLogExceptionsLocked (pool : SQLiteConnectionPool) :
    SQLiteConnectionPool :=
  let pool := closeAvailableNonPrimaryConnectionsAndLogExceptionsLocked pool
  match pool.mAvailablePrimaryConnection with
  | some connection =>
      { closeConnectionAndLogExceptionsLocked connection pool with
        mAvailablePrimaryConnection := none }
  | none => pool

/-- Connections are closed from the end of the list on. -/
def closeExcessConnectionsAndLogExceptionsLocked (pool : SQLiteConnectionPool) :
    SQLiteConnectionPool :=
  let bound := pool.mMaxConnectionPoolSize - 1
  { (pool.mAvailableNonPrimaryConnections.drop bound).foldr
      (fun connection pool => closeConnectionAndLogExceptionsLocked connection pool) pool with
    mAvailableNonPrimaryConnections := pool.mAvailableNonPrimaryConnections.take bound }

/-- `DISCARD` is never taken back. -/
def markAcquiredConnectionsLocked (status : AcquiredConnectionStatus)
    (pool : SQLiteConnectionPool) : SQLiteConnectionPool :=
  { pool with
    mAcquiredConnections := pool.mAcquiredConnections.map fun entry =>
      if status != entry.2 && entry.2 != .DISCARD then (entry.1, status) else entry }

def discardAcquiredConnectionsLocked (pool : SQLiteConnectionPool) : SQLiteConnectionPool :=
  markAcquiredConnectionsLocked .DISCARD pool

/-- An available connection that cannot be reconfigured is closed; the result says
whether it is kept. -/
def reconfigureAvailable (connection : SQLiteConnection) (pool : SQLiteConnectionPool) :
    Bool × SQLiteConnectionPool :=
  match reconfigureConnection device connection pool with
  | (true, pool) => (true, pool)
  | (false, pool) => (false, closeConnectionAndLogExceptionsLocked connection pool)

/-- The loop over the available connections: those that are kept, and the pool. -/
def reconfigureNonPrimary :
    List SQLiteConnection → SQLiteConnectionPool → List SQLiteConnection × SQLiteConnectionPool
  | [], pool => ([], pool)
  | connection :: rest, pool =>
      match reconfigureAvailable device connection pool with
      | (true, pool) =>
          let result := reconfigureNonPrimary rest pool
          (connection :: result.1, result.2)
      | (false, pool) => reconfigureNonPrimary rest pool

/-- The part of `reconfigureAllConnectionsLocked` about the primary connection. -/
def reconfigurePrimary (pool : SQLiteConnectionPool) : SQLiteConnectionPool :=
  match pool.mAvailablePrimaryConnection with
  | none => pool
  | some connection =>
      match reconfigureAvailable device connection pool with
      | (true, pool) => pool
      | (false, pool) => { pool with mAvailablePrimaryConnection := none }

def reconfigureAllConnectionsLocked (pool : SQLiteConnectionPool) : SQLiteConnectionPool :=
  let pool := reconfigurePrimary device pool
  let result := reconfigureNonPrimary device pool.mAvailableNonPrimaryConnections pool
  markAcquiredConnectionsLocked .RECONFIGURE
    { result.2 with mAvailableNonPrimaryConnections := result.1 }

def close : Locked Unit := fun pool =>
  if !pool.mIsOpen then .error .illegalState pool
  else
    .ok () (wakeConnectionWaitersLocked device
      (closeAvailableConnectionsAndLogExceptionsLocked { pool with mIsOpen := false }))

/-- `mConfiguration.updateParametersFrom(configuration)` and
`setMaxConnectionPoolSizeLocked()`. -/
def updateParametersFrom (configuration : SQLiteDatabaseConfiguration) : Locked Unit := fun pool =>
  if pool.mConfiguration.path = configuration.path then
    .ok () { pool with
      mConfiguration := configuration
      mMaxConnectionPoolSize := maxConnectionPoolSize configuration.openFlags }
  else .error .illegalArgument pool

/-- The branch of `reconfigure` where the open flags change. -/
def reopen (configuration : SQLiteDatabaseConfiguration) (walModeChanged : Bool) :
    Locked Unit := fun pool =>
  let pool := if walModeChanged then closeAvailableConnectionsAndLogExceptionsLocked pool else pool
  match openConnectionLocked device configuration true pool with
  | .error thrown pool => .error thrown pool
  | .ok newPrimaryConnection pool =>
      updateParametersFrom configuration
        { discardAcquiredConnectionsLocked
            (closeAvailableConnectionsAndLogExceptionsLocked pool) with
          mAvailablePrimaryConnection := some newPrimaryConnection }

/-- The other branch. -/
def reconfigureInPlace (configuration : SQLiteDatabaseConfiguration) : Locked Unit := fun pool =>
  match updateParametersFrom configuration pool with
  | .error thrown pool => .error thrown pool
  | .ok () pool =>
      .ok () (reconfigureAllConnectionsLocked device
        (closeExcessConnectionsAndLogExceptionsLocked pool))

def reconfigure (configuration : SQLiteDatabaseConfiguration) : Locked Unit := fun pool =>
  let walModeChanged :=
    hasFlag (configuration.openFlags ^^^ pool.mConfiguration.openFlags) ENABLE_WRITE_AHEAD_LOGGING
  let foreignKeyModeChanged :=
    configuration.foreignKeyConstraintsEnabled != pool.mConfiguration.foreignKeyConstraintsEnabled
  if !pool.mIsOpen then .error .illegalState pool
  else if walModeChanged && !pool.mAcquiredConnections.isEmpty then .error .illegalState pool
  else
    let pool :=
      if walModeChanged then closeAvailableNonPrimaryConnectionsAndLogExceptionsLocked pool
      else pool
    if foreignKeyModeChanged && !pool.mAcquiredConnections.isEmpty then .error .illegalState pool
    else
      match
        (if pool.mConfiguration.openFlags = configuration.openFlags then
          reconfigureInPlace device configuration
        else reopen device configuration walModeChanged) pool with
      | .error thrown pool => .error thrown pool
      | .ok () pool => .ok () (wakeConnectionWaitersLocked device pool)

/-! ## Releasing -/

/-- Whether the connection may be used again. -/
def recycleConnectionLocked (connection : SQLiteConnection) (status : AcquiredConnectionStatus)
    (pool : SQLiteConnectionPool) : Bool × SQLiteConnectionPool :=
  match status with
  | .NORMAL => (true, pool)
  | .RECONFIGURE =>
      match reconfigureConnection device connection pool with
      | (true, pool) => (true, pool)
      | (false, pool) => (false, closeConnectionAndLogExceptionsLocked connection pool)
  | .DISCARD => (false, closeConnectionAndLogExceptionsLocked connection pool)

/-- `mAcquiredConnections.remove`. -/
def removeAcquired (connection : SQLiteConnection) (pool : SQLiteConnectionPool) :
    SQLiteConnectionPool :=
  { pool with mAcquiredConnections := pool.mAcquiredConnections.filter (·.1 != connection) }

/-- What `releaseConnection` does with a connection of the pool. -/
def putBack (connection : SQLiteConnection) (status : AcquiredConnectionStatus)
    (pool : SQLiteConnectionPool) : SQLiteConnectionPool :=
  if !pool.mIsOpen then closeConnectionAndLogExceptionsLocked connection pool
  else if connection.mIsPrimaryConnection then
    let (recycled, pool) := recycleConnectionLocked device connection status pool
    wakeConnectionWaitersLocked device
      (if recycled then { pool with mAvailablePrimaryConnection := some connection } else pool)
  else if pool.mMaxConnectionPoolSize ≤ pool.mAvailableNonPrimaryConnections.length + 1 then
    closeConnectionAndLogExceptionsLocked connection pool
  else
    let (recycled, pool) := recycleConnectionLocked device connection status pool
    wakeConnectionWaitersLocked device
      (if recycled then
        { pool with
          mAvailableNonPrimaryConnections := pool.mAvailableNonPrimaryConnections ++ [connection] }
      else pool)

def releaseConnection (connection : SQLiteConnection) : Locked Unit := fun pool =>
  match pool.mAcquiredConnections.lookup connection with
  | none => .error .illegalState pool
  | some status => .ok () (putBack device connection status (removeAcquired connection pool))

/-! ## Waiting -/

/-- `obtainConnectionWaiterLocked`: a recycled waiter, or a new one. -/
def obtainConnectionWaiterLocked (thread : Thread) (priority : Nat)
    (wantPrimaryConnection : Bool) (sql : Option String) (connectionFlags : BitVec 32)
    (pool : SQLiteConnectionPool) : WaiterRef × SQLiteConnectionPool :=
  let ref := pool.mConnectionWaiterPool.headD pool.waiterCount
  (ref,
    { pool with
      mConnectionWaiterPool := pool.mConnectionWaiterPool.tail
      waiterCount :=
        if pool.mConnectionWaiterPool.isEmpty then pool.waiterCount + 1 else pool.waiterCount
      arrivals := pool.arrivals + 1
      waiters := Function.update pool.waiters ref
        { pool.waiters ref with
          mThread := some thread
          mPriority := priority
          mWantPrimaryConnection := wantPrimaryConnection
          mSql := sql
          mConnectionFlags := connectionFlags
          arrival := pool.arrivals } })

/-- The place of a waiter in the queue: in front of the first one of lower priority. -/
def enqueue (waiters : WaiterRef → ConnectionWaiter) (ref : WaiterRef) :
    List WaiterRef → List WaiterRef
  | [] => [ref]
  | successor :: rest =>
      if (waiters successor).mPriority < (waiters ref).mPriority then ref :: successor :: rest
      else successor :: enqueue waiters ref rest

/-- The attempts of the first block of `waitForConnection`. -/
def tryAcquire (sql : Option String) (connectionFlags : BitVec 32) :
    Locked (Option SQLiteConnection) := fun pool =>
  if hasFlag connectionFlags CONNECTION_FLAG_PRIMARY_CONNECTION_AFFINITY then
    tryAcquirePrimaryConnectionLocked device connectionFlags pool
  else
    match tryAcquireNonPrimaryConnectionLocked device sql connectionFlags pool with
    | .ok none pool => tryAcquirePrimaryConnectionLocked device connectionFlags pool
    | result => result

/-- A thread that gets no connection enqueues a waiter. -/
def await (thread : Thread) (sql : Option String) (connectionFlags : BitVec 32)
    (pool : SQLiteConnectionPool) : WaiterRef × SQLiteConnectionPool :=
  let (ref, pool) := obtainConnectionWaiterLocked thread (getPriority connectionFlags)
    (hasFlag connectionFlags CONNECTION_FLAG_PRIMARY_CONNECTION_AFFINITY) sql connectionFlags pool
  (ref, { pool with
    mConnectionWaiterQueue := enqueue pool.waiters ref pool.mConnectionWaiterQueue })

/-- The first block of `waitForConnection`: a connection, or the waiter to wait with. -/
def request (thread : Thread) (sql : Option String) (connectionFlags : BitVec 32)
    (canceled : Bool) : Locked (SQLiteConnection ⊕ WaiterRef) := fun pool =>
  if !pool.mIsOpen then .error .illegalState pool
  else if canceled then .error .operationCanceled pool
  else
    match tryAcquire device sql connectionFlags pool with
    | .ok (some connection) pool => .ok (.inl connection) pool
    | .ok none pool =>
        let (ref, pool) := await thread sql connectionFlags pool
        .ok (.inr ref) pool
    | .error thrown pool => .error thrown pool

def recycleConnectionWaiterLocked (ref : WaiterRef) (pool : SQLiteConnectionPool) :
    SQLiteConnectionPool :=
  { pool with
    mConnectionWaiterPool := ref :: pool.mConnectionWaiterPool
    waiters := Function.update pool.waiters ref
      { pool.waiters ref with
        mThread := none
        mSql := none
        mAssignedConnection := none
        mException := none
        recyclings := (pool.waiters ref).recyclings + 1 } }

/-- `waiter.mNonce += 1`. -/
theorem mNonce_recycle (ref : WaiterRef) (pool : SQLiteConnectionPool) :
    ((recycleConnectionWaiterLocked ref pool).waiters ref).mNonce =
      (pool.waiters ref).mNonce + 1#32 := by
  simp only [recycleConnectionWaiterLocked, Function.update_self, ConnectionWaiter.mNonce]
  exact BitVec.ofNat_add _ _

/-- The block that a thread runs when it has been unparked; nothing is returned when
it has to wait on. -/
def look (ref : WaiterRef) : Locked (Option SQLiteConnection) := fun pool =>
  if !pool.mIsOpen then .error .illegalState pool
  else
    match (pool.waiters ref).mAssignedConnection, (pool.waiters ref).mException with
    | some connection, _ => .ok (some connection) (recycleConnectionWaiterLocked ref pool)
    | none, some thrown => .error thrown (recycleConnectionWaiterLocked ref pool)
    | none, none => .ok none pool

/-- The search through the queue ends in a null pointer if the waiter is not there. -/
def cancelConnectionWaiterLocked (ref : WaiterRef) : Locked Unit := fun pool =>
  let waiter := pool.waiters ref
  if waiter.mAssignedConnection.isSome || waiter.mException.isSome then .ok () pool
  else if ref ∈ pool.mConnectionWaiterQueue then
    .ok () (wakeConnectionWaitersLocked device
      (unpark ref (.failed .operationCanceled) pool))
  else .error .nullPointer pool

/-- The listener of a cancellation signal, installed with this nonce. -/
def onCancel (ref : WaiterRef) (nonce : BitVec 32) : Locked Unit := fun pool =>
  if (pool.waiters ref).mNonce = nonce then cancelConnectionWaiterLocked device ref pool
  else .ok () pool

/-! ## Yielding -/

/-- `isSessionBlockingImportantConnectionWaitersLocked`, from a waiter of the queue on. -/
def isSessionBlocking (waiters : WaiterRef → ConnectionWaiter) (holdingPrimaryConnection : Bool)
    (priority : Nat) : List WaiterRef → Bool
  | [] => false
  | ref :: rest =>
      if (waiters ref).mPriority < priority then false
      else if holdingPrimaryConnection || !(waiters ref).mWantPrimaryConnection then true
      else isSessionBlocking waiters holdingPrimaryConnection priority rest

def shouldYieldConnection (connection : SQLiteConnection) (connectionFlags : BitVec 32) :
    Locked Bool := fun pool =>
  if (pool.mAcquiredConnections.lookup connection).isNone then .error .illegalState pool
  else if !pool.mIsOpen then .ok false pool
  else
    .ok (isSessionBlocking pool.waiters connection.mIsPrimaryConnection
      (getPriority connectionFlags) pool.mConnectionWaiterQueue) pool

end Methods

end SQLiteConnectionPool

end Pool
end ModuleDatabase
