import ModuleDatabase.Base.Run
import ModuleDatabase.Pool.SQLiteConnectionPool

namespace ModuleDatabase
namespace Pool

/-!
# Threads that share a pool

A thread that has to wait goes around a loop: it looks at the flag for leaked
connections, parks, and looks at its waiter.  Between these steps any other thread may
take a step of its own, and so may whoever cancels a request, closes or reconfigures the
pool.  The garbage collector first takes an abandoned connection out of the weak map and
later runs its finalizer.

A connection is stranded when its thread finds the pool closed although the connection
had been assigned to it: nobody has a reference that could be released.
-/

/-- Where a thread is in `waitForConnection`. -/
inductive Phase where
  /-- At the top of the loop. -/
  | looping
  /-- The flag for leaked connections was set, and is not any more. -/
  | recovering
  /-- In `LockSupport.parkNanos`. -/
  | parking
  /-- About to look at the waiter. -/
  | checking
  /-- In the `finally`, with the result. -/
  | leaving
  deriving DecidableEq, Repr

/-- `signal` says whether there is a cancellation signal; `recyclings` is what the
waiter counted when it was obtained. -/
structure Wait where
  waiter : WaiterRef
  recyclings : Nat
  signal : Bool
  phase : Phase
  deriving DecidableEq, Repr

/-- The local `nonce`. -/
def Wait.nonce (wait : Wait) : BitVec 32 := BitVec.ofNat 32 wait.recyclings

/-- The pool, the threads that are inside `waitForConnection`, the connections that
threads have been given, and those that have been lost. -/
structure System where
  pool : SQLiteConnectionPool
  waits : Thread → Option Wait
  held : List (Thread × SQLiteConnection)
  stranded : List SQLiteConnection
  collected : List SQLiteConnection

/-- A pool that has just been opened. -/
def System.initial (configuration : SQLiteDatabaseConfiguration) : System where
  pool := SQLiteConnectionPool.open configuration
  waits := fun _ => none
  held := []
  stranded := []
  collected := []

inductive Action where
  /-- `acquireConnection`; a signal that is there may have been canceled. -/
  | acquire (thread : Thread) (sql : Option String) (connectionFlags : BitVec 32)
      (signal : Option Bool)
  | poll (thread : Thread)
  | recover (thread : Thread)
  | unparked (thread : Thread)
  | look (thread : Thread)
  | leave (thread : Thread)
  /-- Somebody cancels the request of a thread. -/
  | cancel (thread : Thread)
  | release (thread : Thread) (connection : SQLiteConnection)
  | reconfigure (configuration : SQLiteDatabaseConfiguration)
  | close
  | collect (connection : SQLiteConnection)
  | finalize (connection : SQLiteConnection)
  deriving DecidableEq, Repr

inductive Outcome where
  | returned (connection : SQLiteConnection)
  | threw (thrown : Thrown)
  | done
  deriving DecidableEq, Repr

namespace System

section Steps

variable (device : Device) (system : System)

def enter (thread : Thread) (wait : Option Wait) (system : System) : System :=
  { system with waits := Function.update system.waits thread wait }

/-- A thread goes on in another phase of its wait. -/
def proceed (thread : Thread) (wait : Wait) (phase : Phase) (system : System) : System :=
  system.enter thread (some { wait with phase := phase })

def acquire (thread : Thread) (sql : Option String) (connectionFlags : BitVec 32)
    (signal : Option Bool) : Outcome × System :=
  if (system.waits thread).isSome then (.done, system)
  else
    match SQLiteConnectionPool.request device thread sql connectionFlags
      (signal.getD false) system.pool with
    | .ok (.inl connection) pool =>
        (.returned connection,
          { system with pool := pool, held := (thread, connection) :: system.held })
    | .ok (.inr ref) pool =>
        (.done, { system with pool := pool }.enter thread
          (some ⟨ref, (pool.waiters ref).recyclings, signal.isSome, .looping⟩))
    | .error thrown pool => (.threw thrown, { system with pool := pool })

/-- `mConnectionLeaked.compareAndSet(true, false)`. -/
def poll (thread : Thread) (wait : Wait) : System :=
  if system.pool.mConnectionLeaked then
    { system with pool := { system.pool with mConnectionLeaked := false } }.proceed thread wait
      .recovering
  else system.proceed thread wait .parking

def recover (thread : Thread) (wait : Wait) : System :=
  { system with pool := system.pool.wakeConnectionWaitersLocked device }.proceed thread wait
    .parking

/-- `parkNanos` returns, for whatever reason. -/
def unparked (thread : Thread) (wait : Wait) : System :=
  { system with
    pool := { system.pool with permits := Function.update system.pool.permits thread false }
  }.proceed thread wait .checking

def look (thread : Thread) (wait : Wait) : Outcome × System :=
  match SQLiteConnectionPool.look wait.waiter system.pool with
  | .ok none pool => (.done, { system with pool := pool }.proceed thread wait .looping)
  | .ok (some connection) pool =>
      (.returned connection,
        { system with pool := pool, held := (thread, connection) :: system.held }.proceed thread
          wait .leaving)
  | .error thrown pool =>
      (.threw thrown,
        { system with
          pool := pool
          stranded :=
            (pool.waiters wait.waiter).mAssignedConnection.toList ++ system.stranded
        }.proceed thread wait .leaving)

def cancel (wait : Wait) : Outcome × System :=
  match SQLiteConnectionPool.onCancel device wait.waiter wait.nonce system.pool with
  | .ok () pool => (.done, { system with pool := pool })
  | .error thrown pool => (.threw thrown, { system with pool := pool })

def release (thread : Thread) (connection : SQLiteConnection) : Outcome × System :=
  if (system.waits thread).isNone && decide ((thread, connection) ∈ system.held) then
    match SQLiteConnectionPool.releaseConnection device connection system.pool with
    | .ok () pool =>
        (.done, { system with
          pool := pool, held := system.held.filter (·.2 != connection) })
    | .error thrown pool => (.threw thrown, { system with pool := pool })
  else (.done, system)

/-- The configuration is that of the `SQLiteDatabase` of this pool, whose path is
final. -/
def reconfigure (configuration : SQLiteDatabaseConfiguration) : Outcome × System :=
  match SQLiteConnectionPool.reconfigure device
    { configuration with path := system.pool.mConfiguration.path } system.pool with
  | .ok () pool => (.done, { system with pool := pool })
  | .error thrown pool => (.threw thrown, { system with pool := pool })

def close : Outcome × System :=
  match SQLiteConnectionPool.close device system.pool with
  | .ok () pool => (.done, { system with pool := pool })
  | .error thrown pool => (.threw thrown, { system with pool := pool })

/-- Nobody can reach the connection any more. -/
def collect (connection : SQLiteConnection) : System :=
  if connection ∈ system.held.map Prod.snd ∨ connection ∈ system.stranded then
    { system with
      pool := SQLiteConnectionPool.removeAcquired connection system.pool
      held := system.held.filter (·.2 != connection)
      stranded := system.stranded.filter (· != connection)
      collected := connection :: system.collected }
  else system

/-- `finalize` of a connection: `onConnectionLeaked` and `dispose`. -/
def finalize (connection : SQLiteConnection) : System :=
  if connection ∈ system.collected then
    { system with
      pool := SQLiteConnectionPool.closeConnectionAndLogExceptionsLocked connection
        { system.pool with mConnectionLeaked := true }
      collected := system.collected.erase connection }
  else system

/-- A step of the wait of a thread that is in the given phase. -/
def inPhase (thread : Thread) (phase : Phase) (step : Wait → Outcome × System) :
    Outcome × System :=
  match system.waits thread with
  | some wait => if wait.phase = phase then step wait else (.done, system)
  | none => (.done, system)

/-- An action that its thread is not ready for does nothing. -/
def perform : Action → Outcome × System
  | .acquire thread sql connectionFlags signal =>
      system.acquire device thread sql connectionFlags signal
  | .poll thread => system.inPhase thread .looping fun wait => (.done, system.poll thread wait)
  | .recover thread =>
      system.inPhase thread .recovering fun wait => (.done, system.recover device thread wait)
  | .unparked thread =>
      system.inPhase thread .parking fun wait => (.done, system.unparked thread wait)
  | .look thread => system.inPhase thread .checking fun wait => system.look thread wait
  | .leave thread => system.inPhase thread .leaving fun _ => (.done, system.enter thread none)
  | .cancel thread =>
      match system.waits thread with
      | some wait => if wait.signal then system.cancel device wait else (.done, system)
      | none => (.done, system)
  | .release thread connection => system.release device thread connection
  | .reconfigure configuration => system.reconfigure device configuration
  | .close => system.close device
  | .collect connection => (.done, system.collect connection)
  | .finalize connection => (.done, system.finalize connection)

end Steps

/-- All threads together. -/
def machine (device : Device) : Machine System Action Outcome where
  perform action system := system.perform device action

/-- The states that threads can bring a pool to. -/
def Reachable (device : Device) (system : System) : Prop :=
  ∃ configuration run, system = (machine device).after (initial configuration) run

end System

end Pool
end ModuleDatabase
