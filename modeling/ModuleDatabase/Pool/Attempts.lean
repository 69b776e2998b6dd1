import ModuleDatabase.Pool.Threads

namespace ModuleDatabase
namespace Pool
namespace SQLiteConnectionPool

/-!
# What an attempt to acquire a connection does

An attempt takes an available connection, opens a new one, fails to open it, or finds
nothing.  Everything that the pool does for a request or for a waiter is such an attempt,
so that what holds of the pool is checked once for each of these cases.  The loop that
wakes waiters has an induction principle of its own.
-/

section Attempts

variable (device : Device) {pool : SQLiteConnectionPool} {connection : SQLiteConnection}

/-- The pool after a connection has been opened. -/
def afterOpening (configuration : SQLiteDatabaseConfiguration) (primaryConnection : Bool)
    (pool : SQLiteConnectionPool) : SQLiteConnectionPool :=
  { pool with
    mNextConnectionId := pool.mNextConnectionId + 1
    fields := Function.update pool.fields ⟨pool.mNextConnectionId, primaryConnection⟩
      ⟨configuration, false⟩
    opened := ⟨pool.mNextConnectionId, primaryConnection⟩ :: pool.opened }

/-- The pool after a connection could not be opened. -/
def afterFailing (pool : SQLiteConnectionPool) : SQLiteConnectionPool :=
  { pool with mNextConnectionId := pool.mNextConnectionId + 1 }

theorem run_openConnectionLocked_of_opens (configuration : SQLiteDatabaseConfiguration)
    (primaryConnection : Bool) (opens : device.opens pool.mNextConnectionId = true) :
    openConnectionLocked device configuration primaryConnection pool =
      .ok ⟨pool.mNextConnectionId, primaryConnection⟩
        (afterOpening configuration primaryConnection pool) := by
  rw [openConnectionLocked, if_pos opens]
  rfl

theorem run_openConnectionLocked_of_fails (configuration : SQLiteDatabaseConfiguration)
    (primaryConnection : Bool) (fails : device.opens pool.mNextConnectionId = false) :
    openConnectionLocked device configuration primaryConnection pool =
      .error .sqlite (afterFailing pool) := by
  rw [openConnectionLocked, if_neg (Bool.eq_false_iff.mp fails)]
  rfl

/-- The primary connection is in use. -/
def PrimaryStuck (pool : SQLiteConnectionPool) : Prop :=
  pool.mAvailablePrimaryConnection = none ∧
    ∃ entry ∈ pool.mAcquiredConnections, entry.1.mIsPrimaryConnection = true

/-- No other connection is available, and the pool must not grow. -/
def NonPrimaryStuck (pool : SQLiteConnectionPool) : Prop :=
  pool.mAvailableNonPrimaryConnections = [] ∧ pool.mMaxConnectionPoolSize ≤ pool.openConnections

/-- Where an attempt takes its connection from, and the pool without it. -/
inductive Takes (pool : SQLiteConnectionPool) :
    SQLiteConnection → SQLiteConnectionPool → Prop where
  | primary {connection : SQLiteConnection}
      (available : pool.mAvailablePrimaryConnection = some connection) :
      Takes pool connection { pool with mAvailablePrimaryConnection := none }
  | nonPrimary {connection : SQLiteConnection}
      (available : connection ∈ pool.mAvailableNonPrimaryConnections) :
      Takes pool connection { pool with
        mAvailableNonPrimaryConnections := pool.mAvailableNonPrimaryConnections.erase connection }
  | newPrimary (missing : pool.mAvailablePrimaryConnection = none)
      (unused : ∀ entry ∈ pool.mAcquiredConnections, entry.1.mIsPrimaryConnection = false) :
      Takes pool ⟨pool.mNextConnectionId, true⟩ (afterOpening pool.mConfiguration true pool)
  | newNonPrimary (missing : pool.mAvailableNonPrimaryConnections = [])
      (grows : pool.openConnections < pool.mMaxConnectionPoolSize) :
      Takes pool ⟨pool.mNextConnectionId, false⟩ (afterOpening pool.mConfiguration false pool)

/-- What an attempt with these flags can do. -/
inductive Attempts (pool : SQLiteConnectionPool) (connectionFlags : BitVec 32) :
    EStateM.Result Thrown SQLiteConnectionPool (Option SQLiteConnection) → Prop where
  | nothing : Attempts pool connectionFlags (.ok none pool)
  | given {connection : SQLiteConnection} {without : SQLiteConnectionPool}
      (takes : Takes pool connection without) :
      Attempts pool connectionFlags
        (.ok (some connection) (finishAcquireConnectionLocked connection connectionFlags without))
  | unopened : Attempts pool connectionFlags (.error .sqlite (afterFailing pool))

theorem run_tryAcquirePrimary_of_available (connectionFlags : BitVec 32)
    (available : pool.mAvailablePrimaryConnection = some connection) :
    tryAcquirePrimaryConnectionLocked device connectionFlags pool =
      .ok (some connection) (finishAcquireConnectionLocked connection connectionFlags
        { pool with mAvailablePrimaryConnection := none }) := by
  simp only [tryAcquirePrimaryConnectionLocked, available]

theorem run_tryAcquirePrimary_of_stuck (connectionFlags : BitVec 32)
    (stuck : pool.PrimaryStuck) :
    tryAcquirePrimaryConnectionLocked device connectionFlags pool = .ok none pool := by
  simp only [tryAcquirePrimaryConnectionLocked, stuck.1, if_pos (List.any_eq_true.mpr stuck.2)]

theorem run_tryAcquirePrimary_of_opens (connectionFlags : BitVec 32)
    (missing : pool.mAvailablePrimaryConnection = none)
    (unused : ¬ pool.mAcquiredConnections.any (·.1.mIsPrimaryConnection) = true)
    (opens : device.opens pool.mNextConnectionId = true) :
    tryAcquirePrimaryConnectionLocked device connectionFlags pool =
      .ok (some ⟨pool.mNextConnectionId, true⟩)
        (finishAcquireConnectionLocked ⟨pool.mNextConnectionId, true⟩ connectionFlags
          (afterOpening pool.mConfiguration true pool)) := by
  simp only [tryAcquirePrimaryConnectionLocked, missing, if_neg unused,
    run_openConnectionLocked_of_opens device _ _ opens]

theorem run_tryAcquirePrimary_of_fails (connectionFlags : BitVec 32)
    (missing : pool.mAvailablePrimaryConnection = none)
    (unused : ¬ pool.mAcquiredConnections.any (·.1.mIsPrimaryConnection) = true)
    (fails : device.opens pool.mNextConnectionId = false) :
    tryAcquirePrimaryConnectionLocked device connectionFlags pool =
      .error .sqlite (afterFailing pool) := by
  simp only [tryAcquirePrimaryConnectionLocked, missing, if_neg unused,
    run_openConnectionLocked_of_fails device _ _ fails]

theorem attempts_primary (connectionFlags : BitVec 32) (pool : SQLiteConnectionPool) :
    Attempts pool connectionFlags
      (tryAcquirePrimaryConnectionLocked device connectionFlags pool) := by
  cases available : pool.mAvailablePrimaryConnection with
  | some connection =>
      rw [run_tryAcquirePrimary_of_available device connectionFlags available]
      exact .given (.primary available)
  | none =>
      by_cases used : pool.mAcquiredConnections.any (·.1.mIsPrimaryConnection) = true
      · rw [run_tryAcquirePrimary_of_stuck device connectionFlags
          ⟨available, List.any_eq_true.mp used⟩]
        exact .nothing
      · have unused : ∀ entry ∈ pool.mAcquiredConnections,
            entry.1.mIsPrimaryConnection = false := by
          simpa using used
        cases opens : device.opens pool.mNextConnectionId with
        | true =>
            rw [run_tryAcquirePrimary_of_opens device connectionFlags available used opens]
            exact .given (.newPrimary available unused)
        | false =>
            rw [run_tryAcquirePrimary_of_fails device connectionFlags available used opens]
            exact .unopened

/-- There is nothing exactly when the primary connection is in use. -/
theorem run_tryAcquirePrimary_eq_none_iff (connectionFlags : BitVec 32)
    (pool next : SQLiteConnectionPool) :
    tryAcquirePrimaryConnectionLocked device connectionFlags pool = .ok none next ↔
      pool.PrimaryStuck ∧ next = pool := by
  constructor
  · intro nothing
    cases available : pool.mAvailablePrimaryConnection with
    | some connection =>
        rw [run_tryAcquirePrimary_of_available device connectionFlags available] at nothing
        cases nothing
    | none =>
        by_cases used : pool.mAcquiredConnections.any (·.1.mIsPrimaryConnection) = true
        · have stuck : pool.PrimaryStuck := ⟨available, List.any_eq_true.mp used⟩
          rw [run_tryAcquirePrimary_of_stuck device connectionFlags stuck] at nothing
          cases nothing
          exact ⟨stuck, rfl⟩
        · cases opens : device.opens pool.mNextConnectionId with
          | true =>
              rw [run_tryAcquirePrimary_of_opens device connectionFlags available used opens]
                at nothing
              cases nothing
          | false =>
              rw [run_tryAcquirePrimary_of_fails device connectionFlags available used opens]
                at nothing
              cases nothing
  · rintro ⟨stuck, rfl⟩
    exact run_tryAcquirePrimary_of_stuck device connectionFlags stuck

theorem nextNonPrimary_eq_none_iff (sql : Option String) (pool : SQLiteConnectionPool) :
    nextNonPrimary device sql pool = none ↔ pool.mAvailableNonPrimaryConnections = [] := by
  rw [nextNonPrimary, Option.or_eq_none_iff, List.getLast?_eq_none_iff]
  constructor
  · exact And.right
  · intro missing
    simp [missing]

theorem mem_of_nextNonPrimary {sql : Option String}
    (next : nextNonPrimary device sql pool = some connection) :
    connection ∈ pool.mAvailableNonPrimaryConnections := by
  rw [nextNonPrimary, Option.or_eq_some_iff] at next
  rcases next with cached | ⟨_, last⟩
  · split at cached
    · obtain ⟨text, _, found⟩ := Option.bind_eq_some_iff.mp cached
      exact List.mem_of_find?_eq_some found
    · cases cached
  · exact List.mem_of_getLast? last

theorem run_tryAcquireNonPrimary_of_available (connectionFlags : BitVec 32) {sql : Option String}
    (available : nextNonPrimary device sql pool = some connection) :
    tryAcquireNonPrimaryConnectionLocked device sql connectionFlags pool =
      .ok (some connection) (finishAcquireConnectionLocked connection connectionFlags { pool with
        mAvailableNonPrimaryConnections :=
          pool.mAvailableNonPrimaryConnections.erase connection }) := by
  simp only [tryAcquireNonPrimaryConnectionLocked, available]

theorem run_tryAcquireNonPrimary_of_stuck (sql : Option String) (connectionFlags : BitVec 32)
    (stuck : pool.NonPrimaryStuck) :
    tryAcquireNonPrimaryConnectionLocked device sql connectionFlags pool = .ok none pool := by
  simp only [tryAcquireNonPrimaryConnectionLocked,
    (nextNonPrimary_eq_none_iff device sql pool).mpr stuck.1, if_pos stuck.2]

theorem run_tryAcquireNonPrimary_of_opens (sql : Option String) (connectionFlags : BitVec 32)
    (missing : pool.mAvailableNonPrimaryConnections = [])
    (grows : ¬ pool.mMaxConnectionPoolSize ≤ pool.openConnections)
    (opens : device.opens pool.mNextConnectionId = true) :
    tryAcquireNonPrimaryConnectionLocked device sql connectionFlags pool =
      .ok (some ⟨pool.mNextConnectionId, false⟩)
        (finishAcquireConnectionLocked ⟨pool.mNextConnectionId, false⟩ connectionFlags
          (afterOpening pool.mConfiguration false pool)) := by
  simp only [tryAcquireNonPrimaryConnectionLocked,
    (nextNonPrimary_eq_none_iff device sql pool).mpr missing, if_neg grows,
    run_openConnectionLocked_of_opens device _ _ opens]

theorem run_tryAcquireNonPrimary_of_fails (sql : Option String) (connectionFlags : BitVec 32)
    (missing : pool.mAvailableNonPrimaryConnections = [])
    (grows : ¬ pool.mMaxConnectionPoolSize ≤ pool.openConnections)
    (fails : device.opens pool.mNextConnectionId = false) :
    tryAcquireNonPrimaryConnectionLocked device sql connectionFlags pool =
      .error .sqlite (afterFailing pool) := by
  simp only [tryAcquireNonPrimaryConnectionLocked,
    (nextNonPrimary_eq_none_iff device sql pool).mpr missing, if_neg grows,
    run_openConnectionLocked_of_fails device _ _ fails]

theorem attempts_nonPrimary (sql : Option String) (connectionFlags : BitVec 32)
    (pool : SQLiteConnectionPool) :
    Attempts pool connectionFlags
      (tryAcquireNonPrimaryConnectionLocked device sql connectionFlags pool) := by
  cases available : nextNonPrimary device sql pool with
  | some connection =>
      rw [run_tryAcquireNonPrimary_of_available device connectionFlags available]
      exact .given (.nonPrimary (mem_of_nextNonPrimary device available))
  | none =>
      have missing := (nextNonPrimary_eq_none_iff device sql pool).mp available
      by_cases full : pool.mMaxConnectionPoolSize ≤ pool.openConnections
      · rw [run_tryAcquireNonPrimary_of_stuck device sql connectionFlags ⟨missing, full⟩]
        exact .nothing
      · cases opens : device.opens pool.mNextConnectionId with
        | true =>
            rw [run_tryAcquireNonPrimary_of_opens device sql connectionFlags missing full opens]
            exact .given (.newNonPrimary missing (Nat.lt_of_not_le full))
        | false =>
            rw [run_tryAcquireNonPrimary_of_fails device sql connectionFlags missing full opens]
            exact .unopened

/-- There is nothing exactly when all connections are in use. -/
theorem run_tryAcquireNonPrimary_eq_none_iff (sql : Option String) (connectionFlags : BitVec 32)
    (pool next : SQLiteConnectionPool) :
    tryAcquireNonPrimaryConnectionLocked device sql connectionFlags pool = .ok none next ↔
      pool.NonPrimaryStuck ∧ next = pool := by
  constructor
  · intro nothing
    cases available : nextNonPrimary device sql pool with
    | some connection =>
        rw [run_tryAcquireNonPrimary_of_available device connectionFlags available] at nothing
        cases nothing
    | none =>
        have missing := (nextNonPrimary_eq_none_iff device sql pool).mp available
        by_cases full : pool.mMaxConnectionPoolSize ≤ pool.openConnections
        · have stuck : pool.NonPrimaryStuck := ⟨missing, full⟩
          rw [run_tryAcquireNonPrimary_of_stuck device sql connectionFlags stuck] at nothing
          cases nothing
          exact ⟨stuck, rfl⟩
        · cases opens : device.opens pool.mNextConnectionId with
          | true =>
              rw [run_tryAcquireNonPrimary_of_opens device sql connectionFlags missing full opens]
                at nothing
              cases nothing
          | false =>
              rw [run_tryAcquireNonPrimary_of_fails device sql connectionFlags missing full opens]
                at nothing
              cases nothing
  · rintro ⟨stuck, rfl⟩
    exact run_tryAcquireNonPrimary_of_stuck device sql connectionFlags stuck

/-- No connection can be given to a request of this kind. -/
def Stuck (pool : SQLiteConnectionPool) (wantPrimaryConnection : Bool) : Prop :=
  pool.PrimaryStuck ∧ (wantPrimaryConnection = false → pool.NonPrimaryStuck)

end Attempts

/-! ## The loop that wakes waiters -/

section Loop

variable (device : Device)

/-- A local variable of the loop is set when the attempt that it stands for has found
nothing. -/
structure Noted (waking next : Waking) : Prop where
  primary : next.primaryConnectionNotAvailable = true →
    waking.primaryConnectionNotAvailable = true ∨ waking.pool.PrimaryStuck
  nonPrimary : next.nonPrimaryConnectionNotAvailable = true →
    waking.nonPrimaryConnectionNotAvailable = true ∨ waking.pool.NonPrimaryStuck

/-- What the try of the loop can do for a waiter. -/
inductive Offers (waiter : ConnectionWaiter) (waking : Waking) :
    EStateM.Result Thrown Waking (Option SQLiteConnection) → Prop where
  | given {connection : SQLiteConnection} {without : SQLiteConnectionPool} {next : Waking}
      (takes : Takes waking.pool connection without)
      (pool : next.pool =
        finishAcquireConnectionLocked connection waiter.mConnectionFlags without)
      (noted : Noted waking next) : Offers waiter waking (.ok (some connection) next)
  | unopened {next : Waking} (pool : next.pool = afterFailing waking.pool)
      (noted : Noted waking next) : Offers waiter waking (.error .sqlite next)
  | nothing {next : Waking} (pool : next.pool = waking.pool) (noted : Noted waking next)
      (primary : next.primaryConnectionNotAvailable = true)
      (nonPrimary : waiter.mWantPrimaryConnection = false →
        next.nonPrimaryConnectionNotAvailable = true) :
      Offers waiter waking (.ok none next)

theorem offers_offerPrimary (waiter : ConnectionWaiter) (waking : Waking)
    (nonPrimary : waiter.mWantPrimaryConnection = false →
      waking.nonPrimaryConnectionNotAvailable = true) :
    Offers waiter waking (offerPrimary device waiter waking) := by
  by_cases noted : waking.primaryConnectionNotAvailable = true
  · rw [offerPrimary, if_pos noted]
    exact .nothing rfl ⟨Or.inl, Or.inl⟩ noted nonPrimary
  · rw [offerPrimary, if_neg noted]
    have attempts := attempts_primary device waiter.mConnectionFlags waking.pool
    generalize result : tryAcquirePrimaryConnectionLocked device waiter.mConnectionFlags
      waking.pool = attempt at attempts
    cases attempts with
    | nothing =>
        have stuck := ((run_tryAcquirePrimary_eq_none_iff device _ _ _).mp result).1
        exact .nothing rfl ⟨fun _ => Or.inr stuck, Or.inl⟩ rfl nonPrimary
    | given takes => exact .given takes rfl ⟨Or.inl, Or.inl⟩
    | unopened => exact .unopened rfl ⟨Or.inl, Or.inl⟩

theorem offers (waiter : ConnectionWaiter) (waking : Waking) :
    Offers waiter waking (offer device waiter waking) := by
  by_cases skipped :
      (waiter.mWantPrimaryConnection || waking.nonPrimaryConnectionNotAvailable) = true
  · have first : offerNonPrimary device waiter waking = .ok none waking := by
      rw [offerNonPrimary, if_pos skipped]
    simp only [offer, first]
    refine offers_offerPrimary device waiter waking fun wanted => ?_
    simpa [wanted] using skipped
  · have attempts := attempts_nonPrimary device waiter.mSql waiter.mConnectionFlags waking.pool
    simp only [offer, offerNonPrimary, if_neg skipped]
    generalize result : tryAcquireNonPrimaryConnectionLocked device waiter.mSql
      waiter.mConnectionFlags waking.pool = attempt at attempts
    cases attempts with
    | given takes => exact .given takes rfl ⟨Or.inl, Or.inl⟩
    | unopened => exact .unopened rfl ⟨Or.inl, Or.inl⟩
    | nothing =>
        have stuck := ((run_tryAcquireNonPrimary_eq_none_iff device _ _ _ _).mp result).1
        have second := offers_offerPrimary device waiter
          { waking with nonPrimaryConnectionNotAvailable := true } fun _ => rfl
        dsimp only
        generalize offerPrimary device waiter
          { waking with nonPrimaryConnectionNotAvailable := true } = last at second ⊢
        have widen : ∀ {next : Waking},
            Noted { waking with nonPrimaryConnectionNotAvailable := true } next →
              Noted waking next :=
          fun noted => ⟨noted.primary, fun _ => Or.inr stuck⟩
        cases second with
        | given takes pool noted =>
            have here : Takes waking.pool _ _ := takes
            exact .given here pool (widen noted)
        | unopened pool noted =>
            have here : _ = afterFailing waking.pool := pool
            exact .unopened here (widen noted)
        | nothing pool noted primary nonPrimary =>
            have here : _ = waking.pool := pool
            exact .nothing here (widen noted) primary nonPrimary

/-! What the loop does with a waiter, one equation for each case. -/

variable {waking next : Waking} {ref : WaiterRef} {successors : List WaiterRef}

theorem wakeLoop_of_given (isOpen : waking.pool.mIsOpen = true) {connection : SQLiteConnection}
    (given : offer device (waking.pool.waiters ref) waking = .ok (some connection) next) :
    wakeLoop device (ref :: successors) waking =
      wakeLoop device successors
        { next with pool := unpark ref (.assigned connection) next.pool } := by
  simp only [wakeLoop, if_pos isOpen, given]

theorem wakeLoop_of_throws (isOpen : waking.pool.mIsOpen = true) {thrown : Thrown}
    (throws : offer device (waking.pool.waiters ref) waking = .error thrown next) :
    wakeLoop device (ref :: successors) waking =
      wakeLoop device successors { next with pool := unpark ref (.failed thrown) next.pool } := by
  simp only [wakeLoop, if_pos isOpen, throws]

theorem wakeLoop_of_nothing (isOpen : waking.pool.mIsOpen = true)
    (nothing : offer device (waking.pool.waiters ref) waking = .ok none next) :
    wakeLoop device (ref :: successors) waking =
      if next.nonPrimaryConnectionNotAvailable && next.primaryConnectionNotAvailable then next.pool
      else wakeLoop device successors next := by
  simp only [wakeLoop, if_pos isOpen, nothing]

theorem wakeLoop_of_closed (isClosed : waking.pool.mIsOpen = false) :
    wakeLoop device (ref :: successors) waking =
      wakeLoop device successors { waking with pool := unpark ref id waking.pool } := by
  simp only [wakeLoop, if_neg (Bool.eq_false_iff.mp isClosed)]

end Loop

/-! ## Frames -/

section Frames

variable {pool without : SQLiteConnectionPool} {connection : SQLiteConnection}

/-- Nothing about waiters has changed. -/
structure SameWaiters (pool next : SQLiteConnectionPool) : Prop where
  queue : next.mConnectionWaiterQueue = pool.mConnectionWaiterQueue
  recycled : next.mConnectionWaiterPool = pool.mConnectionWaiterPool
  waiters : next.waiters = pool.waiters
  waiterCount : next.waiterCount = pool.waiterCount
  arrivals : next.arrivals = pool.arrivals
  permits : next.permits = pool.permits

theorem SameWaiters.trans {pool mid next : SQLiteConnectionPool} (first : SameWaiters pool mid)
    (second : SameWaiters mid next) : SameWaiters pool next :=
  ⟨second.queue.trans first.queue, second.recycled.trans first.recycled,
    second.waiters.trans first.waiters, second.waiterCount.trans first.waiterCount,
    second.arrivals.trans first.arrivals, second.permits.trans first.permits⟩

/-- Nothing about the pool as a whole has changed. -/
structure SameSettings (pool next : SQLiteConnectionPool) : Prop where
  isOpen : next.mIsOpen = pool.mIsOpen
  configuration : next.mConfiguration = pool.mConfiguration
  maxSize : next.mMaxConnectionPoolSize = pool.mMaxConnectionPoolSize
  leaked : next.mConnectionLeaked = pool.mConnectionLeaked

theorem Takes.sameWaiters (takes : Takes pool connection without) :
    SameWaiters pool without := by
  cases takes <;> exact ⟨rfl, rfl, rfl, rfl, rfl, rfl⟩

theorem Takes.sameSettings (takes : Takes pool connection without) :
    SameSettings pool without := by
  cases takes <;> exact ⟨rfl, rfl, rfl, rfl⟩

end Frames

section Induction

variable (device : Device)

/-- What holds when the loop starts and is kept for each waiter that it takes out of the
queue holds when it ends. -/
theorem wake_induction {motive : SQLiteConnectionPool → Prop}
    (given : ∀ pool ref connection without, motive pool → pool.mIsOpen = true →
      ref ∈ pool.mConnectionWaiterQueue → Takes pool connection without →
      motive (unpark ref (.assigned connection)
        (finishAcquireConnectionLocked connection (pool.waiters ref).mConnectionFlags without)))
    (unopened : ∀ pool ref, motive pool → pool.mIsOpen = true →
      ref ∈ pool.mConnectionWaiterQueue →
      motive (unpark ref (.failed .sqlite) (afterFailing pool)))
    (dropped : ∀ pool ref, motive pool → pool.mIsOpen = false →
      ref ∈ pool.mConnectionWaiterQueue → motive (unpark ref id pool))
    (pool : SQLiteConnectionPool) (distinct : pool.mConnectionWaiterQueue.Nodup)
    (initially : motive pool) : motive (wakeConnectionWaitersLocked device pool) := by
  have along : ∀ (refs : List WaiterRef) (waking : Waking), refs.Nodup →
      (∀ ref ∈ refs, ref ∈ waking.pool.mConnectionWaiterQueue) → motive waking.pool →
      motive (wakeLoop device refs waking) := by
    intro refs
    induction refs with
    | nil => exact fun _ _ _ holds => holds
    | cons ref successors ih =>
        intro waking distinct queued holds
        obtain ⟨fresh, distinct⟩ := List.nodup_cons.mp distinct
        -- The rest of the list is still queued when this waiter has been taken out.
        have stay : ∀ queue : List WaiterRef, queue = waking.pool.mConnectionWaiterQueue →
            ∀ other ∈ successors, other ∈ queue.erase ref := by
          rintro queue rfl other member
          have different : other ≠ ref := fun same => fresh (same ▸ member)
          exact (List.mem_erase_of_ne different).mpr (queued other (List.mem_cons_of_mem _ member))
        have here := queued ref List.mem_cons_self
        cases isOpen : waking.pool.mIsOpen with
        | false =>
            rw [wakeLoop_of_closed device isOpen]
            exact ih _ distinct (stay _ rfl) (dropped _ _ holds isOpen here)
        | true =>
            have offered := offers device (waking.pool.waiters ref) waking
            generalize result : offer device (waking.pool.waiters ref) waking = offer at offered
            cases offered with
            | given takes next noted =>
                rw [wakeLoop_of_given device isOpen result]
                refine ih _ distinct (stay _ ?_) ?_
                · rw [next]
                  exact takes.sameWaiters.queue
                · simp only [next]
                  exact given _ _ _ _ holds isOpen here takes
            | unopened next noted =>
                rw [wakeLoop_of_throws device isOpen result]
                refine ih _ distinct (stay _ ?_) ?_
                · rw [next]
                  rfl
                · simp only [next]
                  exact unopened _ _ holds isOpen here
            | nothing next noted primary nonPrimary =>
                rw [wakeLoop_of_nothing device isOpen result]
                split
                · rw [next]
                  exact holds
                · refine ih _ distinct ?_ ?_
                  · rw [next]
                    exact fun other member => queued other (List.mem_cons_of_mem _ member)
                  · rw [next]
                    exact holds
  exact along _ { pool := pool } distinct (fun _ member => member) initially

end Induction

end SQLiteConnectionPool
end Pool
end ModuleDatabase
