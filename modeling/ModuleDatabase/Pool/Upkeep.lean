import ModuleDatabase.Pool.Ownership

namespace ModuleDatabase
namespace Pool
namespace SQLiteConnectionPool

/-!
# Acquiring and releasing keep the books

The steps of `Pool.Ownership` are put together to what the methods do to one connection.
The connections that are available, and those acquired that have not been marked, have the
configuration of the pool, too.
-/

/-- Connections have their places and their configurations. -/
structure Orderly (pool : SQLiteConnectionPool) (lost : List SQLiteConnection) : Prop where
  sound : pool.Sound lost
  configured : pool.Configured

section Acquiring

variable {pool without : SQLiteConnectionPool} {lost : List SQLiteConnection}
  {connection : SQLiteConnection}

/-- The connection that is taken has the configuration of the pool. -/
theorem Orderly.configured_of_takes (orderly : pool.Orderly lost)
    (takes : Takes pool connection without) :
    (without.fields connection).mConfiguration = pool.mConfiguration := by
  cases takes with
  | primary here =>
      exact orderly.configured.available _ (List.mem_append.mpr (Or.inl (by simp [here])))
  | nonPrimary here => exact orderly.configured.available _ (List.mem_append.mpr (Or.inr here))
  | newPrimary => simp [afterOpening]
  | newNonPrimary => simp [afterOpening]

/-- The other connections keep theirs. -/
theorem Orderly.unchanged_of_takes (orderly : pool.Orderly lost)
    (takes : Takes pool connection without) {other : SQLiteConnection}
    (opened : other ∈ pool.opened) : without.fields other = pool.fields other := by
  cases takes with
  | primary => rfl
  | nonPrimary => rfl
  | newPrimary =>
      refine Function.update_of_ne ?_ _ _
      rintro rfl
      exact orderly.sound.fresh true opened
  | newNonPrimary =>
      refine Function.update_of_ne ?_ _ _
      rintro rfl
      exact orderly.sound.fresh false opened

theorem Takes.available_of {other : SQLiteConnection} (takes : Takes pool connection without)
    (member : other ∈ without.available) : other ∈ pool.available := by
  cases takes with
  | primary here =>
      rw [available] at member ⊢
      exact List.mem_append.mpr (Or.inr (by simpa using member))
  | nonPrimary here =>
      rcases List.mem_append.mp member with primary | rest
      · exact List.mem_append.mpr (Or.inl primary)
      · exact List.mem_append.mpr (Or.inr (List.mem_of_mem_erase rest))
  | newPrimary => exact member
  | newNonPrimary => exact member

theorem finish_configuration (connection other : SQLiteConnection) (connectionFlags : BitVec 32)
    (pool : SQLiteConnectionPool) :
    ((finishAcquireConnectionLocked connection connectionFlags pool).fields other).mConfiguration =
      (pool.fields other).mConfiguration := by
  by_cases same : other = connection
  · subst same
    simp [finishAcquireConnectionLocked, putAcquired]
  · simp [finishAcquireConnectionLocked, putAcquired, same]

theorem Orderly.takes (orderly : pool.Orderly lost) (takes : Takes pool connection without)
    (connectionFlags : BitVec 32) :
    (finishAcquireConnectionLocked connection connectionFlags without).Orderly lost where
  sound := orderly.sound.takes takes connectionFlags
  configured := by
    have same := takes.sameSettings.configuration
    constructor
    · intro other member
      have before := takes.available_of member
      have opened := orderly.sound.opened_of_available before
      rw [finish_configuration, orderly.unchanged_of_takes takes opened]
      exact (orderly.configured.available other before).trans same.symm
    · intro entry member status
      rw [takes.finish_acquired orderly.sound connectionFlags] at member
      rw [finish_configuration]
      rcases List.mem_cons.mp member with rfl | before
      · exact (orderly.configured_of_takes takes).trans same.symm
      · have opened := orderly.sound.opened_of_acquired
          (List.mem_map.mpr ⟨entry, before, rfl⟩)
        rw [orderly.unchanged_of_takes takes opened]
        exact (orderly.configured.acquired entry before status).trans same.symm

theorem Orderly.afterFailing (orderly : pool.Orderly lost) : (afterFailing pool).Orderly lost :=
  ⟨orderly.sound.afterFailing, ⟨orderly.configured.available, orderly.configured.acquired⟩⟩

theorem Orderly.unpark (orderly : pool.Orderly lost) (ref : WaiterRef)
    (change : ConnectionWaiter → ConnectionWaiter) : (unpark ref change pool).Orderly lost :=
  ⟨{ orderly.sound with }, ⟨orderly.configured.available, orderly.configured.acquired⟩⟩

end Acquiring

/-! ## Releasing -/

section Releasing

variable (device : Device) {pool : SQLiteConnectionPool} {lost : List SQLiteConnection}
  {connection : SQLiteConnection}

theorem reconfigureConnection_keeps (connection other : SQLiteConnection)
    (before : (pool.fields other).mConfiguration = pool.mConfiguration) :
    ((reconfigureConnection device connection pool).2.fields other).mConfiguration =
      pool.mConfiguration := by
  by_cases same : other = connection
  · subst same
    simp only [reconfigureConnection, Function.update_self]
    split
    · rfl
    · exact before
  · simpa only [reconfigureConnection, Function.update_of_ne same] using before

theorem Configured.reconfigureConnection (configured : pool.Configured)
    (connection : SQLiteConnection) :
    (reconfigureConnection device connection pool).2.Configured :=
  ⟨fun other member =>
      reconfigureConnection_keeps device connection other (configured.available other member),
    fun entry member status =>
      reconfigureConnection_keeps device connection entry.1
        (configured.acquired entry member status)⟩

theorem Orderly.reconfigureConnection (orderly : pool.Orderly lost)
    (connection : SQLiteConnection) :
    (reconfigureConnection device connection pool).2.Orderly lost :=
  ⟨{ orderly.sound with }, orderly.configured.reconfigureConnection device connection⟩

theorem Orderly.close (orderly : pool.Orderly (connection :: lost)) :
    (closeConnectionAndLogExceptionsLocked connection pool).Orderly lost :=
  ⟨orderly.sound.close, ⟨orderly.configured.available, orderly.configured.acquired⟩⟩

/-- A connection that comes back is closed, or it may be used again and has the
configuration of the pool. -/
inductive Recycles (pool : SQLiteConnectionPool) (connection : SQLiteConnection)
    (status : AcquiredConnectionStatus) (lost : List SQLiteConnection) :
    Bool × SQLiteConnectionPool → Prop where
  | kept {next : SQLiteConnectionPool} (orderly : next.Orderly (connection :: lost))
      (configured : (next.fields connection).mConfiguration = next.mConfiguration)
      (used : status ≠ .DISCARD)
      (same : next = { pool with calls := next.calls, fields := next.fields }) :
      Recycles pool connection status lost (true, next)
  | closed {next : SQLiteConnectionPool} (orderly : next.Orderly lost)
      (same : next = { pool with
        calls := next.calls, fields := next.fields, closed := next.closed }) :
      Recycles pool connection status lost (false, next)

theorem Orderly.recycles (orderly : pool.Orderly (connection :: lost))
    {status : AcquiredConnectionStatus}
    (current : status = .NORMAL →
      (pool.fields connection).mConfiguration = pool.mConfiguration) :
    Recycles pool connection status lost
      (recycleConnectionLocked device connection status pool) := by
  cases status with
  | NORMAL => exact .kept orderly (current rfl) (by decide) rfl
  | DISCARD => exact .closed orderly.close rfl
  | RECONFIGURE =>
      have next := orderly.reconfigureConnection device connection
      cases succeeds : device.reconfigures pool.calls with
      | true =>
          have result : recycleConnectionLocked device connection .RECONFIGURE pool =
              (true, (SQLiteConnectionPool.reconfigureConnection device connection pool).2) := by
            simp only [recycleConnectionLocked, SQLiteConnectionPool.reconfigureConnection,
              succeeds]
          rw [result]
          refine .kept next ?_ (by decide) rfl
          simp [SQLiteConnectionPool.reconfigureConnection, succeeds]
      | false =>
          have result : recycleConnectionLocked device connection .RECONFIGURE pool =
              (false, closeConnectionAndLogExceptionsLocked connection
                (SQLiteConnectionPool.reconfigureConnection device connection pool).2) := by
            simp only [recycleConnectionLocked, SQLiteConnectionPool.reconfigureConnection,
              succeeds]
          rw [result]
          exact .closed next.close rfl

theorem Orderly.removeAcquired (orderly : pool.Orderly lost)
    (acquired : connection ∈ pool.acquired) :
    (removeAcquired connection pool).Orderly (connection :: lost) :=
  ⟨orderly.sound.removeAcquired acquired,
    ⟨orderly.configured.available, fun entry member status =>
      orderly.configured.acquired entry (List.mem_of_mem_filter member) status⟩⟩

/-- No usable primary connection is left when one has been removed. -/
theorem usablePrimaries_removed (sound : pool.Sound lost) {status : AcquiredConnectionStatus}
    (entry : pool.mAcquiredConnections.lookup connection = some status)
    (kind : connection.mIsPrimaryConnection = true) (used : status ≠ .DISCARD) :
    (SQLiteConnectionPool.removeAcquired connection pool).usablePrimaries = 0 := by
  have fewer := usable_removed entry true
  have counts : usable true (connection, status) = true := by simp [usable, kind, used]
  have single := sound.single
  simp only [counts, if_true] at fewer
  rw [usablePrimaries] at single ⊢
  simp only [SQLiteConnectionPool.removeAcquired] at fewer ⊢
  omega

theorem usableNonPrimaries_removed (sound : pool.Sound lost) {status : AcquiredConnectionStatus}
    (entry : pool.mAcquiredConnections.lookup connection = some status)
    (kind : connection.mIsPrimaryConnection = false) (used : status ≠ .DISCARD) :
    (SQLiteConnectionPool.removeAcquired connection pool).usableNonPrimaries <
      pool.mMaxConnectionPoolSize := by
  have fewer := usable_removed entry false
  have counts : usable false (connection, status) = true := by simp [usable, kind, used]
  have sized := sound.sized
  simp only [counts, if_true] at fewer
  rw [usableNonPrimaries] at sized ⊢
  simp only [SQLiteConnectionPool.removeAcquired] at fewer ⊢
  omega

theorem configured_putPrimary (configured : pool.Configured)
    (current : (pool.fields connection).mConfiguration = pool.mConfiguration) :
    Configured { pool with mAvailablePrimaryConnection := some connection } := by
  refine ⟨fun other member => ?_, configured.acquired⟩
  rcases List.mem_append.mp member with primary | rest
  · rw [List.mem_singleton.mp primary]
    exact current
  · exact configured.available other (List.mem_append.mpr (Or.inr rest))

theorem configured_putNonPrimary (configured : pool.Configured)
    (current : (pool.fields connection).mConfiguration = pool.mConfiguration) :
    Configured { pool with
      mAvailableNonPrimaryConnections :=
        pool.mAvailableNonPrimaryConnections ++ [connection] } := by
  refine ⟨fun other member => ?_, configured.acquired⟩
  rcases List.mem_append.mp member with primary | rest
  · exact configured.available other (List.mem_append.mpr (Or.inl primary))
  · rcases List.mem_append.mp rest with before | last
    · exact configured.available other (List.mem_append.mpr (Or.inr before))
    · rw [List.mem_singleton.mp last]
      exact current

/-- What a method does before it wakes waiters, or instead of waking them; the result has
these acquired connections. -/
inductive Settles (pool : SQLiteConnectionPool) (keys lost : List SQLiteConnection) :
    SQLiteConnectionPool → Prop where
  | quiet {next : SQLiteConnectionPool} (orderly : next.Orderly lost)
      (same : SameWaiters pool next) (isOpen : next.mIsOpen = pool.mIsOpen)
      (leaked : next.mConnectionLeaked = pool.mConnectionLeaked) (acquired : next.acquired = keys)
      (stays : pool.mIsOpen = true → ∀ wanted, pool.Stuck wanted → next.Stuck wanted) :
      Settles pool keys lost next
  | woken {next : SQLiteConnectionPool} (orderly : next.Orderly lost)
      (same : SameWaiters pool next) (isOpen : next.mIsOpen = pool.mIsOpen)
      (leaked : next.mConnectionLeaked = pool.mConnectionLeaked)
      (acquired : next.acquired = keys) :
      Settles pool keys lost (wakeConnectionWaitersLocked device next)

theorem acquired_removed (connection : SQLiteConnection) (pool : SQLiteConnectionPool) :
    (SQLiteConnectionPool.removeAcquired connection pool).acquired =
      pool.acquired.filter (· != connection) := by
  rw [acquired, acquired, List.filter_map]
  rfl

/-- Closing a connection that comes back without waking anybody wakes nobody too few: the
pool could not grow before, or there was a connection for everybody. -/
theorem stuck_removed (kind : connection.mIsPrimaryConnection = false)
    (full : pool.mMaxConnectionPoolSize ≤ pool.mAvailableNonPrimaryConnections.length + 1)
    {wanted : Bool} (stuck : pool.Stuck wanted) :
    (SQLiteConnectionPool.removeAcquired connection pool).Stuck wanted := by
  obtain ⟨⟨missing, entry, member, primary⟩, nonPrimary⟩ := stuck
  have different : entry.1 ≠ connection := by
    rintro rfl
    rw [kind] at primary
    cases primary
  have stays : entry ∈
      (SQLiteConnectionPool.removeAcquired connection pool).mAcquiredConnections :=
    List.mem_filter.mpr ⟨member, by simpa using different⟩
  refine ⟨⟨missing, entry, stays, primary⟩, fun notWanted => ?_⟩
  have empty := (nonPrimary notWanted).1
  refine ⟨empty, ?_⟩
  rw [empty] at full
  have positive := List.length_pos_of_mem stays
  have max : (SQLiteConnectionPool.removeAcquired connection pool).mMaxConnectionPoolSize =
      pool.mMaxConnectionPoolSize := rfl
  rw [max, openConnections]
  simp only [List.length_nil] at full
  omega

/-- What `releaseConnection` does with a connection that has been acquired. -/
theorem Orderly.putBack (orderly : pool.Orderly lost) {status : AcquiredConnectionStatus}
    (entry : pool.mAcquiredConnections.lookup connection = some status) :
    Settles device pool (pool.acquired.filter (· != connection)) lost
      (putBack device connection status
        (SQLiteConnectionPool.removeAcquired connection pool)) := by
  have member := mem_of_lookup entry
  have acquired : connection ∈ pool.acquired := List.mem_map.mpr ⟨_, member, rfl⟩
  have removed := orderly.removeAcquired acquired
  have recycles := removed.recycles device
    (fun normal => orderly.configured.acquired (connection, status) member normal)
  have keys := acquired_removed connection pool
  rw [SQLiteConnectionPool.putBack]
  cases isOpen : pool.mIsOpen with
  | false =>
      rw [if_pos (by simp [SQLiteConnectionPool.removeAcquired, isOpen])]
      refine .quiet removed.close ⟨rfl, rfl, rfl, rfl, rfl, rfl⟩ rfl rfl keys fun opened => ?_
      rw [isOpen] at opened
      cases opened
  | true =>
      rw [if_neg (by simp [SQLiteConnectionPool.removeAcquired, isOpen])]
      generalize recycleConnectionLocked device connection status
        (SQLiteConnectionPool.removeAcquired connection pool) = result at recycles
      cases kind : connection.mIsPrimaryConnection with
      | true =>
          rw [if_pos rfl]
          cases recycles with
          | closed next same =>
              refine .woken next ?_ ?_ ?_ ?_ <;> rw [same]
              · exact ⟨rfl, rfl, rfl, rfl, rfl, rfl⟩
              · rfl
              · rfl
              · exact keys
          | kept next configured used same =>
              refine .woken ⟨next.sound.putPrimary kind ?_ ?_, ?_⟩ ?_ ?_ ?_ ?_
              · rw [same]
                exact isOpen
              · rw [same]
                exact usablePrimaries_removed orderly.sound entry kind used
              · exact configured_putPrimary next.configured configured
              all_goals rw [if_pos rfl, same]
              · exact ⟨rfl, rfl, rfl, rfl, rfl, rfl⟩
              · rfl
              · rfl
              · exact keys
      | false =>
          rw [if_neg Bool.false_ne_true]
          split
          · next full =>
              have limited : pool.mMaxConnectionPoolSize ≤
                  pool.mAvailableNonPrimaryConnections.length + 1 := full
              exact .quiet removed.close ⟨rfl, rfl, rfl, rfl, rfl, rfl⟩ rfl rfl keys
                fun _ wanted stuck => stuck_removed kind limited stuck
          · next room =>
              cases recycles with
              | closed next same =>
                  refine .woken next ?_ ?_ ?_ ?_ <;> rw [same]
                  · exact ⟨rfl, rfl, rfl, rfl, rfl, rfl⟩
                  · rfl
                  · rfl
                  · exact keys
              | kept next configured used same =>
                  refine .woken ⟨next.sound.putNonPrimary kind ?_ ?_ ?_, ?_⟩ ?_ ?_ ?_ ?_
                  · rw [same]
                    exact isOpen
                  · rw [same]
                    exact Nat.lt_of_not_le room
                  · rw [same]
                    exact usableNonPrimaries_removed orderly.sound entry kind used
                  · exact configured_putNonPrimary next.configured configured
                  all_goals rw [if_pos rfl, same]
                  · exact ⟨rfl, rfl, rfl, rfl, rfl, rfl⟩
                  · rfl
                  · rfl
                  · exact keys

end Releasing

end SQLiteConnectionPool
end Pool
end ModuleDatabase
