import Mathlib.Data.List.Count
import ModuleDatabase.Pool.Attempts

namespace ModuleDatabase
namespace Pool
namespace SQLiteConnectionPool

/-!
# Every connection has one place

A connection that has been opened is available, acquired, lost to the garbage collector, or
closed, and it is only one of these.  At most one primary connection is of any use, since the
others are to be discarded when they come back, and the pool does not grow without bound.

Each method is followed through once.
-/

/-- The connections that are available. -/
def available (pool : SQLiteConnectionPool) : List SQLiteConnection :=
  pool.mAvailablePrimaryConnection.toList ++ pool.mAvailableNonPrimaryConnections

/-- The connections that have been acquired. -/
def acquired (pool : SQLiteConnectionPool) : List SQLiteConnection :=
  pool.mAcquiredConnections.map Prod.fst

/-- An acquired connection of this kind that is not to be discarded. -/
def usable (primary : Bool) (entry : SQLiteConnection × AcquiredConnectionStatus) : Bool :=
  entry.1.mIsPrimaryConnection == primary && entry.2 != .DISCARD

def usablePrimaries (pool : SQLiteConnectionPool) : Nat :=
  pool.mAcquiredConnections.countP (usable true) +
    pool.mAvailablePrimaryConnection.toList.length

def usableNonPrimaries (pool : SQLiteConnectionPool) : Nat :=
  pool.mAcquiredConnections.countP (usable false) + pool.mAvailableNonPrimaryConnections.length

/-- The bookkeeping of connections, with those that are lost. -/
structure Sound (pool : SQLiteConnectionPool) (lost : List SQLiteConnection) : Prop where
  conserved : ∀ connection, pool.opened.count connection =
    pool.available.count connection + pool.acquired.count connection + lost.count connection +
      pool.closed.count connection
  distinct : pool.opened.Nodup
  numbered : ∀ connection ∈ pool.opened, connection.mConnectionId < pool.mNextConnectionId
  primary : ∀ connection, pool.mAvailablePrimaryConnection = some connection →
    connection.mIsPrimaryConnection = true
  nonPrimary : ∀ connection ∈ pool.mAvailableNonPrimaryConnections,
    connection.mIsPrimaryConnection = false
  single : pool.usablePrimaries ≤ 1
  sized : pool.usableNonPrimaries ≤ pool.mMaxConnectionPoolSize
  spare : pool.mAvailableNonPrimaryConnections.length + 1 ≤ pool.mMaxConnectionPoolSize
  bound : pool.mMaxConnectionPoolSize = maxConnectionPoolSize pool.mConfiguration.openFlags
  emptied : pool.mIsOpen = false → pool.available = []

/-- What is available, or acquired and not marked, has the configuration of the pool. -/
structure Configured (pool : SQLiteConnectionPool) : Prop where
  available : ∀ connection ∈ pool.available,
    (pool.fields connection).mConfiguration = pool.mConfiguration
  acquired : ∀ entry ∈ pool.mAcquiredConnections, entry.2 = .NORMAL →
    (pool.fields entry.1).mConfiguration = pool.mConfiguration

section Basics

variable {pool : SQLiteConnectionPool} {lost : List SQLiteConnection}
  {connection : SQLiteConnection}

theorem Sound.count_le (sound : pool.Sound lost) (connection : SQLiteConnection) :
    pool.opened.count connection ≤ 1 := List.nodup_iff_count.mp sound.distinct connection

/-- An available connection is nowhere else. -/
theorem Sound.apart_of_available (sound : pool.Sound lost)
    (available : connection ∈ pool.available) : connection ∉ pool.acquired := by
  have counts := sound.conserved connection
  have once := sound.count_le connection
  have here := List.count_pos_iff.mpr available
  exact List.count_eq_zero.mp (by omega)

theorem Sound.opened_of_acquired (sound : pool.Sound lost)
    (acquired : connection ∈ pool.acquired) : connection ∈ pool.opened := by
  have counts := sound.conserved connection
  have here := List.count_pos_iff.mpr acquired
  exact List.count_pos_iff.mp (by omega)

theorem Sound.opened_of_available (sound : pool.Sound lost)
    (available : connection ∈ pool.available) : connection ∈ pool.opened := by
  have counts := sound.conserved connection
  have here := List.count_pos_iff.mpr available
  exact List.count_pos_iff.mp (by omega)

/-- The next number has not been used. -/
theorem Sound.fresh (sound : pool.Sound lost) (primaryConnection : Bool) :
    ⟨pool.mNextConnectionId, primaryConnection⟩ ∉ pool.opened := fun opened =>
  Nat.lt_irrefl _ (sound.numbered _ opened)

theorem Sound.apart_of_fresh (sound : pool.Sound lost) (primaryConnection : Bool) :
    ⟨pool.mNextConnectionId, primaryConnection⟩ ∉ pool.acquired := fun acquired =>
  sound.fresh primaryConnection (sound.opened_of_acquired acquired)

theorem mAcquiredConnections_putAcquired (status : AcquiredConnectionStatus)
    (absent : connection ∉ pool.acquired) :
    (putAcquired connection status pool).mAcquiredConnections =
      (connection, status) :: pool.mAcquiredConnections := by
  have kept : pool.mAcquiredConnections.filter (·.1 != connection) =
      pool.mAcquiredConnections := by
    refine List.filter_eq_self.mpr fun entry member => ?_
    have different : entry.1 ≠ connection := fun same =>
      absent (List.mem_map.mpr ⟨entry, member, same⟩)
    simpa using different
  rw [putAcquired, kept]

/-- The connection that is taken has not been acquired before. -/
theorem Takes.absent {without : SQLiteConnectionPool} (sound : pool.Sound lost)
    (takes : Takes pool connection without) : connection ∉ pool.acquired := by
  cases takes with
  | primary available =>
      exact sound.apart_of_available (List.mem_append.mpr (Or.inl (by simp [available])))
  | nonPrimary available =>
      exact sound.apart_of_available (List.mem_append.mpr (Or.inr available))
  | newPrimary => exact sound.apart_of_fresh true
  | newNonPrimary => exact sound.apart_of_fresh false

theorem Takes.acquired_eq {without : SQLiteConnectionPool}
    (takes : Takes pool connection without) :
    without.mAcquiredConnections = pool.mAcquiredConnections := by
  cases takes <;> rfl

/-- Acquiring adds one entry. -/
theorem Takes.finish_acquired {without : SQLiteConnectionPool} (sound : pool.Sound lost)
    (takes : Takes pool connection without) (connectionFlags : BitVec 32) :
    (finishAcquireConnectionLocked connection connectionFlags without).mAcquiredConnections =
      (connection, .NORMAL) :: pool.mAcquiredConnections := by
  have absent : connection ∉ without.acquired := by
    rw [acquired, takes.acquired_eq]
    exact takes.absent sound
  rw [finishAcquireConnectionLocked]
  exact (mAcquiredConnections_putAcquired _ absent).trans (by rw [takes.acquired_eq])

end Basics

/-! ## Acquiring -/

section Finishing

variable (connection : SQLiteConnection) (connectionFlags : BitVec 32) (pool : SQLiteConnectionPool)

@[simp]
theorem finish_isOpen : (finishAcquireConnectionLocked connection connectionFlags pool).mIsOpen =
    pool.mIsOpen := rfl

@[simp]
theorem finish_nonPrimary :
    (finishAcquireConnectionLocked connection connectionFlags
      pool).mAvailableNonPrimaryConnections = pool.mAvailableNonPrimaryConnections := rfl

@[simp]
theorem finish_primary :
    (finishAcquireConnectionLocked connection connectionFlags pool).mAvailablePrimaryConnection =
      pool.mAvailablePrimaryConnection := rfl

@[simp]
theorem finish_available :
    (finishAcquireConnectionLocked connection connectionFlags pool).available =
      pool.available := rfl

@[simp]
theorem finish_opened :
    (finishAcquireConnectionLocked connection connectionFlags pool).opened = pool.opened := rfl

@[simp]
theorem finish_closed :
    (finishAcquireConnectionLocked connection connectionFlags pool).closed = pool.closed := rfl

@[simp]
theorem finish_maxSize :
    (finishAcquireConnectionLocked connection connectionFlags pool).mMaxConnectionPoolSize =
      pool.mMaxConnectionPoolSize := rfl

end Finishing

section Acquiring

variable {pool without : SQLiteConnectionPool} {lost : List SQLiteConnection}
  {connection : SQLiteConnection}

/-- What has to be checked when a connection is acquired. -/
theorem Sound.finish (sound : pool.Sound lost) (takes : Takes pool connection without)
    (connectionFlags : BitVec 32)
    (conserved : ∀ other, without.opened.count other + pool.available.count other =
      pool.opened.count other + without.available.count other +
        (if connection = other then 1 else 0))
    (distinct : without.opened.Nodup)
    (numbered : ∀ other ∈ without.opened, other.mConnectionId < without.mNextConnectionId)
    (closed : without.closed = pool.closed)
    (primary : ∀ other, without.mAvailablePrimaryConnection = some other →
      other.mIsPrimaryConnection = true)
    (nonPrimary : ∀ other ∈ without.mAvailableNonPrimaryConnections,
      other.mIsPrimaryConnection = false)
    (single : pool.mAcquiredConnections.countP (usable true) +
      (if connection.mIsPrimaryConnection then 1 else 0) +
      without.mAvailablePrimaryConnection.toList.length ≤ 1)
    (sized : pool.mAcquiredConnections.countP (usable false) +
      (if connection.mIsPrimaryConnection then 0 else 1) +
      without.mAvailableNonPrimaryConnections.length ≤ pool.mMaxConnectionPoolSize)
    (spare : without.mAvailableNonPrimaryConnections.length ≤
      pool.mAvailableNonPrimaryConnections.length)
    (emptied : pool.mIsOpen = false → without.available = []) :
    (finishAcquireConnectionLocked connection connectionFlags without).Sound lost where
  conserved other := by
    have counts := sound.conserved other
    have moved := conserved other
    have entries := takes.finish_acquired sound connectionFlags
    rw [acquired] at counts
    rw [acquired, entries]
    simp only [finish_opened, finish_available, finish_closed, closed, List.map_cons,
      List.count_cons, beq_iff_eq]
    omega
  distinct := distinct
  numbered := numbered
  primary := primary
  nonPrimary := nonPrimary
  single := by
    rw [usablePrimaries, takes.finish_acquired sound connectionFlags, List.countP_cons]
    cases kind : connection.mIsPrimaryConnection <;> simpa [usable, kind] using single
  sized := by
    rw [usableNonPrimaries, takes.finish_acquired sound connectionFlags, List.countP_cons,
      finish_maxSize, takes.sameSettings.maxSize]
    cases kind : connection.mIsPrimaryConnection <;> simpa [usable, kind] using sized
  spare := by
    rw [finish_nonPrimary, finish_maxSize, takes.sameSettings.maxSize]
    have before := sound.spare
    omega
  bound := by
    have before := sound.bound
    rw [← takes.sameSettings.maxSize, ← takes.sameSettings.configuration] at before
    exact before
  emptied isClosed := by
    rw [finish_isOpen, takes.sameSettings.isOpen] at isClosed
    exact emptied isClosed

/-- Acquiring a connection keeps the books. -/
theorem Sound.takes (sound : pool.Sound lost) (takes : Takes pool connection without)
    (connectionFlags : BitVec 32) :
    (finishAcquireConnectionLocked connection connectionFlags without).Sound lost := by
  have single := sound.single
  have sized := sound.sized
  rw [usablePrimaries] at single
  rw [usableNonPrimaries] at sized
  cases takes with
  | primary here =>
      refine sound.finish (.primary here) connectionFlags (fun other => ?_) sound.distinct
        sound.numbered rfl (fun other impossible => ?_) sound.nonPrimary ?_ ?_ (Nat.le_refl _) ?_
      · simp only [available, here, Option.toList_some, Option.toList_none, List.nil_append,
          List.singleton_append, List.count_cons, beq_iff_eq]
        omega
      · cases impossible
      · simpa [here, sound.primary connection here] using single
      · simpa [sound.primary connection here] using sized
      · intro isClosed
        have empty := sound.emptied isClosed
        rw [available, here] at empty
        cases empty
  | nonPrimary here =>
      have kind := sound.nonPrimary connection here
      have shorter := List.length_erase_of_mem here
      have positive := List.length_pos_of_mem here
      refine sound.finish (.nonPrimary here) connectionFlags (fun other => ?_) sound.distinct
        sound.numbered rfl sound.primary
        (fun other member => sound.nonPrimary other (List.mem_of_mem_erase member)) ?_ ?_ ?_ ?_
      · simp only [available, List.count_append, List.count_erase, beq_iff_eq]
        by_cases same : connection = other
        · subst same
          have present := List.count_pos_iff.mpr here
          simp only [if_true]
          omega
        · simp only [if_neg same]
          omega
      · simpa [kind] using single
      · simp only [kind, shorter, Bool.false_eq_true, if_false]
        omega
      · simp only [shorter]
        omega
      · intro isClosed
        have empty := sound.emptied isClosed
        rw [available, List.append_eq_nil_iff] at empty
        rw [empty.2] at here
        cases here
  | newPrimary missing unused =>
      refine sound.finish (.newPrimary missing unused) connectionFlags (fun other => ?_)
        (List.nodup_cons.mpr ⟨sound.fresh true, sound.distinct⟩) ?_ rfl sound.primary
        sound.nonPrimary ?_ ?_ (Nat.le_refl _) sound.emptied
      · simp only [afterOpening, available, List.count_cons, beq_iff_eq]
        omega
      · intro other member
        rcases List.mem_cons.mp member with rfl | before
        · exact Nat.lt_succ_self _
        · exact Nat.lt_succ_of_lt (sound.numbered other before)
      · have none : pool.mAcquiredConnections.countP (usable true) = 0 :=
          List.countP_eq_zero.mpr fun entry member => by simp [usable, unused entry member]
        simp [none, missing, afterOpening]
      · simpa [afterOpening] using sized
  | newNonPrimary missing grows =>
      refine sound.finish (.newNonPrimary missing grows) connectionFlags (fun other => ?_)
        (List.nodup_cons.mpr ⟨sound.fresh false, sound.distinct⟩) ?_ rfl sound.primary
        sound.nonPrimary ?_ ?_ (Nat.le_refl _) sound.emptied
      · simp only [afterOpening, available, List.count_cons, beq_iff_eq]
        omega
      · intro other member
        rcases List.mem_cons.mp member with rfl | before
        · exact Nat.lt_succ_self _
        · exact Nat.lt_succ_of_lt (sound.numbered other before)
      · simpa [afterOpening] using single
      · have few : pool.mAcquiredConnections.countP (usable false) ≤
            pool.mAcquiredConnections.length := List.countP_le_length
        rw [openConnections] at grows
        simp only [afterOpening, missing]
        simp
        omega

theorem Sound.afterFailing (sound : pool.Sound lost) : (afterFailing pool).Sound lost :=
  { sound with
    numbered := fun other member => Nat.lt_succ_of_lt (sound.numbered other member) }

end Acquiring

/-! ## Closing -/

section Closing

variable {pool : SQLiteConnectionPool} {lost : List SQLiteConnection}
  {connection : SQLiteConnection}

theorem foldl_close (connections : List SQLiteConnection) (pool : SQLiteConnectionPool) :
    connections.foldl
        (fun pool connection => closeConnectionAndLogExceptionsLocked connection pool) pool =
      { pool with closed := connections.reverse ++ pool.closed } := by
  induction connections generalizing pool with
  | nil => rfl
  | cons connection rest ih =>
      rw [List.foldl_cons, ih]
      simp [closeConnectionAndLogExceptionsLocked]

theorem foldr_close (connections : List SQLiteConnection) (pool : SQLiteConnectionPool) :
    connections.foldr
        (fun connection pool => closeConnectionAndLogExceptionsLocked connection pool) pool =
      { pool with closed := connections ++ pool.closed } := by
  induction connections with
  | nil => rfl
  | cons connection rest ih =>
      rw [List.foldr_cons, ih]
      rfl

theorem closeAvailableNonPrimary_eq (pool : SQLiteConnectionPool) :
    closeAvailableNonPrimaryConnectionsAndLogExceptionsLocked pool =
      { pool with
        closed := pool.mAvailableNonPrimaryConnections.reverse ++ pool.closed
        mAvailableNonPrimaryConnections := [] } := by
  rw [closeAvailableNonPrimaryConnectionsAndLogExceptionsLocked, foldl_close]

theorem closeAvailable_eq (pool : SQLiteConnectionPool) :
    closeAvailableConnectionsAndLogExceptionsLocked pool =
      { pool with
        closed := pool.mAvailablePrimaryConnection.toList ++
          (pool.mAvailableNonPrimaryConnections.reverse ++ pool.closed)
        mAvailableNonPrimaryConnections := []
        mAvailablePrimaryConnection := none } := by
  rw [closeAvailableConnectionsAndLogExceptionsLocked, closeAvailableNonPrimary_eq]
  cases pool with
  | mk mConfiguration mMax mIsOpen mNext mPool mQueue mNonPrimary mPrimary mAcquired mLeaked
      waiters waiterCount arrivals fields opened closed calls permits =>
      cases mPrimary <;> rfl

theorem closeExcess_eq (pool : SQLiteConnectionPool) :
    closeExcessConnectionsAndLogExceptionsLocked pool =
      { pool with
        closed := pool.mAvailableNonPrimaryConnections.drop (pool.mMaxConnectionPoolSize - 1) ++
          pool.closed
        mAvailableNonPrimaryConnections :=
          pool.mAvailableNonPrimaryConnections.take (pool.mMaxConnectionPoolSize - 1) } := by
  rw [closeExcessConnectionsAndLogExceptionsLocked, foldr_close]

theorem maxConnectionPoolSize_pos (openFlags : BitVec 32) :
    1 ≤ maxConnectionPoolSize openFlags := by
  rw [maxConnectionPoolSize]
  split
  · decide
  · exact Nat.le_refl _

/-- A connection that belongs to nobody is closed. -/
theorem Sound.close (sound : pool.Sound (connection :: lost)) :
    (closeConnectionAndLogExceptionsLocked connection pool).Sound lost :=
  { sound with
    conserved := fun other => by
      have counts := sound.conserved other
      rw [List.count_cons] at counts
      simp only [closeConnectionAndLogExceptionsLocked, available, acquired, List.count_cons]
      rw [available, acquired] at counts
      omega }

theorem Sound.closeAvailableNonPrimary (sound : pool.Sound lost) :
    (closeAvailableNonPrimaryConnectionsAndLogExceptionsLocked pool).Sound lost := by
  rw [closeAvailableNonPrimary_eq]
  refine { sound with
    conserved := fun other => ?_
    nonPrimary := fun other member => ?_
    sized := ?_
    spare := ?_
    emptied := fun isClosed => ?_ }
  · have counts := sound.conserved other
    simp only [available, acquired, List.count_append, List.count_reverse, List.count_nil] at counts ⊢
    omega
  · cases member
  · have before := sound.sized
    simp only [usableNonPrimaries, List.length_nil] at before ⊢
    omega
  · have before := sound.spare
    simp only [List.length_nil]
    omega
  · have empty := sound.emptied isClosed
    rw [available, List.append_eq_nil_iff] at empty
    rw [available, empty.1, List.nil_append]

/-- All that is available is closed, whether the pool stays open or not. -/
theorem Sound.closeAvailable (sound : pool.Sound lost) (isOpen : Bool) :
    (closeAvailableConnectionsAndLogExceptionsLocked { pool with mIsOpen := isOpen }).Sound
      lost := by
  rw [closeAvailable_eq]
  refine { sound with
    conserved := fun other => ?_
    primary := fun other impossible => ?_
    nonPrimary := fun other member => ?_
    single := ?_
    sized := ?_
    spare := ?_
    emptied := fun _ => rfl }
  · have counts := sound.conserved other
    simp only [available, acquired, List.count_append, List.count_reverse, Option.toList_none,
      List.count_nil] at counts ⊢
    omega
  · cases impossible
  · cases member
  · have before := sound.single
    simp only [usablePrimaries, Option.toList_none, List.length_nil] at before ⊢
    omega
  · have before := sound.sized
    simp only [usableNonPrimaries, List.length_nil] at before ⊢
    omega
  · have before := sound.spare
    simp only [List.length_nil]
    omega

theorem Sound.closeExcess (sound : pool.Sound lost) :
    (closeExcessConnectionsAndLogExceptionsLocked pool).Sound lost := by
  rw [closeExcess_eq]
  refine { sound with
    conserved := fun other => ?_
    nonPrimary := fun other member => sound.nonPrimary other (List.mem_of_mem_take member)
    sized := ?_
    spare := ?_
    emptied := fun isClosed => ?_ }
  · have counts := sound.conserved other
    have split := congrArg (List.count other)
      (List.take_append_drop (pool.mMaxConnectionPoolSize - 1) pool.mAvailableNonPrimaryConnections)
    simp only [available, acquired, List.count_append] at counts split ⊢
    omega
  · have before := sound.sized
    simp only [usableNonPrimaries, List.length_take] at before ⊢
    omega
  · have before := sound.spare
    simp only [List.length_take]
    omega
  · have empty := sound.emptied isClosed
    rw [available, List.append_eq_nil_iff] at empty
    rw [available, empty.1, empty.2]
    exact List.take_nil

end Closing

/-! ## Marking, removing and putting back -/

section Marking

variable {pool : SQLiteConnectionPool} {lost : List SQLiteConnection}
  {connection : SQLiteConnection}

/-- The entry of an acquired connection after all of them have been marked. -/
def marked (status : AcquiredConnectionStatus)
    (entry : SQLiteConnection × AcquiredConnectionStatus) :
    SQLiteConnection × AcquiredConnectionStatus :=
  if status != entry.2 && entry.2 != .DISCARD then (entry.1, status) else entry

theorem mark_acquired (status : AcquiredConnectionStatus) (pool : SQLiteConnectionPool) :
    (markAcquiredConnectionsLocked status pool).mAcquiredConnections =
      pool.mAcquiredConnections.map (marked status) := rfl

theorem marked_fst (status : AcquiredConnectionStatus)
    (entry : SQLiteConnection × AcquiredConnectionStatus) : (marked status entry).1 = entry.1 := by
  rw [marked]
  split <;> rfl

/-- What is to be discarded stays so. -/
theorem marked_snd (status : AcquiredConnectionStatus)
    (entry : SQLiteConnection × AcquiredConnectionStatus) :
    (marked status entry).2 = if entry.2 = .DISCARD then .DISCARD else status := by
  rw [marked]
  by_cases discarded : entry.2 = .DISCARD
  · simp [discarded]
  · by_cases same : status = entry.2 <;> simp [discarded, same]

theorem usable_marked (primary : Bool) (status : AcquiredConnectionStatus)
    (entry : SQLiteConnection × AcquiredConnectionStatus)
    (after : usable primary (marked status entry) = true) : usable primary entry = true := by
  rw [usable, marked_fst, marked_snd] at after
  rw [usable]
  by_cases discarded : entry.2 = .DISCARD
  · simp [discarded] at after
  · simp_all

theorem Sound.mark (sound : pool.Sound lost) (status : AcquiredConnectionStatus) :
    (markAcquiredConnectionsLocked status pool).Sound lost := by
  have fewer (primary : Bool) :
      (pool.mAcquiredConnections.map (marked status)).countP (usable primary) ≤
        pool.mAcquiredConnections.countP (usable primary) := by
    rw [List.countP_map]
    exact List.countP_mono_left fun entry _ after => usable_marked primary status entry after
  have keys : (markAcquiredConnectionsLocked status pool).acquired = pool.acquired := by
    rw [acquired, mark_acquired, List.map_map]
    exact List.map_congr_left fun entry _ => marked_fst status entry
  refine { sound with
    conserved := fun other => ?_
    single := ?_
    sized := ?_ }
  · rw [keys]
    exact sound.conserved other
  · exact Nat.le_trans (Nat.add_le_add_right (fewer true) _) sound.single
  · exact Nat.le_trans (Nat.add_le_add_right (fewer false) _) sound.sized

/-- A connection is taken out of the map. -/
theorem Sound.removeAcquired (sound : pool.Sound lost) (acquired : connection ∈ pool.acquired) :
    (removeAcquired connection pool).Sound (connection :: lost) := by
  have once := sound.count_le connection
  have fewer (primary : Bool) :
      (pool.mAcquiredConnections.filter (·.1 != connection)).countP (usable primary) ≤
        pool.mAcquiredConnections.countP (usable primary) :=
    List.Sublist.countP_le (List.filter_sublist)
  refine { sound with
    conserved := fun other => ?_
    single := ?_
    sized := ?_ }
  · have counts := sound.conserved other
    have keys : (SQLiteConnectionPool.removeAcquired connection pool).acquired =
        pool.acquired.filter (· != connection) := by
      rw [SQLiteConnectionPool.acquired, SQLiteConnectionPool.acquired, List.filter_map]
      rfl
    rw [keys, List.count_cons]
    by_cases same : connection = other
    · subst same
      have gone : (pool.acquired.filter (· != connection)).count connection = 0 :=
        List.count_eq_zero.mpr (by simp)
      have here := List.count_pos_iff.mpr acquired
      simp only [gone, beq_self_eq_true, if_true]
      rw [available] at counts ⊢
      simp only [SQLiteConnectionPool.removeAcquired]
      omega
    · have kept : (pool.acquired.filter (· != connection)).count other =
          pool.acquired.count other :=
        List.count_filter (by simpa using Ne.symm same)
      simp only [kept, beq_iff_eq, if_neg same]
      rw [available] at counts ⊢
      simp only [SQLiteConnectionPool.removeAcquired]
      omega
  · exact Nat.le_trans (Nat.add_le_add_right (fewer true) _) sound.single
  · exact Nat.le_trans (Nat.add_le_add_right (fewer false) _) sound.sized

theorem mem_of_lookup {status : AcquiredConnectionStatus}
    (entry : pool.mAcquiredConnections.lookup connection = some status) :
    (connection, status) ∈ pool.mAcquiredConnections := by
  obtain ⟨before, after, split, _⟩ := List.lookup_eq_some_iff.mp entry
  rw [split]
  simp

/-- The entry that was removed does not count any more. -/
theorem usable_removed {status : AcquiredConnectionStatus}
    (entry : pool.mAcquiredConnections.lookup connection = some status) (primary : Bool) :
    (SQLiteConnectionPool.removeAcquired connection pool).mAcquiredConnections.countP
        (usable primary) + (if usable primary (connection, status) then 1 else 0) ≤
      pool.mAcquiredConnections.countP (usable primary) := by
  rw [List.countP_eq_countP_filter_add pool.mAcquiredConnections (usable primary)
    (·.1 != connection)]
  refine Nat.add_le_add_left ?_ _
  split
  · next counts =>
      have here : (connection, status) ∈
          pool.mAcquiredConnections.filter fun entry => !(entry.1 != connection) :=
        List.mem_filter.mpr ⟨mem_of_lookup entry, by simp⟩
      exact List.countP_pos_iff.mpr ⟨_, here, counts⟩
  · exact Nat.zero_le _

/-- A connection that belongs to nobody becomes the primary connection. -/
theorem Sound.putPrimary (sound : pool.Sound (connection :: lost))
    (kind : connection.mIsPrimaryConnection = true) (isOpen : pool.mIsOpen = true)
    (room : pool.usablePrimaries = 0) :
    Sound { pool with mAvailablePrimaryConnection := some connection } lost := by
  have missing : pool.mAvailablePrimaryConnection = none := by
    rw [usablePrimaries] at room
    exact Option.toList_eq_nil_iff.mp (List.length_eq_zero_iff.mp (by omega))
  refine { sound with
    conserved := fun other => ?_
    primary := fun other same => ?_
    single := ?_
    emptied := fun isClosed => ?_ }
  · have counts := sound.conserved other
    simp only [available, acquired, missing, Option.toList_none, Option.toList_some,
      List.nil_append, List.singleton_append, List.count_cons] at counts ⊢
    omega
  · cases same
    exact kind
  · rw [usablePrimaries] at room ⊢
    simp only [Option.toList_some, List.length_singleton]
    omega
  · rw [isOpen] at isClosed
    cases isClosed

/-- A connection that belongs to nobody becomes available. -/
theorem Sound.putNonPrimary (sound : pool.Sound (connection :: lost))
    (kind : connection.mIsPrimaryConnection = false) (isOpen : pool.mIsOpen = true)
    (room : pool.mAvailableNonPrimaryConnections.length + 1 < pool.mMaxConnectionPoolSize)
    (fits : pool.usableNonPrimaries < pool.mMaxConnectionPoolSize) :
    Sound { pool with
      mAvailableNonPrimaryConnections := pool.mAvailableNonPrimaryConnections ++ [connection] }
      lost := by
  refine { sound with
    conserved := fun other => ?_
    nonPrimary := fun other member => ?_
    sized := ?_
    spare := ?_
    emptied := fun isClosed => ?_ }
  · have counts := sound.conserved other
    simp only [available, acquired, List.count_append, List.count_cons, List.count_nil]
      at counts ⊢
    omega
  · rcases List.mem_append.mp member with before | last
    · exact sound.nonPrimary other before
    · rw [List.mem_singleton.mp last]
      exact kind
  · rw [usableNonPrimaries] at fits ⊢
    simp only [List.length_append, List.length_singleton]
    omega
  · simp only [List.length_append, List.length_singleton]
    omega
  · rw [isOpen] at isClosed
    cases isClosed

end Marking

/-! ## Reconfiguring -/

section Reconfiguring

variable {pool : SQLiteConnectionPool} {lost : List SQLiteConnection}
  {connection : SQLiteConnection}

/-- A new connection belongs to nobody at first. -/
theorem Sound.afterOpening (sound : pool.Sound lost) (configuration : SQLiteDatabaseConfiguration)
    (primaryConnection : Bool) :
    (afterOpening configuration primaryConnection pool).Sound
      (⟨pool.mNextConnectionId, primaryConnection⟩ :: lost) :=
  { sound with
    conserved := fun other => by
      have counts := sound.conserved other
      simp only [SQLiteConnectionPool.afterOpening, available, acquired, List.count_cons]
        at counts ⊢
      omega
    distinct := List.nodup_cons.mpr ⟨sound.fresh primaryConnection, sound.distinct⟩
    numbered := fun other member => by
      rcases List.mem_cons.mp member with rfl | before
      · exact Nat.lt_succ_self _
      · exact Nat.lt_succ_of_lt (sound.numbered other before) }

end Reconfiguring

end SQLiteConnectionPool
end Pool
end ModuleDatabase
