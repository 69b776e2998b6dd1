import ModuleDatabase.Pool.Upkeep

namespace ModuleDatabase
namespace Pool
namespace SQLiteConnectionPool

/-!
# Reconfiguring keeps the books

Whatever branch `reconfigure` takes, and whether it returns or throws, what is available
afterwards has the configuration of the pool, and only connections that were available have
been closed.
-/

section Reconfiguring

variable (device : Device) {pool : SQLiteConnectionPool} {lost : List SQLiteConnection}
  {connection : SQLiteConnection}

theorem Orderly.closeAvailable (orderly : pool.Orderly lost) (isOpen : Bool) :
    (closeAvailableConnectionsAndLogExceptionsLocked { pool with mIsOpen := isOpen }).Orderly
      lost := by
  refine ⟨orderly.sound.closeAvailable isOpen, ?_⟩
  rw [closeAvailable_eq]
  exact ⟨fun other member => (by cases member), orderly.configured.acquired⟩

theorem Orderly.closeAvailableNonPrimary (orderly : pool.Orderly lost) :
    (closeAvailableNonPrimaryConnectionsAndLogExceptionsLocked pool).Orderly lost := by
  refine ⟨orderly.sound.closeAvailableNonPrimary, ?_⟩
  rw [closeAvailableNonPrimary_eq]
  refine ⟨fun other member => ?_, orderly.configured.acquired⟩
  rw [available, List.append_nil] at member
  exact orderly.configured.available other (List.mem_append.mpr (Or.inl member))

/-- What the loop over the available connections leaves. -/
structure Reconfigures (connections : List SQLiteConnection) (pool : SQLiteConnectionPool)
    (result : List SQLiteConnection × SQLiteConnectionPool) : Prop where
  sublist : result.1.Sublist connections
  conserved : ∀ other, result.1.count other + result.2.closed.count other =
    connections.count other + pool.closed.count other
  same : result.2 = { pool with
    calls := result.2.calls, fields := result.2.fields, closed := result.2.closed }
  current : ∀ other ∈ result.1,
    (result.2.fields other).mConfiguration = pool.mConfiguration
  keeps : ∀ other, (pool.fields other).mConfiguration = pool.mConfiguration →
    (result.2.fields other).mConfiguration = pool.mConfiguration

theorem reconfigures (connections : List SQLiteConnection) (pool : SQLiteConnectionPool) :
    Reconfigures connections pool (reconfigureNonPrimary device connections pool) := by
  induction connections generalizing pool with
  | nil => exact ⟨List.Sublist.refl _, fun _ => rfl, rfl, fun _ member => (by cases member),
      fun _ before => before⟩
  | cons connection rest ih =>
      have keeps (other : SQLiteConnection)
          (before : (pool.fields other).mConfiguration = pool.mConfiguration) :=
        reconfigureConnection_keeps device connection other before
      cases succeeds : device.reconfigures pool.calls with
      | true =>
          have first : reconfigureAvailable device connection pool =
              (true, (reconfigureConnection device connection pool).2) := by
            simp only [reconfigureAvailable, reconfigureConnection, succeeds]
          have current : ((reconfigureConnection device connection pool).2.fields
              connection).mConfiguration = pool.mConfiguration := by
            simp [reconfigureConnection, succeeds]
          have later := ih (reconfigureConnection device connection pool).2
          simp only [reconfigureNonPrimary, first]
          refine ⟨later.sublist.cons_cons connection, fun other => ?_, ?_, fun other member => ?_,
            fun other before => later.keeps other (keeps other before)⟩
          · have counts := later.conserved other
            simp only [List.count_cons]
            simp only [reconfigureConnection] at counts ⊢
            omega
          · rw [later.same]
            rfl
          · rcases List.mem_cons.mp member with rfl | kept
            · exact later.keeps _ current
            · exact later.current other kept
      | false =>
          have first : reconfigureAvailable device connection pool =
              (false, closeConnectionAndLogExceptionsLocked connection
                (reconfigureConnection device connection pool).2) := by
            simp only [reconfigureAvailable, reconfigureConnection, succeeds]
          have later := ih (closeConnectionAndLogExceptionsLocked connection
            (reconfigureConnection device connection pool).2)
          simp only [reconfigureNonPrimary, first]
          refine ⟨later.sublist.cons connection, fun other => ?_, ?_,
            fun other member => later.current other member,
            fun other before => later.keeps other (keeps other before)⟩
          · have counts := later.conserved other
            simp only [List.count_cons, reconfigureConnection,
              closeConnectionAndLogExceptionsLocked] at counts ⊢
            omega
          · rw [later.same]
            rfl

/-- The primary connection has the configuration of the pool, or there is none. -/
structure PrimaryReconfigured (pool next : SQLiteConnectionPool) (lost : List SQLiteConnection) :
    Prop where
  sound : next.Sound lost
  current : ∀ other, next.mAvailablePrimaryConnection = some other →
    (next.fields other).mConfiguration = next.mConfiguration
  same : next = { pool with
    calls := next.calls, fields := next.fields, closed := next.closed
    mAvailablePrimaryConnection := next.mAvailablePrimaryConnection }

theorem Sound.dropPrimary (sound : pool.Sound lost)
    (here : pool.mAvailablePrimaryConnection = some connection) :
    Sound { pool with mAvailablePrimaryConnection := none } (connection :: lost) := by
  refine { sound with
    conserved := fun other => ?_
    primary := fun other impossible => ?_
    single := ?_
    emptied := fun isClosed => ?_ }
  · have counts := sound.conserved other
    simp only [available, acquired, here, Option.toList_none, Option.toList_some, List.nil_append,
      List.singleton_append, List.count_cons] at counts ⊢
    omega
  · cases impossible
  · have single := sound.single
    simp only [usablePrimaries, Option.toList_none, List.length_nil] at single ⊢
    omega
  · have empty := sound.emptied isClosed
    rw [available, here] at empty
    cases empty

theorem primaryReconfigured (sound : pool.Sound lost) :
    PrimaryReconfigured pool (reconfigurePrimary device pool) lost := by
  cases here : pool.mAvailablePrimaryConnection with
  | none =>
      have result : reconfigurePrimary device pool = pool := by
        simp only [reconfigurePrimary, here]
      rw [result]
      exact ⟨sound, fun other some => (by rw [here] at some; cases some), rfl⟩
  | some connection =>
      cases succeeds : device.reconfigures pool.calls with
      | true =>
          have result : reconfigurePrimary device pool =
              (reconfigureConnection device connection pool).2 := by
            simp only [reconfigurePrimary, here, reconfigureAvailable, reconfigureConnection,
              succeeds]
          rw [result]
          refine ⟨{ sound with }, fun other same => ?_, by rw [reconfigureConnection, here]⟩
          cases here.symm.trans same
          simp [reconfigureConnection, succeeds]
      | false =>
          have result : reconfigurePrimary device pool =
              closeConnectionAndLogExceptionsLocked connection
                { (reconfigureConnection device connection pool).2 with
                  mAvailablePrimaryConnection := none } := by
            simp only [reconfigurePrimary, here, reconfigureAvailable, reconfigureConnection,
              succeeds]
            rfl
          rw [result]
          have dropped := sound.dropPrimary here
          exact ⟨Sound.close { dropped with }, fun other some => (by cases some), rfl⟩

/-- Whatever configurations there were, they are those of the pool afterwards. -/
theorem Sound.reconfigureAll (sound : pool.Sound lost) :
    (reconfigureAllConnectionsLocked device pool).Orderly lost := by
  have first := primaryReconfigured device sound
  rw [reconfigureAllConnectionsLocked]
  generalize reconfigurePrimary device pool = next at first
  have second := reconfigures device next.mAvailableNonPrimaryConnections next
  dsimp only
  generalize reconfigureNonPrimary device next.mAvailableNonPrimaryConnections next = result
    at second
  obtain ⟨kept, last⟩ := result
  have same := second.same
  dsimp only at same
  have sound := first.sound
  constructor
  · refine Sound.mark ?_ .RECONFIGURE
    rw [same]
    refine { sound with
      conserved := fun other => ?_
      nonPrimary := fun other member => sound.nonPrimary other (second.sublist.subset member)
      sized := ?_
      spare := ?_
      emptied := fun isClosed => ?_ }
    · have counts := sound.conserved other
      have moved := second.conserved other
      simp only [available, acquired, List.count_append] at counts moved ⊢
      omega
    · have sized := sound.sized
      have shorter := second.sublist.length_le
      simp only [usableNonPrimaries] at sized shorter ⊢
      omega
    · have spare := sound.spare
      have shorter := second.sublist.length_le
      simp only at shorter ⊢
      omega
    · have empty := sound.emptied isClosed
      rw [available, List.append_eq_nil_iff] at empty
      have none := second.sublist
      rw [empty.2] at none
      rw [available]
      simp only [empty.1, List.nil_append]
      exact List.sublist_nil.mp none
  · constructor
    · intro other member
      have configuration : last.mConfiguration = next.mConfiguration := by rw [same]
      have primary : last.mAvailablePrimaryConnection = next.mAvailablePrimaryConnection := by
        rw [same]
      refine Eq.trans ?_ configuration.symm
      rcases List.mem_append.mp member with here | rest
      · refine second.keeps other (first.current other ?_)
        rw [← primary]
        exact Option.mem_toList.mp here
      · exact second.current other rest
    · intro entry member normal
      rw [mark_acquired] at member
      obtain ⟨before, _, rfl⟩ := List.mem_map.mp member
      rw [marked_snd] at normal
      split at normal <;> cases normal

/-- The pool with new parameters. -/
def updated (configuration : SQLiteDatabaseConfiguration) (pool : SQLiteConnectionPool) :
    SQLiteConnectionPool :=
  { pool with
    mConfiguration := configuration
    mMaxConnectionPoolSize := maxConnectionPoolSize configuration.openFlags }

theorem run_updateParametersFrom {configuration : SQLiteDatabaseConfiguration}
    (path : pool.mConfiguration.path = configuration.path) :
    updateParametersFrom configuration pool = .ok () (updated configuration pool) := by
  rw [updateParametersFrom, if_pos path]
  rfl

/-- `reconfigureInPlace` returns, for a configuration of the same database. -/
theorem run_reconfigureInPlace {configuration : SQLiteDatabaseConfiguration}
    (path : pool.mConfiguration.path = configuration.path) :
    reconfigureInPlace device configuration pool =
      .ok () (reconfigureAllConnectionsLocked device
        (closeExcessConnectionsAndLogExceptionsLocked (updated configuration pool))) := by
  simp only [reconfigureInPlace, run_updateParametersFrom path]

/-- The open flags decide how large the pool may be. -/
theorem Orderly.updated (orderly : pool.Orderly lost)
    {configuration : SQLiteDatabaseConfiguration}
    (flags : pool.mConfiguration.openFlags = configuration.openFlags) :
    (updated configuration pool).Sound lost := by
  have bound := orderly.sound.bound
  rw [flags] at bound
  exact { orderly.sound with
    sized := Nat.le_trans orderly.sound.sized (Nat.le_of_eq bound)
    spare := Nat.le_trans orderly.sound.spare (Nat.le_of_eq bound)
    bound := rfl }

/-- The pool when the primary connection has been replaced. -/
def reopened (configuration : SQLiteDatabaseConfiguration) (pool : SQLiteConnectionPool) :
    SQLiteConnectionPool :=
  { discardAcquiredConnectionsLocked (closeAvailableConnectionsAndLogExceptionsLocked
      (afterOpening configuration true pool)) with
    mAvailablePrimaryConnection := some ⟨pool.mNextConnectionId, true⟩
    mConfiguration := configuration
    mMaxConnectionPoolSize := maxConnectionPoolSize configuration.openFlags }

theorem run_reopen_of_opens {configuration : SQLiteDatabaseConfiguration}
    (path : pool.mConfiguration.path = configuration.path)
    (opens : device.opens pool.mNextConnectionId = true) :
    reopen device configuration false pool = .ok () (reopened configuration pool) := by
  have opening := run_openConnectionLocked_of_opens device configuration true opens
  simp only [reopen, Bool.false_eq_true, if_false, opening]
  rw [run_updateParametersFrom]
  · rfl
  · rw [closeAvailable_eq]
    exact path

theorem run_reopen_of_fails {configuration : SQLiteDatabaseConfiguration}
    (fails : device.opens pool.mNextConnectionId = false) :
    reopen device configuration false pool = .error .sqlite (afterFailing pool) := by
  have opening := run_openConnectionLocked_of_fails device configuration true fails
  simp only [reopen, Bool.false_eq_true, if_false, opening]

/-- When the journal mode changes, all available connections are closed first. -/
theorem run_reopen_of_wal (configuration : SQLiteDatabaseConfiguration)
    (pool : SQLiteConnectionPool) :
    reopen device configuration true pool = reopen device configuration false
      (closeAvailableConnectionsAndLogExceptionsLocked pool) := rfl

theorem Orderly.reopened (orderly : pool.Orderly lost) (isOpen : pool.mIsOpen = true)
    (configuration : SQLiteDatabaseConfiguration) :
    (reopened configuration pool).Orderly lost := by
  have opened := orderly.sound.afterOpening configuration true
  have closed := (opened.closeAvailable pool.mIsOpen).mark .DISCARD
  -- Nothing that has been acquired is of any use.
  have useless (primary : Bool) : (pool.mAcquiredConnections.map (marked .DISCARD)).countP
      (usable primary) = 0 := by
    refine List.countP_eq_zero.mpr fun entry member => ?_
    obtain ⟨before, _, rfl⟩ := List.mem_map.mp member
    simp [usable, marked_snd]
  have sound := closed.putPrimary rfl
    (by rw [markAcquiredConnectionsLocked, closeAvailable_eq]; exact isOpen)
    (by
      rw [usablePrimaries, mark_acquired, closeAvailable_eq]
      exact useless true)
  constructor
  · refine { sound with
      sized := ?_
      spare := ?_
      bound := rfl
      emptied := fun isClosed => ?_ }
    · have none : (SQLiteConnectionPool.reopened configuration pool).usableNonPrimaries = 0 := by
        rw [usableNonPrimaries, SQLiteConnectionPool.reopened, discardAcquiredConnectionsLocked,
          closeAvailable_eq]
        simpa [markAcquiredConnectionsLocked, afterOpening, marked] using useless false
      rw [none]
      exact Nat.zero_le _
    · rw [SQLiteConnectionPool.reopened, discardAcquiredConnectionsLocked, closeAvailable_eq]
      exact maxConnectionPoolSize_pos configuration.openFlags
    · rw [SQLiteConnectionPool.reopened, discardAcquiredConnectionsLocked,
        closeAvailable_eq] at isClosed
      exact absurd (isOpen.symm.trans isClosed) (by decide)
  · rw [SQLiteConnectionPool.reopened, discardAcquiredConnectionsLocked, closeAvailable_eq]
    constructor
    · intro other member
      change other ∈ [⟨pool.mNextConnectionId, true⟩] at member
      rw [List.mem_singleton.mp member]
      simp [markAcquiredConnectionsLocked, afterOpening]
    · intro entry member normal
      change entry ∈ pool.mAcquiredConnections.map (marked .DISCARD) at member
      obtain ⟨before, _, rfl⟩ := List.mem_map.mp member
      rw [marked_snd] at normal
      split at normal <;> cases normal

/-- Nothing has changed but connections that are available. -/
structure Frame (pool next : SQLiteConnectionPool) : Prop where
  waiters : SameWaiters pool next
  isOpen : next.mIsOpen = pool.mIsOpen
  leaked : next.mConnectionLeaked = pool.mConnectionLeaked
  acquired : next.acquired = pool.acquired

theorem Frame.refl (pool : SQLiteConnectionPool) : Frame pool pool :=
  ⟨⟨rfl, rfl, rfl, rfl, rfl, rfl⟩, rfl, rfl, rfl⟩

theorem Frame.trans {mid next : SQLiteConnectionPool} (first : Frame pool mid)
    (second : Frame mid next) : Frame pool next :=
  ⟨first.waiters.trans second.waiters, second.isOpen.trans first.isOpen,
    second.leaked.trans first.leaked, second.acquired.trans first.acquired⟩

theorem closeAvailableNonPrimary_frame (pool : SQLiteConnectionPool) :
    Frame pool (closeAvailableNonPrimaryConnectionsAndLogExceptionsLocked pool) := by
  rw [closeAvailableNonPrimary_eq]
  exact ⟨⟨rfl, rfl, rfl, rfl, rfl, rfl⟩, rfl, rfl, rfl⟩

theorem closeAvailable_frame (pool : SQLiteConnectionPool) :
    Frame pool (closeAvailableConnectionsAndLogExceptionsLocked pool) := by
  rw [closeAvailable_eq]
  exact ⟨⟨rfl, rfl, rfl, rfl, rfl, rfl⟩, rfl, rfl, rfl⟩

theorem closeExcess_frame (pool : SQLiteConnectionPool) :
    Frame pool (closeExcessConnectionsAndLogExceptionsLocked pool) := by
  rw [closeExcess_eq]
  exact ⟨⟨rfl, rfl, rfl, rfl, rfl, rfl⟩, rfl, rfl, rfl⟩

theorem mark_frame (status : AcquiredConnectionStatus) (pool : SQLiteConnectionPool) :
    Frame pool (markAcquiredConnectionsLocked status pool) := by
  refine ⟨⟨rfl, rfl, rfl, rfl, rfl, rfl⟩, rfl, rfl, ?_⟩
  rw [acquired, mark_acquired, List.map_map]
  exact List.map_congr_left fun entry _ => marked_fst status entry

theorem reconfigureAll_frame (sound : pool.Sound lost) :
    Frame pool (reconfigureAllConnectionsLocked device pool) := by
  have first := (primaryReconfigured device sound).same
  have second := (reconfigures device
    (reconfigurePrimary device pool).mAvailableNonPrimaryConnections
    (reconfigurePrimary device pool)).same
  rw [reconfigureAllConnectionsLocked]
  refine Frame.trans ?_ (mark_frame .RECONFIGURE _)
  dsimp only
  rw [second, first]
  exact ⟨⟨rfl, rfl, rfl, rfl, rfl, rfl⟩, rfl, rfl, rfl⟩

/-- The available connections that `reconfigure` closes before anything else. -/
inductive Prepared (pool : SQLiteConnectionPool) : SQLiteConnectionPool → Prop where
  | unchanged : Prepared pool pool
  | nonPrimary :
      Prepared pool (closeAvailableNonPrimaryConnectionsAndLogExceptionsLocked pool)
  | all (next : SQLiteConnectionPool) (prepared : Prepared pool next) :
      Prepared pool (closeAvailableConnectionsAndLogExceptionsLocked next)

/-- What `reconfigure` can do. -/
inductive Reconfiguring (configuration : SQLiteDatabaseConfiguration)
    (pool : SQLiteConnectionPool) :
    EStateM.Result Thrown SQLiteConnectionPool Unit → Prop where
  | refused {next : SQLiteConnectionPool} (prepared : Prepared pool next) :
      Reconfiguring configuration pool (.error .illegalState next)
  | unopened {next : SQLiteConnectionPool} (prepared : Prepared pool next) :
      Reconfiguring configuration pool (.error .sqlite (afterFailing next))
  | inPlace {next : SQLiteConnectionPool} (prepared : Prepared pool next)
      (flags : next.mConfiguration.openFlags = configuration.openFlags) :
      Reconfiguring configuration pool
        (.ok () (wakeConnectionWaitersLocked device (reconfigureAllConnectionsLocked device
          (closeExcessConnectionsAndLogExceptionsLocked (updated configuration next)))))
  | reopened {next : SQLiteConnectionPool} (prepared : Prepared pool next)
      (isOpen : next.mIsOpen = true) :
      Reconfiguring configuration pool
        (.ok () (wakeConnectionWaitersLocked device (reopened configuration next)))

theorem Prepared.frame {next : SQLiteConnectionPool} (prepared : Prepared pool next) :
    Frame pool next := by
  induction prepared with
  | unchanged => exact .refl pool
  | nonPrimary => exact closeAvailableNonPrimary_frame pool
  | all next _ ih => exact ih.trans (closeAvailable_frame next)

theorem Prepared.configuration {next : SQLiteConnectionPool} (prepared : Prepared pool next) :
    next.mConfiguration = pool.mConfiguration := by
  induction prepared with
  | unchanged => rfl
  | nonPrimary => rw [closeAvailableNonPrimary_eq]
  | all next _ ih => rw [closeAvailable_eq, ← ih]

/-- Whichever branch is taken, when nothing has been refused. -/
theorem reconfiguring_of_prepared {configuration : SQLiteDatabaseConfiguration}
    (path : pool.mConfiguration.path = configuration.path) (isOpen : pool.mIsOpen = true)
    (walModeChanged : Bool) {prepared : SQLiteConnectionPool} (closes : Prepared pool prepared)
    {branch : Locked Unit}
    (chosen : branch = if prepared.mConfiguration.openFlags = configuration.openFlags then
      reconfigureInPlace device configuration
      else reopen device configuration walModeChanged) :
    (∃ next, branch prepared = .ok () next ∧ Reconfiguring device configuration pool
        (.ok () (wakeConnectionWaitersLocked device next))) ∨
      ∃ thrown next, branch prepared = .error thrown next ∧
        Reconfiguring device configuration pool (.error thrown next) := by
  have samePath : prepared.mConfiguration.path = configuration.path := by
    rw [closes.configuration, path]
  subst chosen
  by_cases flags : prepared.mConfiguration.openFlags = configuration.openFlags
  · rw [if_pos flags]
    exact Or.inl ⟨_, run_reconfigureInPlace device samePath, .inPlace closes flags⟩
  · rw [if_neg flags]
    have replaced : ∀ {next : SQLiteConnectionPool}, Prepared pool next →
        (∃ last, reopen device configuration false next = .ok () last ∧
          Reconfiguring device configuration pool
            (.ok () (wakeConnectionWaitersLocked device last))) ∨
        ∃ thrown last, reopen device configuration false next = .error thrown last ∧
          Reconfiguring device configuration pool (.error thrown last) := by
      intro next closes
      cases opens : device.opens next.mNextConnectionId with
      | true =>
          have path : next.mConfiguration.path = configuration.path := by
            rw [closes.configuration, path]
          exact Or.inl ⟨_, run_reopen_of_opens device path opens,
            .reopened closes (closes.frame.isOpen.trans isOpen)⟩
      | false => exact Or.inr ⟨_, _, run_reopen_of_fails device opens, .unopened closes⟩
    cases walModeChanged with
    | false => exact replaced closes
    | true =>
        rw [run_reopen_of_wal]
        exact replaced (.all _ closes)

/-- `reconfigure` for a configuration of the same database. -/
theorem reconfiguring {configuration : SQLiteDatabaseConfiguration}
    (path : pool.mConfiguration.path = configuration.path) :
    Reconfiguring device configuration pool (reconfigure device configuration pool) := by
  rw [reconfigure]
  dsimp only
  generalize hasFlag (configuration.openFlags ^^^ pool.mConfiguration.openFlags)
    ENABLE_WRITE_AHEAD_LOGGING = walModeChanged
  cases isOpen : pool.mIsOpen with
  | false => exact .refused .unchanged
  | true =>
      rw [if_neg (by simp)]
      split
      · exact .refused .unchanged
      · have closes : Prepared pool
            (if walModeChanged then closeAvailableNonPrimaryConnectionsAndLogExceptionsLocked pool
              else pool) := by
          split
          · exact .nonPrimary
          · exact .unchanged
        generalize (if walModeChanged then
          closeAvailableNonPrimaryConnectionsAndLogExceptionsLocked pool else pool) = prepared
          at closes
        split
        · exact .refused closes
        · rcases reconfiguring_of_prepared device path isOpen walModeChanged closes rfl with
            ⟨next, ends, result⟩ | ⟨thrown, next, throws, result⟩
          · rw [ends]
            exact result
          · rw [throws]
            exact result

theorem Orderly.prepared (orderly : pool.Orderly lost) {next : SQLiteConnectionPool}
    (prepared : Prepared pool next) : next.Orderly lost := by
  induction prepared with
  | unchanged => exact orderly
  | nonPrimary => exact orderly.closeAvailableNonPrimary
  | all next _ ih => exact ih.closeAvailable next.mIsOpen

theorem updated_frame (configuration : SQLiteDatabaseConfiguration)
    (pool : SQLiteConnectionPool) : Frame pool (updated configuration pool) :=
  ⟨⟨rfl, rfl, rfl, rfl, rfl, rfl⟩, rfl, rfl, rfl⟩

theorem reopened_frame (configuration : SQLiteDatabaseConfiguration)
    (pool : SQLiteConnectionPool) : Frame pool (reopened configuration pool) := by
  have opening : Frame pool (afterOpening configuration true pool) :=
    ⟨⟨rfl, rfl, rfl, rfl, rfl, rfl⟩, rfl, rfl, rfl⟩
  have closing := (opening.trans (closeAvailable_frame _)).trans (mark_frame .DISCARD _)
  exact ⟨closing.waiters.trans ⟨rfl, rfl, rfl, rfl, rfl, rfl⟩, closing.isOpen, closing.leaked,
    closing.acquired⟩

/-- Closing what nobody waits for leaves everybody waiting. -/
theorem Prepared.stuck {next : SQLiteConnectionPool} (prepared : Prepared pool next)
    {wanted : Bool} (stuck : pool.Stuck wanted) : next.Stuck wanted := by
  induction prepared with
  | unchanged => exact stuck
  | nonPrimary =>
      rw [closeAvailableNonPrimary_eq]
      exact ⟨stuck.1, fun notWanted => ⟨rfl, (stuck.2 notWanted).2⟩⟩
  | all next _ ih =>
      obtain ⟨⟨missing, used⟩, nonPrimary⟩ := ih
      rw [closeAvailable_eq]
      refine ⟨⟨rfl, used⟩, fun notWanted => ⟨rfl, ?_⟩⟩
      have full := (nonPrimary notWanted).2
      rw [openConnections, missing] at full
      exact full

theorem Settles.of_quiet {next : SQLiteConnectionPool} (orderly : next.Orderly lost)
    (frame : Frame pool next) (stays : ∀ wanted, pool.Stuck wanted → next.Stuck wanted) :
    Settles device pool pool.acquired lost next :=
  .quiet orderly frame.waiters frame.isOpen frame.leaked frame.acquired fun _ => stays

theorem Settles.of_woken {next : SQLiteConnectionPool} (orderly : next.Orderly lost)
    (frame : Frame pool next) :
    Settles device pool pool.acquired lost (wakeConnectionWaitersLocked device next) :=
  .woken orderly frame.waiters frame.isOpen frame.leaked frame.acquired

/-- `reconfigure`, whether it returns or throws. -/
theorem Orderly.reconfigure (orderly : pool.Orderly lost)
    {configuration : SQLiteDatabaseConfiguration}
    (path : pool.mConfiguration.path = configuration.path) :
    Settles device pool pool.acquired lost
      (Effect.final (SQLiteConnectionPool.reconfigure device configuration) pool) := by
  have reconfiguring := reconfiguring device path
  rw [Effect.final, EStateM.run]
  generalize SQLiteConnectionPool.reconfigure device configuration pool = result at reconfiguring
  cases reconfiguring with
  | refused prepared =>
      exact .of_quiet device (orderly.prepared prepared) prepared.frame
        fun _ stuck => prepared.stuck stuck
  | unopened prepared =>
      exact .of_quiet device (orderly.prepared prepared).afterFailing
        (prepared.frame.trans ⟨⟨rfl, rfl, rfl, rfl, rfl, rfl⟩, rfl, rfl, rfl⟩)
        fun _ stuck => prepared.stuck stuck
  | inPlace prepared flags =>
      have updated := (orderly.prepared prepared).updated flags
      have closing := (prepared.frame.trans (updated_frame configuration _)).trans
        (closeExcess_frame _)
      exact .of_woken device (updated.closeExcess.reconfigureAll device)
        (closing.trans (reconfigureAll_frame device updated.closeExcess))
  | reopened prepared isOpen =>
      exact .of_woken device ((orderly.prepared prepared).reopened isOpen configuration)
        (prepared.frame.trans (reopened_frame configuration _))

end Reconfiguring

end SQLiteConnectionPool
end Pool
end ModuleDatabase
