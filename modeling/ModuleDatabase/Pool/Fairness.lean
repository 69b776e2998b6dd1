import ModuleDatabase.Pool.Places
import ModuleDatabase.Pool.Turns

namespace ModuleDatabase
namespace Pool

/-!
# Who is served, and in which order

A thread sleeps only as long as no connection could be given to it, and then the primary
connection is with somebody who does not sleep.  Waiters are served in the order of the queue,
nobody takes what somebody in the queue could use, and a thread that gives its connection up
because `shouldYieldConnection` says so does not do it in vain.
-/

namespace System

open SQLiteConnectionPool

section Guarantees

variable {device : Device} {system : System} {thread : Thread} {connection : SQLiteConnection}

/-- A thread has the primary connection, another waits for it. -/
def contended : System :=
  (machine faultless).after (initial (withFlags ENABLE_WRITE_AHEAD_LOGGING))
    [.acquire 0 none 2 none, .acquire 1 none 2 none, .poll 1]

theorem contended_reachable : Reachable faultless contended :=
  ⟨withFlags ENABLE_WRITE_AHEAD_LOGGING, _, rfl⟩

theorem contended_quiet : ¬ contended.Alert := by
  rintro (lost | flag | ⟨thread, wait, waiting, recovering⟩)
  · exact lost rfl
  · cases flag
  · by_cases same : thread = 1
    · subst same
      have here : contended.waits 1 = some ⟨0, 0, false, .parking⟩ := by decide
      cases here.symm.trans waiting
      cases recovering
    · have outside : contended.waits thread =
          Function.update (Function.update (fun _ => none) 1 (some ⟨0, 0, false, .looping⟩)) 1
            (some ⟨0, 0, false, .parking⟩) thread := rfl
      rw [Function.update_of_ne same, Function.update_of_ne same, waiting] at outside
      cases outside

/-! ## Sleeping -/

/-- A thread that waits and has not been unparked has an open request in the queue of an open
pool, and unless somebody is about to wake everybody, no connection can be given to it. -/
theorem sleeper_stuck (reachable : Reachable device system) {wait : Wait}
    (waiting : system.waits thread = some wait) (inside : wait.phase ≠ .leaving)
    (unchecked : wait.phase ≠ .checking) (unpermitted : system.pool.permits thread = false) :
    system.pool.mIsOpen = true ∧ wait.waiter ∈ system.pool.mConnectionWaiterQueue ∧
      (system.pool.waiters wait.waiter).Undecided ∧
      (¬ system.Alert →
        tryAcquirePrimaryConnectionLocked device
            (system.pool.waiters wait.waiter).mConnectionFlags system.pool =
          .ok none system.pool ∧
        ((system.pool.waiters wait.waiter).mWantPrimaryConnection = false →
          tryAcquireNonPrimaryConnectionLocked device (system.pool.waiters wait.waiter).mSql
              (system.pool.waiters wait.waiter).mConnectionFlags system.pool =
            .ok none system.pool)) := by
  have invariant := reachable.invariant
  have attended := invariant.kept.attended
  have queued : wait.waiter ∈ system.pool.mConnectionWaiterQueue := by
    by_contra absent
    have permitted := attended.awake thread wait.waiter
      ⟨wait, waiting, inside, unchecked, rfl⟩ absent
    cases unpermitted.symm.trans permitted
  have isOpen : system.pool.mIsOpen = true := by
    by_contra isClosed
    rw [invariant.drained (Bool.eq_false_iff.mpr isClosed)] at queued
    cases queued
  refine ⟨isOpen, queued, attended.undecided _ queued, fun quiet => ?_⟩
  have stuck := (invariant.exhausted isOpen).resolve_right quiet _ queued
  exact ⟨run_tryAcquirePrimary_of_stuck device _ stuck.1, fun notWanted =>
    run_tryAcquireNonPrimary_of_stuck device _ _ (stuck.2 notWanted)⟩

theorem sleeper_stuck_of_contended :
    contended.pool.mIsOpen = true ∧ 0 ∈ contended.pool.mConnectionWaiterQueue ∧
      (contended.pool.waiters 0).Undecided ∧
      (¬ contended.Alert →
        tryAcquirePrimaryConnectionLocked faultless (contended.pool.waiters 0).mConnectionFlags
          contended.pool = .ok none contended.pool ∧
        ((contended.pool.waiters 0).mWantPrimaryConnection = false →
          tryAcquireNonPrimaryConnectionLocked faultless (contended.pool.waiters 0).mSql
            (contended.pool.waiters 0).mConnectionFlags contended.pool =
              .ok none contended.pool)) := by
  have waiting : contended.waits 1 = some ⟨0, 0, false, .parking⟩ := by decide
  exact sleeper_stuck contended_reachable waiting (by decide) (by decide) (by decide)

/-- As long as anybody waits, the primary connection is held by a thread, or it has been
assigned to one that has been unparked and only has to take it. -/
theorem waits_for_somebody (reachable : Reachable device system) (quiet : ¬ system.Alert)
    (waiting : system.pool.mConnectionWaiterQueue ≠ []) :
    ∃ connection thread, connection.mIsPrimaryConnection = true ∧
      (system.At connection (.held thread) ∨
        system.At connection (.promised thread) ∧
          (system.pool.permits thread = true ∨
            ∃ wait, system.waits thread = some wait ∧ wait.phase = .checking)) := by
  have invariant := reachable.invariant
  have isOpen : system.pool.mIsOpen = true := by
    by_contra isClosed
    exact waiting (invariant.drained (Bool.eq_false_iff.mpr isClosed))
  obtain ⟨ref, queued⟩ := List.exists_mem_of_ne_nil _ waiting
  have stuck := (invariant.exhausted isOpen).resolve_right quiet ref queued
  obtain ⟨_, entry, member, primary⟩ := stuck.1
  obtain ⟨place, inUse, here⟩ :=
    invariant.toSafe.acquired_iff.mp (List.mem_map.mpr ⟨entry, member, rfl⟩)
  cases place with
  | available => exact absurd inUse id
  | collected => exact absurd inUse id
  | closed => exact absurd inUse id
  | held thread => exact ⟨entry.1, thread, primary, Or.inl here⟩
  | stranded =>
      have impossible : entry.1 ∈ system.stranded := here
      rw [invariant.unstranded isOpen] at impossible
      cases impossible
  | promised thread =>
      refine ⟨entry.1, thread, primary, Or.inr ⟨here, ?_⟩⟩
      obtain ⟨ref', recyclings, ⟨wait, waits, inside, rfl, _⟩, assigned⟩ := here
      by_cases checking : wait.phase = .checking
      · exact Or.inr ⟨wait, waits, checking⟩
      · refine Or.inl (invariant.kept.attended.awake thread wait.waiter
          ⟨wait, waits, inside, checking, rfl⟩ fun again => ?_)
        cases (invariant.kept.attended.undecided _ again).1.symm.trans assigned

theorem waits_for_somebody_of_contended :
    ∃ connection thread, connection.mIsPrimaryConnection = true ∧
      (contended.At connection (.held thread) ∨
        contended.At connection (.promised thread) ∧
          (contended.pool.permits thread = true ∨
            ∃ wait, contended.waits thread = some wait ∧ wait.phase = .checking)) :=
  waits_for_somebody contended_reachable contended_quiet (by decide)

/-! ## Order -/

/-- A thread that gets a connection without waiting takes nothing that anybody in the queue
could use. -/
theorem no_barging (reachable : Reachable device system) (quiet : ¬ system.Alert)
    {sql : Option String} {connectionFlags : BitVec 32} {signal : Option Bool}
    (returned : (system.perform device (.acquire thread sql connectionFlags signal)).1 =
      .returned connection) :
    ∀ ref ∈ system.pool.mConnectionWaiterQueue,
      (system.pool.waiters ref).mWantPrimaryConnection = true ∧
        connection.mIsPrimaryConnection = false := by
  intro ref queued
  have invariant := reachable.invariant
  have acquires := acquires returned
  generalize (system.acquire device thread sql connectionFlags signal).2 = next at acquires
  obtain ⟨isOpen, takes⟩ := acquires
  have stuck := (invariant.exhausted isOpen).resolve_right quiet ref queued
  obtain ⟨⟨missing, entry, member, primary⟩, nonPrimary⟩ := stuck
  rw [← Bool.not_eq_false]
  cases takes with
  | primary here => cases missing.symm.trans here
  | newPrimary _ unused => cases primary.symm.trans (unused entry member)
  | nonPrimary here =>
      refine ⟨fun notWanted => ?_, invariant.kept.orderly.sound.nonPrimary _ here⟩
      rw [(nonPrimary notWanted).1] at here
      cases here
  | newNonPrimary _ grows =>
      refine ⟨fun notWanted => ?_, rfl⟩
      exact Nat.not_le_of_lt grows (nonPrimary notWanted).2

theorem no_barging_of_contended :
    (contended.pool.waiters 0).mWantPrimaryConnection = true ∧
      (⟨1, false⟩ : SQLiteConnection).mIsPrimaryConnection = false := by
  have returned : (contended.perform faultless (.acquire 2 none 0 none)).1 =
      .returned ⟨1, false⟩ := by decide
  exact no_barging contended_reachable contended_quiet returned 0 (by decide)

/-- A method that settles the pool serves waiters in the order of the queue. -/
theorem Invariant.settles_order (invariant : system.Invariant) {next : SQLiteConnectionPool}
    {keys : List SQLiteConnection}
    (settles : Settles device system.pool keys system.collected next) {ref other : WaiterRef}
    (order : [other, ref].Sublist system.pool.mConnectionWaiterQueue)
    (after : (next.waiters ref).mAssignedConnection = some connection)
    (queued : other ∈ next.mConnectionWaiterQueue) :
    (system.pool.waiters other).mWantPrimaryConnection = true ∧
      connection.mIsPrimaryConnection = false := by
  have attended := invariant.kept.attended
  have before := (attended.undecided ref (order.subset (by simp))).1
  cases settles with
  | quiet orderly same isOpen leaked acquired stays =>
      rw [same.waiters] at after
      cases before.symm.trans after
  | woken orderly same isOpen leaked acquired =>
      have opened : system.pool.mIsOpen = true := by
        by_contra isClosed
        rw [invariant.drained (Bool.eq_false_iff.mpr isClosed)] at order
        cases order
      rw [← same.queue] at order
      rw [← same.waiters]
      refine wake_order device orderly.sound (isOpen.trans opened) ?_ order ?_ after queued
      · rw [same.queue]
        exact attended.distinct
      · rw [same.waiters]
        exact before

theorem Invariant.cancel_order (invariant : system.Invariant) (wait : Wait) {ref other : WaiterRef}
    (order : [other, ref].Sublist system.pool.mConnectionWaiterQueue)
    (after : ((system.cancel device wait).2.pool.waiters ref).mAssignedConnection =
      some connection)
    (queued : other ∈ (system.cancel device wait).2.pool.mConnectionWaiterQueue) :
    (system.pool.waiters other).mWantPrimaryConnection = true ∧
      connection.mIsPrimaryConnection = false := by
  have attended := invariant.kept.attended
  have before := (attended.undecided ref (order.subset (by simp))).1
  have cancels := cancels device system.pool wait.waiter wait.nonce
  rw [System.cancel] at after queued
  generalize onCancel device wait.waiter wait.nonce system.pool = result at cancels after queued
  cases cancels with
  | ignored => cases before.symm.trans after
  | missing => cases before.symm.trans after
  | canceled current undecided here =>
      have opened : system.pool.mIsOpen = true := by
        by_contra isClosed
        rw [invariant.drained (Bool.eq_false_iff.mpr isClosed)] at order
        cases order
      have kept := invariant.kept.failed here .operationCanceled
      have same (ref' : WaiterRef) : ((unpark wait.waiter (.failed .operationCanceled)
          system.pool).waiters ref').mAssignedConnection =
            (system.pool.waiters ref').mAssignedConnection := by
        by_cases this : ref' = wait.waiter
        · rw [this, unpark_waiters_self]
          rfl
        · rw [unpark_waiters_of_ne this]
      have stays : other ≠ wait.waiter := by
        rintro rfl
        have member := (wakeLoop_sublist device _ _).subset queued
        exact (attended.distinct.mem_erase_iff.mp member).1 rfl
      have away : ref ≠ wait.waiter := by
        rintro rfl
        have absent : wait.waiter ∉ (unpark wait.waiter (.failed .operationCanceled)
            system.pool).mConnectionWaiterQueue :=
          fun member => (attended.distinct.mem_erase_iff.mp member).1 rfl
        have unchanged := wake_waiters device absent
        have none := (same wait.waiter).trans before
        rw [← unchanged] at none
        cases none.symm.trans after
      rw [← unpark_waiters_of_ne stays (.failed .operationCanceled) system.pool]
      refine wake_order device kept.orderly.sound opened kept.attended.distinct ?_
        ((same ref).trans before) after queued
      · have erased : (unpark wait.waiter (.failed .operationCanceled)
            system.pool).mConnectionWaiterQueue =
              system.pool.mConnectionWaiterQueue.filter (· != wait.waiter) :=
          attended.distinct.erase_eq_filter wait.waiter
        rw [erased]
        have filtered := order.filter (· != wait.waiter)
        rw [List.filter_cons_of_pos (by simpa using stays),
          List.filter_cons_of_pos (by simpa using away), List.filter_nil] at filtered
        exact filtered

/-- A request of a thread that does not wait yet leaves the waiters of the queue alone. -/
theorem Invariant.acquire_waiters (invariant : system.Invariant) {ref : WaiterRef}
    (member : ref ∈ system.pool.mConnectionWaiterQueue) (sql : Option String)
    (connectionFlags : BitVec 32) (signal : Option Bool) :
    (system.acquire device thread sql connectionFlags signal).2.pool.waiters ref =
      system.pool.waiters ref := by
  rw [System.acquire]
  split
  · rfl
  · rw [request]
    cases isOpen : system.pool.mIsOpen with
    | false => rfl
    | true =>
        rw [if_neg (by simp)]
        cases canceled : signal.getD false with
        | true => rfl
        | false =>
            rw [if_neg Bool.false_ne_true]
            have attempts := attempts_tryAcquire device sql connectionFlags system.pool
            generalize tryAcquire device sql connectionFlags system.pool = attempt at attempts
            cases attempts with
            | given takes => exact congrFun takes.sameWaiters.waiters ref
            | unopened => rfl
            | nothing =>
                refine awaiting_other thread sql connectionFlags ?_
                rintro rfl
                exact invariant.kept.attended.nextWaiter_unqueued member

/-- A step of the wait of a thread leaves a waiter alone if it does so in each phase. -/
theorem inPhase_waiters {phase : Phase} {step : Wait → Outcome × System} {ref : WaiterRef}
    (same : ∀ wait, system.waits thread = some wait → wait.phase = phase →
      ((step wait).2.pool.waiters ref).mAssignedConnection =
        (system.pool.waiters ref).mAssignedConnection) :
    ((system.inPhase thread phase step).2.pool.waiters ref).mAssignedConnection =
      (system.pool.waiters ref).mAssignedConnection := by
  rw [inPhase]
  split
  · next wait waiting =>
      split
      · next here => exact same wait waiting here
      · rfl
  · rfl

/-- A thread that looks at its waiter leaves the waiters of the queue alone. -/
theorem Invariant.look_waiters (invariant : system.Invariant) {ref : WaiterRef}
    (member : ref ∈ system.pool.mConnectionWaiterQueue) (wait : Wait) :
    ((system.look thread wait).2.pool.waiters ref).mAssignedConnection =
      (system.pool.waiters ref).mAssignedConnection := by
  have undecided := invariant.kept.attended.undecided ref member
  have recycled : ((recycleConnectionWaiterLocked wait.waiter system.pool).waiters
      ref).mAssignedConnection = (system.pool.waiters ref).mAssignedConnection := by
    by_cases same : ref = wait.waiter
    · rw [same, (recycle_self wait.waiter system.pool).1, ← same, undecided.1]
    · rw [recycle_other same]
  have looks := looks system.pool wait.waiter
  rw [System.look]
  generalize SQLiteConnectionPool.look wait.waiter system.pool = found at looks
  cases looks with
  | closed => rfl
  | given => exact recycled
  | failed => exact recycled
  | undecided => rfl

/-- Releasing a connection does nothing, or what the pool does with it. -/
theorem Invariant.release_settles (invariant : system.Invariant)
    (connection : SQLiteConnection) :
    (system.release device thread connection).2.pool = system.pool ∨
      Settles device system.pool (system.pool.acquired.filter (· != connection))
        system.collected (system.release device thread connection).2.pool := by
  rw [System.release]
  split
  · rw [releaseConnection]
    cases entry : system.pool.mAcquiredConnections.lookup connection with
    | none => exact Or.inl rfl
    | some status => exact Or.inr (invariant.kept.orderly.putBack device entry)
  · exact Or.inl rfl

theorem Invariant.reconfigure_settles (invariant : system.Invariant)
    (configuration : SQLiteDatabaseConfiguration) :
    Settles device system.pool system.pool.acquired system.collected
      (system.reconfigure device configuration).2.pool := by
  have path : system.pool.mConfiguration.path =
      { configuration with path := system.pool.mConfiguration.path }.path := rfl
  have settled := invariant.kept.orderly.reconfigure device path
  rw [Effect.final, EStateM.run] at settled
  rw [System.reconfigure]
  cases result : SQLiteConnectionPool.reconfigure device
    { configuration with path := system.pool.mConfiguration.path } system.pool with
  | ok value next =>
      rw [result] at settled
      exact settled
  | error thrown next =>
      rw [result] at settled
      exact settled

/-- Closing a pool assigns nothing. -/
theorem close_assigned (ref : WaiterRef) :
    ((system.close device).2.pool.waiters ref).mAssignedConnection =
      (system.pool.waiters ref).mAssignedConnection := by
  rw [System.close, SQLiteConnectionPool.close]
  split
  · next result =>
      split at result
      · cases result
      · cases result
        have closing := closeAvailable_frame { system.pool with mIsOpen := false }
        refine (wake_closed_assigned device _ _ closing.isOpen).trans ?_
        rw [closing.waiters.waiters]
  · next result =>
      split at result
      · cases result
        rfl
      · cases result

/-- Whatever step is taken, a waiter that gets a connection while one in front of it goes on
waiting gets one that the other cannot use. -/
theorem no_overtaking (reachable : Reachable device system) (action : Action)
    {ref other : WaiterRef} (order : [other, ref].Sublist system.pool.mConnectionWaiterQueue)
    (after : ((system.perform device action).2.pool.waiters ref).mAssignedConnection =
      some connection)
    (queued : other ∈ (system.perform device action).2.pool.mConnectionWaiterQueue) :
    (system.pool.waiters other).mWantPrimaryConnection = true ∧
      connection.mIsPrimaryConnection = false := by
  have invariant := reachable.invariant
  have attended := invariant.kept.attended
  have member : ref ∈ system.pool.mConnectionWaiterQueue := order.subset (by simp)
  have before := (attended.undecided ref member).1
  -- Most steps do not assign anything.
  have unchanged (same : ((system.perform device action).2.pool.waiters ref).mAssignedConnection =
      (system.pool.waiters ref).mAssignedConnection) :
      (system.pool.waiters other).mWantPrimaryConnection = true ∧
        connection.mIsPrimaryConnection = false := by
    cases (same.trans before).symm.trans after
  cases action with
  | acquire thread sql connectionFlags signal =>
      exact unchanged (congrArg _ (invariant.acquire_waiters member sql connectionFlags signal))
  | poll thread =>
      refine unchanged (inPhase_waiters fun wait _ _ => ?_)
      rw [System.poll]
      split <;> rfl
  | recover thread =>
      rw [System.perform, inPhase] at after queued
      cases waiting : system.waits thread with
      | none =>
          rw [waiting] at after
          cases before.symm.trans after
      | some wait =>
          rw [waiting] at after queued
          dsimp only at after queued
          by_cases here : wait.phase = .recovering
          · rw [if_pos here] at after queued
            exact invariant.settles_order (.woken invariant.kept.orderly
              ⟨rfl, rfl, rfl, rfl, rfl, rfl⟩ rfl rfl rfl) order after queued
          · rw [if_neg here] at after
            cases before.symm.trans after
  | unparked thread => exact unchanged (inPhase_waiters fun wait _ _ => rfl)
  | look thread =>
      exact unchanged (inPhase_waiters fun wait _ _ => invariant.look_waiters member wait)
  | leave thread => exact unchanged (inPhase_waiters fun wait _ _ => rfl)
  | cancel thread =>
      rw [System.perform] at after queued
      cases waiting : system.waits thread with
      | none =>
          rw [waiting] at after
          cases before.symm.trans after
      | some wait =>
          rw [waiting] at after queued
          dsimp only at after queued
          by_cases signal : wait.signal = true
          · rw [if_pos signal] at after queued
            exact invariant.cancel_order wait order after queued
          · rw [if_neg signal] at after
            cases before.symm.trans after
  | release thread connection' =>
      rcases invariant.release_settles connection' with same | settles
      · exact unchanged (by rw [System.perform, same])
      · exact invariant.settles_order settles order after queued
  | reconfigure configuration =>
      exact invariant.settles_order (invariant.reconfigure_settles configuration) order after
        queued
  | close => exact unchanged (close_assigned ref)
  | collect connection' =>
      refine unchanged ?_
      rw [System.perform, System.collect]
      split <;> rfl
  | finalize connection' =>
      refine unchanged ?_
      rw [System.perform, System.finalize]
      split <;> rfl

/-- All connections are used; a thread waits for the primary connection and another one,
behind it, for any. -/
def crowded : System :=
  (machine faultless).after (initial (withFlags ENABLE_WRITE_AHEAD_LOGGING))
    (.acquire 0 none 2 none ::
      (List.range 9).map (fun thread => .acquire (thread + 1) none 0 none) ++
      [.acquire 10 none 2 none, .acquire 11 none 0 none])

theorem no_overtaking_of_crowded :
    (crowded.pool.waiters 0).mWantPrimaryConnection = true ∧
      (⟨9, false⟩ : SQLiteConnection).mIsPrimaryConnection = false := by
  have order : [0, 1].Sublist crowded.pool.mConnectionWaiterQueue := by decide
  have after : ((crowded.perform faultless (.release 9 ⟨9, false⟩)).2.pool.waiters
      1).mAssignedConnection = some ⟨9, false⟩ := by decide
  exact no_overtaking ⟨withFlags ENABLE_WRITE_AHEAD_LOGGING, _, rfl⟩
    (.release 9 ⟨9, false⟩) order after (by decide)

/-! ## Yielding -/

/-- The pool before waiters are woken when a connection comes back that it keeps. -/
def returned (connection : SQLiteConnection) (pool : SQLiteConnectionPool) :
    SQLiteConnectionPool :=
  if connection.mIsPrimaryConnection then
    { removeAcquired connection pool with mAvailablePrimaryConnection := some connection }
  else
    { removeAcquired connection pool with
      mAvailableNonPrimaryConnections := pool.mAvailableNonPrimaryConnections ++ [connection] }

theorem putBack_normal {pool : SQLiteConnectionPool} (isOpen : pool.mIsOpen = true)
    (room : connection.mIsPrimaryConnection = false →
      pool.mAvailableNonPrimaryConnections.length + 1 < pool.mMaxConnectionPoolSize) :
    putBack device connection .NORMAL (removeAcquired connection pool) =
      wakeConnectionWaitersLocked device (returned connection pool) := by
  have still : ¬ (!(removeAcquired connection pool).mIsOpen) = true := by
    simp [removeAcquired, isOpen]
  rw [putBack, if_neg still, returned]
  cases kind : connection.mIsPrimaryConnection with
  | true => rfl
  | false =>
      have limited : ¬ (removeAcquired connection pool).mMaxConnectionPoolSize ≤
          (removeAcquired connection pool).mAvailableNonPrimaryConnections.length + 1 :=
        Nat.not_le_of_lt (room kind)
      rw [if_neg Bool.false_ne_true, if_neg limited, if_neg Bool.false_ne_true]
      rfl

theorem release_normal (idle : system.waits thread = none)
    (holds : (thread, connection) ∈ system.held) (isOpen : system.pool.mIsOpen = true)
    (normal : system.pool.mAcquiredConnections.lookup connection = some .NORMAL)
    (room : connection.mIsPrimaryConnection = false →
      system.pool.mAvailableNonPrimaryConnections.length + 1 <
        system.pool.mMaxConnectionPoolSize) :
    (system.release device thread connection).2 = { system with
      pool := wakeConnectionWaitersLocked device (returned connection system.pool)
      held := system.held.filter (·.2 != connection) } := by
  have ready : ((system.waits thread).isNone &&
      decide ((thread, connection) ∈ system.held)) = true := by
    simp [idle, holds]
  rw [System.release, if_pos ready, releaseConnection, normal]
  dsimp only
  rw [putBack_normal isOpen room]

/-- Whoever the thread has been asked to yield to is served by what it gives back. -/
theorem returned_serves {pool : SQLiteConnectionPool} {ref : WaiterRef}
    {front back : List WaiterRef} (isOpen : pool.mIsOpen = true)
    (distinct : pool.mConnectionWaiterQueue.Nodup)
    (queue : pool.mConnectionWaiterQueue = front ++ ref :: back)
    (wanting : ∀ other ∈ front, (pool.waiters other).mWantPrimaryConnection = true)
    (first : connection.mIsPrimaryConnection = true → front = [])
    (notWanting : connection.mIsPrimaryConnection = false →
      (pool.waiters ref).mWantPrimaryConnection = false) :
    ref ∉ (wakeConnectionWaitersLocked device
      (returned connection pool)).mConnectionWaiterQueue := by
  rw [returned]
  cases kind : connection.mIsPrimaryConnection with
  | true =>
      rw [first kind, List.nil_append] at queue
      exact served_first device isOpen distinct queue rfl
  | false =>
      have apart := distinct
      rw [queue] at apart
      rw [if_neg Bool.false_ne_true, wakeConnectionWaitersLocked]
      have whole : (removeAcquired connection pool).mConnectionWaiterQueue =
          front ++ ref :: back := queue
      simp only [whole]
      exact served_behind device front _ isOpen apart apart rfl
        (List.append_ne_nil_of_right_ne_nil _ (List.cons_ne_nil _ _)) wanting (notWanting kind)

/-- A thread that releases a connection that it has been asked to yield serves a waiter that is
as important as the thread itself, unless the connection is one that the pool does not keep. -/
theorem yield_serves (reachable : Reachable device system) (quiet : ¬ system.Alert)
    (idle : system.waits thread = none) (holds : (thread, connection) ∈ system.held)
    (normal : system.pool.mAcquiredConnections.lookup connection = some .NORMAL)
    (kept : connection.mIsPrimaryConnection = true ∨ 1 < system.pool.mMaxConnectionPoolSize)
    {connectionFlags : BitVec 32}
    (yields : shouldYieldConnection connection connectionFlags system.pool =
      .ok true system.pool) :
    ∃ ref ∈ system.pool.mConnectionWaiterQueue,
      getPriority connectionFlags ≤ (system.pool.waiters ref).mPriority ∧
        ref ∉ (system.perform device (.release thread connection)).2.pool.mConnectionWaiterQueue ∧
        ¬ ((system.perform device (.release thread connection)).2.pool.waiters ref).Undecided := by
  have invariant := reachable.invariant
  have attended := invariant.kept.attended
  have isOpen : system.pool.mIsOpen = true := by
    by_contra isClosed
    rw [shouldYieldConnection, normal, if_neg (by simp), if_pos (by simpa using isClosed)] at yields
    cases yields
  have blocking : isSessionBlocking system.pool.waiters connection.mIsPrimaryConnection
      (getPriority connectionFlags) system.pool.mConnectionWaiterQueue = true := by
    rw [shouldYieldConnection, normal, if_neg (by simp), if_neg (by simp [isOpen])] at yields
    cases result : isSessionBlocking system.pool.waiters connection.mIsPrimaryConnection
      (getPriority connectionFlags) system.pool.mConnectionWaiterQueue with
    | true => rfl
    | false =>
        rw [result] at yields
        cases yields
  obtain ⟨front, ref, back, queue, high, wanting, first, notWanting⟩ :=
    isSessionBlocking_eq_true blocking
  have queued : ref ∈ system.pool.mConnectionWaiterQueue := by
    rw [queue]
    exact List.mem_append_right _ List.mem_cons_self
  have room (kind : connection.mIsPrimaryConnection = false) :
      system.pool.mAvailableNonPrimaryConnections.length + 1 <
        system.pool.mMaxConnectionPoolSize := by
    have stuck := (invariant.exhausted isOpen).resolve_right quiet ref queued
    rw [(stuck.2 (notWanting kind)).1]
    exact kept.resolve_left (Bool.eq_false_iff.mp kind)
  have next : (system.release device thread connection).2.Invariant :=
    invariant.release connection
  have served : ref ∉ (wakeConnectionWaitersLocked device
      (returned connection system.pool)).mConnectionWaiterQueue :=
    returned_serves isOpen attended.distinct queue wanting first notWanting
  rw [release_normal idle holds isOpen normal room] at next
  rw [System.perform, release_normal idle holds isOpen normal room]
  refine ⟨ref, queued, high, served, fun undecided => served ?_⟩
  obtain ⟨server, recyclings, serves⟩ := attended.served ref queued
  have frame : (returned connection system.pool).mIsOpen = true ∧
      (returned connection system.pool).mConnectionWaiterQueue.Nodup := by
    rw [returned]
    split <;> exact ⟨isOpen, attended.distinct⟩
  have stillOpen := (wake_sameSettings device frame.2).isOpen.trans frame.1
  exact next.kept.attended.queued stillOpen server ref recyclings serves undecided

theorem yield_serves_of_contended :
    ∃ ref ∈ contended.pool.mConnectionWaiterQueue,
      getPriority 0 ≤ (contended.pool.waiters ref).mPriority ∧
        ref ∉ (contended.perform faultless
          (.release 0 ⟨0, true⟩)).2.pool.mConnectionWaiterQueue ∧
        ¬ ((contended.perform faultless (.release 0 ⟨0, true⟩)).2.pool.waiters ref).Undecided :=
  yield_serves contended_reachable contended_quiet (by decide) (by decide) (by decide)
    (Or.inl rfl) rfl

end Guarantees

end System

end Pool
end ModuleDatabase
