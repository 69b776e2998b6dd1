import ModuleDatabase.Pool.Waiting

namespace ModuleDatabase
namespace Pool

/-!
# The turns of the loop that wakes waiters

A turn of the loop decides about a waiter, passes it over, or finds that nothing is left for
anybody.  Who is served, and in which order, follows by induction on the waiters that are
left.
-/

namespace SQLiteConnectionPool

section Loop

variable (device : Device) {lost : List SQLiteConnection} {pool : SQLiteConnectionPool}
  {waking next : Waking} {ref : WaiterRef} {refs front back : List WaiterRef}

theorem kind_of_tryAcquireNonPrimary (sound : pool.Sound lost) {sql : Option String}
    {connectionFlags : BitVec 32} {connection : SQLiteConnection} {after : SQLiteConnectionPool}
    (given : tryAcquireNonPrimaryConnectionLocked device sql connectionFlags pool =
      .ok (some connection) after) : connection.mIsPrimaryConnection = false := by
  cases available : nextNonPrimary device sql pool with
  | some other =>
      rw [run_tryAcquireNonPrimary_of_available device connectionFlags available] at given
      cases given
      exact sound.nonPrimary _ (mem_of_nextNonPrimary device available)
  | none =>
      have missing := (nextNonPrimary_eq_none_iff device sql pool).mp available
      by_cases full : pool.mMaxConnectionPoolSize ≤ pool.openConnections
      · rw [run_tryAcquireNonPrimary_of_stuck device sql connectionFlags ⟨missing, full⟩] at given
        cases given
      · cases opens : device.opens pool.mNextConnectionId with
        | true =>
            rw [run_tryAcquireNonPrimary_of_opens device sql connectionFlags missing full opens]
              at given
            cases given
            rfl
        | false =>
            rw [run_tryAcquireNonPrimary_of_fails device sql connectionFlags missing full opens]
              at given
            cases given

/-- Once the primary connection has not been available, waiters are given others. -/
theorem kind_of_offer (sound : waking.pool.Sound lost) {waiter : ConnectionWaiter}
    {connection : SQLiteConnection} (noted : waking.primaryConnectionNotAvailable = true)
    (given : offer device waiter waking = .ok (some connection) next) :
    connection.mIsPrimaryConnection = false := by
  rw [offer] at given
  split at given
  · next after first =>
      have same : after.primaryConnectionNotAvailable = waking.primaryConnectionNotAvailable := by
        rw [offerNonPrimary] at first
        split at first
        · cases first
          rfl
        · split at first <;> cases first
          rfl
      rw [offerPrimary, if_pos (same.trans noted)] at given
      cases given
  · rw [offerNonPrimary] at given
    split at given
    · cases given
    · split at given
      · next result =>
          cases given
          exact kind_of_tryAcquireNonPrimary device sound result
      · cases given
      · cases given

/-- A waiter that wants the primary connection takes no other one. -/
theorem offer_of_wanted {waiter : ConnectionWaiter}
    (wanted : waiter.mWantPrimaryConnection = true) :
    offer device waiter waking = offerPrimary device waiter waking := by
  rw [offer, offerNonPrimary, if_pos (by simp [wanted])]

theorem available_of_tryAcquirePrimary (connectionFlags : BitVec 32)
    (pool : SQLiteConnectionPool) :
    (Effect.final (tryAcquirePrimaryConnectionLocked device connectionFlags)
      pool).mAvailableNonPrimaryConnections = pool.mAvailableNonPrimaryConnections := by
  rw [Effect.final, EStateM.run]
  cases available : pool.mAvailablePrimaryConnection with
  | some connection =>
      rw [run_tryAcquirePrimary_of_available device connectionFlags available]
      rfl
  | none =>
      by_cases used : pool.mAcquiredConnections.any (·.1.mIsPrimaryConnection) = true
      · rw [run_tryAcquirePrimary_of_stuck device connectionFlags
          ⟨available, List.any_eq_true.mp used⟩]
      · cases opens : device.opens pool.mNextConnectionId with
        | true =>
            rw [run_tryAcquirePrimary_of_opens device connectionFlags available used opens]
            rfl
        | false =>
            rw [run_tryAcquirePrimary_of_fails device connectionFlags available used opens]
            rfl

/-- What the try of the loop does with the others when a waiter wants the primary
connection. -/
theorem offer_keeps (waking : Waking) {waiter : ConnectionWaiter}
    (wanted : waiter.mWantPrimaryConnection = true) :
    (Effect.final (offer device waiter) waking).nonPrimaryConnectionNotAvailable =
        waking.nonPrimaryConnectionNotAvailable ∧
      (Effect.final (offer device waiter) waking).pool.mAvailableNonPrimaryConnections =
        waking.pool.mAvailableNonPrimaryConnections := by
  have kept := available_of_tryAcquirePrimary device waiter.mConnectionFlags waking.pool
  rw [Effect.final, EStateM.run] at kept ⊢
  rw [offer_of_wanted device wanted, offerPrimary]
  by_cases noted : waking.primaryConnectionNotAvailable = true
  · rw [if_pos noted]
    exact ⟨rfl, rfl⟩
  · rw [if_neg noted]
    cases result : tryAcquirePrimaryConnectionLocked device waiter.mConnectionFlags
      waking.pool with
    | error thrown after =>
        rw [result] at kept
        exact ⟨rfl, kept⟩
    | ok value after =>
        rw [result] at kept
        cases value <;> exact ⟨rfl, kept⟩

/-- A local variable that has been set stays so. -/
theorem offer_stays {waiter : ConnectionWaiter}
    (noted : waking.primaryConnectionNotAvailable = true) :
    (Effect.final (offer device waiter) waking).primaryConnectionNotAvailable = true := by
  rw [Effect.final, EStateM.run, offer]
  have first : (Effect.final (offerNonPrimary device waiter)
      waking).primaryConnectionNotAvailable = true := by
    rw [Effect.final, EStateM.run, offerNonPrimary]
    by_cases skipped :
        (waiter.mWantPrimaryConnection || waking.nonPrimaryConnectionNotAvailable) = true
    · rw [if_pos skipped]
      exact noted
    · rw [if_neg skipped]
      cases result : tryAcquireNonPrimaryConnectionLocked device waiter.mSql
        waiter.mConnectionFlags waking.pool with
      | error thrown after => exact noted
      | ok value after => cases value <;> exact noted
  rw [Effect.final, EStateM.run] at first
  cases result : offerNonPrimary device waiter waking with
  | error thrown after =>
      rw [result] at first
      exact first
  | ok value after =>
      rw [result] at first
      cases value with
      | some connection => exact first
      | none =>
          have flag : after.primaryConnectionNotAvailable = true := first
          dsimp only
          rw [offerPrimary, if_pos flag]
          exact flag

/-- A turn of the loop after which the fate of the waiter is known. -/
structure Decided (waking : Waking) (ref : WaiterRef)
    (change : ConnectionWaiter → ConnectionWaiter) (next : Waking) : Prop where
  waiters : SameWaiters waking.pool next.pool
  isOpen : next.pool.mIsOpen = true
  sound : ∀ lost, waking.pool.Sound lost → next.pool.Sound lost
  stays : waking.primaryConnectionNotAvailable = true → next.primaryConnectionNotAvailable = true
  wanting : (waking.pool.waiters ref).mWantPrimaryConnection = true →
    next.nonPrimaryConnectionNotAvailable = waking.nonPrimaryConnectionNotAvailable ∧
      next.pool.mAvailableNonPrimaryConnections = waking.pool.mAvailableNonPrimaryConnections
  kind : ∀ lost connection, waking.pool.Sound lost →
    waking.primaryConnectionNotAvailable = true →
    (waking.pool.waiters ref).mAssignedConnection = none →
    (change (waking.pool.waiters ref)).mAssignedConnection = some connection →
    connection.mIsPrimaryConnection = false

/-- A turn of the loop in which nothing was found for the waiter. -/
structure Passed (waking : Waking) (ref : WaiterRef) (next : Waking) : Prop where
  pool : next.pool = waking.pool
  noted : Noted waking next
  primary : next.primaryConnectionNotAvailable = true
  nonPrimary : (waking.pool.waiters ref).mWantPrimaryConnection = false →
    next.nonPrimaryConnectionNotAvailable = true
  wanting : (waking.pool.waiters ref).mWantPrimaryConnection = true →
    next.nonPrimaryConnectionNotAvailable = waking.nonPrimaryConnectionNotAvailable

/-- The waiter has been taken out of the queue. -/
def Waking.unparked (ref : WaiterRef) (change : ConnectionWaiter → ConnectionWaiter)
    (waking : Waking) : Waking :=
  { waking with pool := unpark ref change waking.pool }

theorem Decided.soundness {change : ConnectionWaiter → ConnectionWaiter}
    (decided : Decided waking ref change next) (sound : waking.pool.Sound lost) :
    (next.unparked ref change).pool.Sound lost := { decided.sound lost sound with }

theorem Decided.distinct {change : ConnectionWaiter → ConnectionWaiter}
    (decided : Decided waking ref change next)
    (distinct : waking.pool.mConnectionWaiterQueue.Nodup) :
    (next.unparked ref change).pool.mConnectionWaiterQueue.Nodup := by
  rw [← decided.waiters.queue] at distinct
  exact distinct.erase ref

theorem Decided.other {change : ConnectionWaiter → ConnectionWaiter} {other : WaiterRef}
    (decided : Decided waking ref change next) (different : other ≠ ref) :
    (next.unparked ref change).pool.waiters other = waking.pool.waiters other := by
  rw [Waking.unparked, unpark_waiters_of_ne different, decided.waiters.waiters]

theorem Decided.self {change : ConnectionWaiter → ConnectionWaiter}
    (decided : Decided waking ref change next) :
    (next.unparked ref change).pool.waiters ref = change (waking.pool.waiters ref) := by
  rw [Waking.unparked, unpark_waiters_self, decided.waiters.waiters]

/-- What the loop in an open pool does with a waiter. -/
inductive Turn (waking : Waking) (ref : WaiterRef) (successors : List WaiterRef) : Prop where
  | decided {change : ConnectionWaiter → ConnectionWaiter} {next : Waking}
      (decided : Decided waking ref change next)
      (goes : wakeLoop device (ref :: successors) waking =
        wakeLoop device successors (next.unparked ref change))
  | passed {next : Waking} (passed : Passed waking ref next)
      (left : next.nonPrimaryConnectionNotAvailable = false)
      (goes : wakeLoop device (ref :: successors) waking = wakeLoop device successors next)
  | spent {next : Waking} (passed : Passed waking ref next)
      (none : next.nonPrimaryConnectionNotAvailable = true)
      (ends : wakeLoop device (ref :: successors) waking = waking.pool)

theorem turn (waking : Waking) (ref : WaiterRef) (successors : List WaiterRef)
    (isOpen : waking.pool.mIsOpen = true) : Turn device waking ref successors := by
  have offered := offers device (waking.pool.waiters ref) waking
  have keeps (wanted : (waking.pool.waiters ref).mWantPrimaryConnection = true) :=
    offer_keeps device waking wanted
  have stays (noted : waking.primaryConnectionNotAvailable = true) :
      (Effect.final (offer device (waking.pool.waiters ref))
        waking).primaryConnectionNotAvailable = true := offer_stays device noted
  have kind (lost : List SQLiteConnection) (connection : SQLiteConnection) (next : Waking)
      (sound : waking.pool.Sound lost) (noted : waking.primaryConnectionNotAvailable = true)
      (given : offer device (waking.pool.waiters ref) waking = .ok (some connection) next) :=
    kind_of_offer device sound noted given
  rw [Effect.final, EStateM.run] at keeps stays
  generalize result : offer device (waking.pool.waiters ref) waking = offer at *
  cases offered with
  | given takes pool noted =>
      refine .decided ⟨?_, ?_, ?_, stays, keeps, ?_⟩ (wakeLoop_of_given device isOpen result)
      · rw [pool]
        exact takes.sameWaiters.trans ⟨rfl, rfl, rfl, rfl, rfl, rfl⟩
      · rw [pool]
        exact takes.sameSettings.isOpen.trans isOpen
      · rw [pool]
        exact fun lost sound => sound.takes takes _
      · intro lost connection sound flag _ assigned
        cases assigned
        exact kind lost _ _ sound flag rfl
  | unopened pool noted =>
      refine .decided ⟨?_, ?_, ?_, stays, keeps, ?_⟩ (wakeLoop_of_throws device isOpen result)
      · rw [pool]
        exact ⟨rfl, rfl, rfl, rfl, rfl, rfl⟩
      · rw [pool]
        exact isOpen
      · rw [pool]
        exact fun lost sound => sound.afterFailing
      · intro lost connection _ _ unassigned assigned
        cases unassigned.symm.trans assigned
  | @nothing next pool noted primary nonPrimary =>
      have passed : Passed waking ref next :=
        ⟨pool, noted, primary, nonPrimary, fun wanted => (keeps wanted).1⟩
      have goes : wakeLoop device (ref :: successors) waking =
          if next.nonPrimaryConnectionNotAvailable && next.primaryConnectionNotAvailable then
            next.pool
          else wakeLoop device successors next := wakeLoop_of_nothing device isOpen result
      cases left : next.nonPrimaryConnectionNotAvailable with
      | false =>
          rw [left, Bool.false_and, if_neg Bool.false_ne_true] at goes
          exact .passed passed left goes
      | true =>
          rw [left, primary, Bool.and_self, if_pos rfl, pool] at goes
          exact .spent passed left goes

/-- The loop only takes waiters out of the queue. -/
theorem wakeLoop_sublist (refs : List WaiterRef) (waking : Waking) :
    (wakeLoop device refs waking).mConnectionWaiterQueue.Sublist
      waking.pool.mConnectionWaiterQueue := by
  induction refs generalizing waking with
  | nil => exact .refl _
  | cons ref successors ih =>
      cases isOpen : waking.pool.mIsOpen with
      | false =>
          rw [wakeLoop_of_closed device isOpen]
          exact (ih _).trans List.erase_sublist
      | true =>
          cases turn device waking ref successors isOpen with
          | decided decided goes =>
              rw [goes, ← decided.waiters.queue]
              exact (ih _).trans List.erase_sublist
          | passed passed _ goes =>
              rw [goes, ← passed.pool]
              exact ih _
          | spent _ _ ends => rw [ends]

/-- The loop changes the waiters that it comes to only. -/
theorem wakeLoop_waiters (refs : List WaiterRef) (waking : Waking) (absent : ref ∉ refs) :
    (wakeLoop device refs waking).waiters ref = waking.pool.waiters ref := by
  induction refs generalizing waking with
  | nil => rfl
  | cons other successors ih =>
      have different : ref ≠ other := fun same => absent (same ▸ List.mem_cons_self)
      have later : ref ∉ successors := fun member => absent (List.mem_cons_of_mem _ member)
      cases isOpen : waking.pool.mIsOpen with
      | false =>
          rw [wakeLoop_of_closed device isOpen, ih _ later]
          exact unpark_waiters_of_ne different id waking.pool
      | true =>
          cases turn device waking other successors isOpen with
          | decided decided goes => rw [goes, ih _ later, decided.other different]
          | passed passed _ goes => rw [goes, ih _ later, passed.pool]
          | spent _ _ ends => rw [ends]

/-- Waking changes the waiters of the queue only. -/
theorem wake_waiters (absent : ref ∉ pool.mConnectionWaiterQueue) :
    (wakeConnectionWaitersLocked device pool).waiters ref = pool.waiters ref :=
  wakeLoop_waiters device _ { pool := pool } absent

/-! ### Who is served -/

/-- A waiter whose fate is known is not in the queue any more. -/
theorem Decided.served {change : ConnectionWaiter → ConnectionWaiter}
    (decided : Decided waking ref change next) (successors : List WaiterRef)
    (distinct : waking.pool.mConnectionWaiterQueue.Nodup) :
    ref ∉ (wakeLoop device successors (next.unparked ref change)).mConnectionWaiterQueue := by
  intro member
  have before := (wakeLoop_sublist device successors _).subset member
  rw [← decided.waiters.queue] at distinct
  exact (distinct.mem_erase_iff.mp before).1 rfl

/-- The first waiter is served when the primary connection is available. -/
theorem served_first {connection : SQLiteConnection} (isOpen : pool.mIsOpen = true)
    (distinct : pool.mConnectionWaiterQueue.Nodup)
    (queue : pool.mConnectionWaiterQueue = ref :: back)
    (available : pool.mAvailablePrimaryConnection = some connection) :
    ref ∉ (wakeConnectionWaitersLocked device pool).mConnectionWaiterQueue := by
  have impossible {next : Waking} (passed : Passed { pool := pool } ref next) : False := by
    rcases passed.noted.primary passed.primary with flag | stuck
    · cases flag
    · cases stuck.1.symm.trans available
  rw [wakeConnectionWaitersLocked, queue]
  cases turn device { pool := pool } ref back isOpen with
  | decided decided goes =>
      rw [goes]
      exact decided.served device back distinct
  | passed passed => exact (impossible passed).elim
  | spent passed => exact (impossible passed).elim

/-- The first waiter that does not want the primary connection is served when another one is
available. -/
theorem served_behind (front : List WaiterRef) (waking : Waking)
    (isOpen : waking.pool.mIsOpen = true) (distinct : waking.pool.mConnectionWaiterQueue.Nodup)
    (apart : (front ++ ref :: back).Nodup)
    (left : waking.nonPrimaryConnectionNotAvailable = false)
    (available : waking.pool.mAvailableNonPrimaryConnections ≠ [])
    (wanting : ∀ other ∈ front, (waking.pool.waiters other).mWantPrimaryConnection = true)
    (notWanting : (waking.pool.waiters ref).mWantPrimaryConnection = false) :
    ref ∉ (wakeLoop device (front ++ ref :: back) waking).mConnectionWaiterQueue := by
  induction front generalizing waking with
  | nil =>
      have impossible {next : Waking} (passed : Passed waking ref next) : False := by
        rcases passed.noted.nonPrimary (passed.nonPrimary notWanting) with flag | stuck
        · cases left.symm.trans flag
        · exact available stuck.1
      rw [List.nil_append]
      cases turn device waking ref back isOpen with
      | decided decided goes =>
          rw [goes]
          exact decided.served device back distinct
      | passed passed => exact (impossible passed).elim
      | spent passed => exact (impossible passed).elim
  | cons other front ih =>
      obtain ⟨fresh, apart⟩ := List.nodup_cons.mp apart
      have wanted := wanting other List.mem_cons_self
      have away (ref' : WaiterRef) (member : ref' ∈ front ++ ref :: back) : ref' ≠ other :=
        fun same => fresh (same ▸ member)
      have refAway := away ref (List.mem_append_right _ List.mem_cons_self)
      rw [List.cons_append]
      cases turn device waking other (front ++ ref :: back) isOpen with
      | @decided change next decided goes =>
          obtain ⟨flag, same⟩ := decided.wanting wanted
          rw [goes]
          refine ih _ decided.isOpen (decided.distinct distinct) apart (flag.trans left) ?_ ?_ ?_
          · exact fun empty => available (same.symm.trans empty)
          · intro ref' member
            rw [decided.other (away ref' (List.mem_append_left _ member))]
            exact wanting ref' (List.mem_cons_of_mem _ member)
          · rw [decided.other refAway]
            exact notWanting
      | passed passed flag goes =>
          rw [goes]
          refine ih _ ?_ ?_ apart flag ?_ ?_ ?_ <;> rw [passed.pool]
          · exact isOpen
          · exact distinct
          · exact available
          · exact fun ref' member => wanting ref' (List.mem_cons_of_mem _ member)
          · exact notWanting
      | spent passed none =>
          cases (none.symm.trans (passed.wanting wanted)).trans left

/-! ### In which order -/

/-- Once the primary connection has not been available, a waiter is given another one. -/
theorem given_later (refs : List WaiterRef) (waking : Waking) {connection : SQLiteConnection}
    (sound : waking.pool.Sound lost) (isOpen : waking.pool.mIsOpen = true) (apart : refs.Nodup)
    (noted : waking.primaryConnectionNotAvailable = true) (member : ref ∈ refs)
    (before : (waking.pool.waiters ref).mAssignedConnection = none)
    (after : ((wakeLoop device refs waking).waiters ref).mAssignedConnection =
      some connection) : connection.mIsPrimaryConnection = false := by
  induction refs generalizing waking with
  | nil => cases member
  | cons other successors ih =>
      obtain ⟨fresh, apart⟩ := List.nodup_cons.mp apart
      cases turn device waking other successors isOpen with
      | @decided change next decided goes =>
          rw [goes] at after
          rcases List.mem_cons.mp member with rfl | later
          · rw [wakeLoop_waiters device successors _ fresh, decided.self] at after
            exact decided.kind lost connection sound noted before after
          · have different : ref ≠ other := fun same => fresh (same ▸ later)
            exact ih _ (decided.soundness sound) decided.isOpen apart (decided.stays noted) later
              (by rw [decided.other different, before]) after
      | passed passed _ goes =>
          rw [goes] at after
          rcases List.mem_cons.mp member with rfl | later
          · rw [wakeLoop_waiters device successors _ fresh, passed.pool] at after
            cases before.symm.trans after
          · exact ih _ (passed.pool ▸ sound) (passed.pool ▸ isOpen) apart passed.primary later
              (passed.pool ▸ before) after
      | spent _ _ ends =>
          rw [ends] at after
          cases before.symm.trans after

/-- A waiter that is passed over wants the primary connection, and who comes later does not
get that. -/
theorem overtaken (front : List WaiterRef) (waking : Waking) {other : WaiterRef}
    {connection : SQLiteConnection} (sound : waking.pool.Sound lost)
    (isOpen : waking.pool.mIsOpen = true) (distinct : waking.pool.mConnectionWaiterQueue.Nodup)
    (apart : (front ++ other :: back).Nodup) (member : ref ∈ back)
    (before : (waking.pool.waiters ref).mAssignedConnection = none)
    (after : ((wakeLoop device (front ++ other :: back) waking).waiters ref).mAssignedConnection =
      some connection)
    (queued : other ∈
      (wakeLoop device (front ++ other :: back) waking).mConnectionWaiterQueue) :
    (waking.pool.waiters other).mWantPrimaryConnection = true ∧
      connection.mIsPrimaryConnection = false := by
  induction front generalizing waking with
  | nil =>
      rw [List.nil_append] at after queued apart
      obtain ⟨fresh, apart⟩ := List.nodup_cons.mp apart
      cases turn device waking other back isOpen with
      | decided decided goes =>
          rw [goes] at queued
          exact absurd queued (decided.served device back distinct)
      | passed passed left goes =>
          rw [goes] at after
          constructor
          · refine Bool.not_eq_false _ |>.mp fun notWanting => ?_
            cases left.symm.trans (passed.nonPrimary notWanting)
          · exact given_later device back _ (passed.pool ▸ sound) (passed.pool ▸ isOpen) apart
              passed.primary member (passed.pool ▸ before) after
      | spent _ _ ends =>
          rw [ends] at after
          cases before.symm.trans after
  | cons first front ih =>
      rw [List.cons_append] at after queued apart
      obtain ⟨fresh, apart⟩ := List.nodup_cons.mp apart
      have away (ref' : WaiterRef) (member : ref' ∈ front ++ other :: back) : ref' ≠ first :=
        fun same => fresh (same ▸ member)
      have otherAway := away other (List.mem_append_right _ List.mem_cons_self)
      have refAway := away ref
        (List.mem_append_right _ (List.mem_cons_of_mem _ member))
      cases turn device waking first (front ++ other :: back) isOpen with
      | @decided change next decided goes =>
          rw [goes] at after queued
          have result := ih _ (decided.soundness sound) decided.isOpen (decided.distinct distinct)
            apart (by rw [decided.other refAway, before]) after queued
          rw [decided.other otherAway] at result
          exact result
      | passed passed _ goes =>
          rw [goes] at after queued
          have result := ih _ (passed.pool ▸ sound) (passed.pool ▸ isOpen)
            (passed.pool ▸ distinct) apart (passed.pool ▸ before) after queued
          rw [passed.pool] at result
          exact result
      | spent _ _ ends =>
          rw [ends] at after
          cases before.symm.trans after

end Loop

section Order

variable (device : Device) {lost : List SQLiteConnection} {pool : SQLiteConnectionPool}
  {ref other : WaiterRef} {connection : SQLiteConnection}

/-- Waking waiters serves them in the order of the queue. -/
theorem wake_order (sound : pool.Sound lost) (isOpen : pool.mIsOpen = true)
    (distinct : pool.mConnectionWaiterQueue.Nodup)
    (order : [other, ref].Sublist pool.mConnectionWaiterQueue)
    (before : (pool.waiters ref).mAssignedConnection = none)
    (after : ((wakeConnectionWaitersLocked device pool).waiters ref).mAssignedConnection =
      some connection)
    (queued : other ∈ (wakeConnectionWaitersLocked device pool).mConnectionWaiterQueue) :
    (pool.waiters other).mWantPrimaryConnection = true ∧
      connection.mIsPrimaryConnection = false := by
  obtain ⟨front, rest, split, first, later⟩ := List.cons_sublist_iff.mp order
  obtain ⟨start, back, whole⟩ := List.append_of_mem first
  have queue : pool.mConnectionWaiterQueue = start ++ other :: (back ++ rest) := by
    rw [split, whole, List.append_assoc, List.cons_append]
  have member : ref ∈ back ++ rest :=
    List.mem_append_right _ (List.singleton_sublist.mp later)
  have apart := distinct
  rw [wakeConnectionWaitersLocked] at after queued
  rw [queue] at apart after queued
  exact overtaken device start { pool := pool } sound isOpen distinct apart member before after
    queued

theorem wake_closed_assigned (refs : List WaiterRef) (waking : Waking)
    (isClosed : waking.pool.mIsOpen = false) :
    ((wakeLoop device refs waking).waiters ref).mAssignedConnection =
      (waking.pool.waiters ref).mAssignedConnection := by
  induction refs generalizing waking with
  | nil => rfl
  | cons first successors ih =>
      rw [wakeLoop_of_closed device isClosed]
      refine (ih _ ?_).trans ?_
      · exact isClosed
      · by_cases same : ref = first
        · rw [same, unpark_waiters_self]
          rfl
        · rw [unpark_waiters_of_ne same]

/-- `shouldYieldConnection` looks for the first waiter that the connection would serve. -/
theorem isSessionBlocking_eq_true {waiters : WaiterRef → ConnectionWaiter}
    {holdingPrimaryConnection : Bool} {priority : Nat} {queue : List WaiterRef}
    (blocking : isSessionBlocking waiters holdingPrimaryConnection priority queue = true) :
    ∃ front ref back, queue = front ++ ref :: back ∧ priority ≤ (waiters ref).mPriority ∧
      (∀ other ∈ front, (waiters other).mWantPrimaryConnection = true) ∧
      (holdingPrimaryConnection = true → front = []) ∧
      (holdingPrimaryConnection = false → (waiters ref).mWantPrimaryConnection = false) := by
  induction queue with
  | nil => cases blocking
  | cons first rest ih =>
      rw [isSessionBlocking] at blocking
      split at blocking
      · cases blocking
      · next enough =>
          split at blocking
          · next serves =>
              refine ⟨[], first, rest, rfl, Nat.le_of_not_lt enough, ?_, fun _ => rfl, ?_⟩
              · intro other member
                cases member
              · intro notHolding
                simpa [notHolding] using serves
          · next skipped =>
              obtain ⟨notHolding, wanted⟩ : holdingPrimaryConnection = false ∧
                  (waiters first).mWantPrimaryConnection = true := by
                simpa using skipped
              obtain ⟨front, ref, back, rfl, high, wanting, _, notWanting⟩ := ih blocking
              refine ⟨first :: front, ref, back, rfl, high, ?_, ?_, notWanting⟩
              · intro other member
                rcases List.mem_cons.mp member with rfl | later
                · exact wanted
                · exact wanting other later
              · intro holding
                cases notHolding.symm.trans holding

end Order

end SQLiteConnectionPool

end Pool
end ModuleDatabase
