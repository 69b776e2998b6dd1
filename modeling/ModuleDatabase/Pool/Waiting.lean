import Mathlib.Data.List.Pairwise
import ModuleDatabase.Pool.Upkeep

namespace ModuleDatabase
namespace Pool

/-!
# Waiters and the threads that wait with them

A waiter is recycled, queued, or decided, and as long as it is one of the last two there is
exactly one thread that waits with it.  A connection that has been acquired is held by a
thread, has been assigned to the waiter of one, or is stranded.  The queue is sorted.

All of this is kept by the three things that happen to waiters: one is put into the queue,
one is taken out of it, one is recycled.
-/

/-- A thread waits with this waiter, which it obtained when it had counted this much. -/
def Serves (waits : Thread → Option Wait) (thread : Thread) (ref : WaiterRef) (recyclings : Nat) :
    Prop :=
  ∃ wait, waits thread = some wait ∧ wait.phase ≠ .leaving ∧ wait.waiter = ref ∧
    wait.recyclings = recyclings

/-- A thread has not been unparked yet, or not since it last looked. -/
def Sleeps (waits : Thread → Option Wait) (thread : Thread) (ref : WaiterRef) : Prop :=
  ∃ wait, waits thread = some wait ∧ wait.phase ≠ .leaving ∧ wait.phase ≠ .checking ∧
    wait.waiter = ref

theorem Sleeps.serves {waits : Thread → Option Wait} {thread : Thread} {ref : WaiterRef}
    (sleeps : Sleeps waits thread ref) :
    ∃ recyclings, Serves waits thread ref recyclings := by
  obtain ⟨wait, waiting, phase, _, waiter⟩ := sleeps
  exact ⟨wait.recyclings, wait, waiting, phase, waiter, rfl⟩

/-- Nothing has been decided about a waiter. -/
def ConnectionWaiter.Undecided (waiter : ConnectionWaiter) : Prop :=
  waiter.mAssignedConnection = none ∧ waiter.mException = none

/-- The queue is sorted by priority, and then by the time of arrival. -/
def ConnectionWaiter.Before (waiter other : ConnectionWaiter) : Prop :=
  other.mPriority < waiter.mPriority ∨
    waiter.mPriority = other.mPriority ∧ waiter.arrival < other.arrival

namespace SQLiteConnectionPool

/-- What a thread relies on while it waits. -/
structure InUse (pool : SQLiteConnectionPool) (thread : Thread) (ref : WaiterRef) (recyclings : Nat) :
    Prop where
  thread : (pool.waiters ref).mThread = some thread
  recyclings : (pool.waiters ref).recyclings = recyclings
  issued : ref < pool.waiterCount
  kept : ref ∉ pool.mConnectionWaiterPool

/-- Waiters and threads belong together. -/
structure Attended (waits : Thread → Option Wait) (pool : SQLiteConnectionPool) : Prop where
  distinct : pool.mConnectionWaiterQueue.Nodup
  recycled : pool.mConnectionWaiterPool.Nodup
  issued : ∀ ref ∈ pool.mConnectionWaiterPool, ref < pool.waiterCount
  unused : ∀ ref, ref ∈ pool.mConnectionWaiterPool ∨ pool.waiterCount ≤ ref →
    (pool.waiters ref).Undecided
  served : ∀ ref ∈ pool.mConnectionWaiterQueue, ∃ thread recyclings, Serves waits thread ref recyclings
  inUse : ∀ thread ref recyclings, Serves waits thread ref recyclings → pool.InUse thread ref recyclings
  undecided : ∀ ref ∈ pool.mConnectionWaiterQueue, (pool.waiters ref).Undecided
  queued : pool.mIsOpen = true → ∀ thread ref recyclings, Serves waits thread ref recyclings →
    (pool.waiters ref).Undecided → ref ∈ pool.mConnectionWaiterQueue
  awake : ∀ thread ref, Sleeps waits thread ref → ref ∉ pool.mConnectionWaiterQueue →
    pool.permits thread = true

/-- Connections that have been acquired have one holder. -/
structure Owned (waits : Thread → Option Wait) (held stranded : List SQLiteConnection)
    (pool : SQLiteConnectionPool) : Prop where
  accounted : ∀ connection, connection ∈ pool.acquired ↔
    connection ∈ held ∨ connection ∈ stranded ∨
      ∃ thread ref recyclings, Serves waits thread ref recyclings ∧
        (pool.waiters ref).mAssignedConnection = some connection
  held_nodup : held.Nodup
  stranded_nodup : stranded.Nodup
  apart : ∀ connection ∈ held, connection ∉ stranded
  promised : ∀ thread ref recyclings connection, Serves waits thread ref recyclings →
    (pool.waiters ref).mAssignedConnection = some connection →
    connection ∉ held ∧ connection ∉ stranded
  single : ∀ connection thread ref recyclings other ref' recyclings',
    Serves waits thread ref recyclings → Serves waits other ref' recyclings' →
    (pool.waiters ref).mAssignedConnection = some connection →
    (pool.waiters ref').mAssignedConnection = some connection → ref = ref'

/-- Whoever came first is served first, among those of one priority. -/
structure Sorted (pool : SQLiteConnectionPool) : Prop where
  order : pool.mConnectionWaiterQueue.Pairwise fun ref other =>
    (pool.waiters ref).Before (pool.waiters other)
  arrived : ∀ ref ∈ pool.mConnectionWaiterQueue, (pool.waiters ref).arrival < pool.arrivals

section Same

variable {waits : Thread → Option Wait} {held stranded : List SQLiteConnection}
  {pool next : SQLiteConnectionPool}

theorem Attended.same (attended : pool.Attended waits) (same : SameWaiters pool next)
    (isOpen : next.mIsOpen = true → pool.mIsOpen = true) : next.Attended waits where
  distinct := by rw [same.queue]; exact attended.distinct
  recycled := by rw [same.recycled]; exact attended.recycled
  issued := by rw [same.recycled, same.waiterCount]; exact attended.issued
  unused := by rw [same.recycled, same.waiterCount, same.waiters]; exact attended.unused
  served := by rw [same.queue]; exact attended.served
  inUse thread ref recyclings serves := by
    have before := attended.inUse thread ref recyclings serves
    constructor
    · rw [same.waiters]; exact before.thread
    · rw [same.waiters]; exact before.recyclings
    · rw [same.waiterCount]; exact before.issued
    · rw [same.recycled]; exact before.kept
  undecided := by rw [same.queue, same.waiters]; exact attended.undecided
  queued stillOpen := by
    rw [same.queue, same.waiters]
    exact attended.queued (isOpen stillOpen)
  awake := by rw [same.queue, same.permits]; exact attended.awake

theorem Owned.same (owned : pool.Owned waits held stranded) (waiters : next.waiters = pool.waiters)
    (acquired : next.acquired = pool.acquired) : next.Owned waits held stranded where
  accounted := by rw [acquired, waiters]; exact owned.accounted
  held_nodup := owned.held_nodup
  stranded_nodup := owned.stranded_nodup
  apart := owned.apart
  promised := by rw [waiters]; exact owned.promised
  single := by rw [waiters]; exact owned.single

theorem Sorted.same (sorted : pool.Sorted) (same : SameWaiters pool next) : next.Sorted where
  order := by rw [same.queue, same.waiters]; exact sorted.order
  arrived := by rw [same.queue, same.waiters, same.arrivals]; exact sorted.arrived

end Same

/-! ## Taking a waiter out of the queue -/

section Unparking

variable {waits : Thread → Option Wait} {held stranded : List SQLiteConnection}
  {pool : SQLiteConnectionPool} {ref : WaiterRef} {change : ConnectionWaiter → ConnectionWaiter}

/-- What a change may do to a waiter. -/
structure Decides (change : ConnectionWaiter → ConnectionWaiter) : Prop where
  thread : ∀ waiter, (change waiter).mThread = waiter.mThread
  recyclings : ∀ waiter, (change waiter).recyclings = waiter.recyclings

theorem decides_assigned (connection : SQLiteConnection) :
    Decides (ConnectionWaiter.assigned connection) := ⟨fun _ => rfl, fun _ => rfl⟩

theorem decides_failed (thrown : Thrown) : Decides (ConnectionWaiter.failed thrown) :=
  ⟨fun _ => rfl, fun _ => rfl⟩

theorem decides_id : Decides id := ⟨fun _ => rfl, fun _ => rfl⟩

theorem unpark_waiters_self (ref : WaiterRef) (change : ConnectionWaiter → ConnectionWaiter)
    (pool : SQLiteConnectionPool) :
    (unpark ref change pool).waiters ref = change (pool.waiters ref) := Function.update_self ..

theorem unpark_waiters_of_ne {other : WaiterRef} (different : other ≠ ref)
    (change : ConnectionWaiter → ConnectionWaiter) (pool : SQLiteConnectionPool) :
    (unpark ref change pool).waiters other = pool.waiters other :=
  Function.update_of_ne different ..

/-- Two threads do not wait with the same waiter. -/
theorem Attended.unique (attended : pool.Attended waits) {thread other : Thread}
    {recyclings recyclings' : Nat} (first : Serves waits thread ref recyclings)
    (second : Serves waits other ref recyclings') : thread = other := by
  have here := (attended.inUse _ _ _ first).thread
  have there := (attended.inUse _ _ _ second).thread
  exact Option.some.inj (here.symm.trans there)

theorem Attended.unpark (attended : pool.Attended waits)
    (here : ref ∈ pool.mConnectionWaiterQueue) (decides : Decides change)
    (decided : pool.mIsOpen = true → ¬ (change (pool.waiters ref)).Undecided) :
    (unpark ref change pool).Attended waits := by
  obtain ⟨server, recyclings, serving⟩ := attended.served ref here
  have served := attended.inUse server ref recyclings serving
  have gone (other : WaiterRef) (member : other ∈ pool.mConnectionWaiterQueue.erase ref) :
      other ≠ ref ∧ other ∈ pool.mConnectionWaiterQueue :=
    (attended.distinct.mem_erase_iff).mp member
  constructor
  · exact attended.distinct.erase ref
  · exact attended.recycled
  · exact attended.issued
  · intro other unused
    have different : other ≠ ref := by
      rintro rfl
      rcases unused with recycled | unissued
      · exact served.kept recycled
      · exact Nat.lt_irrefl _ (Nat.lt_of_lt_of_le served.issued unissued)
    rw [unpark_waiters_of_ne different]
    exact attended.unused other unused
  · exact fun other member => attended.served other (gone other member).2
  · intro thread other recyclings serves
    have before := attended.inUse thread other recyclings serves
    by_cases same : other = ref
    · subst same
      refine ⟨?_, ?_, before.issued, before.kept⟩
      · rw [unpark_waiters_self, decides.thread, before.thread]
      · rw [unpark_waiters_self, decides.recyclings, before.recyclings]
    · refine ⟨?_, ?_, before.issued, before.kept⟩
      · rw [unpark_waiters_of_ne same, before.thread]
      · rw [unpark_waiters_of_ne same, before.recyclings]
  · intro other member
    rw [unpark_waiters_of_ne (gone other member).1]
    exact attended.undecided other (gone other member).2
  · intro isOpen thread other recyclings serves undecided
    have different : other ≠ ref := by
      rintro rfl
      rw [unpark_waiters_self] at undecided
      exact decided isOpen undecided
    rw [unpark_waiters_of_ne different] at undecided
    exact (List.mem_erase_of_ne different).mpr
      (attended.queued isOpen thread other recyclings serves undecided)
  · intro thread other sleeps absent
    have permitted : (SQLiteConnectionPool.unpark ref change pool).permits =
        Function.update pool.permits server true := by
      rw [SQLiteConnectionPool.unpark, served.thread]
      rfl
    rw [permitted]
    by_cases same : thread = server
    · rw [same, Function.update_self]
    · rw [Function.update_of_ne same]
      refine attended.awake thread other sleeps fun before => absent ?_
      have different : other ≠ ref := by
        rintro rfl
        obtain ⟨recyclings', serves⟩ := sleeps.serves
        exact same (attended.unique serves serving)
      exact (List.mem_erase_of_ne different).mpr before

/-- A waiter gets no connection. -/
theorem Owned.unpark (owned : pool.Owned waits held stranded)
    (keeps : (change (pool.waiters ref)).mAssignedConnection =
      (pool.waiters ref).mAssignedConnection) :
    (unpark ref change pool).Owned waits held stranded := by
  have same : ∀ other, ((SQLiteConnectionPool.unpark ref change pool).waiters
      other).mAssignedConnection = (pool.waiters other).mAssignedConnection := by
    intro other
    by_cases here : other = ref
    · rw [here, unpark_waiters_self, keeps]
    · rw [unpark_waiters_of_ne here]
  constructor
  · simp only [same]
    exact owned.accounted
  · exact owned.held_nodup
  · exact owned.stranded_nodup
  · exact owned.apart
  · simp only [same]
    exact owned.promised
  · simp only [same]
    exact owned.single

/-- A waiter gets a connection that nobody has. -/
theorem Owned.assign (owned : pool.Owned waits held stranded) {next : SQLiteConnectionPool}
    {connection : SQLiteConnection} (fresh : connection ∉ pool.acquired)
    (waiters : next.waiters = pool.waiters) (acquired : next.acquired = connection :: pool.acquired)
    {thread : Thread} {recyclings : Nat} (serves : Serves waits thread ref recyclings)
    (undecided : (pool.waiters ref).Undecided) :
    (SQLiteConnectionPool.unpark ref (.assigned connection) next).Owned waits held stranded := by
  have self : ((SQLiteConnectionPool.unpark ref (.assigned connection) next).waiters
      ref).mAssignedConnection = some connection := by
    rw [unpark_waiters_self]
    rfl
  have others (other : WaiterRef) (different : other ≠ ref) :
      (SQLiteConnectionPool.unpark ref (.assigned connection) next).waiters other =
        pool.waiters other := by
    rw [unpark_waiters_of_ne different, waiters]
  have absent : ¬ (connection ∈ held ∨ connection ∈ stranded ∨
      ∃ thread ref recyclings, Serves waits thread ref recyclings ∧
        (pool.waiters ref).mAssignedConnection = some connection) :=
    fun some => fresh ((owned.accounted connection).mpr some)
  have unpromised {thread : Thread} {other : WaiterRef} {recyclings : Nat}
      (serves : Serves waits thread other recyclings) :
      (pool.waiters other).mAssignedConnection ≠ some connection :=
    fun same => absent (Or.inr (Or.inr ⟨thread, other, recyclings, serves, same⟩))
  constructor
  · intro other
    have keys : (SQLiteConnectionPool.unpark ref (.assigned connection) next).acquired =
        connection :: pool.acquired := acquired
    rw [keys, List.mem_cons, owned.accounted other]
    constructor
    · rintro (rfl | inHeld | inStranded | ⟨thread', ref', recyclings', serves', same⟩)
      · exact Or.inr (Or.inr ⟨thread, ref, recyclings, serves, self⟩)
      · exact Or.inl inHeld
      · exact Or.inr (Or.inl inStranded)
      · have different : ref' ≠ ref := by
          rintro rfl
          rw [undecided.1] at same
          cases same
        exact Or.inr (Or.inr ⟨thread', ref', recyclings', serves', by rw [others ref' different, same]⟩)
    · rintro (inHeld | inStranded | ⟨thread', ref', recyclings', serves', same⟩)
      · exact Or.inr (Or.inl inHeld)
      · exact Or.inr (Or.inr (Or.inl inStranded))
      · by_cases here : ref' = ref
        · subst here
          rw [self] at same
          exact Or.inl (Option.some.inj same).symm
        · rw [others ref' here] at same
          exact Or.inr (Or.inr (Or.inr ⟨thread', ref', recyclings', serves', same⟩))
  · exact owned.held_nodup
  · exact owned.stranded_nodup
  · exact owned.apart
  · intro thread' ref' recyclings' other serves' same
    by_cases here : ref' = ref
    · subst here
      rw [self] at same
      cases same
      exact ⟨fun inHeld => absent (Or.inl inHeld),
        fun inStranded => absent (Or.inr (Or.inl inStranded))⟩
    · rw [others ref' here] at same
      exact owned.promised thread' ref' recyclings' other serves' same
  · intro other thread₁ ref₁ nonce₁ thread₂ ref₂ nonce₂ first second same₁ same₂
    by_cases here₁ : ref₁ = ref
    · by_cases here₂ : ref₂ = ref
      · rw [here₁, here₂]
      · subst here₁
        rw [self] at same₁
        cases same₁
        rw [others ref₂ here₂] at same₂
        exact absurd same₂ (unpromised second)
    · by_cases here₂ : ref₂ = ref
      · subst here₂
        rw [self] at same₂
        cases same₂
        rw [others ref₁ here₁] at same₁
        exact absurd same₁ (unpromised first)
      · rw [others ref₁ here₁] at same₁
        rw [others ref₂ here₂] at same₂
        exact owned.single other thread₁ ref₁ nonce₁ thread₂ ref₂ nonce₂ first second same₁ same₂

theorem Sorted.unpark (sorted : pool.Sorted) (distinct : pool.mConnectionWaiterQueue.Nodup) :
    (unpark ref change pool).Sorted := by
  have gone (other : WaiterRef) (member : other ∈ pool.mConnectionWaiterQueue.erase ref) :
      (SQLiteConnectionPool.unpark ref change pool).waiters other = pool.waiters other :=
    unpark_waiters_of_ne (distinct.mem_erase_iff.mp member).1 change pool
  constructor
  · refine List.Pairwise.imp_of_mem ?_ (sorted.order.sublist List.erase_sublist)
    intro first second here there before
    rw [gone first here, gone second there]
    exact before
  · intro other member
    rw [gone other member]
    exact sorted.arrived other (List.mem_of_mem_erase member)

end Unparking

/-! ## Waking -/

/-- All that is kept of a pool. -/
structure Kept (waits : Thread → Option Wait) (held stranded lost : List SQLiteConnection)
    (pool : SQLiteConnectionPool) : Prop where
  orderly : pool.Orderly lost
  attended : pool.Attended waits
  owned : pool.Owned waits held stranded
  sorted : pool.Sorted

section Waking

variable (device : Device) {waits : Thread → Option Wait}
  {held stranded lost : List SQLiteConnection} {pool next : SQLiteConnectionPool}

theorem Kept.given (kept : pool.Kept waits held stranded lost) {ref : WaiterRef}
    {connection : SQLiteConnection} {without : SQLiteConnectionPool}
    (here : ref ∈ pool.mConnectionWaiterQueue) (takes : Takes pool connection without) :
    (unpark ref (.assigned connection) (finishAcquireConnectionLocked connection
      (pool.waiters ref).mConnectionFlags without)).Kept waits held stranded lost := by
  have finished : SameWaiters pool (finishAcquireConnectionLocked connection
      (pool.waiters ref).mConnectionFlags without) :=
    takes.sameWaiters.trans ⟨rfl, rfl, rfl, rfl, rfl, rfl⟩
  have isOpen : (finishAcquireConnectionLocked connection
      (pool.waiters ref).mConnectionFlags without).mIsOpen = pool.mIsOpen :=
    takes.sameSettings.isOpen
  have attended := kept.attended.same finished fun stillOpen => isOpen ▸ stillOpen
  obtain ⟨thread, recyclings, serves⟩ := kept.attended.served ref here
  refine ⟨(kept.orderly.takes takes _).unpark ref _, attended.unpark ?_ (decides_assigned _) ?_,
    kept.owned.assign (takes.absent kept.orderly.sound) finished.waiters ?_ serves
      (kept.attended.undecided ref here),
    (kept.sorted.same finished).unpark attended.distinct⟩
  · rw [finished.queue]
    exact here
  · intro _ undecided
    cases undecided.1
  · rw [acquired, takes.finish_acquired kept.orderly.sound]
    rfl

theorem Kept.unopened (kept : pool.Kept waits held stranded lost) {ref : WaiterRef}
    (here : ref ∈ pool.mConnectionWaiterQueue) :
    (unpark ref (.failed .sqlite) (afterFailing pool)).Kept waits held stranded lost := by
  have failed : SameWaiters pool (afterFailing pool) := ⟨rfl, rfl, rfl, rfl, rfl, rfl⟩
  have attended := kept.attended.same failed id
  refine ⟨kept.orderly.afterFailing.unpark ref _,
    attended.unpark here (decides_failed _) fun _ undecided => ?_,
    (kept.owned.same failed.waiters rfl).unpark rfl, (kept.sorted.same failed).unpark attended.distinct⟩
  cases undecided.2

theorem Kept.dropped (kept : pool.Kept waits held stranded lost) {ref : WaiterRef}
    (isClosed : pool.mIsOpen = false) (here : ref ∈ pool.mConnectionWaiterQueue) :
    (unpark ref id pool).Kept waits held stranded lost := by
  refine ⟨kept.orderly.unpark ref _, kept.attended.unpark here decides_id fun isOpen => ?_,
    kept.owned.unpark rfl, kept.sorted.unpark kept.attended.distinct⟩
  rw [isClosed] at isOpen
  cases isOpen

theorem Kept.failed (kept : pool.Kept waits held stranded lost) {ref : WaiterRef}
    (queued : ref ∈ pool.mConnectionWaiterQueue) (thrown : Thrown) :
    (unpark ref (.failed thrown) pool).Kept waits held stranded lost := by
  refine ⟨kept.orderly.unpark ref _,
    kept.attended.unpark queued (decides_failed _) fun _ undecided => ?_,
    kept.owned.unpark rfl, kept.sorted.unpark kept.attended.distinct⟩
  cases undecided.2

/-- Waking waiters keeps everything. -/
theorem Kept.wake (kept : pool.Kept waits held stranded lost) :
    (wakeConnectionWaitersLocked device pool).Kept waits held stranded lost :=
  wake_induction device (motive := Kept waits held stranded lost)
    (fun _ _ _ _ kept _ here takes => kept.given here takes)
    (fun _ _ kept _ here => kept.unopened here)
    (fun _ _ kept isClosed here => kept.dropped isClosed here)
    pool kept.attended.distinct kept

/-- Nothing but available connections has changed, and the books are in order. -/
theorem Kept.same (kept : pool.Kept waits held stranded lost) (orderly : next.Orderly lost)
    (same : SameWaiters pool next) (isOpen : next.mIsOpen = pool.mIsOpen)
    (acquired : next.acquired = pool.acquired) : next.Kept waits held stranded lost :=
  ⟨orderly, kept.attended.same same fun stillOpen => isOpen ▸ stillOpen,
    kept.owned.same same.waiters acquired, kept.sorted.same same⟩

end Waking

/-! ## Nobody is left waiting in vain -/

section Progress

variable (device : Device) {lost : List SQLiteConnection} {pool without : SQLiteConnectionPool}
  {connection : SQLiteConnection}

theorem PrimaryStuck.takes (stuck : pool.PrimaryStuck) (sound : pool.Sound lost)
    (takes : Takes pool connection without) (connectionFlags : BitVec 32) :
    (finishAcquireConnectionLocked connection connectionFlags without).PrimaryStuck := by
  obtain ⟨missing, entry, member, primary⟩ := stuck
  have stays : entry ∈ (finishAcquireConnectionLocked connection connectionFlags
      without).mAcquiredConnections := by
    rw [takes.finish_acquired sound]
    exact List.mem_cons_of_mem _ member
  refine ⟨?_, entry, stays, primary⟩
  cases takes with
  | primary here => rfl
  | nonPrimary here => exact missing
  | newPrimary missing _ => exact missing
  | newNonPrimary => exact missing

theorem NonPrimaryStuck.takes (stuck : pool.NonPrimaryStuck) (sound : pool.Sound lost)
    (takes : Takes pool connection without) (connectionFlags : BitVec 32) :
    (finishAcquireConnectionLocked connection connectionFlags without).NonPrimaryStuck := by
  obtain ⟨empty, full⟩ := stuck
  have entries := takes.finish_acquired sound connectionFlags
  rw [openConnections] at full
  rw [NonPrimaryStuck, openConnections, entries, List.length_cons]
  cases takes with
  | primary here =>
      refine ⟨empty, ?_⟩
      rw [here] at full
      exact Nat.le_trans full (Nat.le_add_right _ _)
  | nonPrimary here =>
      rw [empty] at here
      cases here
  | newPrimary missing _ =>
      exact ⟨empty, Nat.le_trans full (Nat.add_le_add_right (Nat.le_succ _) _)⟩
  | newNonPrimary _ grows =>
      rw [openConnections] at grows
      omega

theorem Stuck.takes {wanted : Bool} (stuck : pool.Stuck wanted) (sound : pool.Sound lost)
    (takes : Takes pool connection without) (connectionFlags : BitVec 32) :
    (finishAcquireConnectionLocked connection connectionFlags without).Stuck wanted :=
  ⟨stuck.1.takes sound takes connectionFlags,
    fun notWanted => (stuck.2 notWanted).takes sound takes connectionFlags⟩

/-- Nobody in the queue could be given a connection. -/
def Exhausted (pool : SQLiteConnectionPool) : Prop :=
  ∀ ref ∈ pool.mConnectionWaiterQueue,
    pool.Stuck (pool.waiters ref).mWantPrimaryConnection

/-- What the loop has found out when these waiters are left. -/
structure Progress (lost : List SQLiteConnection) (refs : List WaiterRef) (waking : Waking) :
    Prop where
  orderly : waking.pool.Orderly lost
  distinct : waking.pool.mConnectionWaiterQueue.Nodup
  isOpen : waking.pool.mIsOpen = true
  primary : waking.primaryConnectionNotAvailable = true → waking.pool.PrimaryStuck
  nonPrimary : waking.nonPrimaryConnectionNotAvailable = true → waking.pool.NonPrimaryStuck
  passed : ∀ ref ∈ waking.pool.mConnectionWaiterQueue, ref ∉ refs →
    waking.pool.Stuck (waking.pool.waiters ref).mWantPrimaryConnection

variable {waking next : Waking} {ref : WaiterRef} {successors : List WaiterRef}

/-- A waiter has been taken out of the queue. -/
theorem Progress.unpark (progress : Progress lost (ref :: successors) waking)
    (noted : Noted waking next) (change : ConnectionWaiter → ConnectionWaiter)
    (orderly : next.pool.Orderly lost) (same : SameWaiters waking.pool next.pool)
    (isOpen : next.pool.mIsOpen = waking.pool.mIsOpen)
    (primary : waking.pool.PrimaryStuck → next.pool.PrimaryStuck)
    (nonPrimary : waking.pool.NonPrimaryStuck → next.pool.NonPrimaryStuck) :
    Progress lost successors { next with pool := unpark ref change next.pool } where
  orderly := orderly.unpark ref change
  distinct := by
    have distinct := progress.distinct
    rw [← same.queue] at distinct
    exact distinct.erase ref
  isOpen := isOpen.trans progress.isOpen
  primary flag := by
    rcases noted.primary flag with before | stuck
    · exact primary (progress.primary before)
    · exact primary stuck
  nonPrimary flag := by
    rcases noted.nonPrimary flag with before | stuck
    · exact nonPrimary (progress.nonPrimary before)
    · exact nonPrimary stuck
  passed other member later := by
    have distinct := progress.distinct
    rw [← same.queue] at distinct
    obtain ⟨different, queued⟩ := distinct.mem_erase_iff.mp member
    rw [same.queue] at queued
    have earlier : other ∉ ref :: successors := by
      rintro (_ | ⟨_, member⟩)
      · exact different rfl
      · exact later member
    have stuck := progress.passed other queued earlier
    rw [unpark_waiters_of_ne different, same.waiters]
    exact ⟨primary stuck.1, fun notWanted => nonPrimary (stuck.2 notWanted)⟩

/-- A waiter has been passed over. -/
theorem Progress.pass (progress : Progress lost (ref :: successors) waking)
    (noted : Noted waking next) (pool : next.pool = waking.pool)
    (primary : next.primaryConnectionNotAvailable = true)
    (nonPrimary : (waking.pool.waiters ref).mWantPrimaryConnection = false →
      next.nonPrimaryConnectionNotAvailable = true) :
    Progress lost successors next := by
  have primaryStuck (flag : next.primaryConnectionNotAvailable = true) :
      next.pool.PrimaryStuck := by
    rw [pool]
    rcases noted.primary flag with before | stuck
    · exact progress.primary before
    · exact stuck
  have nonPrimaryStuck (flag : next.nonPrimaryConnectionNotAvailable = true) :
      next.pool.NonPrimaryStuck := by
    rw [pool]
    rcases noted.nonPrimary flag with before | stuck
    · exact progress.nonPrimary before
    · exact stuck
  refine ⟨pool ▸ progress.orderly, pool ▸ progress.distinct, pool ▸ progress.isOpen,
    primaryStuck, nonPrimaryStuck, fun other member later => ?_⟩
  by_cases same : other = ref
  · subst same
    refine ⟨primaryStuck primary, fun notWanted => nonPrimaryStuck (nonPrimary ?_)⟩
    rw [← pool]
    exact notWanted
  · rw [pool] at member ⊢
    refine progress.passed other member ?_
    rintro (_ | ⟨_, member⟩)
    · exact same rfl
    · exact later member

/-- Whenever the loop ends, nobody is left who could have been given a connection. -/
theorem Progress.exhausted (refs : List WaiterRef) (waking : Waking)
    (progress : Progress lost refs waking) : (wakeLoop device refs waking).Exhausted := by
  induction refs generalizing waking with
  | nil => exact fun ref member => progress.passed ref member List.not_mem_nil
  | cons ref successors ih =>
      have offered := offers device (waking.pool.waiters ref) waking
      generalize result : offer device (waking.pool.waiters ref) waking = offer at offered
      cases offered with
      | given takes next noted =>
          rw [wakeLoop_of_given device progress.isOpen result]
          refine ih _ (progress.unpark noted _ ?_ ?_ ?_ ?_ ?_) <;> rw [next]
          · exact progress.orderly.takes takes _
          · exact takes.sameWaiters.trans ⟨rfl, rfl, rfl, rfl, rfl, rfl⟩
          · exact takes.sameSettings.isOpen
          · exact fun stuck => stuck.takes progress.orderly.sound takes _
          · exact fun stuck => stuck.takes progress.orderly.sound takes _
      | unopened next noted =>
          rw [wakeLoop_of_throws device progress.isOpen result]
          refine ih _ (progress.unpark noted _ ?_ ?_ ?_ ?_ ?_) <;> rw [next]
          · exact progress.orderly.afterFailing
          · exact ⟨rfl, rfl, rfl, rfl, rfl, rfl⟩
          · rfl
          · exact id
          · exact id
      | nothing next noted primary nonPrimary =>
          have passed := progress.pass noted next primary nonPrimary
          rw [wakeLoop_of_nothing device progress.isOpen result]
          split
          · next both =>
              rw [Bool.and_eq_true] at both
              exact fun other _ => ⟨passed.primary both.2, fun _ => passed.nonPrimary both.1⟩
          · exact ih _ passed

/-- Waking waiters leaves nobody in the queue who could be given a connection. -/
theorem Orderly.exhausted (orderly : pool.Orderly lost)
    (distinct : pool.mConnectionWaiterQueue.Nodup) (isOpen : pool.mIsOpen = true) :
    (wakeConnectionWaitersLocked device pool).Exhausted := by
  have initially : Progress lost pool.mConnectionWaiterQueue { pool := pool } := by
    refine ⟨orderly, distinct, isOpen, ?_, ?_, ?_⟩
    · intro flag
      cases flag
    · intro flag
      cases flag
    · exact fun ref member absent => absurd member absent
  exact initially.exhausted device

/-- In a closed pool everybody is taken out of the queue. -/
theorem wakeLoop_closed (refs : List WaiterRef) (waking : Waking)
    (isClosed : waking.pool.mIsOpen = false)
    (all : waking.pool.mConnectionWaiterQueue = refs) :
    (wakeLoop device refs waking).mConnectionWaiterQueue = [] := by
  induction refs generalizing waking with
  | nil => exact all
  | cons ref successors ih =>
      rw [wakeLoop_of_closed device isClosed]
      refine ih _ isClosed ?_
      simp [SQLiteConnectionPool.unpark, all]

/-- Waking changes nothing about the pool as a whole. -/
theorem wake_sameSettings (distinct : pool.mConnectionWaiterQueue.Nodup) :
    SameSettings pool (wakeConnectionWaitersLocked device pool) := by
  refine wake_induction device (motive := SameSettings pool) ?_ ?_ ?_ pool distinct
    ⟨rfl, rfl, rfl, rfl⟩
  · intro mid ref connection without same _ _ takes
    exact ⟨takes.sameSettings.isOpen.trans same.isOpen,
      takes.sameSettings.configuration.trans same.configuration,
      takes.sameSettings.maxSize.trans same.maxSize,
      takes.sameSettings.leaked.trans same.leaked⟩
  · intro mid ref same _ _
    exact ⟨same.isOpen, same.configuration, same.maxSize, same.leaked⟩
  · intro mid ref same _ _
    exact ⟨same.isOpen, same.configuration, same.maxSize, same.leaked⟩

end Progress

end SQLiteConnectionPool
end Pool
end ModuleDatabase
