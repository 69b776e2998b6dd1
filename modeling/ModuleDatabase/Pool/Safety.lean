import ModuleDatabase.Pool.Requests
import ModuleDatabase.Pool.Reconfiguration

namespace ModuleDatabase
namespace Pool

/-!
# The invariant of a pool that threads share

Every step of every thread keeps the invariant.  A step either changes the pool as one of its
methods does, or only the place of a thread in its wait.

If somebody in the queue could be given a connection, then a thread has found the flag for
leaked connections set and is about to wake everybody, or the flag is set, or a connection is
lost and its finalizer will set it.
-/

namespace SQLiteConnectionPool

section Owned

variable {waits : Thread → Option Wait} {held stranded : List SQLiteConnection}
  {pool next : SQLiteConnectionPool} {connection : SQLiteConnection}

/-- A thread gets a connection that nobody has. -/
theorem Owned.hold (owned : pool.Owned waits held stranded) (fresh : connection ∉ pool.acquired)
    (waiters : next.waiters = pool.waiters)
    (acquired : next.acquired = connection :: pool.acquired) :
    next.Owned waits (connection :: held) stranded := by
  have absent := fresh
  rw [owned.accounted, not_or, not_or] at absent
  constructor
  · intro other
    rw [acquired, waiters, List.mem_cons, owned.accounted, List.mem_cons, or_assoc]
  · exact List.nodup_cons.mpr ⟨absent.1, owned.held_nodup⟩
  · exact owned.stranded_nodup
  · intro other member
    rcases List.mem_cons.mp member with rfl | before
    · exact absent.2.1
    · exact owned.apart other before
  · intro thread ref recyclings other serves same
    rw [waiters] at same
    obtain ⟨notHeld, notStranded⟩ := owned.promised thread ref recyclings other serves same
    refine ⟨fun member => ?_, notStranded⟩
    rcases List.mem_cons.mp member with rfl | before
    · exact absent.2.2 ⟨thread, ref, recyclings, serves, same⟩
    · exact notHeld before
  · rw [waiters]
    exact owned.single

/-- A connection that a thread holds, or that is stranded, is taken out of the map. -/
theorem Owned.drop (owned : pool.Owned waits held stranded)
    (has : connection ∈ held ∨ connection ∈ stranded) (waiters : next.waiters = pool.waiters)
    (acquired : next.acquired = pool.acquired.filter (· != connection)) :
    next.Owned waits (held.filter (· != connection)) (stranded.filter (· != connection)) := by
  have unpromised {thread : Thread} {ref : WaiterRef} {recyclings : Nat}
      (serves : Serves waits thread ref recyclings) :
      (pool.waiters ref).mAssignedConnection ≠ some connection := by
    intro same
    obtain ⟨notHeld, notStranded⟩ := owned.promised thread ref recyclings connection serves same
    exact has.elim notHeld notStranded
  constructor
  · intro other
    rw [acquired, waiters, List.mem_filter, List.mem_filter, List.mem_filter, owned.accounted]
    by_cases same : other = connection
    · subst same
      refine iff_of_false (by simp) ?_
      rintro (⟨_, impossible⟩ | ⟨_, impossible⟩ | ⟨thread, ref, recyclings, serves, same⟩)
      · simp at impossible
      · simp at impossible
      · exact unpromised serves same
    · simp [same]
  · exact owned.held_nodup.filter _
  · exact owned.stranded_nodup.filter _
  · exact fun other member inStranded => owned.apart other (List.mem_of_mem_filter member)
      (List.mem_of_mem_filter inStranded)
  · intro thread ref recyclings other serves same
    rw [waiters] at same
    obtain ⟨notHeld, notStranded⟩ := owned.promised thread ref recyclings other serves same
    exact ⟨fun member => notHeld (List.mem_of_mem_filter member),
      fun member => notStranded (List.mem_of_mem_filter member)⟩
  · rw [waiters]
    exact owned.single

end Owned

section Frames

variable (device : Device) {pool : SQLiteConnectionPool}

/-- What a waiter counts changes only when it is recycled. -/
theorem wake_recyclings (distinct : pool.mConnectionWaiterQueue.Nodup) (ref : WaiterRef) :
    ((wakeConnectionWaitersLocked device pool).waiters ref).recyclings =
      (pool.waiters ref).recyclings := by
  have unparked (mid : SQLiteConnectionPool) (other : WaiterRef)
      {change : ConnectionWaiter → ConnectionWaiter} (decides : Decides change) :
      ((unpark other change mid).waiters ref).recyclings = (mid.waiters ref).recyclings := by
    by_cases same : ref = other
    · rw [same, unpark_waiters_self, decides.recyclings]
    · rw [unpark_waiters_of_ne same]
  refine wake_induction device
    (motive := fun mid => (mid.waiters ref).recyclings = (pool.waiters ref).recyclings) ?_ ?_ ?_ pool
    distinct rfl
  · intro mid other connection without same _ _ takes
    rw [unparked _ _ (decides_assigned connection), ← same, ← takes.sameWaiters.waiters]
    rfl
  · intro mid other same _ _
    rw [unparked _ _ (decides_failed _), ← same]
    rfl
  · intro mid other same _ _
    rw [unparked _ _ decides_id, same]

end Frames

end SQLiteConnectionPool

namespace System

open SQLiteConnectionPool

/-- Somebody will wake everybody. -/
def Alert (system : System) : Prop :=
  system.collected ≠ [] ∨ system.pool.mConnectionLeaked = true ∨
    ∃ thread wait, system.waits thread = some wait ∧ wait.phase = .recovering

/-- What holds whether or not anybody is woken. -/
structure Safe (system : System) : Prop where
  kept : system.pool.Kept system.waits (system.held.map Prod.snd) system.stranded
    system.collected
  left : system.pool.mIsOpen = true → ∀ thread wait, system.waits thread = some wait →
    wait.phase = .leaving → wait.recyclings < (system.pool.waiters wait.waiter).recyclings
  unstranded : system.pool.mIsOpen = true → system.stranded = []
  drained : system.pool.mIsOpen = false → system.pool.mConnectionWaiterQueue = []

structure Invariant (system : System) : Prop extends Safe system where
  exhausted : system.pool.mIsOpen = true → system.pool.Exhausted ∨ system.Alert

section Pools

variable {device : Device} {system : System}

/-- What a method of the pool has to keep. -/
theorem Invariant.change (invariant : system.Invariant) {next : SQLiteConnectionPool}
    {held : List (Thread × SQLiteConnection)} {stranded collected : List SQLiteConnection}
    (kept : next.Kept system.waits (held.map Prod.snd) stranded collected)
    (isOpen : next.mIsOpen = system.pool.mIsOpen)
    (recyclings : ∀ ref, (next.waiters ref).recyclings = (system.pool.waiters ref).recyclings)
    (unstranded : system.pool.mIsOpen = true → stranded = [])
    (drained : system.pool.mIsOpen = false → next.mConnectionWaiterQueue = [])
    (exhausted : system.pool.mIsOpen = true → next.Exhausted ∨
      System.Alert ⟨next, system.waits, held, stranded, collected⟩) :
    Invariant ⟨next, system.waits, held, stranded, collected⟩ where
  kept := kept
  left stillOpen thread wait waiting leaving := by
    rw [recyclings]
    exact invariant.left (isOpen ▸ stillOpen) thread wait waiting leaving
  unstranded stillOpen := unstranded (isOpen ▸ stillOpen)
  drained isClosed := drained (isOpen ▸ isClosed)
  exhausted stillOpen := exhausted (isOpen ▸ stillOpen)

/-- A method that settles the pool keeps the invariant. -/
theorem Invariant.settles (invariant : system.Invariant) {next : SQLiteConnectionPool}
    {keys : List SQLiteConnection}
    (settles : Settles device system.pool keys system.collected next)
    {held : List (Thread × SQLiteConnection)} {stranded : List SQLiteConnection}
    (owned : ∀ mid : SQLiteConnectionPool, mid.waiters = system.pool.waiters →
      mid.acquired = keys → mid.Owned system.waits (held.map Prod.snd) stranded)
    (unstranded : system.pool.mIsOpen = true → stranded = []) :
    Invariant ⟨next, system.waits, held, stranded, system.collected⟩ := by
  have before := invariant.kept
  cases settles with
  | quiet orderly same isOpen leaked acquired stays =>
      refine invariant.change ⟨orderly, before.attended.same same fun opened => isOpen ▸ opened,
        owned next same.waiters acquired, before.sorted.same same⟩ isOpen
        (fun ref => by rw [same.waiters]) unstranded ?_ ?_
      · intro isClosed
        rw [same.queue]
        exact invariant.drained isClosed
      · intro isOpen
        refine (invariant.exhausted isOpen).imp (fun exhausted ref member => ?_) fun alert => ?_
        · rw [same.queue] at member
          rw [same.waiters]
          exact stays isOpen _ (exhausted ref member)
        · rw [Alert, leaked]
          exact alert
  | woken orderly same isOpen leaked acquired =>
      have kept : Kept system.waits (held.map Prod.snd) stranded system.collected _ :=
        ⟨orderly, before.attended.same same fun opened => isOpen ▸ opened,
          owned _ same.waiters acquired, before.sorted.same same⟩
      have settings := wake_sameSettings device kept.attended.distinct
      refine invariant.change (kept.wake device) (settings.isOpen.trans isOpen)
        (fun ref => ?_) unstranded ?_ ?_
      · rw [wake_recyclings device kept.attended.distinct, same.waiters]
      · intro isClosed
        exact wakeLoop_closed device _ _ (isOpen.trans isClosed) rfl
      · intro opened
        exact Or.inl (orderly.exhausted device kept.attended.distinct (isOpen.trans opened))

end Pools

/-! ## The steps of a wait -/

section Steps

variable {device : Device} {system : System} {thread : Thread} {wait : Wait} {phase : Phase}

theorem serves_proceed {waits : Thread → Option Wait} (waiting : waits thread = some wait)
    (before : wait.phase ≠ .leaving) (after : phase ≠ .leaving) (other : Thread)
    (ref : WaiterRef) (recyclings : Nat) :
    Serves (Function.update waits thread (some { wait with phase := phase })) other ref recyclings ↔
      Serves waits other ref recyclings := by
  by_cases same : other = thread
  · subst same
    rw [serves_self]
    constructor
    · rintro ⟨_, here, count⟩
      exact ⟨wait, waiting, before, here, count⟩
    · rintro ⟨wait', waiting', _, here, count⟩
      cases waiting.symm.trans waiting'
      exact ⟨after, here, count⟩
  · exact serves_other same _

/-- A thread goes on to another phase of its wait; before it may park it must have been
awake, or its waiter is queued. -/
theorem attended_proceed {waits : Thread → Option Wait} {pool : SQLiteConnectionPool}
    (attended : pool.Attended waits) (waiting : waits thread = some wait)
    (before : wait.phase ≠ .leaving) (after : phase ≠ .leaving)
    (rested : phase = .checking ∨ wait.phase ≠ .checking ∨
      wait.waiter ∈ pool.mConnectionWaiterQueue) :
    pool.Attended (Function.update waits thread (some { wait with phase := phase })) := by
  have serves := serves_proceed waiting before after
  refine { attended with
    served := fun ref queued => ?_
    inUse := fun server ref recyclings serving =>
      attended.inUse server ref recyclings ((serves server ref recyclings).mp serving)
    queued := fun isOpen server ref recyclings serving =>
      attended.queued isOpen server ref recyclings ((serves server ref recyclings).mp serving)
    awake := fun server ref sleeps absent => ?_ }
  · obtain ⟨server, recyclings, serving⟩ := attended.served ref queued
    exact ⟨server, recyclings, (serves server ref recyclings).mpr serving⟩
  · by_cases same : server = thread
    · subst same
      obtain ⟨wait', waiting', _, notChecking, here⟩ := sleeps
      rw [Function.update_self] at waiting'
      cases waiting'
      rcases rested with checking | asleep | queued
      · exact absurd checking notChecking
      · exact attended.awake server ref ⟨wait, waiting, before, asleep, here⟩ absent
      · exact absurd (here ▸ queued) absent
    · exact attended.awake server ref ((sleeps_other same _).mp sleeps) absent

theorem owned_congr {waits waits' : Thread → Option Wait} {held stranded : List SQLiteConnection}
    {pool : SQLiteConnectionPool} (owned : pool.Owned waits held stranded)
    (serves : ∀ thread ref recyclings, Serves waits' thread ref recyclings ↔ Serves waits thread ref recyclings) :
    pool.Owned waits' held stranded where
  accounted := by simp only [serves]; exact owned.accounted
  held_nodup := owned.held_nodup
  stranded_nodup := owned.stranded_nodup
  apart := owned.apart
  promised := by simp only [serves]; exact owned.promised
  single := by simp only [serves]; exact owned.single

theorem Safe.proceed (safe : system.Safe) (waiting : system.waits thread = some wait)
    (before : wait.phase ≠ .leaving) (after : phase ≠ .leaving)
    (rested : phase = .checking ∨ wait.phase ≠ .checking ∨
      wait.waiter ∈ system.pool.mConnectionWaiterQueue) :
    (system.proceed thread wait phase).Safe where
  kept := ⟨safe.kept.orderly, attended_proceed safe.kept.attended waiting before after rested,
    owned_congr safe.kept.owned (serves_proceed waiting before after), safe.kept.sorted⟩
  left stillOpen other wait' waiting' leaving := by
    change Function.update system.waits thread _ other = some wait' at waiting'
    by_cases same : other = thread
    · subst same
      rw [Function.update_self] at waiting'
      cases waiting'
      exact absurd leaving after
    · rw [Function.update_of_ne same] at waiting'
      exact safe.left stillOpen other wait' waiting' leaving
  unstranded := safe.unstranded
  drained := safe.drained

/-- A thread that recovers goes on recovering while another thread takes a step. -/
theorem alert_of_others {next : System} (alert : system.Alert)
    (collected : system.collected ≠ [] → next.collected ≠ [])
    (leaked : system.pool.mConnectionLeaked = true → next.pool.mConnectionLeaked = true)
    (waits : ∀ other wait, system.waits other = some wait → wait.phase = .recovering →
      next.waits other = some wait) : next.Alert := by
  rcases alert with lost | flag | ⟨other, wait, waiting, recovering⟩
  · exact Or.inl (collected lost)
  · exact Or.inr (Or.inl (leaked flag))
  · exact Or.inr (Or.inr ⟨other, wait, waits other wait waiting recovering, recovering⟩)

/-- A step of a thread that is not recovering. -/
theorem update_of_recovering {waits : Thread → Option Wait} {entry : Option Wait}
    (notRecovering : ∀ wait, waits thread = some wait → wait.phase ≠ .recovering)
    {other : Thread} {wait' : Wait} (waiting : waits other = some wait')
    (recovering : wait'.phase = .recovering) :
    Function.update waits thread entry other = some wait' := by
  rw [Function.update_of_ne ?_, waiting]
  rintro rfl
  exact notRecovering wait' waiting recovering

/-- Only the flag for leaked connections or a permit has changed. -/
theorem Safe.flagged (safe : system.Safe) {next : SQLiteConnectionPool}
    (orderly : next.Orderly system.collected) (attended : next.Attended system.waits)
    (waiters : next.waiters = system.pool.waiters)
    (queue : next.mConnectionWaiterQueue = system.pool.mConnectionWaiterQueue)
    (arrivals : next.arrivals = system.pool.arrivals)
    (isOpen : next.mIsOpen = system.pool.mIsOpen)
    (acquired : next.acquired = system.pool.acquired) :
    Safe { system with pool := next } where
  kept := ⟨orderly, attended, safe.kept.owned.same waiters acquired,
    ⟨by rw [queue, waiters]; exact safe.kept.sorted.order,
      by rw [queue, waiters, arrivals]; exact safe.kept.sorted.arrived⟩⟩
  left stillOpen := by
    dsimp only
    rw [waiters]
    exact safe.left (isOpen ▸ stillOpen)
  unstranded stillOpen := safe.unstranded (isOpen ▸ stillOpen)
  drained isClosed := by
    dsimp only
    rw [queue]
    exact safe.drained (isOpen ▸ isClosed)

theorem Invariant.poll (invariant : system.Invariant) (waiting : system.waits thread = some wait)
    (looping : wait.phase = .looping) : (system.poll thread wait).Invariant := by
  have notLeaving : wait.phase ≠ .leaving := by rw [looping]; decide
  have asleep : wait.phase ≠ .checking := by rw [looping]; decide
  have notRecovering : ∀ wait', system.waits thread = some wait' →
      wait'.phase ≠ .recovering := by
    intro wait' waiting'
    cases waiting.symm.trans waiting'
    rw [looping]
    decide
  have kept := invariant.kept
  rw [System.poll]
  split
  · have safe : Safe { system with pool := { system.pool with mConnectionLeaked := false } } :=
      invariant.toSafe.flagged ⟨{ kept.orderly.sound with },
        ⟨kept.orderly.configured.available, kept.orderly.configured.acquired⟩⟩
        (kept.attended.same ⟨rfl, rfl, rfl, rfl, rfl, rfl⟩ id) rfl rfl rfl rfl rfl
    refine ⟨safe.proceed waiting notLeaving (by decide) (Or.inr (Or.inl asleep)), fun _ => ?_⟩
    exact Or.inr (Or.inr (Or.inr ⟨thread, _, Function.update_self .., rfl⟩))
  · refine ⟨invariant.toSafe.proceed waiting notLeaving (by decide) (Or.inr (Or.inl asleep)),
      fun isOpen => (invariant.exhausted isOpen).imp_right fun alert => ?_⟩
    exact alert_of_others alert id id
      fun other wait' waiting' => update_of_recovering notRecovering waiting'

theorem Invariant.recover (invariant : system.Invariant)
    (waiting : system.waits thread = some wait) (recovering : wait.phase = .recovering) :
    (system.recover device thread wait).Invariant := by
  have notLeaving : wait.phase ≠ .leaving := by rw [recovering]; decide
  have asleep : wait.phase ≠ .checking := by rw [recovering]; decide
  have woken : Invariant { system with pool := system.pool.wakeConnectionWaitersLocked device } :=
    invariant.settles (.woken invariant.kept.orderly ⟨rfl, rfl, rfl, rfl, rfl, rfl⟩ rfl rfl rfl)
    (fun mid waiters acquired => invariant.kept.owned.same waiters acquired) invariant.unstranded
  refine ⟨woken.toSafe.proceed waiting notLeaving (by decide) (Or.inr (Or.inl asleep)),
    fun isOpen => Or.inl ?_⟩
  have settings := wake_sameSettings device invariant.kept.attended.distinct
  exact invariant.kept.orderly.exhausted device invariant.kept.attended.distinct
    (settings.isOpen.symm.trans isOpen)

theorem Invariant.unparked (invariant : system.Invariant)
    (waiting : system.waits thread = some wait) (parking : wait.phase = .parking) :
    (system.unparked thread wait).Invariant := by
  have notLeaving : wait.phase ≠ .leaving := by rw [parking]; decide
  have notRecovering : ∀ wait', system.waits thread = some wait' →
      wait'.phase ≠ .recovering := by
    intro wait' waiting'
    cases waiting.symm.trans waiting'
    rw [parking]
    decide
  have checking : (system.proceed thread wait .checking).Safe :=
    invariant.toSafe.proceed waiting notLeaving (by decide) (Or.inl rfl)
  have kept := checking.kept
  have attended : Attended (system.proceed thread wait .checking).waits
      { system.pool with permits := Function.update system.pool.permits thread false } :=
    { kept.attended with
      inUse := fun server ref recyclings serves => { kept.attended.inUse server ref recyclings serves with }
      awake := fun server ref sleeps absent => by
        have different : server ≠ thread := by
          rintro rfl
          obtain ⟨wait', waiting', _, notChecking, _⟩ := sleeps
          change Function.update system.waits server _ server = some wait' at waiting'
          rw [Function.update_self] at waiting'
          cases waiting'
          exact notChecking rfl
        simp only [Function.update_of_ne different]
        exact kept.attended.awake server ref sleeps absent }
  have safe : (system.unparked thread wait).Safe := checking.flagged ⟨{ kept.orderly.sound with },
    ⟨kept.orderly.configured.available, kept.orderly.configured.acquired⟩⟩ attended rfl rfl rfl
    rfl rfl
  refine ⟨safe, fun isOpen => (invariant.exhausted isOpen).imp_right fun alert => ?_⟩
  exact alert_of_others alert id id
    fun other wait' waiting' => update_of_recovering notRecovering waiting'

/-- What a thread finds when it looks at its waiter. -/
inductive Looks (pool : SQLiteConnectionPool) (ref : WaiterRef) :
    EStateM.Result Thrown SQLiteConnectionPool (Option SQLiteConnection) → Prop where
  | closed (isClosed : pool.mIsOpen = false) : Looks pool ref (.error .illegalState pool)
  | given (isOpen : pool.mIsOpen = true) {connection : SQLiteConnection}
      (assigned : (pool.waiters ref).mAssignedConnection = some connection) :
      Looks pool ref (.ok (some connection) (recycleConnectionWaiterLocked ref pool))
  | failed (isOpen : pool.mIsOpen = true) {thrown : Thrown}
      (unassigned : (pool.waiters ref).mAssignedConnection = none)
      (exception : (pool.waiters ref).mException = some thrown) :
      Looks pool ref (.error thrown (recycleConnectionWaiterLocked ref pool))
  | undecided (isOpen : pool.mIsOpen = true) (undecided : (pool.waiters ref).Undecided) :
      Looks pool ref (.ok none pool)

theorem looks (pool : SQLiteConnectionPool) (ref : WaiterRef) :
    Looks pool ref (SQLiteConnectionPool.look ref pool) := by
  cases isOpen : pool.mIsOpen with
  | false =>
      simp only [SQLiteConnectionPool.look, isOpen]
      exact .closed isOpen
  | true =>
      cases assigned : (pool.waiters ref).mAssignedConnection with
      | some connection =>
          simp only [SQLiteConnectionPool.look, isOpen, assigned]
          exact .given isOpen assigned
      | none =>
          cases exception : (pool.waiters ref).mException with
          | some thrown =>
              simp only [SQLiteConnectionPool.look, isOpen, assigned, exception]
              exact .failed isOpen assigned exception
          | none =>
              simp only [SQLiteConnectionPool.look, isOpen, assigned, exception]
              exact .undecided isOpen ⟨assigned, exception⟩

theorem serves_of_waiting (waiting : system.waits thread = some wait)
    (notLeaving : wait.phase ≠ .leaving) :
    Serves system.waits thread wait.waiter wait.recyclings := ⟨wait, waiting, notLeaving, rfl, rfl⟩

/-- A thread that has been told what became of its request gives its waiter back. -/
theorem Invariant.recycle (invariant : system.Invariant)
    (waiting : system.waits thread = some wait) (checking : wait.phase = .checking)
    (isOpen : system.pool.mIsOpen = true)
    (decided : ¬ (system.pool.waiters wait.waiter).Undecided)
    {held : List (Thread × SQLiteConnection)}
    (handed : ∀ connection, connection ∈ held.map Prod.snd ↔
      (connection ∈ system.held.map Prod.snd ∨
        (system.pool.waiters wait.waiter).mAssignedConnection = some connection))
    (held_nodup : (held.map Prod.snd).Nodup) :
    (System.proceed thread wait .leaving { system with
      pool := recycleConnectionWaiterLocked wait.waiter system.pool, held := held }).Invariant := by
  have notLeaving : wait.phase ≠ .leaving := by rw [checking]; decide
  have serves := serves_of_waiting waiting notLeaving
  have kept := invariant.kept
  have unqueued : wait.waiter ∉ system.pool.mConnectionWaiterQueue :=
    fun queued => decided (kept.attended.undecided _ queued)
  have unstranded := invariant.unstranded isOpen
  have leaving : { wait with phase := .leaving }.phase = Phase.leaving := rfl
  have attended := kept.attended.recycle serves decided leaving
  have acquired : (recycleConnectionWaiterLocked wait.waiter system.pool).acquired =
      system.pool.acquired := rfl
  have owned : (recycleConnectionWaiterLocked wait.waiter system.pool).Owned
      (Function.update system.waits thread (some { wait with phase := .leaving }))
      (held.map Prod.snd) system.stranded :=
    kept.owned.leave kept.attended serves leaving acquired
      (fun other different => recycle_other different system.pool)
      (fun connection => by rw [handed, unstranded]; simp) held_nodup
      kept.owned.stranded_nodup fun _ _ => by rw [unstranded]; exact List.not_mem_nil
  refine ⟨⟨⟨⟨{ kept.orderly.sound with },
    ⟨kept.orderly.configured.available, kept.orderly.configured.acquired⟩⟩, attended, owned,
    kept.sorted.recycle unqueued⟩, ?_, fun _ => unstranded, ?_⟩, fun _ => ?_⟩
  · intro _ other wait' waiting' leaving
    change Function.update system.waits thread _ other = some wait' at waiting'
    by_cases same : other = thread
    · subst same
      rw [Function.update_self] at waiting'
      cases waiting'
      have recyclings := (kept.attended.inUse _ _ _ serves).recyclings
      simp only [System.proceed, enter, recycleConnectionWaiterLocked, Function.update_self]
      omega
    · rw [Function.update_of_ne same] at waiting'
      have before := invariant.left isOpen other wait' waiting' leaving
      change wait'.recyclings < ((recycleConnectionWaiterLocked wait.waiter system.pool).waiters
        wait'.waiter).recyclings
      by_cases here : wait'.waiter = wait.waiter
      · rw [here] at before ⊢
        simp only [recycleConnectionWaiterLocked, Function.update_self]
        omega
      · rw [recycle_other here]
        exact before
  · intro isClosed
    cases isOpen.symm.trans isClosed
  · refine (invariant.exhausted isOpen).imp (fun exhausted ref queued => ?_) fun alert => ?_
    · have different : ref ≠ wait.waiter := fun same => unqueued (same ▸ queued)
      have same : (recycleConnectionWaiterLocked wait.waiter system.pool).waiters ref =
          system.pool.waiters ref := recycle_other different system.pool
      change Stuck _ ((recycleConnectionWaiterLocked wait.waiter system.pool).waiters
        ref).mWantPrimaryConnection
      rw [same]
      exact exhausted ref queued
    · refine alert_of_others alert id id fun other wait' waiting' =>
        update_of_recovering (fun wait'' waiting'' => ?_) waiting'
      cases waiting.symm.trans waiting''
      rw [checking]
      decide

theorem Invariant.look (invariant : system.Invariant) (waiting : system.waits thread = some wait)
    (checking : wait.phase = .checking) : (system.look thread wait).2.Invariant := by
  have notLeaving : wait.phase ≠ .leaving := by rw [checking]; decide
  have serves := serves_of_waiting waiting notLeaving
  have kept := invariant.kept
  have notRecovering : ∀ wait', system.waits thread = some wait' →
      wait'.phase ≠ .recovering := by
    intro wait' waiting'
    cases waiting.symm.trans waiting'
    rw [checking]
    decide
  have looks := looks system.pool wait.waiter
  generalize result : SQLiteConnectionPool.look wait.waiter system.pool = found at looks
  cases looks with
  | closed isClosed =>
      simp only [System.look, result]
      have empty := invariant.drained isClosed
      have promised := kept.owned.promised thread wait.waiter wait.recyclings
      refine ⟨⟨⟨kept.orderly, kept.attended.leaveClosed isClosed empty rfl,
        kept.owned.leave kept.attended serves rfl rfl (fun _ _ => rfl) (fun connection => ?_)
          kept.owned.held_nodup ?_ ?_, kept.sorted⟩, ?_, ?_, fun _ => empty⟩, ?_⟩
      · simp only [System.proceed, enter, List.mem_append, Option.mem_toList]
        tauto
      · refine List.nodup_append.mpr ⟨?_, kept.owned.stranded_nodup, ?_⟩
        · cases (system.pool.waiters wait.waiter).mAssignedConnection <;> simp
        · rintro connection here other there rfl
          exact (promised connection serves (Option.mem_toList.mp here)).2 there
      · intro connection inHeld member
        rcases List.mem_append.mp member with here | there
        · exact (promised connection serves (Option.mem_toList.mp here)).1 inHeld
        · exact kept.owned.apart connection inHeld there
      · intro isOpen
        cases isClosed.symm.trans isOpen
      · intro isOpen
        cases isClosed.symm.trans isOpen
      · intro isOpen
        cases isClosed.symm.trans isOpen
  | given isOpen assigned =>
      simp only [System.look, result]
      refine invariant.recycle waiting checking isOpen (fun undecided => ?_)
        (fun connection => ?_) ?_
      · cases undecided.1.symm.trans assigned
      · rw [assigned, List.map_cons, List.mem_cons, Option.some_inj, or_comm]
        exact or_congr_right eq_comm
      · rw [List.map_cons]
        exact List.nodup_cons.mpr ⟨(kept.owned.promised _ _ _ _ serves assigned).1,
          kept.owned.held_nodup⟩
  | failed isOpen unassigned exception =>
      simp only [System.look, result]
      have cleared : ((recycleConnectionWaiterLocked wait.waiter system.pool).waiters
          wait.waiter).mAssignedConnection = none := (recycle_self wait.waiter system.pool).1
      simp only [cleared, Option.toList_none, List.nil_append]
      refine invariant.recycle waiting checking isOpen (fun undecided => ?_)
        (fun connection => ?_) kept.owned.held_nodup
      · cases undecided.2.symm.trans exception
      · rw [unassigned]
        simp
  | undecided isOpen undecided =>
      simp only [System.look, result]
      refine ⟨invariant.toSafe.proceed waiting notLeaving (by decide) (Or.inr (Or.inr
        (kept.attended.queued isOpen thread _ _ serves undecided))),
        fun isOpen => (invariant.exhausted isOpen).imp_right fun alert => ?_⟩
      exact alert_of_others alert id id
        fun other wait' waiting' => update_of_recovering notRecovering waiting'

/-- A thread that leaves did not wait any more. -/
theorem Invariant.leave (invariant : system.Invariant) (waiting : system.waits thread = some wait)
    (leaving : wait.phase = .leaving) : (system.enter thread none).Invariant := by
  have outside : ∀ ref recyclings, ¬ Serves system.waits thread ref recyclings := by
    rintro ref recyclings ⟨wait', waiting', notLeaving, _⟩
    cases waiting.symm.trans waiting'
    exact notLeaving leaving
  have serves (other : Thread) (ref : WaiterRef) (recyclings : Nat) :
      Serves (Function.update system.waits thread none) other ref recyclings ↔
        Serves system.waits other ref recyclings := by
    by_cases same : other = thread
    · subst same
      exact iff_of_false (not_serves_of_none (Function.update_self ..)) (outside ref recyclings)
    · exact serves_other same _
  have kept := invariant.kept
  refine ⟨⟨⟨kept.orderly, { kept.attended with
      served := fun ref queued => ?_
      inUse := fun server ref recyclings serving =>
        kept.attended.inUse server ref recyclings ((serves server ref recyclings).mp serving)
      queued := fun isOpen server ref recyclings serving =>
        kept.attended.queued isOpen server ref recyclings ((serves server ref recyclings).mp serving)
      awake := fun server ref sleeps absent => ?_ }, owned_congr kept.owned serves, kept.sorted⟩,
    ?_, invariant.unstranded, invariant.drained⟩, fun isOpen =>
      (invariant.exhausted isOpen).imp_right fun alert => ?_⟩
  · obtain ⟨server, recyclings, serving⟩ := kept.attended.served ref queued
    exact ⟨server, recyclings, (serves server ref recyclings).mpr serving⟩
  · by_cases same : server = thread
    · subst same
      obtain ⟨recyclings, serving⟩ := sleeps.serves
      exact absurd serving (not_serves_of_none (Function.update_self ..))
    · exact kept.attended.awake server ref ((sleeps_other same _).mp sleeps) absent
  · intro isOpen other wait' waiting' leaving'
    change Function.update system.waits thread none other = some wait' at waiting'
    by_cases same : other = thread
    · subst same
      rw [Function.update_self] at waiting'
      cases waiting'
    · rw [Function.update_of_ne same] at waiting'
      exact invariant.left isOpen other wait' waiting' leaving'
  · refine alert_of_others alert id id fun other wait' waiting' =>
      update_of_recovering (fun wait'' waiting'' => ?_) waiting'
    cases waiting.symm.trans waiting''
    rw [leaving]
    decide

/-- A method that changes neither waiters nor what has been acquired. -/
theorem Invariant.failed (invariant : system.Invariant) :
    Invariant { system with pool := afterFailing system.pool } :=
  invariant.change (invariant.kept.same invariant.kept.orderly.afterFailing
      ⟨rfl, rfl, rfl, rfl, rfl, rfl⟩ rfl rfl) rfl (fun _ => rfl) invariant.unstranded
    invariant.drained invariant.exhausted

theorem Invariant.take (invariant : system.Invariant) {connection : SQLiteConnection}
    {without : SQLiteConnectionPool} (takes : Takes system.pool connection without)
    (connectionFlags : BitVec 32) :
    Invariant { system with
      pool := finishAcquireConnectionLocked connection connectionFlags without
      held := (thread, connection) :: system.held } := by
  have kept := invariant.kept
  have finished : SameWaiters system.pool
      (finishAcquireConnectionLocked connection connectionFlags without) :=
    takes.sameWaiters.trans ⟨rfl, rfl, rfl, rfl, rfl, rfl⟩
  have isOpen : (finishAcquireConnectionLocked connection connectionFlags without).mIsOpen =
      system.pool.mIsOpen := takes.sameSettings.isOpen
  have leaked : (finishAcquireConnectionLocked connection connectionFlags
      without).mConnectionLeaked = system.pool.mConnectionLeaked := takes.sameSettings.leaked
  have acquired : (finishAcquireConnectionLocked connection connectionFlags without).acquired =
      connection :: system.pool.acquired := by
    rw [acquired, takes.finish_acquired kept.orderly.sound]
    rfl
  refine invariant.change ⟨kept.orderly.takes takes connectionFlags,
    kept.attended.same finished fun stillOpen => isOpen ▸ stillOpen,
    kept.owned.hold (takes.absent kept.orderly.sound) finished.waiters acquired,
    kept.sorted.same finished⟩ isOpen (fun ref => by rw [finished.waiters]) invariant.unstranded
    ?_ ?_
  · intro isClosed
    rw [finished.queue]
    exact invariant.drained isClosed
  · intro isOpen
    refine (invariant.exhausted isOpen).imp (fun exhausted ref queued => ?_) fun alert => ?_
    · rw [finished.queue] at queued
      rw [finished.waiters]
      exact (exhausted ref queued).takes kept.orderly.sound takes connectionFlags
    · rw [Alert, leaked]
      exact alert

/-- A thread that no connection could be given to begins to wait. -/
theorem Invariant.awaits (invariant : system.Invariant) (outside : system.waits thread = none)
    (sql : Option String) (connectionFlags : BitVec 32) (signal : Bool)
    (isOpen : system.pool.mIsOpen = true)
    (stuck : system.pool.Stuck
      (hasFlag connectionFlags CONNECTION_FLAG_PRIMARY_CONNECTION_AFFINITY)) :
    (System.enter thread (some ⟨system.pool.nextWaiter,
        ((awaiting thread sql connectionFlags system.pool).waiters
          system.pool.nextWaiter).recyclings, signal, .looping⟩)
      { system with pool := awaiting thread sql connectionFlags system.pool }).Invariant := by
  have kept := invariant.kept
  refine ⟨⟨kept.await thread sql connectionFlags outside rfl rfl
    (by rw [awaiting_self]; rfl), ?_, invariant.unstranded, ?_⟩, fun _ => ?_⟩
  · intro _ other wait' waiting' leaving'
    change Function.update system.waits thread _ other = some wait' at waiting'
    by_cases same : other = thread
    · subst same
      rw [Function.update_self] at waiting'
      cases waiting'
      cases leaving'
    · rw [Function.update_of_ne same] at waiting'
      have before := invariant.left isOpen other wait' waiting' leaving'
      change wait'.recyclings < ((awaiting thread sql connectionFlags system.pool).waiters
        wait'.waiter).recyclings
      by_cases here : wait'.waiter = system.pool.nextWaiter
      · rw [here] at before ⊢
        rw [awaiting_self]
        exact before
      · rw [awaiting_other thread sql connectionFlags here]
        exact before
  · intro isClosed
    cases isOpen.symm.trans isClosed
  · refine (invariant.exhausted isOpen).imp (fun exhausted ref queued => ?_) fun alert => ?_
    · change (awaiting thread sql connectionFlags system.pool).Stuck
        ((awaiting thread sql connectionFlags system.pool).waiters ref).mWantPrimaryConnection
      by_cases same : ref = system.pool.nextWaiter
      · rw [same, awaiting_self]
        exact stuck
      · rw [awaiting_other thread sql connectionFlags same]
        exact exhausted ref (((mem_awaiting thread sql connectionFlags).mp queued).resolve_left
          same)
    · refine alert_of_others alert id id fun other wait' waiting' =>
        update_of_recovering (fun wait'' waiting'' => ?_) waiting'
      cases outside.symm.trans waiting''

theorem Invariant.acquire (invariant : system.Invariant) (sql : Option String)
    (connectionFlags : BitVec 32) (signal : Option Bool) :
    (system.acquire device thread sql connectionFlags signal).2.Invariant := by
  cases outside : system.waits thread with
  | some wait =>
      rw [System.acquire, outside]
      exact invariant
  | none =>
      have notInside : ¬ (none : Option Wait).isSome = true := by decide
      rw [System.acquire, outside, if_neg notInside, request]
      cases isOpen : system.pool.mIsOpen with
      | false => exact invariant
      | true =>
          rw [if_neg (by simp)]
          cases canceled : signal.getD false with
          | true => exact invariant
          | false =>
              rw [if_neg Bool.false_ne_true]
              have attempts := attempts_tryAcquire device sql connectionFlags system.pool
              generalize result : tryAcquire device sql connectionFlags system.pool = attempt
                at attempts
              cases attempts with
              | given takes => exact invariant.take takes connectionFlags
              | unopened => exact invariant.failed
              | nothing =>
                  have stuck := ((run_tryAcquire_eq_none_iff device sql connectionFlags _ _).mp
                    result).1
                  exact invariant.awaits outside sql connectionFlags signal.isSome isOpen stuck

/-- What cancelling a request does. -/
inductive Cancels (device : Device) (pool : SQLiteConnectionPool) (ref : WaiterRef) (nonce : BitVec 32) :
    EStateM.Result Thrown SQLiteConnectionPool Unit → Prop where
  | ignored (late : (pool.waiters ref).mNonce ≠ nonce ∨ ¬ (pool.waiters ref).Undecided) :
      Cancels device pool ref nonce (.ok () pool)
  | canceled (current : (pool.waiters ref).mNonce = nonce)
      (undecided : (pool.waiters ref).Undecided) (queued : ref ∈ pool.mConnectionWaiterQueue) :
      Cancels device pool ref nonce (.ok () (wakeConnectionWaitersLocked device
        (unpark ref (.failed .operationCanceled) pool)))
  | missing (current : (pool.waiters ref).mNonce = nonce)
      (undecided : (pool.waiters ref).Undecided) (absent : ref ∉ pool.mConnectionWaiterQueue) :
      Cancels device pool ref nonce (.error .nullPointer pool)

theorem undecided_iff (waiter : ConnectionWaiter) :
    waiter.Undecided ↔
      ¬ (waiter.mAssignedConnection.isSome || waiter.mException.isSome) = true := by
  rw [ConnectionWaiter.Undecided]
  cases waiter.mAssignedConnection <;> cases waiter.mException <;> simp

theorem cancels (device : Device) (pool : SQLiteConnectionPool) (ref : WaiterRef) (nonce : BitVec 32) :
    Cancels device pool ref nonce (onCancel device ref nonce pool) := by
  rw [onCancel]
  split
  · next current =>
      rw [cancelConnectionWaiterLocked]
      split
      · next decided =>
          exact .ignored (Or.inr fun undecided => (undecided_iff _).mp undecided decided)
      · next undecided =>
          have undecided := (undecided_iff _).mpr undecided
          split
          · next queued => exact .canceled current undecided queued
          · next absent => exact .missing current undecided absent
  · next stale => exact .ignored (Or.inl stale)

theorem Invariant.cancel (invariant : system.Invariant) (wait : Wait) :
    (system.cancel device wait).2.Invariant := by
  have cancels := cancels device system.pool wait.waiter wait.nonce
  generalize result : onCancel device wait.waiter wait.nonce system.pool = done at cancels
  cases cancels with
  | ignored => simpa only [System.cancel, result] using invariant
  | missing => simpa only [System.cancel, result] using invariant
  | canceled current undecided queued =>
      simp only [System.cancel, result]
      have kept := invariant.kept.failed queued .operationCanceled
      have settings := wake_sameSettings device kept.attended.distinct
      refine invariant.change (kept.wake device) settings.isOpen (fun ref => ?_)
        invariant.unstranded (fun isClosed => ?_) fun isOpen => ?_
      · rw [wake_recyclings device kept.attended.distinct]
        by_cases same : ref = wait.waiter
        · rw [same, unpark_waiters_self]
          rfl
        · rw [unpark_waiters_of_ne same]
      · rw [invariant.drained isClosed] at queued
        cases queued
      · exact Or.inl (kept.orderly.exhausted device kept.attended.distinct isOpen)

theorem Invariant.release (invariant : system.Invariant) (connection : SQLiteConnection) :
    (system.release device thread connection).2.Invariant := by
  rw [System.release]
  split
  · next ready =>
      obtain ⟨_, holds⟩ := (Bool.and_eq_true _ _).mp ready
      have held : connection ∈ system.held.map Prod.snd :=
        List.mem_map.mpr ⟨_, of_decide_eq_true holds, rfl⟩
      rw [releaseConnection]
      split
      · next result =>
          split at result
          · cases result
          · next status entry =>
              cases result
              refine invariant.settles (invariant.kept.orderly.putBack device entry)
                (fun mid waiters acquired => ?_) invariant.unstranded
              have dropped := invariant.kept.owned.drop (Or.inl held) waiters acquired
              have notStranded := invariant.kept.owned.apart connection held
              have same : system.stranded.filter (· != connection) = system.stranded := by
                refine List.filter_eq_self.mpr fun other member => ?_
                have different : other ≠ connection := by
                  rintro rfl
                  exact notStranded member
                simpa using different
              rw [same, List.filter_map] at dropped
              exact dropped
      · next result =>
          split at result
          · cases result
            exact invariant
          · cases result
  · exact invariant

theorem Invariant.reconfigure (invariant : system.Invariant)
    (configuration : SQLiteDatabaseConfiguration) :
    (system.reconfigure device configuration).2.Invariant := by
  have path : system.pool.mConfiguration.path =
      { configuration with path := system.pool.mConfiguration.path }.path := rfl
  have next : Invariant { system with pool := Effect.final (SQLiteConnectionPool.reconfigure device
      { configuration with path := system.pool.mConfiguration.path }) system.pool } :=
    invariant.settles (invariant.kept.orderly.reconfigure device path)
      (fun mid waiters acquired => invariant.kept.owned.same waiters acquired)
      invariant.unstranded
  rw [System.reconfigure]
  rw [Effect.final, EStateM.run] at next
  split
  · next result =>
      rw [result] at next
      exact next
  · next result =>
      rw [result] at next
      exact next

theorem Invariant.close (invariant : system.Invariant) :
    (system.close device).2.Invariant := by
  rw [System.close, SQLiteConnectionPool.close]
  cases isOpen : system.pool.mIsOpen with
  | false => exact invariant
  | true =>
      rw [if_neg (by simp)]
      have before := invariant.kept
      have closing := closeAvailable_frame { system.pool with mIsOpen := false }
      have same : SameWaiters system.pool (closeAvailableConnectionsAndLogExceptionsLocked
          { system.pool with mIsOpen := false }) :=
        ⟨closing.waiters.queue, closing.waiters.recycled, closing.waiters.waiters,
          closing.waiters.waiterCount, closing.waiters.arrivals, closing.waiters.permits⟩
      have isClosed : (closeAvailableConnectionsAndLogExceptionsLocked
          { system.pool with mIsOpen := false }).mIsOpen = false := closing.isOpen
      have kept : Kept system.waits (system.held.map Prod.snd) system.stranded system.collected
          (closeAvailableConnectionsAndLogExceptionsLocked { system.pool with mIsOpen := false }) :=
        ⟨before.orderly.closeAvailable false, before.attended.same same fun _ => isOpen,
          before.owned.same same.waiters closing.acquired, before.sorted.same same⟩
      have settings := wake_sameSettings device kept.attended.distinct
      have stays := settings.isOpen.trans isClosed
      refine ⟨⟨kept.wake device, fun isOpen => ?_, fun isOpen => ?_, fun _ => ?_⟩, fun isOpen => ?_⟩
      · cases stays.symm.trans isOpen
      · cases stays.symm.trans isOpen
      · exact wakeLoop_closed device _ _ isClosed rfl
      · cases stays.symm.trans isOpen

theorem Invariant.collect (invariant : system.Invariant) (connection : SQLiteConnection) :
    (system.collect connection).Invariant := by
  rw [System.collect]
  split
  · next reached =>
      have kept := invariant.kept
      have acquired : connection ∈ system.pool.acquired :=
        (kept.owned.accounted connection).mpr (reached.elim Or.inl fun stranded =>
          Or.inr (Or.inl stranded))
      have same : SameWaiters system.pool (removeAcquired connection system.pool) :=
        ⟨rfl, rfl, rfl, rfl, rfl, rfl⟩
      have dropped := kept.owned.drop reached same.waiters
        (acquired_removed connection system.pool)
      rw [List.filter_map] at dropped
      refine invariant.change ⟨kept.orderly.removeAcquired acquired,
        kept.attended.same same id, dropped, kept.sorted.same same⟩ rfl (fun _ => rfl) ?_
        invariant.drained fun _ => Or.inr (Or.inl (List.cons_ne_nil _ _))
      intro isOpen
      rw [invariant.unstranded isOpen]
      rfl
  · exact invariant

theorem Invariant.finalize (invariant : system.Invariant) (connection : SQLiteConnection) :
    (system.finalize connection).Invariant := by
  rw [System.finalize]
  split
  · next collected =>
      have kept := invariant.kept
      have same : SameWaiters system.pool (closeConnectionAndLogExceptionsLocked connection
          { system.pool with mConnectionLeaked := true }) := ⟨rfl, rfl, rfl, rfl, rfl, rfl⟩
      have orderly : Orderly { system.pool with mConnectionLeaked := true }
          (connection :: system.collected.erase connection) := by
        refine ⟨{ kept.orderly.sound with conserved := fun other => ?_ },
          ⟨kept.orderly.configured.available, kept.orderly.configured.acquired⟩⟩
        have counts := kept.orderly.sound.conserved other
        rw [(List.perm_cons_erase collected).count_eq other] at counts
        exact counts
      exact invariant.change ⟨orderly.close, kept.attended.same same id,
        kept.owned.same same.waiters rfl, kept.sorted.same same⟩ rfl (fun _ => rfl)
        invariant.unstranded invariant.drained fun _ => Or.inr (Or.inr (Or.inl rfl))
  · exact invariant

end Steps

/-! ## Runs -/

section Runs

variable {device : Device} {system : System}

/-- What holds of a step of a thread that is in this phase holds of its attempt. -/
theorem inPhase_invariant (invariant : system.Invariant) (thread : Thread) (phase : Phase)
    (step : Wait → Outcome × System)
    (keeps : ∀ wait, system.waits thread = some wait → wait.phase = phase →
      (step wait).2.Invariant) : (system.inPhase thread phase step).2.Invariant := by
  rw [inPhase]
  split
  · next wait waiting =>
      split
      · next here => exact keeps wait waiting here
      · exact invariant
  · exact invariant

theorem Invariant.perform (invariant : system.Invariant) (action : Action) :
    (system.perform device action).2.Invariant := by
  cases action with
  | acquire thread sql connectionFlags signal =>
      exact invariant.acquire sql connectionFlags signal
  | poll thread =>
      exact inPhase_invariant invariant _ _ _ fun _ waiting here => invariant.poll waiting here
  | recover thread =>
      exact inPhase_invariant invariant _ _ _ fun _ waiting here => invariant.recover waiting here
  | unparked thread =>
      exact inPhase_invariant invariant _ _ _ fun _ waiting here => invariant.unparked waiting here
  | look thread =>
      exact inPhase_invariant invariant _ _ _ fun _ waiting here => invariant.look waiting here
  | leave thread =>
      exact inPhase_invariant invariant _ _ _ fun _ waiting here => invariant.leave waiting here
  | cancel thread =>
      rw [System.perform]
      split
      · split
        · exact invariant.cancel _
        · exact invariant
      · exact invariant
  | release thread connection => exact invariant.release connection
  | reconfigure configuration => exact invariant.reconfigure configuration
  | close => exact invariant.close
  | collect connection => exact invariant.collect connection
  | finalize connection => exact invariant.finalize connection

theorem initial_invariant (configuration : SQLiteDatabaseConfiguration) :
    (initial configuration).Invariant := by
  have nobody (thread : Thread) (ref : WaiterRef) (recyclings : Nat) :
      ¬ Serves (initial configuration).waits thread ref recyclings := not_serves_of_none rfl
  have sound : (SQLiteConnectionPool.open configuration).Sound [] := by
    refine ⟨fun connection => ?_, List.pairwise_singleton _ _, ?_, ?_, ?_, ?_, ?_,
      maxConnectionPoolSize_pos _, rfl, ?_⟩
    · simp [SQLiteConnectionPool.open, available, acquired]
    · intro connection member
      rw [List.mem_singleton.mp member]
      exact Nat.zero_lt_one
    · intro connection here
      cases here
      rfl
    · intro connection member
      cases member
    · exact Nat.le_refl 1
    · exact Nat.zero_le _
    · intro isClosed
      cases isClosed
  have attended : Attended (initial configuration).waits
      (SQLiteConnectionPool.open configuration) := by
    refine ⟨List.nodup_nil, List.nodup_nil, ?_, fun _ _ => ⟨rfl, rfl⟩, ?_, ?_, ?_, ?_, ?_⟩
    · intro ref member
      cases member
    · intro ref member
      cases member
    · exact fun thread ref recyclings serves => absurd serves (nobody thread ref recyclings)
    · intro ref member
      cases member
    · exact fun _ thread ref recyclings serves => absurd serves (nobody thread ref recyclings)
    · intro thread ref sleeps
      obtain ⟨recyclings, serves⟩ := sleeps.serves
      exact absurd serves (nobody thread ref recyclings)
  have owned : Owned (initial configuration).waits [] []
      (SQLiteConnectionPool.open configuration) := by
    refine ⟨fun connection => ?_, List.nodup_nil, List.nodup_nil, ?_, ?_, ?_⟩
    · refine iff_of_false List.not_mem_nil ?_
      rintro (held | stranded | ⟨thread, ref, recyclings, serves, _⟩)
      · cases held
      · cases stranded
      · exact nobody thread ref recyclings serves
    · intro connection member
      cases member
    · exact fun thread ref recyclings _ serves => absurd serves (nobody thread ref recyclings)
    · exact fun _ thread ref recyclings _ _ _ serves => absurd serves (nobody thread ref recyclings)
  refine ⟨⟨⟨⟨sound, ⟨fun _ _ => rfl, fun entry member => ?_⟩⟩, attended, owned,
    ⟨List.Pairwise.nil, fun ref member => ?_⟩⟩, ?_, fun _ => rfl, fun _ => rfl⟩,
    fun _ => Or.inl fun ref member => ?_⟩
  · cases member
  · cases member
  · intro _ thread wait waiting
    cases waiting
  · cases member

/-- Every state that threads can bring a pool to has the invariant. -/
theorem Reachable.invariant (reachable : Reachable device system) : system.Invariant := by
  obtain ⟨configuration, run, rfl⟩ := reachable
  exact (machine device).invariant_of_steps Invariant
    (fun _ action invariant => invariant.perform action) _ run (initial_invariant configuration)

end Runs

end System

end Pool
end ModuleDatabase
