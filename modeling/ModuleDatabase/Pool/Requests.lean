import ModuleDatabase.Pool.Waiting

namespace ModuleDatabase
namespace Pool

/-!
# What a request does to the pool

A request takes a connection, fails, or puts a waiter into the queue.  A thread that has been
unparked takes what has been assigned to its waiter and gives the waiter back.
-/

section Entering

variable {waits : Thread → Option Wait} {thread other : Thread} {wait : Wait} {ref : WaiterRef}
  {recyclings : Nat}

theorem serves_self (waits : Thread → Option Wait) (thread : Thread) (wait : Wait) :
    Serves (Function.update waits thread (some wait)) thread ref recyclings ↔
      wait.phase ≠ .leaving ∧ wait.waiter = ref ∧ wait.recyclings = recyclings := by
  simp [Serves]

theorem serves_other (different : other ≠ thread) (entry : Option Wait) :
    Serves (Function.update waits thread entry) other ref recyclings ↔
      Serves waits other ref recyclings := by
  simp only [Serves, Function.update_of_ne different]

theorem sleeps_other (different : other ≠ thread) (entry : Option Wait) :
    Sleeps (Function.update waits thread entry) other ref ↔ Sleeps waits other ref := by
  simp only [Sleeps, Function.update_of_ne different]

theorem not_serves_of_none (outside : waits thread = none) : ¬ Serves waits thread ref recyclings := by
  rintro ⟨wait, waiting, _⟩
  rw [outside] at waiting
  cases waiting

end Entering

namespace SQLiteConnectionPool

section Enqueueing

variable {waiters : WaiterRef → ConnectionWaiter} {ref : WaiterRef} {queue : List WaiterRef}

theorem enqueue_perm (waiters : WaiterRef → ConnectionWaiter) (ref : WaiterRef)
    (queue : List WaiterRef) : (enqueue waiters ref queue).Perm (ref :: queue) := by
  induction queue with
  | nil => exact .refl _
  | cons successor rest ih =>
      rw [enqueue]
      split
      · exact .refl _
      · exact (ih.cons successor).trans (.swap ref successor rest)

theorem mem_enqueue {other : WaiterRef} :
    other ∈ enqueue waiters ref queue ↔ other = ref ∨ other ∈ queue := by
  rw [(enqueue_perm waiters ref queue).mem_iff, List.mem_cons]

/-- A waiter that arrives last is put behind those that are as important. -/
theorem enqueue_sorted
    (sorted : queue.Pairwise fun first second => (waiters first).Before (waiters second))
    (last : ∀ other ∈ queue, (waiters other).arrival < (waiters ref).arrival) :
    (enqueue waiters ref queue).Pairwise fun first second =>
      (waiters first).Before (waiters second) := by
  induction queue with
  | nil => exact List.pairwise_singleton _ _
  | cons successor rest ih =>
      obtain ⟨first, order⟩ := List.pairwise_cons.mp sorted
      rw [enqueue]
      split
      · next lower =>
          refine List.pairwise_cons.mpr ⟨fun other member => Or.inl ?_, sorted⟩
          rcases List.mem_cons.mp member with rfl | later
          · exact lower
          · rcases first other later with less | ⟨same, _⟩
            · exact Nat.lt_trans less lower
            · exact same ▸ lower
      · next upper =>
          have tail := ih order fun other member => last other (List.mem_cons_of_mem _ member)
          refine List.pairwise_cons.mpr ⟨fun other member => ?_, tail⟩
          rcases mem_enqueue.mp member with rfl | later
          · rcases Nat.lt_or_eq_of_le (Nat.le_of_not_lt upper) with less | same
            · exact Or.inl less
            · exact Or.inr ⟨same.symm, last successor List.mem_cons_self⟩
          · exact first other later

end Enqueueing

/-! ## Requests that do not wait -/

section Trying

variable (device : Device) {pool : SQLiteConnectionPool}

theorem tryAcquire_of_wanted (sql : Option String) {connectionFlags : BitVec 32}
    (wanted : hasFlag connectionFlags CONNECTION_FLAG_PRIMARY_CONNECTION_AFFINITY = true) :
    tryAcquire device sql connectionFlags =
      tryAcquirePrimaryConnectionLocked device connectionFlags := by
  funext pool
  rw [tryAcquire, if_pos wanted]

theorem tryAcquire_of_found (sql : Option String) {connectionFlags : BitVec 32}
    (notWanted : hasFlag connectionFlags CONNECTION_FLAG_PRIMARY_CONNECTION_AFFINITY = false)
    {result : EStateM.Result Thrown SQLiteConnectionPool (Option SQLiteConnection)}
    (found : tryAcquireNonPrimaryConnectionLocked device sql connectionFlags pool = result)
    (some : ∀ next, result ≠ .ok none next) :
    tryAcquire device sql connectionFlags pool = result := by
  rw [tryAcquire, if_neg (Bool.eq_false_iff.mp notWanted)]
  split
  · next next nothing => exact absurd (found.symm.trans nothing) (some next)
  · exact found

theorem tryAcquire_of_stuck (sql : Option String) {connectionFlags : BitVec 32}
    (notWanted : hasFlag connectionFlags CONNECTION_FLAG_PRIMARY_CONNECTION_AFFINITY = false)
    (stuck : pool.NonPrimaryStuck) :
    tryAcquire device sql connectionFlags pool =
      tryAcquirePrimaryConnectionLocked device connectionFlags pool := by
  rw [tryAcquire, if_neg (Bool.eq_false_iff.mp notWanted),
    run_tryAcquireNonPrimary_of_stuck device sql connectionFlags stuck]

theorem attempts_tryAcquire (sql : Option String) (connectionFlags : BitVec 32)
    (pool : SQLiteConnectionPool) :
    Attempts pool connectionFlags (tryAcquire device sql connectionFlags pool) := by
  cases wanted : hasFlag connectionFlags CONNECTION_FLAG_PRIMARY_CONNECTION_AFFINITY with
  | true =>
      rw [tryAcquire_of_wanted device sql wanted]
      exact attempts_primary device connectionFlags pool
  | false =>
      by_cases stuck : pool.NonPrimaryStuck
      · rw [tryAcquire_of_stuck device sql wanted stuck]
        exact attempts_primary device connectionFlags pool
      · rw [tryAcquire_of_found device sql wanted rfl fun next nothing => ?_]
        · exact attempts_nonPrimary device sql connectionFlags pool
        · exact stuck ((run_tryAcquireNonPrimary_eq_none_iff device _ _ _ _).mp nothing).1

/-- A request has to wait exactly when no connection could be given to it. -/
theorem run_tryAcquire_eq_none_iff (sql : Option String) (connectionFlags : BitVec 32)
    (pool next : SQLiteConnectionPool) :
    tryAcquire device sql connectionFlags pool = .ok none next ↔
      pool.Stuck (hasFlag connectionFlags CONNECTION_FLAG_PRIMARY_CONNECTION_AFFINITY) ∧
        next = pool := by
  rw [Stuck]
  cases wanted : hasFlag connectionFlags CONNECTION_FLAG_PRIMARY_CONNECTION_AFFINITY with
  | true =>
      rw [tryAcquire_of_wanted device sql wanted, run_tryAcquirePrimary_eq_none_iff]
      simp
  | false =>
      by_cases stuck : pool.NonPrimaryStuck
      · rw [tryAcquire_of_stuck device sql wanted stuck, run_tryAcquirePrimary_eq_none_iff]
        simp [stuck]
      · rw [tryAcquire_of_found device sql wanted rfl fun next nothing => ?_]
        · rw [run_tryAcquireNonPrimary_eq_none_iff]
          simp [stuck]
        · exact stuck ((run_tryAcquireNonPrimary_eq_none_iff device _ _ _ _).mp nothing).1

end Trying

/-! ## Putting a waiter into the queue -/

section Awaiting

variable {waits : Thread → Option Wait} {held stranded lost : List SQLiteConnection}
  {pool : SQLiteConnectionPool}

/-- The waiter that is obtained next. -/
def nextWaiter (pool : SQLiteConnectionPool) : WaiterRef :=
  pool.mConnectionWaiterPool.headD pool.waiterCount

theorem nextWaiter_unused (pool : SQLiteConnectionPool) :
    pool.nextWaiter ∈ pool.mConnectionWaiterPool ∨ pool.nextWaiter = pool.waiterCount := by
  rw [nextWaiter]
  cases pool.mConnectionWaiterPool with
  | nil => exact Or.inr rfl
  | cons ref rest => exact Or.inl List.mem_cons_self

theorem Attended.nextWaiter_undecided (attended : pool.Attended waits) :
    (pool.waiters pool.nextWaiter).Undecided := by
  refine attended.unused _ ?_
  rcases nextWaiter_unused pool with recycled | new
  · exact Or.inl recycled
  · exact Or.inr (Nat.le_of_eq new.symm)

/-- Nobody waits with the waiter that is obtained next. -/
theorem Attended.nextWaiter_unserved (attended : pool.Attended waits) (thread : Thread)
    (recyclings : Nat) : ¬ Serves waits thread pool.nextWaiter recyclings := by
  intro serves
  have before := attended.inUse _ _ _ serves
  rcases nextWaiter_unused pool with recycled | new
  · exact before.kept recycled
  · exact Nat.lt_irrefl _ (new ▸ before.issued)

theorem Attended.nextWaiter_unqueued (attended : pool.Attended waits) :
    pool.nextWaiter ∉ pool.mConnectionWaiterQueue := by
  intro queued
  obtain ⟨thread, recyclings, serves⟩ := attended.served _ queued
  exact attended.nextWaiter_unserved thread recyclings serves

/-- What is left of the recycled waiters, and how many there are then. -/
theorem Attended.nextWaiter_issued (attended : pool.Attended waits) :
    pool.nextWaiter ∉ pool.mConnectionWaiterPool.tail ∧
      pool.nextWaiter < (if pool.mConnectionWaiterPool.isEmpty then pool.waiterCount + 1
        else pool.waiterCount) := by
  rw [nextWaiter]
  have recycled := attended.recycled
  have issued := attended.issued
  cases same : pool.mConnectionWaiterPool with
  | nil => exact ⟨List.not_mem_nil, Nat.lt_succ_self _⟩
  | cons ref rest =>
      rw [same] at recycled issued
      exact ⟨(List.nodup_cons.mp recycled).1, issued ref List.mem_cons_self⟩

/-- The pool after a thread has put its waiter into the queue. -/
def awaiting (thread : Thread) (sql : Option String) (connectionFlags : BitVec 32)
    (pool : SQLiteConnectionPool) : SQLiteConnectionPool :=
  (await thread sql connectionFlags pool).2

variable (thread : Thread) (sql : Option String) (connectionFlags : BitVec 32)

/-- The waiter that has been put into the queue. -/
def newWaiter (pool : SQLiteConnectionPool) : ConnectionWaiter :=
  { pool.waiters pool.nextWaiter with
    mThread := some thread
    mPriority := getPriority connectionFlags
    mWantPrimaryConnection := hasFlag connectionFlags CONNECTION_FLAG_PRIMARY_CONNECTION_AFFINITY
    mSql := sql
    mConnectionFlags := connectionFlags
    arrival := pool.arrivals }

theorem awaiting_self : (awaiting thread sql connectionFlags pool).waiters pool.nextWaiter =
    newWaiter thread sql connectionFlags pool := Function.update_self ..

theorem awaiting_other {ref : WaiterRef} (different : ref ≠ pool.nextWaiter) :
    (awaiting thread sql connectionFlags pool).waiters ref = pool.waiters ref :=
  Function.update_of_ne different ..

theorem mem_awaiting {ref : WaiterRef} :
    ref ∈ (awaiting thread sql connectionFlags pool).mConnectionWaiterQueue ↔
      ref = pool.nextWaiter ∨ ref ∈ pool.mConnectionWaiterQueue := mem_enqueue

/-- A thread that waits now, and did not before. -/
theorem Attended.await (attended : pool.Attended waits) (outside : waits thread = none)
    {wait : Wait} (phase : wait.phase = .looping) (waiter : wait.waiter = pool.nextWaiter)
    (recyclings : wait.recyclings = (pool.waiters pool.nextWaiter).recyclings) :
    (awaiting thread sql connectionFlags pool).Attended
      (Function.update waits thread (some wait)) := by
  obtain ⟨fresh, issued⟩ := attended.nextWaiter_issued
  have here : Serves (Function.update waits thread (some wait)) thread pool.nextWaiter
      (pool.waiters pool.nextWaiter).recyclings :=
    (serves_self waits thread wait).mpr ⟨by rw [phase]; decide, waiter, recyclings⟩
  have more : pool.waiterCount ≤
      (if pool.mConnectionWaiterPool.isEmpty then pool.waiterCount + 1 else pool.waiterCount) := by
    split
    · exact Nat.le_succ _
    · exact Nat.le_refl _
  -- Whoever waits with another waiter did so before.
  have others {server : Thread} {ref : WaiterRef} {count : Nat} (different : server ≠ thread)
      (serves : Serves (Function.update waits thread (some wait)) server ref count) :
      Serves waits server ref count ∧ ref ≠ pool.nextWaiter := by
    have before := (serves_other different _).mp serves
    exact ⟨before, fun same => attended.nextWaiter_unserved server count (same ▸ before)⟩
  constructor
  · refine (enqueue_perm _ _ _).nodup_iff.mpr (List.nodup_cons.mpr ⟨?_, attended.distinct⟩)
    exact attended.nextWaiter_unqueued
  · exact attended.recycled.sublist (List.tail_sublist _)
  · exact fun ref member => Nat.lt_of_lt_of_le
      (attended.issued ref (List.mem_of_mem_tail member)) more
  · intro ref unused
    have different : ref ≠ pool.nextWaiter := by
      rintro rfl
      rcases unused with recycled | unissued
      · exact fresh recycled
      · exact Nat.lt_irrefl _ (Nat.lt_of_lt_of_le issued unissued)
    rw [awaiting_other thread sql connectionFlags different]
    refine attended.unused ref ?_
    rcases unused with recycled | unissued
    · exact Or.inl (List.mem_of_mem_tail recycled)
    · exact Or.inr (Nat.le_trans more unissued)
  · intro ref member
    rcases (mem_awaiting thread sql connectionFlags).mp member with rfl | before
    · exact ⟨thread, _, here⟩
    · obtain ⟨server, count, serves⟩ := attended.served ref before
      have different : server ≠ thread := by
        rintro rfl
        exact not_serves_of_none outside serves
      exact ⟨server, count, (serves_other different _).mpr serves⟩
  · intro server ref count serves
    by_cases same : server = thread
    · subst same
      obtain ⟨_, rfl, rfl⟩ := (serves_self waits server wait).mp serves
      rw [waiter]
      refine ⟨?_, ?_, issued, fresh⟩
      · rw [awaiting_self]
        rfl
      · rw [awaiting_self, recyclings]
        rfl
    · obtain ⟨before, different⟩ := others same serves
      have serving := attended.inUse server ref count before
      refine ⟨?_, ?_, Nat.lt_of_lt_of_le serving.issued more,
        fun member => serving.kept (List.mem_of_mem_tail member)⟩
      · rw [awaiting_other thread sql connectionFlags different, serving.thread]
      · rw [awaiting_other thread sql connectionFlags different, serving.recyclings]
  · intro ref member
    by_cases same : ref = pool.nextWaiter
    · rw [same, awaiting_self]
      exact attended.nextWaiter_undecided
    · rw [awaiting_other thread sql connectionFlags same]
      refine attended.undecided ref ?_
      exact ((mem_awaiting thread sql connectionFlags).mp member).resolve_left same
  · intro isOpen server ref count serves undecided
    refine (mem_awaiting thread sql connectionFlags).mpr ?_
    by_cases same : server = thread
    · subst same
      exact Or.inl (((serves_self waits server wait).mp serves).2.1.symm.trans waiter)
    · obtain ⟨before, different⟩ := others same serves
      rw [awaiting_other thread sql connectionFlags different] at undecided
      exact Or.inr (attended.queued isOpen server ref count before undecided)
  · intro server ref sleeps absent
    have away : ref ≠ pool.nextWaiter ∧ ref ∉ pool.mConnectionWaiterQueue :=
      not_or.mp fun member => absent ((mem_awaiting thread sql connectionFlags).mpr member)
    by_cases same : server = thread
    · subst same
      obtain ⟨count, serves⟩ := sleeps.serves
      obtain ⟨_, here, _⟩ := (serves_self waits server wait).mp serves
      exact absurd (here.symm.trans waiter) away.1
    · exact attended.awake server ref ((sleeps_other same _).mp sleeps) away.2

theorem Owned.await (owned : pool.Owned waits held stranded) (attended : pool.Attended waits)
    (outside : waits thread = none) {wait : Wait} (waiter : wait.waiter = pool.nextWaiter) :
    (awaiting thread sql connectionFlags pool).Owned
      (Function.update waits thread (some wait)) held stranded := by
  have none : (newWaiter thread sql connectionFlags pool).mAssignedConnection = none :=
    attended.nextWaiter_undecided.1
  -- A promise to one who waits now is a promise to one who waited before.
  have promised {server : Thread} {ref : WaiterRef} {count : Nat} {connection : SQLiteConnection}
      (serves : Serves (Function.update waits thread (some wait)) server ref count)
      (same : ((awaiting thread sql connectionFlags pool).waiters ref).mAssignedConnection =
        some connection) : Serves waits server ref count ∧
          (pool.waiters ref).mAssignedConnection = some connection := by
    have different : ref ≠ pool.nextWaiter := by
      rintro rfl
      rw [awaiting_self, none] at same
      cases same
    rw [awaiting_other thread sql connectionFlags different] at same
    refine ⟨(serves_other ?_ _).mp serves, same⟩
    rintro rfl
    exact different (((serves_self waits server wait).mp serves).2.1.symm.trans waiter)
  constructor
  · intro connection
    have keys : (awaiting thread sql connectionFlags pool).acquired = pool.acquired := rfl
    rw [keys, owned.accounted]
    refine or_congr_right (or_congr_right ⟨?_, ?_⟩)
    · rintro ⟨server, ref, count, serves, same⟩
      have different : server ≠ thread := by
        rintro rfl
        exact not_serves_of_none outside serves
      refine ⟨server, ref, count, (serves_other different _).mpr serves, ?_⟩
      have other : ref ≠ pool.nextWaiter := by
        rintro rfl
        exact attended.nextWaiter_unserved server count serves
      rw [awaiting_other thread sql connectionFlags other, same]
    · rintro ⟨server, ref, count, serves, same⟩
      obtain ⟨before, here⟩ := promised serves same
      exact ⟨server, ref, count, before, here⟩
  · exact owned.held_nodup
  · exact owned.stranded_nodup
  · exact owned.apart
  · intro server ref count connection serves same
    obtain ⟨before, here⟩ := promised serves same
    exact owned.promised server ref count connection before here
  · intro connection server₁ ref₁ count₁ server₂ ref₂ count₂ serves₁ serves₂ same₁ same₂
    obtain ⟨before₁, here₁⟩ := promised serves₁ same₁
    obtain ⟨before₂, here₂⟩ := promised serves₂ same₂
    exact owned.single connection server₁ ref₁ count₁ server₂ ref₂ count₂ before₁ before₂ here₁
      here₂

theorem Sorted.await (sorted : pool.Sorted) (attended : pool.Attended waits) :
    (awaiting thread sql connectionFlags pool).Sorted := by
  have others (ref : WaiterRef) (member : ref ∈ pool.mConnectionWaiterQueue) :
      (awaiting thread sql connectionFlags pool).waiters ref = pool.waiters ref := by
    refine awaiting_other thread sql connectionFlags ?_
    rintro rfl
    exact attended.nextWaiter_unqueued member
  have arrival : (newWaiter thread sql connectionFlags pool).arrival = pool.arrivals := rfl
  constructor
  · refine enqueue_sorted (sorted.order.imp_of_mem fun here there before => ?_)
      fun ref member => ?_
    · rw [others _ here, others _ there]
      exact before
    · change ((awaiting thread sql connectionFlags pool).waiters ref).arrival <
        ((awaiting thread sql connectionFlags pool).waiters pool.nextWaiter).arrival
      rw [others ref member, awaiting_self, arrival]
      exact sorted.arrived ref member
  · intro ref member
    refine Nat.lt_succ_of_le ?_
    rcases (mem_awaiting thread sql connectionFlags).mp member with rfl | before
    · rw [awaiting_self]
      exact Nat.le_of_eq arrival
    · rw [others ref before]
      exact Nat.le_of_lt (sorted.arrived ref before)

theorem Kept.await (kept : pool.Kept waits held stranded lost) (outside : waits thread = none)
    {wait : Wait} (phase : wait.phase = .looping) (waiter : wait.waiter = pool.nextWaiter)
    (recyclings : wait.recyclings = (pool.waiters pool.nextWaiter).recyclings) :
    (awaiting thread sql connectionFlags pool).Kept (Function.update waits thread (some wait)) held
      stranded lost :=
  ⟨⟨{ kept.orderly.sound with },
      ⟨kept.orderly.configured.available, kept.orderly.configured.acquired⟩⟩,
    kept.attended.await thread sql connectionFlags outside phase waiter recyclings,
    kept.owned.await thread sql connectionFlags kept.attended outside waiter,
    kept.sorted.await thread sql connectionFlags kept.attended⟩

end Awaiting

/-! ## Leaving the wait -/

section Leaving

variable {waits : Thread → Option Wait} {held stranded lost : List SQLiteConnection}
  {pool : SQLiteConnectionPool} {thread : Thread} {ref : WaiterRef} {recyclings : Nat} {wait : Wait}

theorem serves_leaving (leaving : wait.phase = .leaving) {other : Thread} {ref : WaiterRef}
    {recyclings : Nat} : Serves (Function.update waits thread (some wait)) other ref recyclings ↔
      Serves waits other ref recyclings ∧ other ≠ thread := by
  by_cases same : other = thread
  · subst same
    rw [serves_self]
    exact iff_of_false (fun serves => serves.1 leaving) fun serves => serves.2 rfl
  · rw [serves_other same]
    exact (and_iff_left same).symm

theorem sleeps_leaving (leaving : wait.phase = .leaving) {other : Thread} {ref : WaiterRef}
    (sleeps : Sleeps (Function.update waits thread (some wait)) other ref) :
    Sleeps waits other ref := by
  by_cases same : other = thread
  · subst same
    obtain ⟨recyclings, serves⟩ := sleeps.serves
    exact absurd rfl ((serves_leaving leaving).mp serves).2
  · exact (sleeps_other same _).mp sleeps

theorem recycle_self (ref : WaiterRef) (pool : SQLiteConnectionPool) :
    ((recycleConnectionWaiterLocked ref pool).waiters ref).Undecided := by
  rw [recycleConnectionWaiterLocked]
  simp only [Function.update_self]
  exact ⟨rfl, rfl⟩

theorem recycle_other {other : WaiterRef} (different : other ≠ ref)
    (pool : SQLiteConnectionPool) :
    (recycleConnectionWaiterLocked ref pool).waiters other = pool.waiters other :=
  Function.update_of_ne different ..

/-- A thread gives its waiter back. -/
theorem Attended.recycle (attended : pool.Attended waits) (serves : Serves waits thread ref recyclings)
    (decided : ¬ (pool.waiters ref).Undecided) (leaving : wait.phase = .leaving) :
    (recycleConnectionWaiterLocked ref pool).Attended
      (Function.update waits thread (some wait)) := by
  have serving := attended.inUse thread ref recyclings serves
  have unqueued : ref ∉ pool.mConnectionWaiterQueue :=
    fun queued => decided (attended.undecided ref queued)
  have others {server : Thread} {other : WaiterRef} {count : Nat}
      (serves' : Serves (Function.update waits thread (some wait)) server other count) :
      Serves waits server other count ∧ other ≠ ref := by
    obtain ⟨before, different⟩ := (serves_leaving leaving).mp serves'
    exact ⟨before, fun same => different (attended.unique (same ▸ before) serves)⟩
  constructor
  · exact attended.distinct
  · exact List.nodup_cons.mpr ⟨serving.kept, attended.recycled⟩
  · intro other member
    rcases List.mem_cons.mp member with rfl | before
    · exact serving.issued
    · exact attended.issued other before
  · intro other unused
    by_cases same : other = ref
    · rw [same]
      exact recycle_self ref pool
    · rw [recycle_other same]
      refine attended.unused other ?_
      rcases unused with recycled | unissued
      · exact Or.inl ((List.mem_cons.mp recycled).resolve_left same)
      · exact Or.inr unissued
  · intro other member
    obtain ⟨server, count, serves'⟩ := attended.served other member
    refine ⟨server, count, (serves_leaving leaving).mpr ⟨serves', ?_⟩⟩
    rintro rfl
    have same : other = ref := by
      obtain ⟨wait₁, waiting₁, _, rfl, _⟩ := serves'
      obtain ⟨wait₂, waiting₂, _, rfl, _⟩ := serves
      rw [Option.some.inj (waiting₁.symm.trans waiting₂)]
    exact unqueued (same ▸ member)
  · intro server other count serves'
    obtain ⟨before, different⟩ := others serves'
    have using' := attended.inUse server other count before
    refine ⟨?_, ?_, using'.issued, ?_⟩
    · rw [recycle_other different, using'.thread]
    · rw [recycle_other different, using'.recyclings]
    · exact fun member => ((List.mem_cons.mp member).elim different using'.kept)
  · intro other member
    have different : other ≠ ref := fun same => unqueued (same ▸ member)
    rw [recycle_other different]
    exact attended.undecided other member
  · intro isOpen server other count serves' undecided
    obtain ⟨before, different⟩ := others serves'
    rw [recycle_other different] at undecided
    exact attended.queued isOpen server other count before undecided
  · intro server other sleeps absent
    exact attended.awake server other (sleeps_leaving leaving sleeps) absent

/-- A thread leaves a pool that has been closed. -/
theorem Attended.leaveClosed (attended : pool.Attended waits) (isClosed : pool.mIsOpen = false)
    (empty : pool.mConnectionWaiterQueue = []) (leaving : wait.phase = .leaving) :
    pool.Attended (Function.update waits thread (some wait)) where
  distinct := attended.distinct
  recycled := attended.recycled
  issued := attended.issued
  unused := attended.unused
  served ref queued := by
    rw [empty] at queued
    cases queued
  inUse server other count serves :=
    attended.inUse server other count ((serves_leaving leaving).mp serves).1
  undecided := attended.undecided
  queued isOpen := by
    rw [isClosed] at isOpen
    cases isOpen
  awake server other sleeps := attended.awake server other (sleeps_leaving leaving sleeps)

/-- What was promised to a thread is handed over. -/
theorem Owned.leave (owned : pool.Owned waits held stranded) (attended : pool.Attended waits)
    (serves : Serves waits thread ref recyclings) (leaving : wait.phase = .leaving)
    {next : SQLiteConnectionPool} (acquired : next.acquired = pool.acquired)
    (waiters : ∀ other, other ≠ ref → next.waiters other = pool.waiters other)
    {held' stranded' : List SQLiteConnection}
    (handed : ∀ connection, (connection ∈ held' ∨ connection ∈ stranded') ↔
      (connection ∈ held ∨ connection ∈ stranded ∨
        (pool.waiters ref).mAssignedConnection = some connection))
    (held_nodup : held'.Nodup) (stranded_nodup : stranded'.Nodup)
    (apart : ∀ connection ∈ held', connection ∉ stranded') :
    next.Owned (Function.update waits thread (some wait)) held' stranded' := by
  have others {server : Thread} {other : WaiterRef} {count : Nat}
      (serves' : Serves (Function.update waits thread (some wait)) server other count) :
      Serves waits server other count ∧ next.waiters other = pool.waiters other ∧
        other ≠ ref := by
    obtain ⟨before, different⟩ := (serves_leaving leaving).mp serves'
    have away : other ≠ ref := fun same => different (attended.unique (same ▸ before) serves)
    exact ⟨before, waiters other away, away⟩
  constructor
  · intro connection
    rw [acquired, owned.accounted, ← or_assoc, ← or_assoc, handed, or_assoc, or_assoc, or_assoc]
    refine or_congr_right (or_congr_right ⟨?_, ?_⟩)
    · rintro ⟨server, other, count, serves', same⟩
      by_cases here : other = ref
      · exact Or.inl (here ▸ same)
      · refine Or.inr ⟨server, other, count, (serves_leaving leaving).mpr ⟨serves', ?_⟩, ?_⟩
        · rintro rfl
          obtain ⟨wait₁, waiting₁, _, rfl, _⟩ := serves'
          obtain ⟨wait₂, waiting₂, _, rfl, _⟩ := serves
          rw [Option.some.inj (waiting₁.symm.trans waiting₂)] at here
          exact here rfl
        · rw [waiters other here, same]
    · rintro (same | ⟨server, other, count, serves', same⟩)
      · exact ⟨thread, ref, recyclings, serves, same⟩
      · obtain ⟨before, unchanged, _⟩ := others serves'
        exact ⟨server, other, count, before, unchanged ▸ same⟩
  · exact held_nodup
  · exact stranded_nodup
  · exact apart
  · intro server other count connection serves' same
    obtain ⟨before, unchanged, away⟩ := others serves'
    rw [unchanged] at same
    have elsewhere := owned.promised server other count connection before same
    have missing : ¬ (connection ∈ held' ∨ connection ∈ stranded') := by
      rw [handed]
      rintro (inHeld | inStranded | mine)
      · exact elsewhere.1 inHeld
      · exact elsewhere.2 inStranded
      · exact away (owned.single connection _ _ _ _ _ _ before serves same mine)
    exact not_or.mp missing
  · intro connection server₁ ref₁ count₁ server₂ ref₂ count₂ serves₁ serves₂ same₁ same₂
    obtain ⟨before₁, unchanged₁, _⟩ := others serves₁
    obtain ⟨before₂, unchanged₂, _⟩ := others serves₂
    rw [unchanged₁] at same₁
    rw [unchanged₂] at same₂
    exact owned.single connection _ _ _ _ _ _ before₁ before₂ same₁ same₂

theorem Sorted.recycle (sorted : pool.Sorted) (unqueued : ref ∉ pool.mConnectionWaiterQueue) :
    (recycleConnectionWaiterLocked ref pool).Sorted := by
  have others (other : WaiterRef) (member : other ∈ pool.mConnectionWaiterQueue) :
      (recycleConnectionWaiterLocked ref pool).waiters other = pool.waiters other := by
    refine recycle_other ?_ pool
    rintro rfl
    exact unqueued member
  constructor
  · refine sorted.order.imp_of_mem fun here there before => ?_
    rw [others _ here, others _ there]
    exact before
  · intro other member
    rw [others other member]
    exact sorted.arrived other member

end Leaving

end SQLiteConnectionPool
end Pool
end ModuleDatabase
