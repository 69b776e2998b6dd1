import Mathlib.Data.Nat.Bitwise
import ModuleDatabase.Pool.Fairness

namespace ModuleDatabase
namespace Pool
namespace System

/-!
# Cancelling and closing

Cancelling a request affects that request only, and fails only when the pool has been closed
and nothing has been decided yet.  A pool that has been closed stays closed, and opens nothing
any more; what is still in use is closed when it comes back, except for connections that had
been assigned to threads that found the pool closed before they took them.
-/

open SQLiteConnectionPool

section Cancelling

variable {device : Device} {system : System} {thread : Thread} {connection : SQLiteConnection}

/-- Waking waiters fails requests only because a connection cannot be opened. -/
theorem wake_exception (device : Device) {pool : SQLiteConnectionPool}
    (distinct : pool.mConnectionWaiterQueue.Nodup) (ref : WaiterRef) :
    ((wakeConnectionWaitersLocked device pool).waiters ref).mException =
        (pool.waiters ref).mException ∨
      ((wakeConnectionWaitersLocked device pool).waiters ref).mException = some .sqlite := by
  have unparked (mid : SQLiteConnectionPool) (other : WaiterRef)
      (change : ConnectionWaiter → ConnectionWaiter)
      (same : ∀ waiter, (change waiter).mException = waiter.mException ∨
        (change waiter).mException = some .sqlite)
      (before : (mid.waiters ref).mException = (pool.waiters ref).mException ∨
        (mid.waiters ref).mException = some .sqlite) :
      ((unpark other change mid).waiters ref).mException = (pool.waiters ref).mException ∨
        ((unpark other change mid).waiters ref).mException = some .sqlite := by
    by_cases here : ref = other
    · rw [here, unpark_waiters_self]
      rw [here] at before
      rcases same (mid.waiters other) with unchanged | failed
      · rw [unchanged]
        exact before
      · exact Or.inr failed
    · rw [unpark_waiters_of_ne here]
      exact before
  refine wake_induction device
    (motive := fun mid => (mid.waiters ref).mException = (pool.waiters ref).mException ∨
      (mid.waiters ref).mException = some .sqlite) ?_ ?_ ?_ pool distinct (Or.inl rfl)
  · intro mid other connection without before _ _ takes
    refine unparked _ other _ (fun _ => Or.inl rfl) ?_
    have same := congrFun takes.sameWaiters.waiters ref
    rw [← same] at before
    exact before
  · exact fun mid other before _ _ => unparked _ other _ (fun _ => Or.inr rfl) before
  · exact fun mid other before _ _ => unparked _ other _ (fun _ => Or.inl rfl) before

/-- Cancelling a request that is being waited for in an open pool. -/
theorem Invariant.cancel_undecided (invariant : system.Invariant) {wait : Wait}
    (waiting : system.waits thread = some wait) (inside : wait.phase ≠ .leaving)
    (isOpen : system.pool.mIsOpen = true)
    (undecided : (system.pool.waiters wait.waiter).Undecided) :
    system.cancel device wait = (.done, { system with
      pool := wakeConnectionWaitersLocked device
        (unpark wait.waiter (.failed .operationCanceled) system.pool) }) := by
  have attended := invariant.kept.attended
  have serves := serves_of_waiting waiting inside
  have queued := attended.queued isOpen thread _ _ serves undecided
  have count := (attended.inUse _ _ _ serves).recyclings
  have same : (system.pool.waiters wait.waiter).mNonce = wait.nonce := by
    rw [ConnectionWaiter.mNonce, count, Wait.nonce]
  have cancels := cancels device system.pool wait.waiter wait.nonce
  rw [System.cancel]
  generalize onCancel device wait.waiter wait.nonce system.pool = result at cancels
  cases cancels with
  | ignored late => exact (late.elim (fun other => other same) fun decided =>
      decided undecided).elim
  | canceled => rfl
  | missing _ _ absent => exact absurd queued absent

/-- Counters that are less than 2^32 apart are different nonces. -/
theorem mNonce_ne {waiter : ConnectionWaiter} {wait : Wait}
    (passed : wait.recyclings < waiter.recyclings)
    (recent : waiter.recyclings < wait.recyclings + 2 ^ 32) : waiter.mNonce ≠ wait.nonce := by
  intro same
  have residues := congrArg BitVec.toNat same
  rw [ConnectionWaiter.mNonce, Wait.nonce, BitVec.toNat_ofNat, BitVec.toNat_ofNat] at residues
  omega

/-- The waiter of a request has been recycled less than 2^32 times since it was obtained. -/
def Recent (system : System) (wait : Wait) : Prop :=
  (system.pool.waiters wait.waiter).recyclings < wait.recyclings + 2 ^ 32

/-- Cancelling a request that has been decided, or whose wait is over. -/
theorem Invariant.cancel_late (invariant : system.Invariant) {wait : Wait}
    (waiting : system.waits thread = some wait)
    (late : wait.phase = .leaving ∧ system.pool.mIsOpen = true ∧ system.Recent wait ∨
      ¬ (system.pool.waiters wait.waiter).Undecided) :
    system.cancel device wait = (.done, system) := by
  have tooLate : (system.pool.waiters wait.waiter).mNonce ≠ wait.nonce ∨
      ¬ (system.pool.waiters wait.waiter).Undecided := by
    rcases late with ⟨leaving, isOpen, recent⟩ | decided
    · have passed := invariant.left isOpen thread wait waiting leaving
      exact Or.inl (mNonce_ne passed recent)
    · exact Or.inr decided
  have cancels := cancels device system.pool wait.waiter wait.nonce
  rw [System.cancel]
  generalize onCancel device wait.waiter wait.nonce system.pool = result at cancels
  cases cancels with
  | ignored => rfl
  | canceled current undecided =>
      exact (tooLate.elim (fun other => other current) fun decided => decided undecided).elim
  | missing current undecided =>
      exact (tooLate.elim (fun other => other current) fun decided => decided undecided).elim

/-- Cancelling a request in an open pool never throws.  If nothing has been decided the request
fails and its thread is unparked; otherwise nothing happens, even when the waiter has been
recycled for another request in the meantime, as long as its nonce has not come around.  No
other request is canceled. -/
theorem cancel_exact (reachable : Reachable device system) {wait : Wait}
    (waiting : system.waits thread = some wait) (isOpen : system.pool.mIsOpen = true)
    (recent : wait.phase = .leaving → system.Recent wait) :
    (system.cancel device wait).1 = .done ∧
      (wait.phase = .leaving ∨ ¬ (system.pool.waiters wait.waiter).Undecided →
        (system.cancel device wait).2 = system) ∧
      (wait.phase ≠ .leaving → (system.pool.waiters wait.waiter).Undecided →
        ((system.cancel device wait).2.pool.waiters wait.waiter).mException =
            some .operationCanceled ∧
          (wait.phase ≠ .checking →
            (system.cancel device wait).2.pool.permits thread = true)) ∧
      ∀ ref, ref ≠ wait.waiter →
        ((system.cancel device wait).2.pool.waiters ref).mException =
            some .operationCanceled →
          (system.pool.waiters ref).mException = some .operationCanceled := by
  have invariant := reachable.invariant
  by_cases late : wait.phase = .leaving ∨ ¬ (system.pool.waiters wait.waiter).Undecided
  · have nothing : system.cancel device wait = (.done, system) := invariant.cancel_late waiting
      (late.imp_left fun leaving => ⟨leaving, isOpen, recent leaving⟩)
    rw [nothing]
    refine ⟨rfl, fun _ => rfl, fun inside undecided => ?_, fun _ _ before => before⟩
    exact (late.elim inside fun decided => decided undecided).elim
  · obtain ⟨inside, undecided⟩ := not_or.mp late
    have undecided := not_not.mp undecided
    have kept := invariant.kept
    have serves := serves_of_waiting waiting inside
    have queued := kept.attended.queued isOpen thread _ _ serves undecided
    have failed := kept.failed queued .operationCanceled
    have canceled : system.cancel device wait = (.done, { system with
        pool := wakeConnectionWaitersLocked device
          (unpark wait.waiter (.failed .operationCanceled) system.pool) }) :=
      invariant.cancel_undecided waiting inside isOpen undecided
    have absent : wait.waiter ∉ (unpark wait.waiter (.failed .operationCanceled)
        system.pool).mConnectionWaiterQueue :=
      fun member => (kept.attended.distinct.mem_erase_iff.mp member).1 rfl
    have next : (system.cancel device wait).2.Invariant := invariant.cancel wait
    rw [canceled] at next
    rw [canceled]
    refine ⟨rfl, fun finished => absurd finished late, fun _ _ => ⟨?_, fun unchecked => ?_⟩, ?_⟩
    · change ((wakeConnectionWaitersLocked device _).waiters wait.waiter).mException = _
      rw [wake_waiters device absent, unpark_waiters_self]
      rfl
    · refine next.kept.attended.awake thread wait.waiter
        ⟨wait, waiting, inside, unchecked, rfl⟩ fun again => absent ?_
      exact (wakeLoop_sublist device _ _).subset again
    · intro ref different after
      rcases wake_exception device failed.attended.distinct ref with same | failed
      · rw [unpark_waiters_of_ne different] at same
        exact same.symm.trans after
      · cases failed.symm.trans after

theorem cancel_exact_of_contended :
    (contended.cancel faultless ⟨0, 0, false, .parking⟩).1 = .done ∧
      (Phase.parking = .leaving ∨ ¬ (contended.pool.waiters 0).Undecided →
        (contended.cancel faultless ⟨0, 0, false, .parking⟩).2 = contended) ∧
      (Phase.parking ≠ .leaving → (contended.pool.waiters 0).Undecided →
        ((contended.cancel faultless ⟨0, 0, false, .parking⟩).2.pool.waiters 0).mException =
            some .operationCanceled ∧
          (Phase.parking ≠ .checking →
            (contended.cancel faultless ⟨0, 0, false, .parking⟩).2.pool.permits 1 = true)) ∧
      ∀ ref, ref ≠ 0 →
        ((contended.cancel faultless ⟨0, 0, false, .parking⟩).2.pool.waiters ref).mException =
            some .operationCanceled →
          (contended.pool.waiters ref).mException = some .operationCanceled := by
  have waiting : contended.waits 1 = some ⟨0, 0, false, .parking⟩ := by decide
  exact cancel_exact contended_reachable waiting (by decide) fun leaving => by cases leaving

end Cancelling

/-! ## Closing -/

section Closing

variable {device : Device} {system : System} {connection : SQLiteConnection}

/-- A state of a pool that has been closed. -/
structure Shut (opened : List SQLiteConnection) (system : System) : Prop where
  invariant : system.Invariant
  isClosed : system.pool.mIsOpen = false
  opened : system.pool.opened = opened

/-- What a step leaves alone in a pool that has been closed. -/
def SameOpened (system next : System) : Prop :=
  next.pool.mIsOpen = system.pool.mIsOpen ∧ next.pool.opened = system.pool.opened ∧
    next.pool.waiters = system.pool.waiters

theorem inPhase_sameOpened {thread : Thread} {phase : Phase} {step : Wait → Outcome × System}
    (same : ∀ wait, SameOpened system (step wait).2) :
    SameOpened system (system.inPhase thread phase step).2 := by
  rw [inPhase]
  split
  · split
    · exact same _
    · exact ⟨rfl, rfl, rfl⟩
  · exact ⟨rfl, rfl, rfl⟩

theorem wake_empty {pool : SQLiteConnectionPool} (empty : pool.mConnectionWaiterQueue = []) :
    wakeConnectionWaitersLocked device pool = pool := by
  rw [wakeConnectionWaitersLocked, empty]
  rfl

/-- No step opens the pool again, or a connection. -/
theorem Invariant.closed_perform (invariant : system.Invariant)
    (isClosed : system.pool.mIsOpen = false) (action : Action) :
    SameOpened system (system.perform device action).2 := by
  have empty := invariant.drained isClosed
  have notOpen : (!system.pool.mIsOpen) = true := by rw [isClosed]; rfl
  cases action with
  | acquire thread sql connectionFlags signal =>
      rw [System.perform, System.acquire]
      split
      · exact ⟨rfl, rfl, rfl⟩
      · rw [request, if_pos notOpen]
        exact ⟨rfl, rfl, rfl⟩
  | poll thread =>
      refine inPhase_sameOpened fun wait => ?_
      rw [System.poll]
      split <;> exact ⟨rfl, rfl, rfl⟩
  | recover thread =>
      refine inPhase_sameOpened fun wait => ?_
      rw [System.recover, wake_empty empty]
      exact ⟨rfl, rfl, rfl⟩
  | unparked thread => exact inPhase_sameOpened fun wait => ⟨rfl, rfl, rfl⟩
  | look thread =>
      refine inPhase_sameOpened fun wait => ?_
      rw [System.look, SQLiteConnectionPool.look, if_pos notOpen]
      exact ⟨rfl, rfl, rfl⟩
  | leave thread => exact inPhase_sameOpened fun wait => ⟨rfl, rfl, rfl⟩
  | cancel thread =>
      rw [System.perform]
      split
      · next wait _ =>
          split
          · have cancels := cancels device system.pool wait.waiter wait.nonce
            rw [System.cancel]
            generalize onCancel device wait.waiter wait.nonce system.pool = result at cancels
            cases cancels with
            | ignored => exact ⟨rfl, rfl, rfl⟩
            | missing => exact ⟨rfl, rfl, rfl⟩
            | canceled _ _ queued =>
                rw [empty] at queued
                cases queued
          · exact ⟨rfl, rfl, rfl⟩
      · exact ⟨rfl, rfl, rfl⟩
  | release thread connection =>
      rw [System.perform, System.release]
      split
      · rw [releaseConnection]
        cases system.pool.mAcquiredConnections.lookup connection with
        | none => exact ⟨rfl, rfl, rfl⟩
        | some status =>
            have closes : putBack device connection status (removeAcquired connection
                system.pool) = closeConnectionAndLogExceptionsLocked connection
                  (removeAcquired connection system.pool) := by
              rw [putBack]
              exact if_pos notOpen
            dsimp only
            rw [closes]
            exact ⟨rfl, rfl, rfl⟩
      · exact ⟨rfl, rfl, rfl⟩
  | reconfigure configuration =>
      rw [System.perform, System.reconfigure, SQLiteConnectionPool.reconfigure]
      dsimp only
      rw [if_pos notOpen]
      exact ⟨rfl, rfl, rfl⟩
  | close =>
      rw [System.perform, System.close, SQLiteConnectionPool.close, if_pos notOpen]
      exact ⟨rfl, rfl, rfl⟩
  | collect connection =>
      rw [System.perform, System.collect]
      split <;> exact ⟨rfl, rfl, rfl⟩
  | finalize connection =>
      rw [System.perform, System.finalize]
      split <;> exact ⟨rfl, rfl, rfl⟩

/-- A pool that has been closed stays closed and opens nothing.  When nobody has a connection
or waits for one any more, every connection has been closed, is stranded or is lost to the
garbage collector. -/
theorem closed_for_good (reachable : Reachable device system)
    (isClosed : system.pool.mIsOpen = false) (run : List Action) :
    ((machine device).after system run).pool.mIsOpen = false ∧
      ((machine device).after system run).pool.opened = system.pool.opened ∧
      (((machine device).after system run).held = [] →
        (∀ thread, ((machine device).after system run).waits thread = none) →
        ∀ connection ∈ system.pool.opened,
          ((machine device).after system run).At connection .closed ∨
            ((machine device).after system run).At connection .stranded ∨
            ((machine device).after system run).At connection .collected) := by
  have shut : Shut system.pool.opened ((machine device).after system run) := by
    refine (machine device).invariant_of_steps (Shut system.pool.opened) ?_ system run
      ⟨reachable.invariant, isClosed, rfl⟩
    intro state action before
    have same : SameOpened state (state.perform device action).2 :=
      before.invariant.closed_perform before.isClosed action
    exact ⟨before.invariant.perform action, same.1.trans before.isClosed,
      same.2.1.trans before.opened⟩
  refine ⟨shut.isClosed, shut.opened, fun unheld outside connection opened => ?_⟩
  rw [← shut.opened] at opened
  obtain ⟨place, here⟩ := shut.invariant.toSafe.opened_iff.mp opened
  cases place with
  | closed => exact Or.inl here
  | stranded => exact Or.inr (Or.inl here)
  | collected => exact Or.inr (Or.inr here)
  | available =>
      have empty := shut.invariant.kept.orderly.sound.emptied shut.isClosed
      have member : connection ∈ ((machine device).after system run).pool.available := here
      rw [empty] at member
      cases member
  | held thread =>
      have member : (thread, connection) ∈ ((machine device).after system run).held := here
      rw [unheld] at member
      cases member
  | promised thread =>
      obtain ⟨ref, recyclings, serves, _⟩ := here
      exact absurd serves (not_serves_of_none (outside thread))

/-- A pool that has been closed while a thread has a connection. -/
def abandoned : System :=
  (machine faultless).after (initial (withFlags 0)) [.acquire 0 none 0 none, .close]

theorem closed_for_good_of_abandoned :
    ((machine faultless).after abandoned [.release 0 ⟨0, true⟩]).pool.mIsOpen = false ∧
      ((machine faultless).after abandoned [.release 0 ⟨0, true⟩]).pool.opened =
        abandoned.pool.opened ∧
      (((machine faultless).after abandoned [.release 0 ⟨0, true⟩]).held = [] →
        (∀ thread,
          ((machine faultless).after abandoned [.release 0 ⟨0, true⟩]).waits thread = none) →
        ∀ connection ∈ abandoned.pool.opened,
          ((machine faultless).after abandoned [.release 0 ⟨0, true⟩]).At connection .closed ∨
            ((machine faultless).after abandoned [.release 0 ⟨0, true⟩]).At connection .stranded ∨
            ((machine faultless).after abandoned [.release 0 ⟨0, true⟩]).At connection
              .collected) :=
  closed_for_good ⟨withFlags 0, _, rfl⟩ (by decide) [.release 0 ⟨0, true⟩]

/-- A connection that has been assigned to a waiter, or has been stranded. -/
def Forgotten (connection : SQLiteConnection) (system : System) : Prop :=
  (∃ thread, system.At connection (.promised thread)) ∨ system.At connection .stranded

/-- A thread that goes on waiting still waits with its waiter. -/
theorem inPhase_serves {thread other : Thread} {phase : Phase} {step : Wait → Outcome × System}
    {ref : WaiterRef} {recyclings : Nat} (serves : Serves system.waits other ref recyclings)
    (keeps : ∀ wait, system.waits thread = some wait → wait.phase = phase →
      Serves (step wait).2.waits other ref recyclings) :
    Serves (system.inPhase thread phase step).2.waits other ref recyclings := by
  rw [inPhase]
  split
  · next wait waiting =>
      split
      · next here => exact keeps wait waiting here
      · exact serves
  · exact serves

/-- Requests, and what happens to the pool as a whole, are not part of anybody's wait. -/
def OfWait : Action → Prop
  | .poll _ | .recover _ | .unparked _ | .look _ | .leave _ => True
  | _ => False

theorem closed_waits (isClosed : system.pool.mIsOpen = false) {action : Action}
    (outside : ¬ OfWait action) :
    (system.perform device action).2.waits = system.waits := by
  have notOpen : (!system.pool.mIsOpen) = true := by rw [isClosed]; rfl
  cases action with
  | poll | recover | unparked | look | leave => exact absurd trivial outside
  | acquire thread sql connectionFlags signal =>
      rw [System.perform, System.acquire]
      split
      · rfl
      · rw [request, if_pos notOpen]
  | cancel thread =>
      rw [System.perform]
      split
      · split
        · rw [System.cancel]
          split <;> rfl
        · rfl
      · rfl
  | release thread connection =>
      rw [System.perform, System.release]
      split
      · split <;> rfl
      · rfl
  | reconfigure configuration =>
      rw [System.perform, System.reconfigure]
      split <;> rfl
  | close =>
      rw [System.perform, System.close]
      split <;> rfl
  | collect connection =>
      rw [System.perform, System.collect]
      split <;> rfl
  | finalize connection =>
      rw [System.perform, System.finalize]
      split <;> rfl

/-- A connection that is stranded stays so until the garbage collector finds it. -/
theorem stranded_perform (stranded : connection ∈ system.stranded) {action : Action}
    (uncollected : action ≠ .collect connection) :
    connection ∈ (system.perform device action).2.stranded := by
  have phased {thread : Thread} {phase : Phase} {step : Wait → Outcome × System}
      (keeps : ∀ wait, connection ∈ (step wait).2.stranded) :
      connection ∈ (system.inPhase thread phase step).2.stranded := by
    rw [inPhase]
    split
    · split
      · exact keeps _
      · exact stranded
    · exact stranded
  cases action with
  | acquire thread sql connectionFlags signal =>
      rw [System.perform, System.acquire]
      split
      · exact stranded
      · split <;> exact stranded
  | poll thread =>
      refine phased fun wait => ?_
      rw [System.poll]
      split <;> exact stranded
  | recover thread => exact phased fun wait => stranded
  | unparked thread => exact phased fun wait => stranded
  | look thread =>
      refine phased fun wait => ?_
      rw [System.look]
      split
      · exact stranded
      · exact stranded
      · exact List.mem_append_right _ stranded
  | leave thread => exact phased fun wait => stranded
  | cancel thread =>
      rw [System.perform]
      split
      · split
        · rw [System.cancel]
          split <;> exact stranded
        · exact stranded
      · exact stranded
  | release thread connection =>
      rw [System.perform, System.release]
      split
      · split <;> exact stranded
      · exact stranded
  | reconfigure configuration =>
      rw [System.perform, System.reconfigure]
      split <;> exact stranded
  | close =>
      rw [System.perform, System.close]
      split <;> exact stranded
  | collect other =>
      rw [System.perform, System.collect]
      split
      · refine List.mem_filter.mpr ⟨stranded, ?_⟩
        have different : connection ≠ other := fun same => uncollected (same ▸ rfl)
        simpa using different
      · exact stranded
  | finalize connection =>
      rw [System.perform, System.finalize]
      split <;> exact stranded

/-- In a closed pool a waiter keeps what has been assigned to it, until its thread strands
it. -/
theorem Invariant.forgotten_perform (invariant : system.Invariant)
    (isClosed : system.pool.mIsOpen = false) (forgotten : Forgotten connection system)
    {action : Action} (uncollected : action ≠ .collect connection) :
    Forgotten connection (system.perform device action).2 := by
  have waiters : (system.perform device action).2.pool.waiters = system.pool.waiters :=
    (invariant.closed_perform isClosed action).2.2
  have notOpen : (!system.pool.mIsOpen) = true := by rw [isClosed]; rfl
  rcases forgotten with ⟨other, ref, recyclings, serves, assigned⟩ | stranded
  · have stays (still : Serves (system.perform device action).2.waits other ref recyclings) :
        Forgotten connection (system.perform device action).2 :=
      Or.inl ⟨other, ref, recyclings, still, by rw [waiters, assigned]⟩
    have inside {thread : Thread} {wait : Wait} {phase : Phase}
        (waiting : system.waits thread = some wait) (before : wait.phase ≠ .leaving)
        (after : phase ≠ .leaving) :
        Serves (system.proceed thread wait phase).waits other ref recyclings :=
      (serves_proceed waiting before after other ref recyclings).mpr serves
    by_cases outside : OfWait action
    · cases action with
      | acquire | cancel | release | reconfigure | close | collect | finalize =>
          exact absurd outside id
      | poll thread =>
          refine stays (inPhase_serves serves fun wait waiting here => ?_)
          have entered : wait.phase ≠ .leaving := by rw [here]; decide
          rw [System.poll]
          split
          · exact inside waiting entered (by decide)
          · exact inside waiting entered (by decide)
      | recover thread =>
          refine stays (inPhase_serves serves fun wait waiting here => ?_)
          exact inside waiting (by rw [here]; decide) (by decide)
      | unparked thread =>
          refine stays (inPhase_serves serves fun wait waiting here => ?_)
          exact inside waiting (by rw [here]; decide) (by decide)
      | look thread =>
          by_cases same : other = thread
          · subst same
            obtain ⟨wait, waiting, entered, rfl, rfl⟩ := serves
            by_cases checking : wait.phase = .checking
            · refine Or.inr ?_
              rw [System.perform, inPhase, waiting]
              dsimp only
              rw [if_pos checking, System.look, SQLiteConnectionPool.look, if_pos notOpen]
              exact List.mem_append_left _ (Option.mem_toList.mpr assigned)
            · refine stays ?_
              rw [System.perform, inPhase, waiting]
              dsimp only
              rw [if_neg checking]
              exact ⟨wait, waiting, entered, rfl, rfl⟩
          · refine stays (inPhase_serves serves fun wait waiting here => ?_)
            rw [System.look]
            split <;> exact (serves_other same _).mpr serves
      | leave thread =>
          refine stays (inPhase_serves serves fun wait waiting here => ?_)
          have different : other ≠ thread := by
            rintro rfl
            obtain ⟨wait', waiting', entered, _⟩ := serves
            cases waiting.symm.trans waiting'
            exact entered here
          exact (serves_other different none).mpr serves
    · refine stays ?_
      rw [closed_waits isClosed outside]
      exact serves
  · exact Or.inr (stranded_perform stranded uncollected)

/-- A connection that has been assigned to a waiter when the pool is closed is not closed by the
pool any more, whatever the threads do: its thread finds the pool closed and throws, and nobody
else knows of the connection until the garbage collector finds it. -/
theorem closing_forgets (reachable : Reachable device system)
    (isClosed : system.pool.mIsOpen = false) (forgotten : Forgotten connection system)
    (run : List Action) (uncollected : Action.collect connection ∉ run) :
    connection ∈ ((machine device).after system run).pool.opened ∧
      connection ∉ ((machine device).after system run).pool.closed := by
  have kept : ((machine device).after system run).Invariant ∧
      ((machine device).after system run).pool.mIsOpen = false ∧
      Forgotten connection ((machine device).after system run) := by
    refine (machine device).invariant_after
      (fun state => state.Invariant ∧ state.pool.mIsOpen = false ∧ Forgotten connection state)
      ?_ system run ⟨reachable.invariant, isClosed, forgotten⟩
      ((machine device).along_of_mem system run fun action member =>
        (ne_of_mem_of_not_mem member uncollected : action ≠ .collect connection))
    rintro state action ⟨invariant, isClosed, forgotten⟩ legal
    exact ⟨invariant.perform action,
      (invariant.closed_perform isClosed action).1.trans isClosed,
      invariant.forgotten_perform isClosed forgotten legal⟩
  obtain ⟨invariant, _, forgotten⟩ := kept
  have safe := invariant.toSafe
  obtain ⟨place, here, used⟩ : ∃ place : Place,
      ((machine device).after system run).At connection place ∧ place ≠ .closed := by
    rcases forgotten with ⟨thread, promised⟩ | stranded
    · exact ⟨.promised thread, promised, Place.noConfusion⟩
    · exact ⟨.stranded, stranded, Place.noConfusion⟩
  refine ⟨safe.opened_iff.mpr ⟨place, here⟩, fun closed => used ?_⟩
  have there : ((machine device).after system run).At connection .closed := closed
  exact safe.single_place here there

/-- A pool that has been closed when a connection had just been assigned. -/
def hasty : System :=
  (machine faultless).after (initial (withFlags 0))
    [.acquire 0 none 0 none, .acquire 1 none 0 none, .release 0 ⟨0, true⟩, .close]

theorem closing_forgets_of_hasty :
    ⟨0, true⟩ ∈ ((machine faultless).after hasty [.poll 1, .unparked 1, .look 1]).pool.opened ∧
      ⟨0, true⟩ ∉
        ((machine faultless).after hasty [.poll 1, .unparked 1, .look 1]).pool.closed := by
  have waiting : hasty.waits 1 = some ⟨0, 0, false, .looping⟩ := by decide
  have assigned : (hasty.pool.waiters 0).mAssignedConnection = some ⟨0, true⟩ := by decide
  exact closing_forgets ⟨withFlags 0, _, rfl⟩ (by decide)
    (Or.inl ⟨1, 0, 0, ⟨_, waiting, by decide, rfl, rfl⟩, assigned⟩) [.poll 1, .unparked 1, .look 1]
    (by decide)

end Closing

end System
end Pool
end ModuleDatabase
