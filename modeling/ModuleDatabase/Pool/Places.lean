import Mathlib.Data.List.Nodup
import ModuleDatabase.Pool.Safety

namespace ModuleDatabase
namespace Pool
namespace System

/-!
# Where connections are

In every state that threads can bring a pool to, a connection that has been opened is in one
place, there are no more connections than the pool allows, and what a thread is given is not
used by anybody and is configured as the pool is.
-/

open SQLiteConnectionPool

/-- What may have become of a connection. -/
inductive Place where
  | available
  | held (thread : Thread)
  /-- Assigned to the waiter of a thread that has not taken it yet. -/
  | promised (thread : Thread)
  | stranded
  | collected
  | closed

/-- A connection is in a place. -/
def At (system : System) (connection : SQLiteConnection) : Place → Prop
  | .available => connection ∈ system.pool.available
  | .held thread => (thread, connection) ∈ system.held
  | .promised thread => ∃ ref recyclings, Serves system.waits thread ref recyclings ∧
      (system.pool.waiters ref).mAssignedConnection = some connection
  | .stranded => connection ∈ system.stranded
  | .collected => connection ∈ system.collected
  | .closed => connection ∈ system.pool.closed

section Places

variable {device : Device} {system : System} {connection : SQLiteConnection}

/-- The places of a connection that has been acquired. -/
def Place.InUse : Place → Prop
  | .held _ | .promised _ | .stranded => True
  | .available | .collected | .closed => False

theorem Safe.acquired_iff (safe : system.Safe) :
    connection ∈ system.pool.acquired ↔ ∃ place : Place, place.InUse ∧ system.At connection place := by
  rw [safe.kept.owned.accounted]
  constructor
  · rintro (held | stranded | ⟨thread, promised⟩)
    · obtain ⟨⟨thread, other⟩, member, rfl⟩ := List.mem_map.mp held
      exact ⟨.held thread, trivial, member⟩
    · exact ⟨.stranded, trivial, stranded⟩
    · exact ⟨.promised thread, trivial, promised⟩
  · rintro ⟨place, inUse, here⟩
    cases place with
    | held thread => exact Or.inl (List.mem_map.mpr ⟨_, here, rfl⟩)
    | stranded => exact Or.inr (Or.inl here)
    | promised thread => exact Or.inr (Or.inr ⟨thread, here⟩)
    | available => exact absurd inUse id
    | collected => exact absurd inUse id
    | closed => exact absurd inUse id

/-- A connection has at most one holder. -/
theorem Safe.single_holder (safe : system.Safe) {place other : Place} (inUse : place.InUse)
    (inUse' : other.InUse) (here : system.At connection place)
    (there : system.At connection other) : place = other := by
  have owned := safe.kept.owned
  have held {thread : Thread} (here : (thread, connection) ∈ system.held) :
      connection ∈ system.held.map Prod.snd := List.mem_map.mpr ⟨_, here, rfl⟩
  cases place with
  | available => exact absurd inUse id
  | collected => exact absurd inUse id
  | closed => exact absurd inUse id
  | held thread =>
      cases other with
      | available => exact absurd inUse' id
      | collected => exact absurd inUse' id
      | closed => exact absurd inUse' id
      | held thread' =>
          have same := List.inj_on_of_nodup_map owned.held_nodup here there rfl
          rw [(Prod.mk.inj same).1]
      | stranded => exact absurd there (owned.apart connection (held here))
      | promised thread' =>
          obtain ⟨ref, recyclings, serves, assigned⟩ := there
          exact absurd (held here) (owned.promised _ _ _ _ serves assigned).1
  | stranded =>
      cases other with
      | available => exact absurd inUse' id
      | collected => exact absurd inUse' id
      | closed => exact absurd inUse' id
      | held thread' => exact absurd here (owned.apart connection (held there))
      | stranded => rfl
      | promised thread' =>
          obtain ⟨ref, recyclings, serves, assigned⟩ := there
          exact absurd here (owned.promised _ _ _ _ serves assigned).2
  | promised thread =>
      obtain ⟨ref, recyclings, serves, assigned⟩ := here
      cases other with
      | available => exact absurd inUse' id
      | collected => exact absurd inUse' id
      | closed => exact absurd inUse' id
      | held thread' => exact absurd (held there) (owned.promised _ _ _ _ serves assigned).1
      | stranded => exact absurd there (owned.promised _ _ _ _ serves assigned).2
      | promised thread' =>
          obtain ⟨ref', recyclings', serves', assigned'⟩ := there
          cases owned.single connection _ _ _ _ _ _ serves serves' assigned assigned'
          rw [safe.kept.attended.unique serves serves']

/-- The list that a connection in a place is counted in. -/
def Place.list (system : System) : Place → List SQLiteConnection
  | .available => system.pool.available
  | .held _ | .promised _ | .stranded => system.pool.acquired
  | .collected => system.collected
  | .closed => system.pool.closed

theorem Safe.counted (safe : system.Safe) {place : Place} (here : system.At connection place) :
    0 < (place.list system).count connection := by
  refine List.count_pos_iff.mpr ?_
  cases place with
  | available | collected | closed => exact here
  | held thread => exact safe.acquired_iff.mpr ⟨.held thread, trivial, here⟩
  | promised thread => exact safe.acquired_iff.mpr ⟨.promised thread, trivial, here⟩
  | stranded => exact safe.acquired_iff.mpr ⟨.stranded, trivial, here⟩

theorem Safe.single_place (safe : system.Safe) {place other : Place}
    (here : system.At connection place) (there : system.At connection other) : place = other := by
  have counts := safe.kept.orderly.sound.conserved connection
  have once := safe.kept.orderly.sound.count_le connection
  have first := safe.counted here
  have second := safe.counted there
  by_cases both : place.InUse ∧ other.InUse
  · exact safe.single_holder both.1 both.2 here there
  · -- Two different lists that have the connection would make it opened twice.
    cases place <;> cases other <;> simp only [Place.list] at first second <;>
      first
        | omega
        | rfl
        | exact (both ⟨trivial, trivial⟩).elim

theorem Safe.opened_iff (safe : system.Safe) :
    connection ∈ system.pool.opened ↔ ∃ place, system.At connection place := by
  have counts := safe.kept.orderly.sound.conserved connection
  constructor
  · intro opened
    have positive := List.count_pos_iff.mpr opened
    by_cases available : connection ∈ system.pool.available
    · exact ⟨.available, available⟩
    · by_cases collected : connection ∈ system.collected
      · exact ⟨.collected, collected⟩
      · by_cases closed : connection ∈ system.pool.closed
        · exact ⟨.closed, closed⟩
        · have acquired : connection ∈ system.pool.acquired := by
            rw [List.count_eq_zero.mpr available, List.count_eq_zero.mpr collected,
              List.count_eq_zero.mpr closed] at counts
            exact List.count_pos_iff.mp (by omega)
          obtain ⟨place, _, here⟩ := safe.acquired_iff.mp acquired
          exact ⟨place, here⟩
  · rintro ⟨place, here⟩
    have positive := safe.counted here
    refine List.count_pos_iff.mp ?_
    cases place <;> simp only [Place.list] at positive <;> omega

/-- However threads take turns, a connection that has been opened is in exactly one place:
available, with one thread, assigned to the waiter of one thread, stranded, lost to the garbage
collector, or closed; and it is closed once. -/
theorem one_place (reachable : Reachable device system) (connection : SQLiteConnection) :
    (connection ∈ system.pool.opened ↔ ∃ place, system.At connection place) ∧
      (∀ place other, system.At connection place → system.At connection other →
        place = other) ∧
      system.pool.closed.count connection ≤ 1 := by
  have safe := reachable.invariant.toSafe
  refine ⟨safe.opened_iff, fun place other here there => safe.single_place here there, ?_⟩
  have counts := safe.kept.orderly.sound.conserved connection
  have once := safe.kept.orderly.sound.count_le connection
  omega

/-- A device on which every call succeeds and no statement is cached. -/
def faultless : Device := ⟨fun _ => true, fun _ => true, fun _ _ _ => false⟩

/-- A configuration with these open flags. -/
def withFlags (openFlags : BitVec 32) : SQLiteDatabaseConfiguration where
  path := "module.db"
  openFlags := openFlags
  maxSqlCacheSize := 25
  locale := "en_US"
  foreignKeyConstraintsEnabled := false
  customFunctions := []

theorem one_place_of_two_threads :
    let system := (machine faultless).after (initial (withFlags 0))
      [.acquire 0 none 0 none, .acquire 1 none 0 none, .release 0 ⟨0, true⟩, .close]
    (⟨0, true⟩ ∈ system.pool.opened ↔ ∃ place, system.At ⟨0, true⟩ place) ∧
      (∀ place other, system.At ⟨0, true⟩ place → system.At ⟨0, true⟩ other → place = other) ∧
      system.pool.closed.count ⟨0, true⟩ ≤ 1 :=
  one_place ⟨withFlags 0, _, rfl⟩ ⟨0, true⟩

/-! ## What is handed out -/

theorem Takes.unused {pool without : SQLiteConnectionPool} {lost : List SQLiteConnection}
    (sound : pool.Sound lost) (takes : Takes pool connection without) :
    connection ∈ pool.available ∨ connection ∉ pool.opened := by
  cases takes with
  | primary here => exact Or.inl (List.mem_append.mpr (Or.inl (by simp [here])))
  | nonPrimary here => exact Or.inl (List.mem_append.mpr (Or.inr here))
  | newPrimary => exact Or.inr (sound.fresh true)
  | newNonPrimary => exact Or.inr (sound.fresh false)

/-- What a request that does not wait has done to the system. -/
inductive Acquires (device : Device) (system : System) (thread : Thread)
    (connectionFlags : BitVec 32) (connection : SQLiteConnection) : System → Prop where
  | given {without : SQLiteConnectionPool} (isOpen : system.pool.mIsOpen = true)
      (takes : Takes system.pool connection without) :
      Acquires device system thread connectionFlags connection { system with
        pool := finishAcquireConnectionLocked connection connectionFlags without
        held := (thread, connection) :: system.held }

theorem acquires {thread : Thread} {sql : Option String} {connectionFlags : BitVec 32}
    {signal : Option Bool}
    (returned : (system.acquire device thread sql connectionFlags signal).1 =
      .returned connection) :
    Acquires device system thread connectionFlags connection
      (system.acquire device thread sql connectionFlags signal).2 := by
  rw [System.acquire] at returned ⊢
  cases outside : system.waits thread with
  | some wait =>
      rw [outside] at returned
      cases returned
  | none =>
      have notInside : ¬ (none : Option Wait).isSome = true := by decide
      rw [outside, if_neg notInside, request] at returned
      rw [if_neg notInside, request]
      cases isOpen : system.pool.mIsOpen with
      | false =>
          rw [isOpen] at returned
          cases returned
      | true =>
          rw [isOpen, if_neg (by simp)] at returned
          rw [if_neg (by simp)]
          cases canceled : signal.getD false with
          | true =>
              rw [canceled] at returned
              cases returned
          | false =>
              rw [canceled, if_neg Bool.false_ne_true] at returned
              rw [if_neg Bool.false_ne_true]
              have attempts := attempts_tryAcquire device sql connectionFlags system.pool
              generalize tryAcquire device sql connectionFlags system.pool = attempt
                at attempts returned
              cases attempts with
              | given takes =>
                  cases returned
                  exact .given isOpen takes
              | unopened => cases returned
              | nothing => cases returned

/-- A connection that a thread is given at once was available or has just been opened: nobody
else has it, it has not been closed, and it is configured as the pool and the request ask. -/
theorem acquire_fresh (reachable : Reachable device system) {thread : Thread}
    {sql : Option String} {connectionFlags : BitVec 32} {signal : Option Bool}
    (returned : (system.perform device (.acquire thread sql connectionFlags signal)).1 =
      .returned connection) :
    system.pool.mIsOpen = true ∧
      (∀ place, system.At connection place → place = .available) ∧
      ((system.perform device (.acquire thread sql connectionFlags signal)).2.pool.fields
          connection) =
        ⟨system.pool.mConfiguration, hasFlag connectionFlags CONNECTION_FLAG_READ_ONLY⟩ ∧
      (system.perform device (.acquire thread sql connectionFlags signal)).2.At connection
        (.held thread) := by
  have safe := reachable.invariant.toSafe
  have acquires := acquires returned
  rw [System.perform]
  generalize (system.acquire device thread sql connectionFlags signal).2 = next at acquires
  obtain ⟨isOpen, takes⟩ := acquires
  refine ⟨isOpen, fun place here => ?_, ?_, List.mem_cons_self⟩
  · rcases Takes.unused safe.kept.orderly.sound takes with available | unopened
    · exact safe.single_place here available
    · exact absurd (safe.opened_iff.mpr ⟨place, here⟩) unopened
  · have configured := safe.kept.orderly.configured_of_takes takes
    simp only [finishAcquireConnectionLocked, putAcquired, Function.update_self, configured]

theorem acquire_fresh_of_initial :
    (initial (withFlags 0)).pool.mIsOpen = true ∧
      (∀ place, (initial (withFlags 0)).At ⟨0, true⟩ place → place = .available) ∧
      (((initial (withFlags 0)).perform faultless (.acquire 0 none 1 none)).2.pool.fields
          ⟨0, true⟩) = ⟨withFlags 0, hasFlag 1 CONNECTION_FLAG_READ_ONLY⟩ ∧
      ((initial (withFlags 0)).perform faultless (.acquire 0 none 1 none)).2.At ⟨0, true⟩
        (.held 0) :=
  acquire_fresh ⟨withFlags 0, [], rfl⟩ (by decide)

/-- A connection that has not the configuration of the pool has been acquired and is marked:
it will be reconfigured or closed before anybody else gets it. -/
theorem outdated_marked (reachable : Reachable device system)
    (opened : connection ∈ system.pool.opened) (kept : connection ∉ system.pool.closed)
    (reached : connection ∉ system.collected)
    (outdated : (system.pool.fields connection).mConfiguration ≠ system.pool.mConfiguration) :
    ∃ status, (connection, status) ∈ system.pool.mAcquiredConnections ∧ status ≠ .NORMAL := by
  have orderly := reachable.invariant.kept.orderly
  obtain ⟨place, here⟩ := reachable.invariant.toSafe.opened_iff.mp opened
  have acquired : connection ∈ system.pool.acquired := by
    cases place with
    | available => exact absurd (orderly.configured.available connection here) outdated
    | collected => exact absurd here reached
    | closed => exact absurd here kept
    | held thread =>
        exact reachable.invariant.toSafe.acquired_iff.mpr ⟨.held thread, trivial, here⟩
    | promised thread =>
        exact reachable.invariant.toSafe.acquired_iff.mpr ⟨.promised thread, trivial, here⟩
    | stranded => exact reachable.invariant.toSafe.acquired_iff.mpr ⟨.stranded, trivial, here⟩
  obtain ⟨⟨same, status⟩, member, rfl⟩ := List.mem_map.mp acquired
  exact ⟨status, member, fun normal =>
    outdated (orderly.configured.acquired _ member normal)⟩

theorem outdated_marked_of_reconfigured :
    ∃ status, (⟨0, true⟩, status) ∈ ((machine faultless).after (initial (withFlags 0))
        [.acquire 0 none 0 none, .reconfigure { withFlags 0 with maxSqlCacheSize := 100 }]
      ).pool.mAcquiredConnections ∧ status ≠ .NORMAL :=
  outdated_marked ⟨withFlags 0, _, rfl⟩ (by decide) (by decide) (by decide) (by decide)

/-- The connections that are of use: those available and those acquired that are not to be
discarded. -/
def inService (pool : SQLiteConnectionPool) : Nat :=
  pool.available.length + pool.mAcquiredConnections.countP (·.2 != .DISCARD)

theorem countP_usable (entries : List (SQLiteConnection × AcquiredConnectionStatus)) :
    entries.countP (·.2 != .DISCARD) =
      entries.countP (usable true) + entries.countP (usable false) := by
  induction entries with
  | nil => rfl
  | cons entry rest ih =>
      have here : (if entry.2 != .DISCARD then 1 else 0) =
          (if usable true entry then 1 else 0) + (if usable false entry then 1 else 0) := by
        cases kind : entry.1.mIsPrimaryConnection <;> simp [usable, kind]
      rw [List.countP_cons, List.countP_cons, List.countP_cons, ih, here]
      omega

theorem inService_eq (pool : SQLiteConnectionPool) :
    inService pool = pool.usablePrimaries + pool.usableNonPrimaries := by
  rw [inService, countP_usable, available, List.length_append, usablePrimaries,
    usableNonPrimaries]
  omega

/-- However threads take turns, there is at most one primary connection that is of use, there
are at most as many others as the pool allows, and when nobody uses a connection there are no
more than the pool allows in all. -/
theorem pool_bounded (reachable : Reachable device system) :
    system.pool.usablePrimaries ≤ 1 ∧
      system.pool.usableNonPrimaries ≤ system.pool.mMaxConnectionPoolSize ∧
      inService system.pool ≤ system.pool.mMaxConnectionPoolSize + 1 ∧
      system.pool.available.length ≤ system.pool.mMaxConnectionPoolSize ∧
      system.pool.mMaxConnectionPoolSize =
        maxConnectionPoolSize system.pool.mConfiguration.openFlags := by
  have sound := reachable.invariant.kept.orderly.sound
  have single := sound.single
  have sized := sound.sized
  have spare := sound.spare
  refine ⟨single, sized, ?_, ?_, sound.bound⟩
  · rw [inService_eq]
    omega
  · rw [usablePrimaries] at single
    rw [available, List.length_append]
    omega

theorem pool_bounded_of_two_threads :
    let system := (machine faultless).after (initial (withFlags ENABLE_WRITE_AHEAD_LOGGING))
      [.acquire 0 none 0 none, .acquire 1 none 0 none, .acquire 2 none 2 none]
    system.pool.usablePrimaries ≤ 1 ∧
      system.pool.usableNonPrimaries ≤ system.pool.mMaxConnectionPoolSize ∧
      inService system.pool ≤ system.pool.mMaxConnectionPoolSize + 1 ∧
      system.pool.available.length ≤ system.pool.mMaxConnectionPoolSize ∧
      system.pool.mMaxConnectionPoolSize =
        maxConnectionPoolSize system.pool.mConfiguration.openFlags :=
  pool_bounded ⟨withFlags ENABLE_WRITE_AHEAD_LOGGING, _, rfl⟩

end Places

end System
end Pool
end ModuleDatabase
