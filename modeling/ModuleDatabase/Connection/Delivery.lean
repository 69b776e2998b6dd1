import ModuleDatabase.Connection.Preservation

namespace ModuleDatabase
namespace Connection

/-!
# Which `getDatabase` delivers the requested database

A `getDatabase(n)` that returns should return a handle that is open and
belongs to `n`.  `create` looks at names only and `getDatabase` at openness
only, so this fails in reachable states: an instance with an open handle
returns it under any name, and an instance whose handle is closed returns the
closed handle after a `create` whose result it ignores.

The demand is therefore compared with a condition on the state that the
operation finds.  `Served` speaks of the current instance, its name and its
handle; it does not mention what the operation returns.
-/

/-- All opens succeed. -/
def always : Nat → Bool := fun _ => true

/-- If the operation returns a handle, the handle is open and belongs to the
requested database. -/
def Delivers (opens : Nat → Bool) (manager : Manager) (action : Action) : Prop :=
  ∀ dbName handle, action.requested = some dbName →
    ((machine opens).perform action manager).1 = .returned handle →
    ((machine opens).perform action manager).2.OpenFor dbName handle

namespace Manager

/-- The instance is the current one, was created for this database, and
nobody has closed its handle. -/
def Serves (manager : Manager) (dbName : String) (it : InstanceRef) : Prop :=
  manager.mInstance = some it ∧ (manager.instances it).currentDb = some dbName ∧
    ∃ handle, (manager.instances it).db = some handle ∧
      (manager.handles handle).isOpen = true

/-- The current instance is for this database, but its handle was closed. -/
def Stale (manager : Manager) (dbName : String) : Prop :=
  ∃ it handle, manager.mInstance = some it ∧
    (manager.instances it).currentDb = some dbName ∧
    (manager.instances it).db = some handle ∧ (manager.handles handle).isOpen = false

/-- The condition under which an operation delivers. -/
def Served (manager : Manager) : Action → Prop
  | .getDatabase it dbName => manager.Serves dbName it
  | .fetch dao dbName => ∃ it, manager.moduleDB dao = some it ∧ manager.Serves dbName it
  | .daoGetDatabase _ dbName => ¬ manager.Stale dbName
  | _ => True

/-- Every instance has a handle: no open has failed so far. -/
def Staffed (manager : Manager) : Prop :=
  ∀ it, it < manager.instanceCount → ∃ handle, (manager.instances it).db = some handle

/-- The objects an operation is called on have been handed out before. -/
def Returned (manager : Manager) : Action → Prop
  | .getDatabase it _ => it < manager.instanceCount
  | .fetch dao _ => ∃ it, manager.moduleDB dao = some it
  | .close handle => handle < manager.handleCount
  | _ => True

end Manager

variable {manager : Manager} {dbName : String}

theorem outcome_observe_of_ok {α : Type} {note : α → Outcome} {program : Program α}
    {value : α} {next : Manager} (ends : program.run manager = .ok value next) :
    observe note program manager = (note value, next) := by
  rw [observe, ends]

/-- A handle returned for a name belongs to the name exactly if the instance
that holds it was created for that name. -/
theorem Manager.Coherent.file_iff (coherent : manager.Coherent) {it : InstanceRef}
    {handle : DatabaseRef} (held : (manager.instances it).db = some handle) :
    (manager.handles handle).file = fileOf dbName ↔
      (manager.instances it).currentDb = some dbName := by
  obtain ⟨name, currentDb, file⟩ := coherent.named it handle held
  rw [file, currentDb, Option.some.injEq]
  constructor
  · intro same
    exact fileOf_injective same
  · intro same
    rw [same]

/-- What an existing instance returns is open and belongs to the name exactly
if the instance serves the name. -/
theorem Manager.Coherent.getDatabase_iff {opens : Nat → Bool} (coherent : manager.Coherent)
    {it : InstanceRef} (allocated : it < manager.instanceCount) {handle : DatabaseRef}
    {next : Manager}
    (ends : (ModuleDB.getDatabase opens it dbName).run manager = .ok handle next) :
    next.OpenFor dbName handle ↔ manager.Serves dbName it := by
  constructor
  · rintro ⟨isOpen, file⟩
    obtain ⟨rfl, held⟩ := coherent.returned_of_open allocated ends isOpen
    obtain ⟨other, current, otherHeld⟩ := coherent.owner handle isOpen
    have same := coherent.unshared it other handle held otherHeld
    subst same
    exact ⟨current, (coherent.file_iff held).mp file, handle, held, isOpen⟩
  · rintro ⟨_, currentDb, other, held, isOpen⟩
    rw [ModuleDB.run_getDatabase_of_isOpen held isOpen dbName] at ends
    cases ends
    exact ⟨isOpen, (coherent.file_iff held).mpr currentDb⟩

/-- With all opens succeeding, an existing instance always returns. -/
theorem Manager.Staffed.getDatabase_returns (coherent : manager.Coherent)
    (staffed : manager.Staffed) {it : InstanceRef} (allocated : it < manager.instanceCount)
    (dbName : String) :
    ∃ handle next, (ModuleDB.getDatabase always it dbName).run manager = .ok handle next := by
  obtain ⟨handle, held⟩ := staffed it allocated
  by_cases isOpen : (manager.handles handle).isOpen = true
  · exact ⟨handle, manager, ModuleDB.run_getDatabase_of_isOpen held isOpen dbName⟩
  · have closed : ∀ other, (manager.instances it).db = some other →
        (manager.handles other).isOpen = false := by
      intro other field
      rw [held] at field
      cases field
      exact Bool.eq_false_iff.mpr isOpen
    have field := coherent.create_db always dbName allocated
    rcases ModuleDB.create_cases always manager dbName with
      ⟨other, _, kept⟩ | ⟨_, _, renewed⟩ | ⟨_, fails, _⟩
    · refine ⟨handle, manager, ?_⟩
      rw [ModuleDB.run_getDatabase_of_closed closed dbName, kept]
      simp only [held]
    · rw [Effect.final_of_ok renewed, held] at field
      refine ⟨handle, manager.retired.renewed dbName, ?_⟩
      rw [ModuleDB.run_getDatabase_of_closed closed dbName, renewed]
      simp only [field]
    · cases fails

/-- `create` keeps every instance staffed while opens succeed. -/
theorem Manager.Staffed.create (staffed : manager.Staffed) (dbName : String) :
    (Effect.final (ModuleDB.create always dbName) manager).Staffed := by
  rcases ModuleDB.create_cases always manager dbName with
    ⟨_, _, kept⟩ | ⟨_, _, renewed⟩ | ⟨_, fails, _⟩
  · rw [Effect.final_of_ok kept]
    exact staffed
  · rw [Effect.final_of_ok renewed]
    intro it allocated
    by_cases fresh : it = manager.retired.instanceCount
    · exact ⟨_, (Manager.renewed_db it _).mpr (Or.inl ⟨fresh, rfl⟩)⟩
    · have before : it < manager.instanceCount := by
        have bound : it < manager.retired.instanceCount + 1 := allocated
        rw [Manager.retired_instanceCount] at bound fresh
        omega
      obtain ⟨handle, held⟩ := staffed it before
      refine ⟨handle, (Manager.renewed_db it handle).mpr (Or.inr ⟨fresh, ?_⟩)⟩
      rw [Manager.retired_db]
      exact held
  · cases fails

/-- After step one of a DAO call for a name, the field of the DAO is the
current instance and was created for that name.  Its handle is open unless
the instance was kept and its handle had been closed. -/
theorem Manager.Staffed.connectionDB (coherent : manager.Coherent) (staffed : manager.Staffed)
    (dao : DaoRef) (dbName : String) :
    ∃ next it handle,
      (BaseDao.connectionDB always dao dbName).run manager = .ok () next ∧
      next.Staffed ∧ next.moduleDB dao = some it ∧ next.mInstance = some it ∧
      it < next.instanceCount ∧ (next.instances it).currentDb = some dbName ∧
      (next.instances it).db = some handle ∧
      ((next.handles handle).isOpen = true ↔ ¬ manager.Stale dbName) := by
  have after := staffed.create dbName
  rcases ModuleDB.create_cases always manager dbName with
    ⟨it, ⟨current, reason⟩, kept⟩ | ⟨replaces, _, renewed⟩ | ⟨_, fails, _⟩
  · rw [Effect.final_of_ok kept] at after
    have allocated := coherent.current_lt it current
    rcases staffed it allocated with ⟨handle, held⟩
    have currentDb : (manager.instances it).currentDb = some dbName := by
      rcases reason with missing | named
      · rw [held] at missing
        cases missing
      · exact named
    refine ⟨_, it, handle, BaseDao.run_connectionDB_of_ok kept dao, after,
      by simp [Manager.connected], current, allocated, currentDb, held, ?_⟩
    constructor
    · rintro isOpen ⟨other, closedHandle, otherCurrent, _, otherHeld, closed⟩
      rw [current] at otherCurrent
      cases otherCurrent
      rw [held] at otherHeld
      cases otherHeld
      have opened : (manager.handles handle).isOpen = true := isOpen
      rw [closed] at opened
      cases opened
    · intro fresh
      by_cases isOpen : (manager.handles handle).isOpen = true
      · exact isOpen
      · exact absurd ⟨it, handle, current, currentDb, held, Bool.eq_false_iff.mpr isOpen⟩ fresh
  · rw [Effect.final_of_ok renewed] at after
    refine ⟨_, manager.instanceCount, manager.handleCount,
      BaseDao.run_connectionDB_of_ok renewed dao, after, by simp [Manager.connected],
      by simp [Manager.connected, Manager.renewed], by simp [Manager.connected, Manager.renewed],
      by simp [Manager.connected, Manager.renewed], by simp [Manager.connected, Manager.renewed],
      ?_⟩
    have fresh : ¬ manager.Stale dbName := by
      rintro ⟨it, _, current, currentDb, _, _⟩
      exact replaces it ⟨current, Or.inr currentDb⟩
    simp [Manager.connected, Manager.renewed, fresh]
  · cases fails

/-! ## Delivery, one operation at a time -/

theorem delivers_of_requested_none {opens : Nat → Bool} {action : Action}
    (unasked : action.requested = none) : Delivers opens manager action := by
  intro name handle requested
  rw [unasked] at requested
  cases requested

theorem delivers_getDatabase_iff (coherent : manager.Coherent) (staffed : manager.Staffed)
    {it : InstanceRef} (allocated : it < manager.instanceCount) :
    Delivers always manager (.getDatabase it dbName) ↔ manager.Serves dbName it := by
  rcases staffed.getDatabase_returns coherent allocated dbName with ⟨handle, next, ends⟩
  have performed : (machine always).perform (.getDatabase it dbName) manager =
      (.returned handle, next) := outcome_observe_of_ok ends
  rw [← coherent.getDatabase_iff allocated ends]
  constructor
  · intro delivers
    have good := delivers dbName handle rfl (by rw [performed])
    rw [performed] at good
    exact good
  · intro good name other requested returned
    cases requested
    rw [performed] at returned
    cases returned
    rw [performed]
    exact good

theorem delivers_fetch_iff (coherent : manager.Coherent) (staffed : manager.Staffed)
    {dao : DaoRef} {it : InstanceRef} (field : manager.moduleDB dao = some it)
    (dbName : String) :
    Delivers always manager (.fetch dao dbName) ↔ manager.Serves dbName it := by
  have same : (machine always).perform (.fetch dao dbName) manager =
      (machine always).perform (.getDatabase it dbName) manager := by
    simp only [machine, observe, BaseDao.run_fetch_of_some field]
  rw [← delivers_getDatabase_iff coherent staffed (coherent.dao_lt dao it field)]
  unfold Delivers
  rw [same]
  exact Iff.rfl

theorem delivers_daoGetDatabase_iff (coherent : manager.Coherent) (staffed : manager.Staffed)
    (dao : DaoRef) :
    Delivers always manager (.daoGetDatabase dao dbName) ↔ ¬ manager.Stale dbName := by
  have coherentNext := coherent.connectionDB always dao dbName
  rcases staffed.connectionDB coherent dao dbName with
    ⟨next, it, handle, connected, staffedNext, field, current, _, currentDb, held, isOpen⟩
  rw [Effect.final_of_ok connected] at coherentNext
  have same : (machine always).perform (.daoGetDatabase dao dbName) manager =
      (machine always).perform (.fetch dao dbName) next := by
    simp only [machine, observe, BaseDao.run_getDatabase_of_ok connected]
  have delivered := delivers_fetch_iff coherentNext staffedNext field dbName
  have serves : next.Serves dbName it ↔ (next.handles handle).isOpen = true := by
    constructor
    · rintro ⟨_, _, other, otherHeld, otherOpen⟩
      rw [held] at otherHeld
      cases otherHeld
      exact otherOpen
    · intro handleOpen
      exact ⟨current, currentDb, handle, held, handleOpen⟩
  rw [← isOpen, ← serves, ← delivered]
  unfold Delivers
  rw [same]
  exact Iff.rfl

/-- One operation delivers exactly if it is served. -/
theorem delivers_iff_served (coherent : manager.Coherent) (staffed : manager.Staffed)
    {action : Action} (returned : manager.Returned action) :
    Delivers always manager action ↔ manager.Served action := by
  cases action with
  | create dbName => exact iff_of_true (delivers_of_requested_none rfl) trivial
  | getDatabase it dbName => exact delivers_getDatabase_iff coherent staffed returned
  | connectionDB dao dbName => exact iff_of_true (delivers_of_requested_none rfl) trivial
  | fetch dao dbName =>
      rcases returned with ⟨it, field⟩
      rw [delivers_fetch_iff coherent staffed field]
      constructor
      · intro serves
        exact ⟨it, field, serves⟩
      · rintro ⟨other, otherField, serves⟩
        rw [field] at otherField
        cases otherField
        exact serves
  | daoGetDatabase dao dbName => exact delivers_daoGetDatabase_iff coherent staffed dao
  | close handle => exact iff_of_true (delivers_of_requested_none rfl) trivial

/-! ## Delivery along a run -/

/-- With all opens succeeding, every operation keeps every instance staffed. -/
theorem Manager.Staffed.perform (coherent : manager.Coherent) (staffed : manager.Staffed)
    (action : Action) : ((machine always).perform action manager).2.Staffed := by
  have getDatabase : ∀ it dbName,
      (Effect.final (ModuleDB.getDatabase always it dbName) manager).Staffed := by
    intro it dbName
    rcases ModuleDB.final_getDatabase always it dbName manager with same | created
    · rw [same]
      exact staffed
    · rw [created]
      exact staffed.create dbName
  cases action with
  | create dbName =>
      simp only [machine, snd_observe]
      exact staffed.create dbName
  | getDatabase it dbName =>
      simp only [machine, snd_observe]
      exact getDatabase it dbName
  | connectionDB dao dbName =>
      rcases staffed.connectionDB coherent dao dbName with ⟨next, _, _, connected, after, _⟩
      simp only [machine, snd_observe, Effect.final_of_ok connected]
      exact after
  | fetch dao dbName =>
      simp only [machine, snd_observe]
      cases field : manager.moduleDB dao with
      | none =>
          rw [Effect.final_of_error (BaseDao.run_fetch_of_none field dbName)]
          exact staffed
      | some it =>
          rw [Effect.final, BaseDao.run_fetch_of_some field]
          exact getDatabase it dbName
  | daoGetDatabase dao dbName =>
      rcases staffed.connectionDB coherent dao dbName with
        ⟨next, it, _, connected, after, field, _⟩
      have same : Effect.final (BaseDao.getDatabase always dao dbName) manager =
          Effect.final (ModuleDB.getDatabase always it dbName) next := by
        simp only [Effect.final, BaseDao.run_getDatabase_of_ok connected,
          BaseDao.run_fetch_of_some field]
      simp only [machine, snd_observe, same]
      rcases ModuleDB.final_getDatabase always it dbName next with unchanged | created
      · rw [unchanged]
        exact after
      · rw [created]
        exact after.create dbName
  | close handle =>
      simp only [machine, snd_observe,
        Effect.final_of_ok (SQLiteDatabase.run_close manager handle)]
      exact staffed

theorem Manager.staffed_initial : Manager.initial.Staffed := by
  intro it allocated
  exact absurd allocated (Nat.not_lt_zero it)

/-- A run delivers at every step exactly if each of its operations is served
in the state that it finds. -/
theorem delivers_along_iff (run : List Action)
    (returned : (machine always).Along Manager.Returned Manager.initial run) :
    (machine always).Along (Delivers always) Manager.initial run ↔
      (machine always).Along Manager.Served Manager.initial run := by
  apply (machine always).along_congr Manager.Returned
    fun manager => manager.Coherent ∧ manager.Staffed
  · rintro state action ⟨coherent, staffed⟩ _
    exact ⟨coherent.perform action, staffed.perform coherent action⟩
  · rintro state action ⟨coherent, staffed⟩ legal
    exact delivers_iff_served coherent staffed legal
  · exact ⟨Manager.coherent_initial, Manager.staffed_initial⟩
  · exact returned

/-- The theorem on a run that reopens after a switch of names. -/
theorem delivers_along_switch :
    (machine always).Along (Delivers always) Manager.initial
      [.create "demo1", .getDatabase 0 "demo1", .daoGetDatabase 0 "demo2"] := by
  apply (delivers_along_iff _ ?_).mpr
  · refine ⟨trivial, ⟨rfl, rfl, 0, rfl, rfl⟩, ?_, trivial⟩
    rintro ⟨it, handle, current, currentDb, _⟩
    cases current
    revert currentDb
    decide
  · exact ⟨trivial, Nat.zero_lt_one, trivial, trivial⟩

/-- An instance created for one database returns its handle for another. -/
theorem not_delivers_under_other_name :
    ¬ ∀ run, (machine always).Along Manager.Returned Manager.initial run →
      (machine always).Along (Delivers always) Manager.initial run := by
  intro claim
  have delivered := claim [.create "demo1", .getDatabase 0 "demo2"]
    ⟨trivial, Nat.zero_lt_one, trivial⟩
  have wrong := (delivered.2.1 "demo2" 0 rfl rfl).2
  revert wrong
  decide

end Connection
end ModuleDatabase
