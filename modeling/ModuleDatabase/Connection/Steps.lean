import ModuleDatabase.Base.Effect
import ModuleDatabase.Connection.ModuleDB

namespace ModuleDatabase
namespace Connection

/-!
# What one call of the manager does

Each program of `ModuleDB` is reduced here to what it makes of a state.
`create` has three outcomes: it keeps the current instance, it replaces it by
one with an open handle, or the open fails and an instance without a handle
takes its place.  The later modules argue from these equations and unfold no
program.
-/

namespace Manager

/-- The heap after closing a handle, if there is one. -/
def closing (manager : Manager) (handle : Option DatabaseRef) : Manager :=
  { manager with
    handles := fun other =>
      if handle = some other then { manager.handles other with isOpen := false }
      else manager.handles other }

/-- The handle that the helper of an instance has cached. -/
def cached (manager : Manager) (it : InstanceRef) : Option DatabaseRef :=
  (manager.instances it).helper.bind ModuleDatabaseHelper.mDatabase

/-- The heap after `ModuleDB.close`. -/
def retired (manager : Manager) : Manager :=
  match manager.mInstance with
  | none => manager
  | some it =>
      { (manager.closing (manager.instances it).db).closing (manager.cached it) with
        instances := Function.update manager.instances it
          { manager.instances it with helper := none }
        mInstance := none }

/-- The heap after a successful `renew`. -/
def renewed (manager : Manager) (dbName : String) : Manager :=
  { manager with
    handles := Function.update manager.handles manager.handleCount ⟨fileOf dbName, true⟩
    handleCount := manager.handleCount + 1
    instances := Function.update manager.instances manager.instanceCount
      ⟨some ⟨fileOf dbName, some manager.handleCount⟩, some manager.handleCount, some dbName⟩
    instanceCount := manager.instanceCount + 1
    mInstance := some manager.instanceCount
    attempts := manager.attempts + 1 }

/-- The heap after a `renew` whose open has thrown.  The new instance has a
helper, but neither a handle nor a name, and it is already published. -/
def stillborn (manager : Manager) (dbName : String) : Manager :=
  { manager with
    instances := Function.update manager.instances manager.instanceCount
      ⟨some ⟨fileOf dbName, none⟩, none, none⟩
    instanceCount := manager.instanceCount + 1
    mInstance := some manager.instanceCount
    attempts := manager.attempts + 1 }

/-- The heap after `moduleDB = created` in a DAO. -/
def connected (manager : Manager) (dao : DaoRef) (created : Option InstanceRef) : Manager :=
  { manager with moduleDB := Function.update manager.moduleDB dao created }

@[simp]
theorem connected_moduleDB (manager : Manager) (dao : DaoRef) (created : Option InstanceRef) :
    (manager.connected dao created).moduleDB dao = created := Function.update_self ..

/-- `create(dbName)` keeps this instance. -/
def Keeps (manager : Manager) (dbName : String) (it : InstanceRef) : Prop :=
  manager.mInstance = some it ∧
    ((manager.instances it).db = none ∨ (manager.instances it).currentDb = some dbName)

end Manager

/-! ## Closing -/

@[simp]
theorem Manager.closing_instances (manager : Manager) (handle : Option DatabaseRef) :
    (manager.closing handle).instances = manager.instances := rfl

@[simp]
theorem Manager.closing_cached (manager : Manager) (handle : Option DatabaseRef)
    (it : InstanceRef) : (manager.closing handle).cached it = manager.cached it := rfl

theorem SQLiteDatabase.run_close (manager : Manager) (handle : DatabaseRef) :
    (SQLiteDatabase.close handle).run manager = .ok () (manager.closing (some handle)) := by
  have same : Function.update manager.handles handle
      { manager.handles handle with isOpen := false } =
      (manager.closing (some handle)).handles := by
    funext other
    by_cases equal : other = handle
    · subst equal
      simp [Manager.closing]
    · simp [Manager.closing, Function.update_of_ne equal, Ne.symm equal]
  simp only [SQLiteDatabase.close, EStateM.run_modify, same]
  rfl

theorem Manager.closing_none (manager : Manager) : manager.closing none = manager := rfl

theorem Manager.closing_of_closed (manager : Manager) {handle : DatabaseRef}
    (closed : (manager.handles handle).isOpen = false) :
    manager.closing (some handle) = manager := by
  have same : (manager.closing (some handle)).handles = manager.handles := by
    funext other
    by_cases equal : handle = other
    · subst equal
      simp [Manager.closing, ← closed]
    · simp [Manager.closing, equal]
  calc
    manager.closing (some handle) =
        { manager with handles := (manager.closing (some handle)).handles } := rfl
    _ = manager := by rw [same]

theorem ModuleDatabaseHelper.run_close (manager : Manager) (helper : ModuleDatabaseHelper) :
    helper.close.run manager = .ok () (manager.closing helper.mDatabase) := by
  cases cached : helper.mDatabase with
  | none => simp [ModuleDatabaseHelper.close, cached, Manager.closing_none]
  | some handle =>
      by_cases isOpen : (manager.handles handle).isOpen = true
      · simp [ModuleDatabaseHelper.close, cached, isOpen, SQLiteDatabase.run_close]
      · have same := manager.closing_of_closed (Bool.eq_false_iff.mpr isOpen)
        simp [ModuleDatabaseHelper.close, cached, isOpen, same]

theorem ModuleDB.run_closeDb (manager : Manager) (it : InstanceRef) :
    (ModuleDB.closeDb it).run manager = .ok () (manager.closing (manager.instances it).db) := by
  cases handle : (manager.instances it).db with
  | none => simp [ModuleDB.closeDb, handle, Manager.closing_none]
  | some reference => simp [ModuleDB.closeDb, handle, SQLiteDatabase.run_close]

theorem ModuleDB.run_closeHelper (manager : Manager) (it : InstanceRef) :
    (ModuleDB.closeHelper it).run manager = .ok ()
      { manager.closing (manager.cached it) with
        instances := Function.update manager.instances it
          { manager.instances it with helper := none } } := by
  cases installed : (manager.instances it).helper with
  | none =>
      have same : Function.update manager.instances it
          { manager.instances it with helper := none } = manager.instances := by
        rw [← installed]
        exact Function.update_eq_self it manager.instances
      simp [ModuleDB.closeHelper, installed, Manager.cached, Manager.closing_none, same]
  | some helper =>
      simp [ModuleDB.closeHelper, installed, Manager.cached, ModuleDatabaseHelper.run_close,
        ModuleDB.assign, Manager.closing]

theorem ModuleDB.run_close (manager : Manager) :
    ModuleDB.close.run manager = .ok () manager.retired := by
  cases current : manager.mInstance with
  | none => simp [ModuleDB.close, current, Manager.retired]
  | some it =>
      simp [ModuleDB.close, current, Manager.retired, ModuleDB.run_closeDb,
        ModuleDB.run_closeHelper]

/-! ## Opening -/

variable {opens : Nat → Bool}

theorem ModuleDB.run_renew_of_opens {manager : Manager} {dbName : String}
    (succeeds : opens manager.attempts = true) :
    (ModuleDB.renew opens dbName).run manager = .ok () (manager.renewed dbName) := by
  simp [ModuleDB.renew, ModuleDB.open, ModuleDB.assign, ModuleDatabaseHelper.writableDatabase,
    succeeds, Manager.renewed]

theorem ModuleDB.run_renew_of_fails {manager : Manager} {dbName : String}
    (fails : opens manager.attempts = false) :
    (ModuleDB.renew opens dbName).run manager =
      .error .openFailed (manager.stillborn dbName) := by
  simp [ModuleDB.renew, ModuleDB.open, ModuleDB.assign, ModuleDatabaseHelper.writableDatabase,
    fails, Manager.stillborn]

@[simp]
theorem Manager.retired_attempts (manager : Manager) :
    manager.retired.attempts = manager.attempts := by
  unfold Manager.retired
  split <;> rfl

@[simp]
theorem Manager.retired_instanceCount (manager : Manager) :
    manager.retired.instanceCount = manager.instanceCount := by
  unfold Manager.retired
  split <;> rfl

/-- `create` keeps an instance that has no handle, whatever the name, and one
that was opened for the name, whether or not its handle is still open. -/
theorem ModuleDB.run_create_of_keeps {manager : Manager} {dbName : String} {it : InstanceRef}
    (keeps : manager.Keeps dbName it) :
    (ModuleDB.create opens dbName).run manager = .ok (some it) manager := by
  obtain ⟨current, noHandle | sameName⟩ := keeps
  · simp [ModuleDB.create, current, noHandle]
  · simp [ModuleDB.create, current, sameName]

/-- In every other state `create` tears the current instance down and renews. -/
theorem ModuleDB.run_create_of_not_keeps (opens : Nat → Bool) {manager : Manager}
    {dbName : String}
    (replaces : ∀ it, ¬ manager.Keeps dbName it) :
    (ModuleDB.create opens dbName).run manager =
      if opens manager.attempts then
        .ok (some manager.instanceCount) (manager.retired.renewed dbName)
      else .error .openFailed (manager.retired.stillborn dbName) := by
  have renews : (ModuleDB.create opens dbName).run manager =
      (do ModuleDB.renew opens dbName; return (← get).mInstance :
        Program (Option InstanceRef)).run manager.retired := by
    cases current : manager.mInstance with
    | none => simp [ModuleDB.create, current, Manager.retired]
    | some it =>
        have different := replaces it
        simp only [Manager.Keeps, current, true_and, not_or] at different
        have handle : (manager.instances it).db.isSome = true :=
          Option.isSome_iff_ne_none.mpr different.1
        simp [ModuleDB.create, current, handle, different.2, ModuleDB.run_close]
  rw [renews]
  cases outcome : opens manager.attempts with
  | true =>
      have succeeds : opens manager.retired.attempts = true := by simpa using outcome
      simp [ModuleDB.run_renew_of_opens succeeds, Manager.renewed]
  | false =>
      have fails : opens manager.retired.attempts = false := by simpa using outcome
      simp [ModuleDB.run_renew_of_fails fails]

/-- The three outcomes of `create`. -/
theorem ModuleDB.create_cases (opens : Nat → Bool) (manager : Manager) (dbName : String) :
    (∃ it, manager.Keeps dbName it ∧
        (ModuleDB.create opens dbName).run manager = .ok (some it) manager) ∨
      ((∀ it, ¬ manager.Keeps dbName it) ∧ opens manager.attempts = true ∧
        (ModuleDB.create opens dbName).run manager =
          .ok (some manager.instanceCount) (manager.retired.renewed dbName)) ∨
      ((∀ it, ¬ manager.Keeps dbName it) ∧ opens manager.attempts = false ∧
        (ModuleDB.create opens dbName).run manager =
          .error .openFailed (manager.retired.stillborn dbName)) := by
  by_cases keeps : ∃ it, manager.Keeps dbName it
  · obtain ⟨it, keeps⟩ := keeps
    exact Or.inl ⟨it, keeps, ModuleDB.run_create_of_keeps keeps⟩
  · have replaces := not_exists.mp keeps
    have equation := ModuleDB.run_create_of_not_keeps opens replaces
    cases outcome : opens manager.attempts with
    | true => exact Or.inr (Or.inl ⟨replaces, rfl, by rw [equation, outcome, if_pos rfl]⟩)
    | false => exact Or.inr (Or.inr ⟨replaces, rfl, by rw [equation, outcome]; rfl⟩)

/-! ## Asking an instance -/

/-- An instance with an open handle returns it and does nothing else, whatever
name it is asked for. -/
theorem ModuleDB.run_getDatabase_of_isOpen {manager : Manager} {it : InstanceRef}
    {handle : DatabaseRef} (held : (manager.instances it).db = some handle)
    (isOpen : (manager.handles handle).isOpen = true) (dbName : String) :
    (ModuleDB.getDatabase opens it dbName).run manager = .ok handle manager := by
  simp [ModuleDB.getDatabase, held, isOpen]

/-- An instance without an open handle calls `create` and then reads its own
field `db` again. -/
theorem ModuleDB.run_getDatabase_of_closed {manager : Manager} {it : InstanceRef}
    (closed : ∀ handle, (manager.instances it).db = some handle →
      (manager.handles handle).isOpen = false) (dbName : String) :
    (ModuleDB.getDatabase opens it dbName).run manager =
      match (ModuleDB.create opens dbName).run manager with
      | .ok _ next =>
          match (next.instances it).db with
          | some handle => .ok handle next
          | none => .error .nullPointer next
      | .error exception next => .error exception next := by
  have unusable : (manager.instances it).db.any
      (fun handle => (manager.handles handle).isOpen) = false := by
    simpa [Option.any_eq_false] using closed
  simp only [ModuleDB.getDatabase, EStateM.run_bind, EStateM.run_get, unusable, Bool.not_false,
    if_true]
  cases (ModuleDB.create opens dbName).run manager with
  | error exception next => rfl
  | ok created next =>
      dsimp only
      cases (next.instances it).db <;> rfl

/-! ## The two steps of a DAO -/

theorem BaseDao.run_connectionDB_of_ok {manager next : Manager} {dbName : String}
    {created : Option InstanceRef}
    (ends : (ModuleDB.create opens dbName).run manager = .ok created next) (dao : DaoRef) :
    (BaseDao.connectionDB opens dao dbName).run manager =
      .ok () (next.connected dao created) := by
  simp [BaseDao.connectionDB, ends, Manager.connected]

theorem BaseDao.run_connectionDB_of_error {manager next : Manager} {dbName : String}
    {exception : Exception}
    (ends : (ModuleDB.create opens dbName).run manager = .error exception next) (dao : DaoRef) :
    (BaseDao.connectionDB opens dao dbName).run manager = .error exception next := by
  simp [BaseDao.connectionDB, ends]

theorem BaseDao.run_fetch_of_some {manager : Manager} {dao : DaoRef} {it : InstanceRef}
    (field : manager.moduleDB dao = some it) (dbName : String) :
    (BaseDao.fetch opens dao dbName).run manager =
      (ModuleDB.getDatabase opens it dbName).run manager := by
  simp [BaseDao.fetch, field]

theorem BaseDao.run_fetch_of_none {manager : Manager} {dao : DaoRef}
    (field : manager.moduleDB dao = none) (dbName : String) :
    (BaseDao.fetch opens dao dbName).run manager = .error .nullPointer manager := by
  simp [BaseDao.fetch, field]

theorem BaseDao.run_getDatabase_of_ok {manager next : Manager} {dao : DaoRef} {dbName : String}
    (connects : (BaseDao.connectionDB opens dao dbName).run manager = .ok () next) :
    (BaseDao.getDatabase opens dao dbName).run manager =
      (BaseDao.fetch opens dao dbName).run next := by
  simp [BaseDao.getDatabase, connects]

theorem BaseDao.run_getDatabase_of_error {manager next : Manager} {dao : DaoRef}
    {dbName : String} {exception : Exception}
    (fails : (BaseDao.connectionDB opens dao dbName).run manager = .error exception next) :
    (BaseDao.getDatabase opens dao dbName).run manager = .error exception next := by
  simp [BaseDao.getDatabase, fails]

end Connection
end ModuleDatabase
