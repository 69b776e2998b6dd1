import Mathlib.Data.String.Basic
import ModuleDatabase.Base.Run
import ModuleDatabase.Connection.Steps

namespace ModuleDatabase
namespace Connection

/-!
# What every reachable state satisfies

The static field, the instances and the handles are tied together by one
invariant, `Coherent`.  Its central clause is ownership: a handle that is
open is the `db` of the current instance.  Replaced instances therefore hold
closed handles only, which is what decides most questions about
`getDatabase`.  The invariant does not depend on which opens fail.
-/

/-- The operations that callers perform on the manager. -/
inductive Action where
  | create (dbName : String)
  | getDatabase (it : InstanceRef) (dbName : String)
  | connectionDB (dao : DaoRef) (dbName : String)
  | fetch (dao : DaoRef) (dbName : String)
  | daoGetDatabase (dao : DaoRef) (dbName : String)
  | close (handle : DatabaseRef)
  deriving DecidableEq, Repr

/-- How an operation ends. -/
inductive Outcome where
  | created (it : Option InstanceRef)
  | returned (handle : DatabaseRef)
  | done
  | thrown (exception : Exception)
  deriving DecidableEq, Repr

/-- Run a program and note how it ends. -/
def observe {α : Type} (note : α → Outcome) (program : Program α) (manager : Manager) :
    Outcome × Manager :=
  match program.run manager with
  | .ok value next => (note value, next)
  | .error exception next => (.thrown exception, next)

/-- The manager as a machine.  Callers go on after an exception. -/
def machine (opens : Nat → Bool) : Machine Manager Action Outcome where
  perform
    | .create dbName => observe .created (ModuleDB.create opens dbName)
    | .getDatabase it dbName => observe .returned (ModuleDB.getDatabase opens it dbName)
    | .connectionDB dao dbName => observe (fun _ => .done) (BaseDao.connectionDB opens dao dbName)
    | .fetch dao dbName => observe .returned (BaseDao.fetch opens dao dbName)
    | .daoGetDatabase dao dbName => observe .returned (BaseDao.getDatabase opens dao dbName)
    | .close handle => observe (fun _ => .done) (SQLiteDatabase.close handle)

/-- The name an operation asks a handle for. -/
def Action.requested : Action → Option String
  | .getDatabase _ dbName | .fetch _ dbName | .daoGetDatabase _ dbName => some dbName
  | _ => none

namespace Manager

/-- A handle is open on the file of this database. -/
def OpenFor (manager : Manager) (dbName : String) (handle : DatabaseRef) : Prop :=
  (manager.handles handle).isOpen = true ∧ (manager.handles handle).file = fileOf dbName

/-- The invariant of the heap. -/
structure Coherent (manager : Manager) : Prop where
  current_lt : ∀ it, manager.mInstance = some it → it < manager.instanceCount
  dao_lt : ∀ dao it, manager.moduleDB dao = some it → it < manager.instanceCount
  db_lt : ∀ it handle, (manager.instances it).db = some handle →
    it < manager.instanceCount ∧ handle < manager.handleCount
  named : ∀ it handle, (manager.instances it).db = some handle →
    ∃ dbName, (manager.instances it).currentDb = some dbName ∧
      (manager.handles handle).file = fileOf dbName
  staffed : ∀ it dbName, (manager.instances it).currentDb = some dbName →
    ∃ handle, (manager.instances it).db = some handle
  owner : ∀ handle, (manager.handles handle).isOpen = true →
    ∃ it, manager.mInstance = some it ∧ (manager.instances it).db = some handle
  unshared : ∀ first second handle, (manager.instances first).db = some handle →
    (manager.instances second).db = some handle → first = second

theorem coherent_initial : Manager.initial.Coherent := by
  constructor <;> simp [Manager.initial]

end Manager

theorem fileOf_injective {first second : String} (same : fileOf first = fileOf second) :
    first = second := by
  apply String.toList_injective
  have lists := congrArg String.toList same
  simp only [fileOf, String.toList_append] at lists
  exact List.append_cancel_right lists

namespace Manager.Coherent

variable {manager : Manager}

/-- Closing handles keeps everything: an open handle was open before. -/
theorem closing (coherent : manager.Coherent) (handle : Option DatabaseRef) :
    (manager.closing handle).Coherent where
  current_lt := coherent.current_lt
  dao_lt := coherent.dao_lt
  db_lt := coherent.db_lt
  named := by
    intro it other held
    obtain ⟨dbName, name, file⟩ := coherent.named it other held
    refine ⟨dbName, name, ?_⟩
    simp only [Manager.closing]
    split <;> exact file
  staffed := coherent.staffed
  owner := by
    intro other isOpen
    apply coherent.owner other
    simp only [Manager.closing] at isOpen
    split at isOpen
    · cases isOpen
    · exact isOpen
  unshared := coherent.unshared

end Manager.Coherent

namespace Manager

@[simp]
theorem retired_db (manager : Manager) (it : InstanceRef) :
    (manager.retired.instances it).db = (manager.instances it).db := by
  cases current : manager.mInstance with
  | none => simp [retired, current]
  | some other =>
      by_cases same : it = other
      · subst same
        simp [retired, current]
      · simp [retired, current, Function.update_of_ne same]

@[simp]
theorem retired_currentDb (manager : Manager) (it : InstanceRef) :
    (manager.retired.instances it).currentDb = (manager.instances it).currentDb := by
  cases current : manager.mInstance with
  | none => simp [retired, current]
  | some other =>
      by_cases same : it = other
      · subst same
        simp [retired, current]
      · simp [retired, current, Function.update_of_ne same]

@[simp]
theorem retired_mInstance (manager : Manager) : manager.retired.mInstance = none := by
  cases current : manager.mInstance with
  | none => simp [retired, current]
  | some it => simp [retired, current]

@[simp]
theorem retired_moduleDB (manager : Manager) :
    manager.retired.moduleDB = manager.moduleDB := by
  unfold retired
  split <;> rfl

@[simp]
theorem retired_handleCount (manager : Manager) :
    manager.retired.handleCount = manager.handleCount := by
  unfold retired
  split <;> rfl

@[simp]
theorem retired_file (manager : Manager) (handle : DatabaseRef) :
    (manager.retired.handles handle).file = (manager.handles handle).file := by
  cases current : manager.mInstance with
  | none => simp [retired, current]
  | some it =>
      simp only [retired, current, closing]
      split <;> split <;> rfl

/-- Only a handle of the current instance changes, and it is closed. -/
theorem isOpen_of_retired {manager : Manager} {handle : DatabaseRef}
    (isOpen : (manager.retired.handles handle).isOpen = true) :
    (manager.handles handle).isOpen = true ∧
      ∀ it, manager.mInstance = some it → (manager.instances it).db ≠ some handle := by
  cases current : manager.mInstance with
  | none =>
      simp only [retired, current] at isOpen
      exact ⟨isOpen, by simp⟩
  | some it =>
      simp only [retired, current, closing] at isOpen
      split at isOpen
      · cases isOpen
      · split at isOpen
        · cases isOpen
        · rename_i different
          refine ⟨isOpen, ?_⟩
          intro other same
          cases same
          exact different

end Manager

namespace Manager.Coherent

variable {manager : Manager}

/-- After `ModuleDB.close` no handle is open: the only candidate was the
current instance's. -/
theorem retired_all_closed (coherent : manager.Coherent) (handle : DatabaseRef) :
    (manager.retired.handles handle).isOpen = false := by
  apply Bool.eq_false_iff.mpr
  intro isOpen
  have before := Manager.isOpen_of_retired isOpen
  obtain ⟨it, current, held⟩ := coherent.owner handle before.1
  exact before.2 it current held

theorem retired (coherent : manager.Coherent) : manager.retired.Coherent where
  current_lt := by simp
  dao_lt := by simpa using coherent.dao_lt
  db_lt := by simpa using coherent.db_lt
  named := by simpa using coherent.named
  staffed := by simpa using coherent.staffed
  owner := by
    intro handle isOpen
    rw [coherent.retired_all_closed handle] at isOpen
    cases isOpen
  unshared := by simpa using coherent.unshared

end Manager.Coherent

end Connection
end ModuleDatabase
