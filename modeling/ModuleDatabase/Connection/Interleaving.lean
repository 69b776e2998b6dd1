import ModuleDatabase.Connection.Delivery

namespace ModuleDatabase
namespace Connection

/-!
# Interleaved callers

A DAO call takes two atomic steps: it stores the result of `create` in the
field `moduleDB` of its DAO, and it then asks the instance that it reads back
from that field.  Any number of calls run at once; a schedule orders their
steps.  Calls may share a DAO, and all of them share the static instance.

Between the two steps of one call another call may replace the current
instance, or overwrite the field.  The condition for a correct answer is a
statement about the state that the second step finds: the field still refers
to the current instance, and that instance was created for the call's name.
-/

/-- One `BaseDao.getDatabase(dbName)` through the DAO `dao`. -/
structure Call where
  dao : DaoRef
  dbName : String
  deriving DecidableEq, Repr

/-- How far a call has got. -/
inductive Stage where
  | idle
  | connected
  | answered
  deriving DecidableEq, Repr

/-- A step of one of the calls: `connect` is step (1), `answer` step (2). -/
inductive CallStep where
  | connect (call : Nat)
  | answer (call : Nat)
  deriving DecidableEq, Repr

structure Scene where
  manager : Manager
  stage : Nat → Stage

/-- No call has started. -/
def Scene.initial : Scene := ⟨Manager.initial, fun _ => .idle⟩

/-- The step of a call as an operation on the manager. -/
def CallStep.action (calls : Nat → Call) : CallStep → Action
  | .connect call => .connectionDB (calls call).dao (calls call).dbName
  | .answer call => .fetch (calls call).dao (calls call).dbName

/-- The stage of a call after its step. -/
def CallStep.advance : CallStep → (Nat → Stage) → Nat → Stage
  | .connect call, stage => Function.update stage call .connected
  | .answer call, stage => Function.update stage call .answered

/-- All callers together. -/
def callers (calls : Nat → Call) : Machine Scene CallStep Outcome where
  perform step scene :=
    let result := (machine always).perform (step.action calls) scene.manager
    (result.1, ⟨result.2, step.advance scene.stage⟩)

/-- Each call takes step (1) and then step (2), once. -/
def Scene.InOrder (scene : Scene) : CallStep → Prop
  | .connect call => scene.stage call = .idle
  | .answer call => scene.stage call = .connected

/-- The step answers with an open handle of the call's database. -/
def Scene.Answers (calls : Nat → Call) (scene : Scene) (step : CallStep) : Prop :=
  Delivers always scene.manager (step.action calls)

/-- The manager is still set to this name, through this DAO. -/
def Manager.Holds (manager : Manager) (dao : DaoRef) (dbName : String) : Prop :=
  ∃ it, manager.moduleDB dao = some it ∧ manager.mInstance = some it ∧
    (manager.instances it).currentDb = some dbName

/-- Nobody has come between the call and its answer in a way that matters. -/
def Scene.Undisturbed (calls : Nat → Call) (scene : Scene) : CallStep → Prop
  | .connect _ => True
  | .answer call => scene.manager.Holds (calls call).dao (calls call).dbName

namespace Manager

/-- The handle of the current instance is open: nobody closes handles from
outside. -/
def Live (manager : Manager) : Prop :=
  ∀ it handle, manager.mInstance = some it → (manager.instances it).db = some handle →
    (manager.handles handle).isOpen = true

theorem live_initial : Manager.initial.Live := by
  intro it handle current
  cases current

variable {manager : Manager} {dbName : String}

theorem Live.create (live : manager.Live) (dbName : String) :
    (Effect.final (ModuleDB.create always dbName) manager).Live := by
  rcases ModuleDB.create_cases always manager dbName with
    ⟨_, _, kept⟩ | ⟨_, _, renewed⟩ | ⟨_, fails, _⟩
  · rw [Effect.final_of_ok kept]
    exact live
  · rw [Effect.final_of_ok renewed]
    intro it handle current held
    cases current
    rcases (renewed_db _ handle).mp held with ⟨_, new⟩ | ⟨different, _⟩
    · rw [new]
      simp [Manager.renewed]
    · exact absurd rfl different
  · cases fails

theorem Live.getDatabase (live : manager.Live) (it : InstanceRef) (dbName : String) :
    (Effect.final (ModuleDB.getDatabase always it dbName) manager).Live := by
  rcases ModuleDB.final_getDatabase always it dbName manager with same | created
  · rw [same]
    exact live
  · rw [created]
    exact live.create dbName

theorem Live.action (live : manager.Live) (calls : Nat → Call) (step : CallStep) :
    ((machine always).perform (step.action calls) manager).2.Live := by
  cases step with
  | connect call =>
      have after := live.create (calls call).dbName
      simp only [CallStep.action, machine, snd_observe]
      cases created : (ModuleDB.create always (calls call).dbName).run manager with
      | error exception next =>
          rw [Effect.final_of_error created] at after
          rw [Effect.final_of_error (BaseDao.run_connectionDB_of_error created _)]
          exact after
      | ok value next =>
          rw [Effect.final_of_ok created] at after
          rw [Effect.final_of_ok (BaseDao.run_connectionDB_of_ok created _)]
          exact after
  | answer call =>
      simp only [CallStep.action, machine, snd_observe]
      cases field : manager.moduleDB (calls call).dao with
      | none =>
          rw [Effect.final_of_error (BaseDao.run_fetch_of_none field _)]
          exact live
      | some it =>
          rw [Effect.final, BaseDao.run_fetch_of_some field]
          exact live.getDatabase it _

/-- While the current handle is open, serving a name is a matter of fields. -/
theorem Live.serves_iff (live : manager.Live) (coherent : manager.Coherent)
    (it : InstanceRef) (dbName : String) :
    manager.Serves dbName it ↔
      manager.mInstance = some it ∧ (manager.instances it).currentDb = some dbName := by
  constructor
  · rintro ⟨current, currentDb, _⟩
    exact ⟨current, currentDb⟩
  · rintro ⟨current, currentDb⟩
    rcases coherent.staffed it dbName currentDb with ⟨handle, held⟩
    exact ⟨current, currentDb, handle, held, live it handle current held⟩

end Manager

/-! ## The invariant of all schedules -/

structure Scene.Sound (calls : Nat → Call) (scene : Scene) : Prop where
  coherent : scene.manager.Coherent
  staffed : scene.manager.Staffed
  live : scene.manager.Live
  connected : ∀ call, scene.stage call = .connected →
    ∃ it, scene.manager.moduleDB (calls call).dao = some it

theorem Scene.sound_initial (calls : Nat → Call) : Scene.initial.Sound calls where
  coherent := Manager.coherent_initial
  staffed := Manager.staffed_initial
  live := Manager.live_initial
  connected := by
    intro call stage
    cases stage

variable {calls : Nat → Call} {scene : Scene}

/-- `getDatabase` writes no field of a DAO. -/
theorem moduleDB_final_getDatabase (manager : Manager) (it : InstanceRef) (dbName : String) :
    (Effect.final (ModuleDB.getDatabase always it dbName) manager).moduleDB =
      manager.moduleDB := by
  rcases ModuleDB.final_getDatabase always it dbName manager with same | created
  · rw [same]
  · rw [created]
    rcases ModuleDB.create_cases always manager dbName with
      ⟨_, _, kept⟩ | ⟨_, _, renewed⟩ | ⟨_, fails, _⟩
    · rw [Effect.final_of_ok kept]
    · rw [Effect.final_of_ok renewed]
      simp [Manager.renewed]
    · cases fails

/-- Step (1) makes the manager hold the call's name, through the call's DAO. -/
theorem Scene.Sound.connect_holds (sound : scene.Sound calls) (call : Nat) :
    ((callers calls).perform (.connect call) scene).2.manager.Holds
      (calls call).dao (calls call).dbName := by
  rcases sound.staffed.connectionDB sound.coherent (calls call).dao (calls call).dbName with
    ⟨next, it, _, connected, _, field, current, _, currentDb, _⟩
  simp only [callers, CallStep.action, machine, snd_observe, Effect.final_of_ok connected]
  exact ⟨it, field, current, currentDb⟩

/-- Step (1) writes the field of its own DAO only. -/
theorem Scene.Sound.connect_moduleDB (sound : scene.Sound calls) (call : Nat) {dao : DaoRef}
    {it : InstanceRef} (field : scene.manager.moduleDB dao = some it) :
    ∃ other, ((callers calls).perform (.connect call) scene).2.manager.moduleDB dao =
      some other := by
  by_cases own : dao = (calls call).dao
  · subst own
    rcases sound.connect_holds call with ⟨other, after, _⟩
    exact ⟨other, after⟩
  · refine ⟨it, ?_⟩
    simp only [callers, CallStep.action, machine, snd_observe]
    rcases ModuleDB.create_cases always scene.manager (calls call).dbName with
      ⟨_, _, kept⟩ | ⟨_, _, renewed⟩ | ⟨_, fails, _⟩
    · rw [Effect.final_of_ok (BaseDao.run_connectionDB_of_ok kept _)]
      simp only [Manager.connected, Function.update_of_ne own, field]
    · rw [Effect.final_of_ok (BaseDao.run_connectionDB_of_ok renewed _)]
      simp only [Manager.connected, Function.update_of_ne own, Manager.renewed,
        Manager.retired_moduleDB, field]
    · cases fails

theorem Scene.Sound.answer_moduleDB (call : Nat) (dao : DaoRef) :
    ((callers calls).perform (.answer call) scene).2.manager.moduleDB dao =
      scene.manager.moduleDB dao := by
  simp only [callers, CallStep.action, machine, snd_observe]
  cases field : scene.manager.moduleDB (calls call).dao with
  | none => rw [Effect.final_of_error (BaseDao.run_fetch_of_none field _)]
  | some it =>
      rw [Effect.final, BaseDao.run_fetch_of_some field]
      exact congrFun (moduleDB_final_getDatabase scene.manager it _) dao

/-- Every step of every call keeps the invariant. -/
theorem Scene.Sound.perform (sound : scene.Sound calls) (step : CallStep) :
    ((callers calls).perform step scene).2.Sound calls where
  coherent := sound.coherent.perform (step.action calls)
  staffed := sound.staffed.perform sound.coherent (step.action calls)
  live := sound.live.action calls step
  connected := by
    intro other stage
    cases step with
    | connect call =>
        by_cases own : other = call
        · subst own
          rcases sound.connect_holds other with ⟨it, field, _⟩
          exact ⟨it, field⟩
        · have before : scene.stage other = .connected := by
            simpa [callers, CallStep.advance, Function.update_of_ne own] using stage
          rcases sound.connected other before with ⟨it, field⟩
          exact sound.connect_moduleDB call field
    | answer call =>
        by_cases own : other = call
        · subst own
          simp [callers, CallStep.advance] at stage
        · have before : scene.stage other = .connected := by
            simpa [callers, CallStep.advance, Function.update_of_ne own] using stage
          rcases sound.connected other before with ⟨it, field⟩
          exact ⟨it, by rw [Scene.Sound.answer_moduleDB]; exact field⟩

/-- One step answers correctly exactly if the call is undisturbed. -/
theorem Scene.Sound.answers_iff (sound : scene.Sound calls) {step : CallStep}
    (inOrder : scene.InOrder step) : scene.Answers calls step ↔ scene.Undisturbed calls step := by
  cases step with
  | connect call => exact iff_of_true (delivers_of_requested_none rfl) trivial
  | answer call =>
      rcases sound.connected call inOrder with ⟨it, field⟩
      have delivers := delivers_fetch_iff sound.coherent sound.staffed field (calls call).dbName
      have serves := sound.live.serves_iff sound.coherent it (calls call).dbName
      refine delivers.trans (serves.trans ?_)
      constructor
      · rintro ⟨current, currentDb⟩
        exact ⟨it, field, current, currentDb⟩
      · rintro ⟨other, otherField, current, currentDb⟩
        rw [field] at otherField
        cases otherField
        exact ⟨current, currentDb⟩

/-- In every schedule of any calls, all answers are right exactly if every
step (2) is undisturbed. -/
theorem answers_along_iff (calls : Nat → Call) (schedule : List CallStep)
    (inOrder : (callers calls).Along Scene.InOrder Scene.initial schedule) :
    (callers calls).Along (Scene.Answers calls) Scene.initial schedule ↔
      (callers calls).Along (Scene.Undisturbed calls) Scene.initial schedule := by
  apply (callers calls).along_congr Scene.InOrder (Scene.Sound calls)
  · intro state step sound _
    exact sound.perform step
  · intro state step sound legal
    exact sound.answers_iff legal
  · exact Scene.sound_initial calls
  · exact inOrder

/-- The theorem on two calls for one database through two DAOs. -/
theorem answers_along_two_daos :
    (callers fun call => ⟨call, "demo1"⟩).Along (Scene.Answers fun call => ⟨call, "demo1"⟩)
      Scene.initial [.connect 0, .connect 1, .answer 0, .answer 1] := by
  refine (answers_along_iff _ _ ?_).mpr ?_
  · exact ⟨rfl, rfl, rfl, rfl, trivial⟩
  · exact ⟨trivial, trivial, ⟨0, rfl, rfl, rfl⟩, ⟨0, rfl, rfl, rfl⟩, trivial⟩

/-- Two calls for different databases share a DAO, and the second one takes
its first step between the steps of the first: both get the same handle. -/
theorem not_answers_shared_dao :
    ¬ ∀ (calls : Nat → Call) (schedule : List CallStep),
      (callers calls).Along Scene.InOrder Scene.initial schedule →
      (callers calls).Along (Scene.Answers calls) Scene.initial schedule := by
  intro claim
  have answered := claim (fun call => if call = 0 then ⟨0, "demo1"⟩ else ⟨0, "demo2"⟩)
    [.connect 0, .connect 1, .answer 0] ⟨rfl, rfl, rfl, trivial⟩
  have wrong := (answered.2.2.1 "demo1" 1 rfl rfl).2
  revert wrong
  decide

end Connection
end ModuleDatabase
