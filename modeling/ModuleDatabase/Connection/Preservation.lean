import ModuleDatabase.Connection.Coherence

namespace ModuleDatabase
namespace Connection

/-!
# Every operation keeps the heap coherent

The three outcomes of `create` are treated first.  What `getDatabase` returns
is the field `db` of the instance it was called on, and no program ever
assigns that field of an instance that already exists; so a `getDatabase`
that had to call `create` cannot return an open handle.
-/

namespace Manager

variable {manager : Manager} {dbName : String}

/-- The next instance has no fields yet. -/
theorem Coherent.fresh_db (coherent : manager.Coherent) :
    (manager.instances manager.instanceCount).db = none := by
  cases held : (manager.instances manager.instanceCount).db with
  | none => rfl
  | some handle =>
      exact absurd (coherent.db_lt _ _ held).1 (Nat.lt_irrefl _)

/-- Which instance holds which handle after a successful `renew`. -/
theorem renewed_db (it : InstanceRef) (handle : DatabaseRef) :
    ((manager.renewed dbName).instances it).db = some handle ↔
      (it = manager.instanceCount ∧ handle = manager.handleCount) ∨
        (it ≠ manager.instanceCount ∧ (manager.instances it).db = some handle) := by
  by_cases fresh : it = manager.instanceCount
  · subst fresh
    simp [renewed, eq_comm]
  · simp [renewed, fresh]

theorem Coherent.renewed (coherent : manager.Coherent)
    (closed : ∀ handle, (manager.handles handle).isOpen = false) (dbName : String) :
    (manager.renewed dbName).Coherent where
  current_lt := by
    intro it current
    cases current
    exact Nat.lt_succ_self _
  dao_lt := by
    intro dao it held
    exact Nat.lt_succ_of_lt (coherent.dao_lt dao it held)
  db_lt := by
    intro it handle held
    rcases (renewed_db it handle).mp held with ⟨rfl, rfl⟩ | ⟨_, before⟩
    · exact ⟨Nat.lt_succ_self _, Nat.lt_succ_self _⟩
    · have bounds := coherent.db_lt it handle before
      exact ⟨Nat.lt_succ_of_lt bounds.1, Nat.lt_succ_of_lt bounds.2⟩
  named := by
    intro it handle held
    rcases (renewed_db it handle).mp held with ⟨rfl, rfl⟩ | ⟨different, before⟩
    · exact ⟨dbName, by simp [Manager.renewed], by simp [Manager.renewed]⟩
    · obtain ⟨name, currentDb, file⟩ := coherent.named it handle before
      have other : handle ≠ manager.handleCount :=
        Nat.ne_of_lt (coherent.db_lt it handle before).2
      refine ⟨name, ?_, ?_⟩
      · simpa [Manager.renewed, Function.update_of_ne different] using currentDb
      · simpa [Manager.renewed, Function.update_of_ne other] using file
  staffed := by
    intro it name currentDb
    by_cases fresh : it = manager.instanceCount
    · exact ⟨manager.handleCount, (renewed_db it _).mpr (Or.inl ⟨fresh, rfl⟩)⟩
    · have before : (manager.instances it).currentDb = some name := by
        simpa [Manager.renewed, Function.update_of_ne fresh] using currentDb
      obtain ⟨handle, held⟩ := coherent.staffed it name before
      exact ⟨handle, (renewed_db it handle).mpr (Or.inr ⟨fresh, held⟩)⟩
  owner := by
    intro handle isOpen
    by_cases fresh : handle = manager.handleCount
    · exact ⟨manager.instanceCount, rfl, (renewed_db _ _).mpr (Or.inl ⟨rfl, fresh⟩)⟩
    · have before : (manager.handles handle).isOpen = true := by
        simpa [Manager.renewed, Function.update_of_ne fresh] using isOpen
      rw [closed handle] at before
      cases before
  unshared := by
    intro first second handle heldFirst heldSecond
    rcases (renewed_db first handle).mp heldFirst with ⟨rfl, new⟩ | ⟨_, before⟩
    · rcases (renewed_db second handle).mp heldSecond with ⟨rfl, _⟩ | ⟨_, other⟩
      · rfl
      · exact absurd new (Nat.ne_of_lt (coherent.db_lt second handle other).2)
    · rcases (renewed_db second handle).mp heldSecond with ⟨_, new⟩ | ⟨_, other⟩
      · exact absurd new (Nat.ne_of_lt (coherent.db_lt first handle before).2)
      · exact coherent.unshared first second handle before other

/-- The failed open adds an instance without handle and name. -/
theorem stillborn_db (coherent : manager.Coherent) (it : InstanceRef) :
    ((manager.stillborn dbName).instances it).db = (manager.instances it).db := by
  by_cases fresh : it = manager.instanceCount
  · subst fresh
    simp [stillborn, coherent.fresh_db]
  · simp [stillborn, Function.update_of_ne fresh]

theorem stillborn_currentDb_of_some {it : InstanceRef} {name : String}
    (currentDb : ((manager.stillborn dbName).instances it).currentDb = some name) :
    it ≠ manager.instanceCount ∧ (manager.instances it).currentDb = some name := by
  by_cases fresh : it = manager.instanceCount
  · subst fresh
    simp [stillborn] at currentDb
  · exact ⟨fresh, by simpa [stillborn, Function.update_of_ne fresh] using currentDb⟩

theorem Coherent.stillborn (coherent : manager.Coherent)
    (closed : ∀ handle, (manager.handles handle).isOpen = false) (dbName : String) :
    (manager.stillborn dbName).Coherent where
  current_lt := by
    intro it current
    cases current
    exact Nat.lt_succ_self _
  dao_lt := by
    intro dao it held
    exact Nat.lt_succ_of_lt (coherent.dao_lt dao it held)
  db_lt := by
    intro it handle held
    rw [stillborn_db coherent] at held
    have bounds := coherent.db_lt it handle held
    exact ⟨Nat.lt_succ_of_lt bounds.1, bounds.2⟩
  named := by
    intro it handle held
    rw [stillborn_db coherent] at held
    obtain ⟨name, currentDb, file⟩ := coherent.named it handle held
    have different : it ≠ manager.instanceCount :=
      Nat.ne_of_lt (coherent.db_lt it handle held).1
    refine ⟨name, ?_, file⟩
    simpa [Manager.stillborn, Function.update_of_ne different] using currentDb
  staffed := by
    intro it name currentDb
    obtain ⟨handle, held⟩ := coherent.staffed it name (stillborn_currentDb_of_some currentDb).2
    exact ⟨handle, by rw [stillborn_db coherent]; exact held⟩
  owner := by
    intro handle isOpen
    have before : (manager.handles handle).isOpen = true := isOpen
    rw [closed handle] at before
    cases before
  unshared := by
    intro first second handle heldFirst heldSecond
    rw [stillborn_db coherent] at heldFirst heldSecond
    exact coherent.unshared first second handle heldFirst heldSecond

end Manager

variable {opens : Nat → Bool} {manager : Manager} {dbName : String}

/-! ## `create` -/

/-- The state after `create`, whichever way it ends. -/
theorem Manager.Coherent.create (coherent : manager.Coherent) (opens : Nat → Bool)
    (dbName : String) :
    (Effect.final (ModuleDB.create opens dbName) manager).Coherent := by
  rcases ModuleDB.create_cases opens manager dbName with
    ⟨it, _, kept⟩ | ⟨_, _, renewed⟩ | ⟨_, _, failed⟩
  · rw [Effect.final_of_ok kept]
    exact coherent
  · rw [Effect.final_of_ok renewed]
    exact coherent.retired.renewed coherent.retired_all_closed dbName
  · rw [Effect.final_of_error failed]
    exact coherent.retired.stillborn coherent.retired_all_closed dbName

/-- `create` never touches the field `db` of an instance that exists. -/
theorem Manager.Coherent.create_db (coherent : manager.Coherent) (opens : Nat → Bool)
    (dbName : String) {it : InstanceRef}
    (allocated : it < manager.instanceCount) :
    ((Effect.final (ModuleDB.create opens dbName) manager).instances it).db =
      (manager.instances it).db := by
  have different : it ≠ manager.instanceCount := Nat.ne_of_lt allocated
  rcases ModuleDB.create_cases opens manager dbName with
    ⟨_, _, kept⟩ | ⟨_, _, renewed⟩ | ⟨_, _, failed⟩
  · rw [Effect.final_of_ok kept]
  · rw [Effect.final_of_ok renewed]
    simp [Manager.renewed, Function.update_of_ne different]
  · rw [Effect.final_of_error failed, Manager.stillborn_db coherent.retired]
    exact manager.retired_db it

/-- A closed handle stays closed over a `create`. -/
theorem Manager.Coherent.create_isOpen (coherent : manager.Coherent) (opens : Nat → Bool)
    (dbName : String) {handle : DatabaseRef}
    (allocated : handle < manager.handleCount)
    (closed : (manager.handles handle).isOpen = false) :
    ((Effect.final (ModuleDB.create opens dbName) manager).handles handle).isOpen = false := by
  have different : handle ≠ manager.handleCount := Nat.ne_of_lt allocated
  rcases ModuleDB.create_cases opens manager dbName with
    ⟨_, _, kept⟩ | ⟨_, _, renewed⟩ | ⟨_, _, failed⟩
  · rw [Effect.final_of_ok kept]
    exact closed
  · rw [Effect.final_of_ok renewed]
    simpa [Manager.renewed, Function.update_of_ne different] using
      coherent.retired_all_closed handle
  · rw [Effect.final_of_error failed]
    exact coherent.retired_all_closed handle

/-- What `create` returns is the current instance, and it exists. -/
theorem Manager.Coherent.created_lt (coherent : manager.Coherent) {created : Option InstanceRef}
    {next : Manager} (ends : (ModuleDB.create opens dbName).run manager = .ok created next) :
    next.mInstance = created ∧ ∃ it, created = some it ∧ it < next.instanceCount := by
  rcases ModuleDB.create_cases opens manager dbName with
    ⟨it, keeps, kept⟩ | ⟨_, _, renewed⟩ | ⟨_, _, failed⟩
  · rw [kept] at ends
    cases ends
    exact ⟨keeps.1, it, rfl, coherent.current_lt it keeps.1⟩
  · rw [renewed] at ends
    cases ends
    exact ⟨by simp [Manager.renewed], _, rfl, by simp [Manager.renewed]⟩
  · rw [failed] at ends
    cases ends

/-! ## `getDatabase` -/

/-- `getDatabase` leaves either the state it found or the one `create` made. -/
theorem ModuleDB.final_getDatabase (opens : Nat → Bool) (it : InstanceRef) (dbName : String)
    (manager : Manager) :
    Effect.final (ModuleDB.getDatabase opens it dbName) manager = manager ∨
      Effect.final (ModuleDB.getDatabase opens it dbName) manager =
        Effect.final (ModuleDB.create opens dbName) manager := by
  by_cases usable : ∃ handle, (manager.instances it).db = some handle ∧
      (manager.handles handle).isOpen = true
  · obtain ⟨handle, held, isOpen⟩ := usable
    exact Or.inl (Effect.final_of_ok (ModuleDB.run_getDatabase_of_isOpen held isOpen dbName))
  · right
    have allClosed : ∀ handle, (manager.instances it).db = some handle →
        (manager.handles handle).isOpen = false := fun handle held =>
      Bool.eq_false_iff.mpr fun isOpen => usable ⟨handle, held, isOpen⟩
    unfold Effect.final
    rw [ModuleDB.run_getDatabase_of_closed allClosed dbName]
    cases (ModuleDB.create opens dbName).run manager with
    | error exception next => rfl
    | ok created next =>
        dsimp only
        cases (next.instances it).db <;> rfl

/-- A handle that `getDatabase` of an existing instance returns and that is
open was the open handle of that instance before. -/
theorem Manager.Coherent.returned_of_open (coherent : manager.Coherent) {it : InstanceRef}
    (allocated : it < manager.instanceCount) {handle : DatabaseRef} {next : Manager}
    (ends : (ModuleDB.getDatabase opens it dbName).run manager = .ok handle next)
    (isOpen : (next.handles handle).isOpen = true) :
    next = manager ∧ (manager.instances it).db = some handle := by
  by_cases usable : ∃ held, (manager.instances it).db = some held ∧
      (manager.handles held).isOpen = true
  · obtain ⟨held, field, heldOpen⟩ := usable
    rw [ModuleDB.run_getDatabase_of_isOpen field heldOpen dbName] at ends
    cases ends
    exact ⟨rfl, field⟩
  · exfalso
    have allClosed : ∀ held, (manager.instances it).db = some held →
        (manager.handles held).isOpen = false := fun held field =>
      Bool.eq_false_iff.mpr fun heldOpen => usable ⟨held, field, heldOpen⟩
    rw [ModuleDB.run_getDatabase_of_closed allClosed dbName] at ends
    have fieldKept := coherent.create_db opens dbName allocated
    cases created : (ModuleDB.create opens dbName).run manager with
    | error exception other =>
        rw [created] at ends
        cases ends
    | ok value other =>
        rw [Effect.final_of_ok created] at fieldKept
        rw [created] at ends
        dsimp only at ends
        cases field : (other.instances it).db with
        | none =>
            rw [field] at ends
            cases ends
        | some held =>
            rw [field] at ends
            cases ends
            have before : (manager.instances it).db = some handle := by
              rw [← fieldKept, field]
            have stays := coherent.create_isOpen opens dbName
              (coherent.db_lt it handle before).2 (allClosed handle before)
            rw [Effect.final_of_ok created, isOpen] at stays
            cases stays

/-! ## Runs -/

theorem snd_observe {α : Type} (note : α → Outcome) (program : Program α) (manager : Manager) :
    (observe note program manager).2 = Effect.final program manager := by
  unfold observe Effect.final
  cases program.run manager <;> rfl

theorem Manager.Coherent.connectionDB (coherent : manager.Coherent) (opens : Nat → Bool)
    (dao : DaoRef) (dbName : String) :
    (Effect.final (BaseDao.connectionDB opens dao dbName) manager).Coherent := by
  have after := coherent.create opens dbName
  cases created : (ModuleDB.create opens dbName).run manager with
  | error exception next =>
      rw [Effect.final_of_error created] at after
      rw [Effect.final_of_error (BaseDao.run_connectionDB_of_error created dao)]
      exact after
  | ok value next =>
      rw [Effect.final_of_ok created] at after
      rcases coherent.created_lt created with ⟨_, it, same, allocated⟩
      rw [Effect.final_of_ok (BaseDao.run_connectionDB_of_ok created dao)]
      refine { after with dao_lt := ?_ }
      intro other held holds
      dsimp only [Manager.connected] at holds ⊢
      by_cases equal : other = dao
      · subst equal
        rw [Function.update_self, same] at holds
        cases holds
        exact allocated
      · rw [Function.update_of_ne equal] at holds
        exact after.dao_lt other held holds

theorem Manager.Coherent.getDatabase (coherent : manager.Coherent) (it : InstanceRef) :
    (Effect.final (ModuleDB.getDatabase opens it dbName) manager).Coherent := by
  rcases ModuleDB.final_getDatabase opens it dbName manager with same | created
  · rw [same]
    exact coherent
  · rw [created]
    exact coherent.create opens dbName

theorem Manager.Coherent.fetch (coherent : manager.Coherent) (dao : DaoRef) :
    (Effect.final (BaseDao.fetch opens dao dbName) manager).Coherent := by
  cases holds : manager.moduleDB dao with
  | none =>
      rw [Effect.final_of_error (BaseDao.run_fetch_of_none holds dbName)]
      exact coherent
  | some it =>
      rw [Effect.final, BaseDao.run_fetch_of_some holds]
      exact coherent.getDatabase it

/-- Every operation keeps the invariant, whichever opens fail. -/
theorem Manager.Coherent.perform (coherent : manager.Coherent) (action : Action) :
    ((machine opens).perform action manager).2.Coherent := by
  cases action with
  | create dbName =>
      simp only [machine, snd_observe]
      exact coherent.create opens dbName
  | getDatabase it dbName =>
      simp only [machine, snd_observe]
      exact coherent.getDatabase it
  | connectionDB dao dbName =>
      simp only [machine, snd_observe]
      exact coherent.connectionDB opens dao dbName
  | fetch dao dbName =>
      simp only [machine, snd_observe]
      exact coherent.fetch dao
  | daoGetDatabase dao dbName =>
      simp only [machine, snd_observe]
      have connected := coherent.connectionDB opens dao dbName
      cases first : (BaseDao.connectionDB opens dao dbName).run manager with
      | error exception next =>
          rw [Effect.final_of_error first] at connected
          rw [Effect.final_of_error (BaseDao.run_getDatabase_of_error first)]
          exact connected
      | ok value next =>
          rw [Effect.final_of_ok first] at connected
          rw [Effect.final, BaseDao.run_getDatabase_of_ok first]
          exact connected.fetch dao
  | close handle =>
      simp only [machine, snd_observe]
      rw [Effect.final_of_ok (SQLiteDatabase.run_close manager handle)]
      exact coherent.closing (some handle)

/-! ## One open handle -/

/-- Only the current instance has an open handle, and only one. -/
structure Manager.Exclusive (manager : Manager) : Prop where
  owned : ∀ handle, (manager.handles handle).isOpen = true →
    ∃ it, manager.mInstance = some it ∧ (manager.instances it).db = some handle
  single : ∀ first second, (manager.handles first).isOpen = true →
    (manager.handles second).isOpen = true → first = second
  released : ∀ it handle, manager.mInstance ≠ some it →
    (manager.instances it).db = some handle → (manager.handles handle).isOpen = false

theorem Manager.Coherent.exclusive (coherent : manager.Coherent) : manager.Exclusive where
  owned := coherent.owner
  single := by
    intro first second firstOpen secondOpen
    rcases coherent.owner first firstOpen with ⟨it, current, held⟩
    rcases coherent.owner second secondOpen with ⟨other, same, holds⟩
    rw [current, Option.some.injEq] at same
    rw [← same, held, Option.some.injEq] at holds
    exact holds
  released := by
    intro it handle replaced held
    rw [← Bool.not_eq_true]
    intro isOpen
    rcases coherent.owner handle isOpen with ⟨owner, current, owned⟩
    rw [coherent.unshared it owner handle held owned] at replaced
    exact replaced current

/-- No order of operations leaves more than one database open, whichever opens
fail. -/
theorem run_exclusive (opens : Nat → Bool) (run : List Action) :
    ((machine opens).after Manager.initial run).Exclusive := by
  have coherent := (machine opens).invariant_of_steps Manager.Coherent
    (fun _ action before => before.perform action) Manager.initial run Manager.coherent_initial
  exact coherent.exclusive

/-- A switch whose open fails leaves nothing open. -/
example :
    ∀ handle < 2, (((machine fun attempt => attempt != 1).after Manager.initial
      [.create "demo1", .create "demo2"]).handles handle).isOpen = false := by decide

end Connection
end ModuleDatabase
