import ModuleDatabase.Connection.Delivery

namespace ModuleDatabase
namespace Connection

/-!
# After a failed open

`create` publishes the new instance before it opens the file.  If the open
throws, the static field refers to an instance whose `db` is null, and
neither branch of `create` applies to such an instance: it is not missing, and
a switch of names is considered only when `db` is set.  So the manager never
opens anything again.

The results here are about runs in which any of the opens may throw.
-/

/-- The operations of callers that only open databases. -/
def Action.Opens : Action → Prop
  | .create _ | .daoGetDatabase _ _ => True
  | _ => False

namespace Manager

/-- There is no current instance, or it has an open handle. -/
def Ready (manager : Manager) : Prop :=
  ∀ it, manager.mInstance = some it → ∃ handle dbName,
    (manager.instances it).db = some handle ∧ (manager.handles handle).isOpen = true ∧
      (manager.instances it).currentDb = some dbName

/-- The current instance has no handle. -/
def Poisoned (manager : Manager) : Prop :=
  ∃ it, manager.mInstance = some it ∧ (manager.instances it).db = none

/-- No open of the process has thrown so far. -/
def NoOpenFailed (opens : Nat → Bool) (manager : Manager) : Prop :=
  ∀ attempt, attempt < manager.attempts → opens attempt = true

/-- The dichotomy that every operation keeps. -/
def Recorded (opens : Nat → Bool) (manager : Manager) : Prop :=
  (manager.NoOpenFailed opens ∧ manager.Ready) ∨
    (¬ manager.NoOpenFailed opens ∧ manager.Poisoned)

end Manager

variable {opens : Nat → Bool} {manager : Manager} {dbName : String}

theorem noOpenFailed_succ {before after : Manager} (noFailure : before.NoOpenFailed opens)
    (one : after.attempts = before.attempts + 1)
    (succeeds : opens before.attempts = true) : after.NoOpenFailed opens := by
  intro attempt bound
  rw [one] at bound
  rcases Nat.lt_succ_iff_lt_or_eq.mp bound with earlier | last
  · exact noFailure attempt earlier
  · rw [last]
    exact succeeds

theorem not_noOpenFailed_succ {before after : Manager}
    (one : after.attempts = before.attempts + 1)
    (fails : opens before.attempts = false) : ¬ after.NoOpenFailed opens := by
  intro noFailure
  have last := noFailure before.attempts (by rw [one]; exact Nat.lt_succ_self _)
  rw [fails] at last
  cases last

/-- A successful `renew` leaves an open handle in the current instance. -/
theorem Manager.ready_renewed (manager : Manager) (dbName : String) :
    (manager.renewed dbName).Ready := by
  intro it current
  cases current
  exact ⟨manager.handleCount, dbName, by simp [Manager.renewed], by simp [Manager.renewed],
    by simp [Manager.renewed]⟩

theorem Manager.poisoned_stillborn (manager : Manager) (dbName : String) :
    (manager.stillborn dbName).Poisoned :=
  ⟨manager.instanceCount, rfl, by simp [Manager.stillborn]⟩

theorem Manager.Poisoned.keeps (poisoned : manager.Poisoned) (dbName : String) :
    ∃ it, manager.Keeps dbName it := by
  rcases poisoned with ⟨it, current, missing⟩
  exact ⟨it, current, Or.inl missing⟩

/-- A failed open is recorded in the state, and nothing removes it. -/
theorem Manager.Recorded.create (recorded : manager.Recorded opens) (dbName : String) :
    (Effect.final (ModuleDB.create opens dbName) manager).Recorded opens := by
  rcases ModuleDB.create_cases opens manager dbName with
    ⟨_, _, kept⟩ | ⟨replaces, succeeds, renewed⟩ | ⟨replaces, fails, failed⟩
  · rw [Effect.final_of_ok kept]
    exact recorded
  · rw [Effect.final_of_ok renewed]
    rcases recorded with ⟨noFailure, _⟩ | ⟨_, poisoned⟩
    · refine Or.inl ⟨noOpenFailed_succ noFailure ?_ succeeds, Manager.ready_renewed _ _⟩
      simp [Manager.renewed]
    · rcases poisoned.keeps dbName with ⟨it, keeps⟩
      exact absurd keeps (replaces it)
  · rw [Effect.final_of_error failed]
    refine Or.inr ⟨not_noOpenFailed_succ ?_ fails, Manager.poisoned_stillborn _ _⟩
    simp [Manager.stillborn]

theorem Manager.Recorded.connected (recorded : manager.Recorded opens) (dao : DaoRef)
    (created : Option InstanceRef) : (manager.connected dao created).Recorded opens :=
  recorded

theorem Manager.Recorded.daoGetDatabase (recorded : manager.Recorded opens) (dao : DaoRef)
    (dbName : String) :
    (Effect.final (BaseDao.getDatabase opens dao dbName) manager).Recorded opens := by
  have first := recorded.create dbName
  cases created : (ModuleDB.create opens dbName).run manager with
  | error exception next =>
      rw [Effect.final_of_error created] at first
      have connects := BaseDao.run_connectionDB_of_error created dao
      rw [Effect.final_of_error (BaseDao.run_getDatabase_of_error connects)]
      exact first
  | ok value next =>
      rw [Effect.final_of_ok created] at first
      have connects := BaseDao.run_connectionDB_of_ok created dao
      have second := first.connected dao value
      rw [Effect.final, BaseDao.run_getDatabase_of_ok connects]
      cases field : (next.connected dao value).moduleDB dao with
      | none =>
          rw [BaseDao.run_fetch_of_none field]
          exact second
      | some it =>
          rw [BaseDao.run_fetch_of_some field]
          rcases ModuleDB.final_getDatabase opens it dbName (next.connected dao value) with
            unchanged | again
          · rw [Effect.final] at unchanged
            rw [unchanged]
            exact second
          · rw [Effect.final] at again
            rw [again]
            exact second.create dbName

theorem Manager.Recorded.perform (recorded : manager.Recorded opens) {action : Action}
    (legal : action.Opens) : ((machine opens).perform action manager).2.Recorded opens := by
  cases action with
  | create dbName =>
      simp only [machine, snd_observe]
      exact recorded.create dbName
  | daoGetDatabase dao dbName =>
      simp only [machine, snd_observe]
      exact recorded.daoGetDatabase dao dbName
  | getDatabase it dbName => cases legal
  | connectionDB dao dbName => cases legal
  | fetch dao dbName => cases legal
  | close handle => cases legal

theorem Manager.recorded_initial (opens : Nat → Bool) : Manager.initial.Recorded opens := by
  refine Or.inl ⟨?_, ?_⟩
  · intro attempt bound
    exact absurd bound (Nat.not_lt_zero attempt)
  · intro it current
    cases current

/-- From a ready state a DAO call whose open succeeds delivers. -/
theorem Manager.Ready.delivers (coherent : manager.Coherent) (ready : manager.Ready)
    (succeeds : opens manager.attempts = true) (dao : DaoRef) (dbName : String) :
    ∃ handle next, (BaseDao.getDatabase opens dao dbName).run manager = .ok handle next ∧
      next.OpenFor dbName handle := by
  rcases ModuleDB.create_cases opens manager dbName with
    ⟨it, ⟨current, reason⟩, kept⟩ | ⟨_, _, renewed⟩ | ⟨_, fails, _⟩
  · rcases ready it current with ⟨handle, name, held, isOpen, currentDb⟩
    have named : (manager.instances it).currentDb = some dbName := by
      rcases reason with missing | named
      · rw [held] at missing
        cases missing
      · exact named
    have connects := BaseDao.run_connectionDB_of_ok kept dao
    refine ⟨handle, manager.connected dao (some it), ?_, isOpen,
      (coherent.file_iff held).mpr named⟩
    rw [BaseDao.run_getDatabase_of_ok connects,
      BaseDao.run_fetch_of_some (manager.connected_moduleDB dao (some it))]
    apply ModuleDB.run_getDatabase_of_isOpen
    · exact held
    · exact isOpen
  · have connects := BaseDao.run_connectionDB_of_ok renewed dao
    refine ⟨manager.retired.handleCount,
      (manager.retired.renewed dbName).connected dao (some manager.instanceCount), ?_,
      by simp [Manager.connected, Manager.renewed], by simp [Manager.connected, Manager.renewed]⟩
    rw [BaseDao.run_getDatabase_of_ok connects,
      BaseDao.run_fetch_of_some (Manager.connected_moduleDB _ dao (some manager.instanceCount))]
    apply ModuleDB.run_getDatabase_of_isOpen
    · simp [Manager.connected, Manager.renewed]
    · simp [Manager.connected, Manager.renewed]
  · rw [succeeds] at fails
    cases fails

/-- From a poisoned state every DAO call ends in a null pointer, without a
single attempt to open a file. -/
theorem Manager.Poisoned.throws (poisoned : manager.Poisoned) (opens : Nat → Bool)
    (dao : DaoRef) (dbName : String) :
    ∃ next, (BaseDao.getDatabase opens dao dbName).run manager = .error .nullPointer next ∧
      next.attempts = manager.attempts := by
  rcases poisoned with ⟨it, current, missing⟩
  have keeps : manager.Keeps dbName it := ⟨current, Or.inl missing⟩
  have connects : (BaseDao.connectionDB opens dao dbName).run manager =
      .ok () (manager.connected dao (some it)) :=
    BaseDao.run_connectionDB_of_ok (ModuleDB.run_create_of_keeps keeps) dao
  have keepsNext : (manager.connected dao (some it)).Keeps dbName it := keeps
  refine ⟨manager.connected dao (some it), ?_, rfl⟩
  rw [BaseDao.run_getDatabase_of_ok connects,
    BaseDao.run_fetch_of_some (manager.connected_moduleDB dao (some it)),
    ModuleDB.run_getDatabase_of_closed]
  · rw [ModuleDB.run_create_of_keeps keepsNext]
    simp only [Manager.connected, missing]
  · intro handle held
    change (manager.instances it).db = some handle at held
    rw [missing] at held
    cases held

/-- After any run of openings, a DAO call whose own open would succeed
delivers exactly if no open of the run has thrown. -/
theorem getDatabase_recovers_iff (opens : Nat → Bool) (run : List Action)
    (opening : (machine opens).Along (fun _ action => action.Opens) Manager.initial run)
    (dao : DaoRef) (dbName : String)
    (succeeds : opens ((machine opens).after Manager.initial run).attempts = true) :
    (∃ handle next,
        (BaseDao.getDatabase opens dao dbName).run
          ((machine opens).after Manager.initial run) = .ok handle next ∧
        next.OpenFor dbName handle) ↔
      ((machine opens).after Manager.initial run).NoOpenFailed opens := by
  have invariant := (machine opens).invariant_after
    (fun manager => manager.Coherent ∧ manager.Recorded opens)
    (fun _ action both legal => ⟨both.1.perform action, both.2.perform legal⟩)
    Manager.initial run ⟨Manager.coherent_initial, Manager.recorded_initial opens⟩ opening
  rcases invariant with ⟨coherent, ⟨noFailure, ready⟩ | ⟨failed, poisoned⟩⟩
  · exact iff_of_true (ready.delivers coherent succeeds dao dbName) noFailure
  · refine iff_of_false ?_ failed
    rintro ⟨handle, next, ends, _⟩
    rcases poisoned.throws opens dao dbName with ⟨other, fails, _⟩
    rw [ends] at fails
    cases fails

/-- The theorem on a process whose second open is the first to throw: the
first one is still fine. -/
theorem getDatabase_recovers_before_failure :
    (∃ handle next,
      (BaseDao.getDatabase (fun attempt => attempt != 2) 0 "demo2").run
        ((machine fun attempt => attempt != 2).after Manager.initial [.create "demo1"]) =
          .ok handle next ∧ next.OpenFor "demo2" handle) :=
  (getDatabase_recovers_iff (fun attempt => attempt != 2) [.create "demo1"] ⟨trivial, trivial⟩
    0 "demo2" (by decide)).mpr (by
      intro attempt bound
      have first : attempt = 0 := Nat.lt_one_iff.mp bound
      rw [first]
      decide)

/-- The first open throws; the second would succeed, but is never tried. -/
theorem not_recovers_after_first_failure :
    ¬ ∀ (opens : Nat → Bool) (run : List Action),
      (machine opens).Along (fun _ action => action.Opens) Manager.initial run →
      ∀ (dao : DaoRef) (dbName : String),
        opens ((machine opens).after Manager.initial run).attempts = true →
        ∃ handle next,
          (BaseDao.getDatabase opens dao dbName).run
            ((machine opens).after Manager.initial run) = .ok handle next ∧
          next.OpenFor dbName handle := by
  intro claim
  rcases claim (fun attempt => attempt != 0) [.create "demo1"] ⟨trivial, trivial⟩ 0 "demo1"
    (by decide) with ⟨handle, next, ends, _⟩
  cases ends

end Connection
end ModuleDatabase
