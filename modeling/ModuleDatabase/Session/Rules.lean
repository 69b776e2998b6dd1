import ModuleDatabase.Base.Ensures
import ModuleDatabase.Session.SQLiteSession

namespace ModuleDatabase
namespace Session

open Effect

/-!
# Rules for the methods that talk to the surroundings

One rule for each method that asks the device: what must hold of the states that it may
leave, normally and by an exception.  The methods of a session are put together from
these, so that their proofs unfold nothing below them.
-/

section Rules

variable {device : Device} {world : World} {connection : SQLiteConnection} {α : Type}
  {post : α → World → Prop} {done : PUnit → World → Prop} {failing : Thrown → World → Prop}

theorem ensures_ask {answers : Nat → α} :
    Ensures (ask answers) post failing world ↔
      post (answers world.asked) { world with asked := world.asked + 1 } := Iff.rfl

theorem ensures_note {event : Event} :
    Ensures (note event) done failing world ↔
      done ⟨⟩ { world with traffic := event :: world.traffic } := Iff.rfl

theorem ensures_record {change : Journal → Journal} :
    Ensures (record change) done failing world ↔
      done ⟨⟩ { world with journal := change world.journal } := Iff.rfl

theorem ensures_check {condition : Bool} (holds : condition = true) :
    Ensures (check condition) done failing world ↔ done ⟨⟩ world := by
  rw [check, if_pos holds, ensures_pure]

theorem ensures_throwIfCanceled {signal : Bool}
    (ends : ∀ asked, done ⟨⟩ { world with asked := asked })
    (throws : ∀ asked, failing .operationCanceled { world with asked := asked }) :
    Ensures (throwIfCanceled device signal) done failing world := by
  rw [throwIfCanceled]
  split
  · rw [ensures_bind, ensures_ask, ensures_ite]
    exact ⟨fun _ => throws _, fun _ => ends _⟩
  · exact ends world.asked

theorem ensures_connectionUsed {post : SQLiteConnection → World → Prop}
    (held : world.mConnection = some connection) :
    Ensures connectionUsed post failing world ↔ post connection world := by
  rw [connectionUsed, ensures_bind, ensures_get, held, ensures_pure]

/-! ## Taking and giving back the connection -/

/-- What `mConnectionPool.acquireConnection` leaves when it throws. -/
def World.waited (device : Device) (asked : Nat) (world : World) : World :=
  { world with
    engine := world.engine.changed (device.meanwhile world.asked)
    asked := asked }

def World.connected (device : Device) (connection : SQLiteConnection) (flags : Int)
    (asked : Nat) (world : World) : World :=
  { world.waited device asked with
    mConnection := some connection
    mConnectionFlags := flags
    mConnectionUseCount := 1
    traffic := .acquired connection :: world.traffic }

def World.disconnected (connection : SQLiteConnection) (asked : Nat) (world : World) : World :=
  { world with
    mConnection := none
    mConnectionUseCount := 0
    traffic := .released connection (world.engine.pending connection).isSome :: world.traffic
    asked := asked }

theorem ensures_acquireConnection {flags : Int} (apart : world.mConnection = none)
    (unused : world.mConnectionUseCount = 0)
    (ends : ∀ connection asked, (∃ before, device.acquireConnection before = some connection) →
      done ⟨⟩ (world.connected device connection flags asked))
    (throws : ∀ asked, failing .pool (world.waited device asked)) :
    Ensures (acquireConnection device flags) done failing world := by
  have absent : world.mConnection.isNone = true := by rw [apart]; rfl
  rw [acquireConnection, ensures_bind, ensures_get, if_pos absent, ensures_bind, ensures_bind,
    ensures_check (by rw [unused]; rfl), acquireFromPool, ensures_bind, ensures_ask, ensures_bind,
    ensures_modify, ensures_bind, ensures_ask]
  dsimp only
  cases answer : device.acquireConnection (world.asked + 1) with
  | none => exact throws (world.asked + 1 + 1)
  | some connection =>
      rw [ensures_modify, ensures_modify]
      have first : world.mConnectionUseCount + 1 = 1 := by rw [unused]; rfl
      have connected := ends connection (world.asked + 1 + 1) ⟨_, answer⟩
      rw [World.connected, World.waited, ← first] at connected
      exact connected

theorem ensures_acquireConnection_again {flags : Int}
    (held : world.mConnection = some connection) :
    Ensures (acquireConnection device flags) done failing world ↔
      done ⟨⟩ { world with mConnectionUseCount := world.mConnectionUseCount + 1 } := by
  have present : ¬ world.mConnection.isNone = true := by rw [held]; exact Bool.false_ne_true
  rw [acquireConnection, ensures_bind, ensures_get, if_neg present, ensures_bind, ensures_pure,
    ensures_modify]

theorem ensures_poolReleaseConnection (held : world.mConnection = some connection)
    (ends : ∀ asked, done ⟨⟩ { world with
      traffic := .released connection (world.engine.pending connection).isSome :: world.traffic
      asked := asked })
    (throws : ∀ asked, failing .pool { world with
      traffic := .released connection (world.engine.pending connection).isSome :: world.traffic
      asked := asked }) :
    Ensures (poolReleaseConnection device) done failing world := by
  rw [poolReleaseConnection, ensures_bind, ensures_connectionUsed held, ensures_bind,
    ensures_modify, ensures_bind, ensures_ask, ensures_ite]
  exact ⟨fun _ => throws _, fun _ => ends _⟩

theorem ensures_releaseConnection (held : world.mConnection = some connection)
    (single : world.mConnectionUseCount = 1)
    (ends : ∀ asked, done ⟨⟩ (world.disconnected connection asked))
    (throws : ∀ asked, failing .pool (world.disconnected connection asked)) :
    Ensures (releaseConnection device) done failing world := by
  have last : world.mConnectionUseCount - 1 = 0 := by rw [single]; rfl
  simp only [World.disconnected, ← last] at ends throws
  rw [releaseConnection, ensures_bind, ensures_get, ensures_bind,
    ensures_check (by rw [held]; rfl), ensures_bind, ensures_check (by rw [single]; rfl),
    ensures_bind, ensures_modify, ensures_bind, ensures_get, if_pos (by rw [last]; rfl),
    ensures_ensuring]
  exact ensures_poolReleaseConnection held ends throws

theorem ensures_releaseConnection_again (held : world.mConnection = some connection)
    (several : world.mConnectionUseCount = 2) :
    Ensures (releaseConnection device) done failing world ↔
      done ⟨⟩ { world with mConnectionUseCount := 1 } := by
  have one : world.mConnectionUseCount - 1 = 1 := by rw [several]; rfl
  rw [releaseConnection, ensures_bind, ensures_get, ensures_bind,
    ensures_check (by rw [held]; rfl), ensures_bind, ensures_check (by rw [several]; rfl),
    ensures_bind, ensures_modify, ensures_bind, ensures_get, one]
  dsimp only
  rw [if_neg (by decide), ensures_pure]

/-! ## Statements and listeners -/

/-- What a statement of the session leaves. -/
def World.controlled (connection : SQLiteConnection) (sql : String) (control : Control)
    (fails ends : Bool) (asked : Nat) (world : World) : World :=
  { world with
    engine := world.engine.obey connection control fails ends
    traffic :=
      .executed connection sql (world.engine.refuses connection control fails) :: world.traffic
    journal := world.journal.settled (!world.engine.refuses connection control fails)
    asked := asked }

/-- What a statement of the caller leaves. -/
def World.executed (connection : SQLiteConnection) (sql : String) (deed : Deed) (fails : Bool)
    (asked : Nat) (world : World) : World :=
  { world with
    engine := world.engine.apply connection deed
    traffic := .executed connection sql fails :: world.traffic
    journal := world.journal.did deed
    asked := asked }

def World.called (listener : SQLiteTransactionListener) (callback : Callback) (threw : Bool)
    (world : World) : World :=
  { world with
    traffic := .called listener callback threw :: world.traffic
    asked := world.asked + 1 }

theorem ensures_connectionExecute_control {sql : String} {control : Control}
    {done : Value → World → Prop} (held : world.mConnection = some connection)
    (kind : controlOf sql = some control)
    (ends : ∀ fails stops asked, world.engine.refuses connection control fails = false →
      done .nothing (world.controlled connection sql control fails stops asked))
    (throws : ∀ fails stops asked, world.engine.refuses connection control fails = true →
      failing .sqlite (world.controlled connection sql control fails stops asked)) :
    Ensures (connectionExecute device sql) done failing world := by
  rw [connectionExecute, ensures_bind, ensures_connectionUsed held, kind]
  dsimp only
  rw [executeControl, ensures_bind, ensures_ask, ensures_bind, ensures_ask, ensures_bind,
    ensures_get, ensures_bind, ensures_set, ensures_ite]
  exact ⟨fun refused => throws _ _ _ refused,
    fun accepted => ends _ _ _ (Bool.eq_false_iff.mpr accepted)⟩

theorem ensures_connectionExecute_other {sql : String} {done : Value → World → Prop}
    (held : world.mConnection = some connection) (kind : controlOf sql = none)
    (ends : ∀ value fails asked,
      done value (world.executed connection sql (device.answer world.asked).deed fails asked))
    (throws : ∀ fails asked, failing .sqlite
      (world.executed connection sql (device.answer world.asked).deed fails asked)) :
    Ensures (connectionExecute device sql) done failing world := by
  rw [connectionExecute, ensures_bind, ensures_connectionUsed held, kind]
  dsimp only
  rw [executeOther, ensures_bind, ensures_ask, ensures_bind, ensures_modify, ensures_ite]
  exact ⟨fun _ => throws _ _, fun _ => ends _ _ _⟩

theorem ensures_connectionPrepare {sql : String} (held : world.mConnection = some connection)
    (ends : ∀ fails asked, done ⟨⟩ { world with
      traffic := .prepared connection sql fails :: world.traffic, asked := asked })
    (throws : ∀ fails asked, failing .sqlite { world with
      traffic := .prepared connection sql fails :: world.traffic, asked := asked }) :
    Ensures (connectionPrepare device sql) done failing world := by
  rw [connectionPrepare, ensures_bind, ensures_connectionUsed held, ensures_bind, ensures_ask,
    ensures_bind, ensures_note, ensures_ite]
  exact ⟨fun _ => throws _ _, fun _ => ends _ _⟩

theorem ensures_callListener {listener : SQLiteTransactionListener} {callback : Callback}
    (ends : done ⟨⟩ (world.called listener callback false))
    (throws : failing (.listener listener) (world.called listener callback true)) :
    Ensures (callListener device listener callback) done failing world := by
  rw [callListener, ensures_bind, ensures_ask, ensures_bind, ensures_note]
  cases device.callbackThrows world.asked with
  | false => exact ends
  | true => exact throws

/-- A transaction that is obtained is as good as new, wherever it comes from. -/
theorem ensures_obtainTransaction {mode : Int} {listener : Option SQLiteTransactionListener}
    {post : Transaction → World → Prop}
    (ends : ∀ pool, post ⟨mode, listener, false, false⟩ { world with mTransactionPool := pool }) :
    Ensures (obtainTransaction mode listener) post failing world := by
  rw [obtainTransaction, ensures_bind, ensures_get]
  cases found : world.mTransactionPool with
  | nil =>
      have same := ends world.mTransactionPool
      exact same
  | cons transaction rest => exact ends rest

end Rules

end Session
end ModuleDatabase
