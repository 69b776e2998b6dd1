import Mathlib.Data.List.Forall2
import Mathlib.Data.List.Infix
import ModuleDatabase.Session.Rules

namespace ModuleDatabase
namespace Session

open Effect Nesting

/-!
# What a session keeps between its calls

Whatever the pool, the engine and the listeners do, a session has at most one connection,
uses no other, and gives it back when no transaction is open.

The journal says what the caller has asked for.  What is durable agrees with it as long as
no statement that should have ended a transaction has left it open.  In that case the
connection goes back to the pool inside the transaction.
-/

/-! ## The traffic with the connections -/

/-- The connection that is held after an event, if the event is in order. -/
def Event.follow : Event → Option SQLiteConnection → Option (Option SQLiteConnection)
  | .acquired connection, none => some (some connection)
  | .executed connection _ _, some held => if connection = held then some (some held) else none
  | .prepared connection _ _, some held => if connection = held then some (some held) else none
  | .released connection _, some held => if connection = held then some none else none
  | .called _ _ _, held => some held
  | .cleared _, held => some held
  | _, _ => none

/-- The connection that is held after all events, if each of them was in order. -/
def holder : List Event → Option (Option SQLiteConnection)
  | [] => some none
  | event :: earlier => (holder earlier).bind event.follow

/-- A statement that should have ended a transaction failed, and the connection was given
back inside the transaction. -/
def Spoiled (traffic : List Event) : Prop :=
  ∃ connection sql, (sql = "COMMIT;" ∨ sql = "ROLLBACK;") ∧
    [.released connection true, .executed connection sql true] <:+: traffic

structure Using (connection : SQLiteConnection) (count : Int) (world : World) : Prop where
  held : world.mConnection = some connection
  holder : holder world.traffic = some (some connection)
  count : world.mConnectionUseCount = count

structure Apart (world : World) : Prop where
  held : world.mConnection = none
  holder : holder world.traffic = some none
  count : world.mConnectionUseCount = 0

/-- A connection is held exactly while a transaction is open, and is used once. -/
def Attached (world : World) : Prop :=
  if world.mTransactionStack = [] then Apart world
  else ∃ connection, Using connection 1 world

/-! ## The books -/

/-- What is durable of the past. -/
def Past.durable : Past → List Change
  | .ended block changes accepted => if block.succeeds && accepted then changes else []
  | .wrote changes => changes

def Transaction.flags (transaction : Transaction) : Flags :=
  ⟨transaction.mMarkedSuccessful, transaction.mChildFailed⟩

/-- The stack and the engine agree with the journal; a transaction may be open on one
connection. -/
structure Books (within : Option SQLiteConnection) (stack : List Transaction)
    (journal : Journal) (engine : Engine) : Prop where
  mirrors : List.Forall₂ (fun transaction => Mirrors transaction.flags) stack journal.frames
  closing : journal.closing = none
  idle : stack = [] → journal.changes = []
  kept : engine.kept = journal.history.flatMap Past.durable
  pending : ∀ connection, engine.pending connection =
    if within = some connection then some journal.changes else none

/-- The connection on which a transaction of the session is open. -/
def World.within (world : World) : Option SQLiteConnection :=
  if world.mTransactionStack = [] then none else world.mConnection

def World.Balanced (world : World) : Prop :=
  Books world.within world.mTransactionStack world.journal world.engine

/-- Other sessions leave no transaction open, and statements of the caller control none. -/
structure Device.Tame (device : Device) : Prop where
  meanwhile : ∀ asked connection, device.meanwhile asked connection none = none
  deed : ∀ asked, ∃ changes, (device.answer asked).deed = .writes changes
  control : ∀ sql, device.getSqlStatementType sql = .OTHER → controlOf sql = none

/-- Either a connection has been spoiled, or something holds. -/
def Fine (device : Device) (world : World) (holds : Prop) : Prop :=
  device.Tame → Spoiled world.traffic ∨ holds

structure Invariant (device : Device) (world : World) : Prop where
  attached : Attached world
  fine : Fine device world world.Balanced

/-- An exception that only a mistake of the session itself could raise. -/
def Thrown.isFault (thrown : Thrown) : Bool := thrown == .assertion || thrown == .nullPointer

/-- Ends, normally or by an exception that is no mistake, in a state between two calls. -/
def Keeps {α : Type} (device : Device) (program : EStateM Thrown World α) (world : World) :
    Prop :=
  Ensures program (fun _ => Invariant device)
    (fun thrown next => thrown.isFault = false ∧ Invariant device next) world

section Steps

variable {device : Device} {world next : World} {connection : SQLiteConnection} {count : Int}

theorem Spoiled.grow {traffic later : List Event} (spoiled : Spoiled traffic)
    (suffix : traffic <:+ later) : Spoiled later := by
  obtain ⟨connection, sql, ending, within⟩ := spoiled
  exact ⟨connection, sql, ending, within.trans suffix.isInfix⟩

theorem Fine.step {before after : Prop} (fine : Fine device world before)
    (grows : world.traffic <:+ next.traffic) (step : device.Tame → before → after) :
    Fine device next after :=
  fun tame => (fine tame).imp (fun spoiled => spoiled.grow grows) (step tame)

theorem Using.called (use : Using connection count world)
    (listener : SQLiteTransactionListener) (callback : Callback) (threw : Bool) :
    Using connection count (world.called listener callback threw) := by
  refine ⟨use.held, ?_, use.count⟩
  rw [World.called, Session.holder, use.holder]
  rfl

theorem Using.controlled (use : Using connection count world) (sql : String)
    (control : Control) (fails ends : Bool) (asked : Nat) :
    Using connection count (world.controlled connection sql control fails ends asked) := by
  refine ⟨use.held, ?_, use.count⟩
  rw [World.controlled, Session.holder, use.holder]
  exact if_pos rfl

theorem Using.executed (use : Using connection count world) (sql : String) (deed : Deed)
    (fails : Bool) (asked : Nat) :
    Using connection count (world.executed connection sql deed fails asked) := by
  refine ⟨use.held, ?_, use.count⟩
  rw [World.executed, Session.holder, use.holder]
  exact if_pos rfl

theorem Apart.connected (apart : Apart world) (flags : Int) (asked : Nat) :
    Using connection 1 (world.connected device connection flags asked) := by
  refine ⟨rfl, ?_, rfl⟩
  rw [World.connected, Session.holder, apart.holder]
  rfl

theorem Using.disconnected (use : Using connection count world) (asked : Nat) :
    Apart (world.disconnected connection asked) := by
  refine ⟨rfl, ?_, rfl⟩
  rw [World.disconnected, Session.holder, use.holder]
  exact if_pos rfl

/-! ## Giving the connection back -/

/-- What should have been the last statement of a transaction has failed. -/
def Stuck (connection : SQLiteConnection) (world : World) : Prop :=
  (world.engine.pending connection).isSome = true ∧
    ∃ sql earlier, (sql = "COMMIT;" ∨ sql = "ROLLBACK;") ∧
      world.traffic = .executed connection sql true :: earlier

/-- The connection is about to be given back. -/
structure Closing (device : Device) (connection : SQLiteConnection) (world : World) : Prop where
  stack : world.mTransactionStack = []
  use : Using connection 1 world
  fine : Fine device world
    (Books none [] world.journal world.engine ∨ Stuck connection world)

theorem balanced_nil (stack : world.mTransactionStack = []) :
    world.Balanced ↔ Books none [] world.journal world.engine := by
  rw [World.Balanced, World.within, if_pos stack, stack]

theorem attached_nil (stack : world.mTransactionStack = []) : Attached world ↔ Apart world := by
  rw [Attached, if_pos stack]

theorem Closing.disconnected (closing : Closing device connection world) (asked : Nat) :
    Invariant device (world.disconnected connection asked) := by
  have stack : (world.disconnected connection asked).mTransactionStack = [] := closing.stack
  refine ⟨(attached_nil stack).mpr (closing.use.disconnected asked), ?_⟩
  intro tame
  rw [balanced_nil stack]
  rcases closing.fine tame with spoiled | balanced | ⟨left, sql, earlier, ending, latest⟩
  · exact Or.inl (spoiled.grow (List.suffix_cons _ _))
  · exact Or.inr balanced
  · left
    refine ⟨connection, sql, ending, ?_⟩
    rw [World.disconnected, left, latest]
    exact (List.prefix_append [Event.released connection true, Event.executed connection sql true]
      earlier).isInfix

theorem Closing.keeps (closing : Closing device connection world) :
    Keeps device (releaseConnection device) world :=
  ensures_releaseConnection closing.use.held closing.use.count
    (fun asked => closing.disconnected asked) fun asked => ⟨rfl, closing.disconnected asked⟩

/-! ## Statements of the caller -/

/-- A connection is used, and its transaction, if there is one, is that of the session. -/
structure Working (device : Device) (connection : SQLiteConnection) (count : Int)
    (stack : List Transaction) (world : World) : Prop where
  stack : world.mTransactionStack = stack
  use : Using connection count world
  fine : Fine device world world.Balanced

theorem Books.frames_isEmpty {within : Option SQLiteConnection} {stack : List Transaction}
    {journal : Journal} {engine : Engine} (books : Books within stack journal engine) :
    journal.frames.isEmpty = true ↔ stack = [] := by
  rw [List.isEmpty_iff, ← List.length_eq_zero_iff, ← books.mirrors.length_eq,
    List.length_eq_zero_iff]

/-- Time has passed before the session has got its connection. -/
theorem Books.changed {journal : Journal} {engine : Engine}
    (books : Books none [] journal engine) (tame : device.Tame) (asked : Nat) :
    Books none [] journal (engine.changed (device.meanwhile asked)) where
  mirrors := books.mirrors
  closing := books.closing
  idle := books.idle
  kept := books.kept
  pending other := by
    have clean := books.pending other
    rw [if_neg (Option.some_ne_none other).symm] at clean ⊢
    change device.meanwhile asked other (engine.pending other) = none
    rw [clean]
    exact tame.meanwhile asked other

theorem Books.wrote {stack : List Transaction} {journal : Journal} {engine : Engine}
    (books : Books (if stack = [] then none else some connection) stack journal engine)
    (changes : List Change) :
    Books (if stack = [] then none else some connection) stack (journal.wrote changes)
      (engine.write connection changes) := by
  have here := books.pending connection
  by_cases outside : stack = []
  · rw [if_pos outside] at books here ⊢
    have written : journal.wrote changes =
        { journal with history := journal.history ++ [.wrote changes] } :=
      if_pos (books.frames_isEmpty.mpr outside)
    rw [if_neg (Option.some_ne_none connection).symm] at here
    rw [written, Engine.write, here]
    refine ⟨books.mirrors, books.closing, books.idle, ?_, books.pending⟩
    rw [List.flatMap_append, List.flatMap_singleton, ← books.kept]
    rfl
  · rw [if_neg outside] at books here ⊢
    have written : journal.wrote changes =
        { journal with changes := journal.changes ++ changes } :=
      if_neg fun empty => outside (books.frames_isEmpty.mp empty)
    rw [if_pos rfl] at here
    rw [written, Engine.write, here]
    refine ⟨books.mirrors, books.closing, fun empty => absurd empty outside, books.kept, ?_⟩
    intro other
    have before := books.pending other
    change Function.update engine.pending connection _ other = _
    rw [Function.update_apply]
    by_cases same : other = connection
    · rw [if_pos same, if_pos (by rw [same])]
    · have apart : ¬ some connection = some other := fun equal => same (Option.some.inj equal).symm
      rw [if_neg same, if_neg apart]
      rw [if_neg apart] at before
      exact before

theorem Working.executed {stack : List Transaction}
    (working : Working device connection count stack world) (sql : String) (fails : Bool)
    (asked : Nat) :
    Working device connection count stack
      (world.executed connection sql (device.answer world.asked).deed fails asked) := by
  refine ⟨working.stack, working.use.executed sql _ fails asked, ?_⟩
  refine working.fine.step (List.suffix_cons _ _) fun tame balanced => ?_
  obtain ⟨changes, writes⟩ := tame.deed world.asked
  rw [World.Balanced, World.within, working.use.held] at balanced
  rw [World.Balanced, World.within, World.executed, writes, working.use.held]
  exact balanced.wrote changes

/-- A statement that the session does not take for one that controls a transaction. -/
theorem Working.connectionExecute {stack : List Transaction} {sql : String}
    (working : Working device connection count stack world)
    (other : device.getSqlStatementType sql = .OTHER) :
    Ensures (connectionExecute device sql)
      (fun _ => Working device connection count stack)
      (fun thrown next => thrown.isFault = false ∧ Working device connection count stack next)
      world := by
  cases kind : controlOf sql with
  | none =>
      exact ensures_connectionExecute_other working.use.held kind
        (fun value fails asked => working.executed sql fails asked)
        fun fails asked => ⟨rfl, working.executed sql fails asked⟩
  | some control =>
      have wild : ¬ device.Tame := fun tame => by
        rw [tame.control sql other] at kind
        cases kind
      have controlled : ∀ fails ends asked, Working device connection count stack
          (world.controlled connection sql control fails ends asked) := fun fails ends asked =>
        ⟨working.stack, working.use.controlled sql control fails ends asked,
          fun tame => absurd tame wild⟩
      exact ensures_connectionExecute_control working.use.held kind
        (fun fails ends asked _ => controlled fails ends asked)
        fun fails ends asked _ => ⟨rfl, controlled fails ends asked⟩

theorem Working.connectionPrepare {stack : List Transaction} {sql : String}
    (working : Working device connection count stack world) :
    Ensures (connectionPrepare device sql)
      (fun _ => Working device connection count stack)
      (fun thrown next => thrown.isFault = false ∧ Working device connection count stack next)
      world := by
  have prepared : ∀ fails asked, Working device connection count stack { world with
      traffic := .prepared connection sql fails :: world.traffic
      asked := asked } := by
    intro fails asked
    refine ⟨working.stack, ⟨working.use.held, ?_, working.use.count⟩,
      working.fine.step (List.suffix_cons _ _) fun _ balanced => balanced⟩
    rw [Session.holder, working.use.holder]
    exact if_pos rfl
  exact ensures_connectionPrepare working.use.held (fun fails asked => prepared fails asked)
    fun fails asked => ⟨rfl, prepared fails asked⟩

theorem Working.closing (working : Working device connection 1 [] world) :
    Closing device connection world :=
  ⟨working.stack, working.use, working.fine.step (List.suffix_refl _) fun _ balanced =>
    Or.inl ((balanced_nil working.stack).mp balanced)⟩

theorem Invariant.waited (invariant : Invariant device world)
    (stack : world.mTransactionStack = []) (asked : Nat) :
    Invariant device (world.waited device asked) := by
  have waiting : (world.waited device asked).mTransactionStack = [] := stack
  refine ⟨?_, ?_⟩
  · have apart := (attached_nil stack).mp invariant.attached
    exact (attached_nil waiting).mpr ⟨apart.held, apart.holder, apart.count⟩
  · refine invariant.fine.step (List.suffix_refl _) fun tame balanced => ?_
    rw [balanced_nil waiting]
    exact ((balanced_nil stack).mp balanced).changed tame world.asked

theorem Invariant.connected (invariant : Invariant device world)
    (stack : world.mTransactionStack = []) (connection : SQLiteConnection) (flags : Int)
    (asked : Nat) :
    Working device connection 1 [] (world.connected device connection flags asked) := by
  have apart := (attached_nil stack).mp invariant.attached
  have still : (world.connected device connection flags asked).mTransactionStack = [] := stack
  refine ⟨still, apart.connected flags asked, ?_⟩
  refine invariant.fine.step (List.suffix_cons _ _) fun tame balanced => ?_
  rw [balanced_nil stack] at balanced
  exact (balanced_nil still).mpr (balanced.changed tame world.asked)

theorem Invariant.using (invariant : Invariant device world)
    (within : world.mTransactionStack ≠ []) :
    ∃ connection, Working device connection 1 world.mTransactionStack world := by
  have attached := invariant.attached
  rw [Attached, if_neg within] at attached
  obtain ⟨connection, use⟩ := attached
  exact ⟨connection, rfl, use, invariant.fine⟩

theorem Working.invariant {stack : List Transaction} (within : stack ≠ [])
    (working : Working device connection 1 stack world) : Invariant device world := by
  refine ⟨?_, working.fine⟩
  rw [Attached, if_neg (working.stack ▸ within)]
  exact ⟨connection, working.use⟩

/-- What is done with a connection that the session needs for this. -/
theorem Invariant.withConnection {α : Type} {body : EStateM Thrown World α} {flags : Int}
    (invariant : Invariant device world)
    (works : ∀ connection count state,
      Working device connection count world.mTransactionStack state →
      Ensures body (fun _ => Working device connection count world.mTransactionStack)
        (fun thrown next => thrown.isFault = false ∧
          Working device connection count world.mTransactionStack next) state) :
    Keeps device (withConnection device flags body) world := by
  rw [Keeps, Session.withConnection, ensures_bind]
  by_cases outside : world.mTransactionStack = []
  · have apart := (attached_nil outside).mp invariant.attached
    rw [outside] at works
    refine ensures_acquireConnection apart.held apart.count (fun connection asked _ => ?_)
      fun asked => ⟨rfl, invariant.waited outside asked⟩
    rw [ensures_ensuring]
    refine (works connection 1 _ (invariant.connected outside connection flags asked)).mono ?_ ?_
    · intro value state working
      exact working.closing.keeps
    · rintro thrown state ⟨harmless, working⟩
      exact working.closing.keeps.mono (fun _ _ kept => ⟨harmless, kept⟩) fun _ _ kept => kept
  · obtain ⟨connection, working⟩ := invariant.using outside
    rw [ensures_acquireConnection_again working.use.held, ensures_ensuring]
    have again : Working device connection 2 world.mTransactionStack
        { world with mConnectionUseCount := world.mConnectionUseCount + 1 } := by
      refine ⟨rfl, ⟨working.use.held, working.use.holder, ?_⟩, working.fine⟩
      rw [working.use.count]
      rfl
    have back : ∀ state, Working device connection 2 world.mTransactionStack state →
        Invariant device { state with mConnectionUseCount := 1 } := fun state used =>
      Working.invariant outside
        ⟨used.stack, ⟨used.use.held, used.use.holder, rfl⟩, used.fine⟩
    refine (works connection 2 _ again).mono ?_ ?_
    · intro value state used
      exact (ensures_releaseConnection_again used.use.held used.use.count).mpr (back state used)
    · rintro thrown state ⟨harmless, used⟩
      exact (ensures_releaseConnection_again used.use.held used.use.count).mpr
        ⟨harmless, back state used⟩

end Steps

end Session
end ModuleDatabase
