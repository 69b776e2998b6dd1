import ModuleDatabase.Session.Runs

namespace ModuleDatabase
namespace Session

open Effect

/-!
# A connection that was given back inside a transaction

No call of the session ends the transaction that was left open: `endTransaction` finds no
transaction, and so does a `ROLLBACK` of the caller.  Statements go on to succeed, and
nothing that they write becomes durable.
-/

/-- The pool has one connection, and no other session uses it. -/
structure Device.Single (device : Device) (connection : SQLiteConnection) : Prop where
  acquires : ∀ asked other, device.acquireConnection asked = some other → other = connection
  alone : ∀ asked transaction, device.meanwhile asked connection transaction = transaction

/-- The session has no transaction and no connection; the engine's transaction goes on. -/
structure Trapped (connection : SQLiteConnection) (changes kept : List Change) (world : World) :
    Prop where
  stack : world.mTransactionStack = []
  held : world.mConnection = none
  count : world.mConnectionUseCount = 0
  pending : ∃ more, world.engine.pending connection = some (changes ++ more)
  kept : world.engine.kept = kept

/-- The session uses the connection for one statement. -/
structure Entering (connection : SQLiteConnection) (changes kept : List Change) (world : World) :
    Prop where
  stack : world.mTransactionStack = []
  held : world.mConnection = some connection
  count : world.mConnectionUseCount = 1
  pending : ∃ more, world.engine.pending connection = some (changes ++ more)
  kept : world.engine.kept = kept

section Steps

variable {device : Device} {world : World} {connection : SQLiteConnection}
  {changes kept : List Change}

/-- The program comes back into the trap, if it returns at all. -/
def Stays {α : Type} (connection : SQLiteConnection) (changes kept : List Change)
    (program : EStateM Thrown World α) (world : World) : Prop :=
  Ensures program (fun _ => Trapped connection changes kept)
    (fun _ => Trapped connection changes kept) world

theorem Trapped.ask (trapped : Trapped connection changes kept world) (asked : Nat) :
    Trapped connection changes kept { world with asked := asked } :=
  ⟨trapped.stack, trapped.held, trapped.count, trapped.pending, trapped.kept⟩

theorem Trapped.acquires (trapped : Trapped connection changes kept world)
    (single : device.Single connection) {flags : Int} {done : PUnit → World → Prop}
    {failing : Thrown → World → Prop}
    (ends : ∀ next, Entering connection changes kept next → done ⟨⟩ next)
    (throws : ∀ thrown next, Trapped connection changes kept next → failing thrown next) :
    Ensures (acquireConnection device flags) done failing world := by
  have still : ∀ asked, (world.waited device asked).engine.pending connection =
      world.engine.pending connection := fun _ => single.alone _ _
  refine ensures_acquireConnection trapped.held trapped.count ?_ fun asked => ?_
  · rintro other asked ⟨before, answer⟩
    cases single.acquires before other answer
    refine ends _ ⟨trapped.stack, rfl, rfl, ?_, trapped.kept⟩
    obtain ⟨more, pending⟩ := trapped.pending
    exact ⟨more, (still asked).trans pending⟩
  · refine throws _ _ ⟨trapped.stack, trapped.held, trapped.count, ?_, trapped.kept⟩
    obtain ⟨more, pending⟩ := trapped.pending
    exact ⟨more, (still asked).trans pending⟩

theorem Entering.releases (entering : Entering connection changes kept world) :
    Stays connection changes kept (releaseConnection device) world :=
  ensures_releaseConnection entering.held entering.count
    (fun _ => ⟨entering.stack, rfl, rfl, entering.pending, entering.kept⟩)
    fun _ => ⟨entering.stack, rfl, rfl, entering.pending, entering.kept⟩

theorem Trapped.withConnection {α : Type} (trapped : Trapped connection changes kept world)
    (single : device.Single connection) {flags : Int} {body : EStateM Thrown World α}
    (works : ∀ state, Entering connection changes kept state →
      Ensures body (fun _ => Entering connection changes kept)
        (fun _ => Entering connection changes kept) state) :
    Stays connection changes kept (withConnection device flags body) world := by
  rw [Stays, Session.withConnection, ensures_bind]
  refine trapped.acquires single (fun state entering => ?_) fun _ _ still => still
  rw [ensures_ensuring]
  exact (works state entering).mono (fun _ _ left => left.releases) fun _ _ left => left.releases

theorem Entering.executes (entering : Entering connection changes kept world)
    (tame : device.Tame) {sql : String} (other : device.getSqlStatementType sql = .OTHER) :
    Ensures (connectionExecute device sql) (fun _ => Entering connection changes kept)
      (fun _ => Entering connection changes kept) world := by
  have after : ∀ fails asked, Entering connection changes kept
      (world.executed connection sql (device.answer world.asked).deed fails asked) := by
    intro fails asked
    obtain ⟨more, pending⟩ := entering.pending
    obtain ⟨written, deed⟩ := tame.deed world.asked
    have engine : (world.executed connection sql (device.answer world.asked).deed fails
        asked).engine = world.engine.put connection (some (changes ++ more ++ written)) := by
      rw [World.executed, deed, Engine.apply, Engine.write, pending]
    refine ⟨entering.stack, entering.held, entering.count, ⟨more ++ written, ?_⟩, ?_⟩
    · rw [engine, ← List.append_assoc]
      exact Function.update_self _ _ _
    · rw [engine]
      exact entering.kept
  exact ensures_connectionExecute_other entering.held (tame.control sql other)
    (fun _ fails asked => after fails asked) fun fails asked => after fails asked

theorem Entering.prepares (entering : Entering connection changes kept world) {sql : String} :
    Ensures (connectionPrepare device sql) (fun _ => Entering connection changes kept)
      (fun _ => Entering connection changes kept) world :=
  ensures_connectionPrepare entering.held
    (fun _ _ => ⟨entering.stack, entering.held, entering.count, entering.pending, entering.kept⟩)
    fun _ _ => ⟨entering.stack, entering.held, entering.count, entering.pending, entering.kept⟩

/-- No transaction can be begun, since the engine is inside one. -/
theorem Trapped.begins_nothing (trapped : Trapped connection changes kept world)
    (single : device.Single connection) (mode : Int)
    (listener : Option SQLiteTransactionListener) (flags : Int) (signal : Bool) :
    Ensures (beginTransaction device mode listener flags signal) (fun _ _ => False)
      (fun _ => Trapped connection changes kept) world := by
  rw [beginTransaction, ensures_bind, ensures_throwIfTransactionMarkedSuccessful]
  refine ⟨fun _ => trapped, fun _ => ?_⟩
  rw [beginTransactionUnchecked, ensures_bind]
  refine ensures_throwIfCanceled (fun asked => ?_) fun asked => trapped.ask asked
  replace trapped := trapped.ask asked
  rw [ensures_bind, ensures_get, if_pos (by rw [trapped.stack]; rfl), ensures_bind]
  refine trapped.acquires single (fun state entering => ?_) fun _ _ still => still
  rw [ensures_ensuring, ensures_bind]
  obtain ⟨more, pending⟩ := entering.pending
  have refuses : ∀ fails, state.engine.refuses connection .begin fails = true := by
    intro fails
    rw [Engine.refuses, pending]
    rfl
  refine ensures_executeIfOutermost entering.stack entering.held (controlOf_beginText mode)
    (fun fails ends later accepted => ?_) fun fails ends later refused => ?_
  · rw [refuses] at accepted
    cases accepted
  · have left : Entering connection changes kept (state.controlled connection (beginText mode)
        .begin fails ends later) := by
      have same : (state.controlled connection (beginText mode) .begin fails ends later).engine =
          state.engine := by
        change state.engine.obey _ _ _ _ = _
        rw [Engine.obey, refused]
        rfl
      exact ⟨entering.stack, entering.held, entering.count, same ▸ entering.pending,
        same ▸ entering.kept⟩
    rw [releaseIfOutermost, ensures_bind, ensures_get, if_pos (by rw [left.stack]; rfl)]
    exact left.releases

theorem Trapped.marks_nothing (trapped : Trapped connection changes kept world)
    {done : PUnit → World → Prop} :
    Ensures setTransactionSuccessful done (fun _ => Trapped connection changes kept) world := by
  rw [setTransactionSuccessful, ensures_bind, ensures_throwIfNoTransaction]
  exact ⟨fun _ => trapped, fun within => absurd trapped.stack within⟩

theorem Trapped.ends_nothing (trapped : Trapped connection changes kept world) {signal : Bool}
    {done : PUnit → World → Prop} :
    Ensures (endTransaction device signal) done (fun _ => Trapped connection changes kept)
      world := by
  rw [endTransaction, ensures_bind, ensures_throwIfNoTransaction]
  exact ⟨fun _ => trapped, fun within => absurd trapped.stack within⟩

theorem Trapped.yields_nothing (trapped : Trapped connection changes kept world)
    (throwIfUnsafe signal : Bool) :
    Stays connection changes kept (yieldTransaction device throwIfUnsafe signal) world := by
  rw [Stays, yieldTransaction, ensures_bind]
  cases throwIfUnsafe with
  | true =>
      rw [if_pos rfl]
      refine ensures_throwIfUnyieldable trapped fun able => ?_
      rw [trapped.stack] at able
      cases able
  | false =>
      rw [if_neg Bool.false_ne_true, ensures_pure, ensures_bind, ensures_get, trapped.stack,
        if_pos (by rfl)]
      exact trapped

theorem Trapped.executeSpecial (trapped : Trapped connection changes kept world)
    (single : device.Single connection) (sql : String) (flags : Int) (signal : Bool) :
    Ensures (executeSpecial device sql flags signal)
      (fun special next => Trapped connection changes kept next ∧
        (special = false → device.getSqlStatementType sql = .OTHER))
      (fun _ => Trapped connection changes kept) world := by
  rw [Session.executeSpecial, ensures_bind]
  refine ensures_throwIfCanceled (fun asked => ?_) fun asked => trapped.ask asked
  replace trapped := trapped.ask asked
  cases kind : device.getSqlStatementType sql with
  | BEGIN =>
      rw [ensures_bind]
      exact (trapped.begins_nothing single _ none flags signal).mono (fun _ _ wrong => wrong.elim)
        fun _ _ still => still
  | COMMIT =>
      rw [ensures_bind]
      exact trapped.marks_nothing
  | ABORT =>
      rw [ensures_bind]
      exact trapped.ends_nothing
  | OTHER => exact ⟨trapped, fun _ => rfl⟩

theorem Trapped.executing (trapped : Trapped connection changes kept world) (tame : device.Tame)
    (single : device.Single connection) (special : EStateM Thrown World Value)
    (stays : ∀ state, Trapped connection changes kept state →
      Stays connection changes kept special state)
    (sql : Option String) (flags : Int) (signal : Bool) :
    Stays connection changes kept (executing device special sql flags signal) world := by
  cases sql with
  | none => exact trapped
  | some sql =>
      rw [Stays, Session.executing, ensures_bind]
      refine (trapped.executeSpecial single sql flags signal).mono ?_ fun _ _ still => still
      rintro isSpecial state ⟨still, other⟩
      rw [ensures_ite]
      refine ⟨fun _ => stays state still, fun usual => ?_⟩
      exact still.withConnection single fun used entering =>
        entering.executes tame (other (Bool.not_eq_true _ ▸ usual))

theorem Trapped.method (trapped : Trapped connection changes kept world) (tame : device.Tame)
    (single : device.Single connection) (method : Method) (sql : Option String) (flags : Int)
    (signal : Bool) : Stays connection changes kept (method.run device sql flags signal) world := by
  have plain : ∀ value, Stays connection changes kept
      (Session.executing device (pure value) sql flags signal) world := fun value =>
    trapped.executing tame single (pure value) (fun _ still => still) sql flags signal
  cases method with
  | execute => exact plain _
  | executeForLong => exact plain _
  | executeForString => exact plain _
  | executeForBlobFileDescriptor => exact plain _
  | executeForChangedRowCount => exact plain _
  | executeForLastInsertedRowId => exact plain _
  | executeForCursorWindow window =>
      cases window with
      | none => exact trapped
      | some window =>
          exact trapped.executing tame single (do note (.cleared window); pure (.long 0))
            (fun _ still => ⟨still.stack, still.held, still.count, still.pending, still.kept⟩)
            sql flags signal

theorem Trapped.call (trapped : Trapped connection changes kept world) (tame : device.Tame)
    (single : device.Single connection) (call : Call) :
    Stays connection changes kept (call.run device) world := by
  cases call with
  | beginTransaction mode listener flags signal =>
      rw [Stays, Call.run, ensures_bind]
      exact (trapped.begins_nothing single mode listener flags signal).mono
        (fun _ _ wrong => wrong.elim) fun _ _ still => still
  | setTransactionSuccessful =>
      rw [Stays, Call.run, ensures_bind]
      exact trapped.marks_nothing
  | endTransaction signal =>
      rw [Stays, Call.run, ensures_bind]
      exact trapped.ends_nothing
  | yieldTransaction throwIfUnsafe signal =>
      rw [Stays, Call.run, ensures_bind]
      exact trapped.yields_nothing throwIfUnsafe signal
  | prepare sql flags signal =>
      cases sql with
      | none => exact trapped
      | some sql =>
          rw [Stays, Call.run, prepare, ensures_bind]
          refine ensures_throwIfCanceled (fun asked => ?_) fun asked => trapped.ask asked
          refine (trapped.ask asked).withConnection single fun state entering => ?_
          rw [ensures_bind]
          exact entering.prepares
  | execute method sql flags signal => exact trapped.method tame single method sql flags signal

theorem Trapped.after (trapped : Trapped connection changes kept world) (tame : device.Tame)
    (single : device.Single connection) (run : List Call) :
    Trapped connection changes kept ((session device).after world run) :=
  (session device).invariant_of_steps (Trapped connection changes kept)
    (fun _ call still => invariant_perform (still.call tame single call)) world run trapped

/-- A call of `beginTransaction`. -/
def Call.begins : Call → Bool
  | .beginTransaction _ _ _ _ => true
  | _ => false

theorem Trapped.refuses (trapped : Trapped connection changes kept world)
    (single : device.Single connection) {call : Call} (begins : call.begins = true) :
    ∃ thrown, ((session device).perform call world).1 = .error thrown := by
  cases call with
  | beginTransaction mode listener flags signal =>
      have never := trapped.begins_nothing single mode listener flags signal
      have throws : Ensures
          (Call.run device (.beginTransaction mode listener flags signal))
          (fun _ _ => False) (fun _ => Trapped connection changes kept) world := by
        rw [Call.run, ensures_bind]
        exact never.mono (fun _ _ wrong => wrong.elim) fun _ _ still => still
      rw [ensures_iff_perform] at throws
      cases outcome : ((session device).perform
          (.beginTransaction mode listener flags signal) world).1 with
      | ok value => exact (throws.1 value outcome).elim
      | error thrown => exact ⟨thrown, rfl⟩
  | _ => cases begins

end Steps

variable {device : Device} {connection : SQLiteConnection}

/-- Suppose that a run has come to an end of a transaction which the engine's transaction
has survived, and that the pool has no other connection.  Then in every later run no
transaction can be begun, and nothing that is written becomes durable: it is added to the
transaction that was left open. -/
theorem trapped_for_good (tame : device.Tame) (single : device.Single connection)
    (run later : List Call)
    (ended : ((session device).after World.initial run).mTransactionStack = [])
    {changes : List Change}
    (left : ((session device).after World.initial run).engine.pending connection =
      some changes) :
    ((session device).after ((session device).after World.initial run) later).engine.kept =
        ((session device).after World.initial run).engine.kept ∧
      (∃ more, ((session device).after ((session device).after World.initial run)
        later).engine.pending connection = some (changes ++ more)) ∧
      (session device).Along (fun state call => call.begins = true →
          ∃ thrown, ((session device).perform call state).1 = .error thrown)
        ((session device).after World.initial run) later := by
  have invariant := after_invariant device run
  generalize (session device).after World.initial run = world at invariant ended left ⊢
  have apart := (attached_nil ended).mp invariant.attached
  have trapped : Trapped connection changes world.engine.kept world :=
    ⟨ended, apart.held, apart.count, ⟨[], by rw [left, List.append_nil]⟩, rfl⟩
  have after := trapped.after tame single later
  refine ⟨after.kept, after.pending, ?_⟩
  refine (session device).along_of_invariant (Trapped connection changes world.engine.kept)
    (fun _ call still => invariant_perform (still.call tame single call)) ?_ world later trapped
  intro state call still begins
  exact still.refuses single begins

/-- The second statement of the session, a `COMMIT`, fails. -/
def busy : Device := { obliging with controlFails := fun asked => asked == 5 }

theorem busy_tame : busy.Tame := ⟨obliging_tame.meanwhile, obliging_tame.deed, obliging_tame.control⟩

theorem busy_single : busy.Single 0 where
  acquires _ _ answer := (Option.some.inj answer).symm
  alone _ _ := rfl

def oneTransaction : List Call :=
  [.beginTransaction TRANSACTION_MODE_IMMEDIATE none 0 false,
    .execute .execute (some "INSERT") 0 false,
    .setTransactionSuccessful,
    .endTransaction false]

theorem trapped_for_good_of_busy :
    ((session busy).after ((session busy).after World.initial oneTransaction)
          oneTransaction).engine.kept =
        ((session busy).after World.initial oneTransaction).engine.kept ∧
      (∃ more, ((session busy).after ((session busy).after World.initial oneTransaction)
        oneTransaction).engine.pending 0 = some ([4] ++ more)) ∧
      (session busy).Along (fun state call => call.begins = true →
          ∃ thrown, ((session busy).perform call state).1 = .error thrown)
        ((session busy).after World.initial oneTransaction) oneTransaction :=
  trapped_for_good busy_tame busy_single oneTransaction oneTransaction (by decide) (by decide)

end Session
end ModuleDatabase
