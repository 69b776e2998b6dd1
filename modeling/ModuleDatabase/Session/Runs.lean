import ModuleDatabase.Session.Transactions

namespace ModuleDatabase
namespace Session

open Effect Nesting

/-!
# Runs of a session

Each method takes the session from a state between two calls to a state between two calls,
whether it ends normally or by an exception.  What follows about runs holds for every
order of the calls and for every way in which the pool, the engine and the listeners fail.
-/

section Steps

variable {device : Device} {world next : World} {connection : SQLiteConnection}

/-! ## The methods of a session -/

theorem ensures_throwIfNoTransaction {done : PUnit → World → Prop}
    {failing : Thrown → World → Prop} :
    Ensures throwIfNoTransaction done failing world ↔
      (world.mTransactionStack = [] → failing .illegalState world) ∧
        (world.mTransactionStack ≠ [] → done ⟨⟩ world) := by
  rw [throwIfNoTransaction, ensures_bind, ensures_get, ensures_ite, List.isEmpty_iff]
  rfl

theorem ensures_throwIfTransactionMarkedSuccessful {done : PUnit → World → Prop}
    {failing : Thrown → World → Prop} :
    Ensures throwIfTransactionMarkedSuccessful done failing world ↔
      (topMarked world.mTransactionStack = true → failing .illegalState world) ∧
        (topMarked world.mTransactionStack = false → done ⟨⟩ world) := by
  rw [throwIfTransactionMarkedSuccessful, ensures_bind, ensures_get, ensures_ite,
    Bool.not_eq_true]
  rfl

theorem Invariant.beginTransaction (invariant : Invariant device world) (mode : Int)
    (listener : Option SQLiteTransactionListener) (flags : Int) (signal : Bool) :
    Keeps device (beginTransaction device mode listener flags signal) world := by
  rw [Keeps, Session.beginTransaction, ensures_bind, ensures_throwIfTransactionMarkedSuccessful]
  exact ⟨fun _ => ⟨rfl, invariant⟩,
    fun _ => invariant.beginTransactionUnchecked mode listener flags signal⟩

/-- The transaction on the top of the stack is marked. -/
def World.marked (world : World) : World :=
  { world with
    mTransactionStack :=
      onTop (fun top => { top with mMarkedSuccessful := true }) world.mTransactionStack
    journal := world.journal.marked }

theorem Books.marked {within : Option SQLiteConnection} {top : Transaction}
    {rest : List Transaction} {journal : Journal} {engine : Engine}
    (books : Books within (top :: rest) journal engine) :
    Books within ({ top with mMarkedSuccessful := true } :: rest) journal.marked engine := by
  have mirrors := books.mirrors
  cases opened : journal.frames with
  | nil =>
      rw [opened] at mirrors
      cases mirrors
  | cons frame frames =>
      rw [opened] at mirrors
      cases mirrors with
      | cons first others =>
          rw [Journal.marked, opened]
          exact ⟨.cons first.mark others, books.closing,
            fun empty => absurd empty (List.cons_ne_nil _ _), books.kept, books.pending⟩

theorem Working.marked {top : Transaction} {rest : List Transaction}
    (working : Working device connection 1 (top :: rest) world) :
    Invariant device world.marked := by
  have stack : world.marked.mTransactionStack = { top with mMarkedSuccessful := true } :: rest := by
    rw [World.marked, working.stack, onTop]
  have use : Using connection 1 world.marked :=
    ⟨working.use.held, working.use.holder, working.use.count⟩
  refine Working.invariant (List.cons_ne_nil _ _) ⟨stack, use, ?_⟩
  refine working.fine.step (List.suffix_refl _) fun _ balanced => ?_
  rw [World.Balanced, World.within, working.stack, if_neg (List.cons_ne_nil _ _)] at balanced
  rw [World.Balanced, World.within, stack, if_neg (List.cons_ne_nil _ _)]
  exact balanced.marked

theorem Invariant.setTransactionSuccessful (invariant : Invariant device world) :
    Keeps device setTransactionSuccessful world := by
  rw [Keeps, Session.setTransactionSuccessful, ensures_bind, ensures_throwIfNoTransaction]
  refine ⟨fun _ => ⟨rfl, invariant⟩, fun within => ?_⟩
  rw [ensures_bind, ensures_throwIfTransactionMarkedSuccessful]
  refine ⟨fun _ => ⟨rfl, invariant⟩, fun _ => ?_⟩
  obtain ⟨connection, working⟩ := invariant.using within
  obtain ⟨top, rest, stack⟩ := List.exists_cons_of_ne_nil within
  rw [stack] at working
  exact working.marked

theorem Invariant.endTransaction (invariant : Invariant device world) (signal : Bool) :
    Keeps device (endTransaction device signal) world := by
  rw [Keeps, Session.endTransaction, ensures_bind, ensures_throwIfNoTransaction]
  refine ⟨fun _ => ⟨rfl, invariant⟩, fun within => ?_⟩
  obtain ⟨connection, working⟩ := invariant.using within
  obtain ⟨top, rest, stack⟩ := List.exists_cons_of_ne_nil within
  rw [ensures_bind, ensures_get, ensures_bind,
    ensures_check (by rw [working.use.held]; rfl)]
  rw [stack] at working
  exact working.endTransactionUnchecked signal false

theorem Invariant.yieldTransactionUnchecked (invariant : Invariant device world)
    (within : world.mTransactionStack ≠ []) (signal : Bool) :
    Keeps device (yieldTransactionUnchecked device signal) world := by
  rw [Keeps, Session.yieldTransactionUnchecked, ensures_bind]
  refine ensures_throwIfCanceled (fun asked => ?_) fun asked => ⟨rfl, invariant.ask asked⟩
  rw [ensures_bind, ensures_ask, ensures_ite]
  replace invariant := invariant.ask (asked + 1)
  refine ⟨fun _ => ?_, fun _ => invariant⟩
  obtain ⟨top, rest, stack⟩ := List.exists_cons_of_ne_nil within
  obtain ⟨connection, working⟩ := invariant.using within
  rw [ensures_bind, ensures_get]
  dsimp only at working ⊢
  rw [stack] at working ⊢
  dsimp only
  rw [ensures_bind]
  refine (working.endTransactionUnchecked signal true).mono ?_ fun _ _ failed => failed
  intro _ ended invariant
  rw [ensures_bind]
  exact (invariant.beginTransactionUnchecked top.mMode top.mListener _ signal).mono
    (fun _ _ begun => begun) fun _ _ failed => failed

theorem ensures_throwIfUnyieldable {done : PUnit → World → Prop}
    {failing : Thrown → World → Prop} (throws : failing .illegalState world)
    (goes : yieldable world.mTransactionStack = true → done ⟨⟩ world) :
    Ensures throwIfUnyieldable done failing world := by
  rw [throwIfUnyieldable, ensures_bind, ensures_throwIfNoTransaction]
  refine ⟨fun _ => throws, fun within => ?_⟩
  rw [ensures_bind, ensures_throwIfTransactionMarkedSuccessful]
  refine ⟨fun _ => throws, fun unmarked => ?_⟩
  rw [throwIfNestedTransaction, ensures_bind, hasNestedTransaction, ensures_bind, ensures_get,
    ensures_pure, ensures_ite]
  refine ⟨fun _ => throws, fun single => goes ?_⟩
  rw [Bool.not_eq_true, Bool.not_eq_false'] at single
  rw [yieldable, unmarked, single, List.isEmpty_eq_false_iff.mpr within]
  rfl

theorem exists_of_yieldable {stack : List Transaction} (able : yieldable stack = true) :
    ∃ top, stack = [top] ∧ top.mMarkedSuccessful = false := by
  cases stack with
  | nil => cases able
  | cons top rest =>
      rw [yieldable, topMarked, List.tail_cons, Bool.and_eq_true, Bool.and_eq_true,
        Bool.not_eq_true', Bool.not_eq_true', List.isEmpty_iff] at able
      exact ⟨top, by rw [able.2], able.1.2⟩

/-- Only a transaction that is alone, is not marked, and has no child that failed comes to
the question whether the connection is wanted. -/
theorem Invariant.ensures_yieldTransaction (invariant : Invariant device world)
    {throwIfUnsafe signal : Bool} {done : Bool → World → Prop} {failing : Thrown → World → Prop}
    (refuses : done false world) (throws : failing .illegalState world)
    (goes : ∀ top, world.mTransactionStack = [top] → top.mMarkedSuccessful = false →
      top.mChildFailed = false →
      Ensures (Session.yieldTransactionUnchecked device signal) done failing world) :
    Ensures (yieldTransaction device throwIfUnsafe signal) done failing world := by
  have asks : yieldable world.mTransactionStack = true →
      Ensures
        (do
          check world.mConnection.isSome
          if topChildFailed world.mTransactionStack then pure false
          else Session.yieldTransactionUnchecked device signal) done failing world := by
    intro able
    obtain ⟨top, stack, unmarked⟩ := exists_of_yieldable able
    obtain ⟨connection, working⟩ := invariant.using (stack ▸ List.cons_ne_nil _ _)
    rw [ensures_bind, ensures_check (by rw [working.use.held]; rfl), ensures_ite, stack]
    exact ⟨fun _ => refuses, fun unfailed => goes top stack unmarked
      (Bool.not_eq_true _ ▸ unfailed)⟩
  rw [yieldTransaction, ensures_bind]
  cases throwIfUnsafe with
  | true =>
      rw [if_pos rfl]
      exact ensures_throwIfUnyieldable throws asks
  | false =>
      rw [if_neg Bool.false_ne_true, ensures_pure, ensures_bind, ensures_get, ensures_ite]
      refine ⟨fun _ => refuses, fun outside => asks ?_⟩
      rw [Bool.not_false, Bool.true_and, Bool.not_eq_true, Bool.not_eq_false'] at outside
      exact outside

theorem Invariant.yieldTransaction (invariant : Invariant device world)
    (throwIfUnsafe signal : Bool) :
    Keeps device (yieldTransaction device throwIfUnsafe signal) world :=
  invariant.ensures_yieldTransaction invariant ⟨rfl, invariant⟩ fun _ stack _ _ =>
    invariant.yieldTransactionUnchecked (stack ▸ List.cons_ne_nil _ _) signal

/-! ## Statements -/

theorem Keeps.then {α β : Type} {body : EStateM Thrown World α} {value : β}
    (keeps : Keeps device body world) : Keeps device (do let _ ← body; pure value) world := by
  rw [Keeps, ensures_bind]
  exact keeps

/-- A statement that is not special is one that the session does not take for a statement
that controls a transaction. -/
theorem Invariant.executeSpecial (invariant : Invariant device world) (sql : String)
    (flags : Int) (signal : Bool) :
    Ensures (executeSpecial device sql flags signal)
      (fun special next => Invariant device next ∧
        (special = false → device.getSqlStatementType sql = .OTHER))
      (fun thrown next => thrown.isFault = false ∧ Invariant device next) world := by
  rw [Session.executeSpecial, ensures_bind]
  refine ensures_throwIfCanceled (fun asked => ?_) fun asked => ⟨rfl, invariant.ask asked⟩
  replace invariant := invariant.ask asked
  generalize { world with asked := asked } = world at invariant
  have isSpecial : ∀ state : World, Invariant device state →
      Invariant device state ∧ (true = false → device.getSqlStatementType sql = .OTHER) :=
    fun state kept => ⟨kept, fun wrong => by cases wrong⟩
  cases kind : device.getSqlStatementType sql with
  | BEGIN =>
      rw [ensures_bind]
      exact (invariant.beginTransaction _ none flags signal).mono
        (fun _ state kept => kind ▸ isSpecial state kept) fun _ _ failed => failed
  | COMMIT =>
      rw [ensures_bind]
      refine invariant.setTransactionSuccessful.mono ?_ fun _ _ failed => failed
      intro _ state marked
      rw [ensures_bind]
      exact (marked.endTransaction signal).mono
        (fun _ state kept => kind ▸ isSpecial state kept) fun _ _ failed => failed
  | ABORT =>
      rw [ensures_bind]
      exact (invariant.endTransaction signal).mono
        (fun _ state kept => kind ▸ isSpecial state kept) fun _ _ failed => failed
  | OTHER => exact ⟨invariant, fun _ => rfl⟩

theorem Invariant.prepare (invariant : Invariant device world) (sql : Option String)
    (flags : Int) (signal : Bool) : Keeps device (prepare device sql flags signal) world := by
  cases sql with
  | none => exact ⟨rfl, invariant⟩
  | some sql =>
      rw [Keeps, Session.prepare, ensures_bind]
      refine ensures_throwIfCanceled (fun asked => ?_) fun asked => ⟨rfl, invariant.ask asked⟩
      refine (invariant.ask asked).withConnection fun connection count state working => ?_
      rw [ensures_bind]
      exact working.connectionPrepare

theorem Invariant.executing (invariant : Invariant device world)
    (special : EStateM Thrown World Value)
    (keeps : ∀ state, Invariant device state → Keeps device special state)
    (sql : Option String) (flags : Int) (signal : Bool) :
    Keeps device (executing device special sql flags signal) world := by
  cases sql with
  | none => exact ⟨rfl, invariant⟩
  | some sql =>
      rw [Keeps, Session.executing, ensures_bind]
      refine (invariant.executeSpecial sql flags signal).mono ?_ fun _ _ failed => failed
      rintro isSpecial state ⟨kept, other⟩
      rw [ensures_ite]
      refine ⟨fun _ => keeps state kept, fun usual => ?_⟩
      exact kept.withConnection fun connection count used working =>
        working.connectionExecute (other (Bool.not_eq_true _ ▸ usual))

theorem Invariant.cleared (invariant : Invariant device world) (window : CursorWindow) :
    Invariant device { world with traffic := .cleared window :: world.traffic } := by
  refine ⟨?_, invariant.fine.step (List.suffix_cons _ _) fun _ balanced => balanced⟩
  have attached := invariant.attached
  have follows : ∀ held, holder world.traffic = some held →
      holder (.cleared window :: world.traffic) = some held := by
    intro held before
    rw [holder, before]
    rfl
  rw [Attached] at attached ⊢
  by_cases outside : world.mTransactionStack = []
  · rw [if_pos outside] at attached
    rw [if_pos outside]
    exact ⟨attached.held, follows _ attached.holder, attached.count⟩
  · rw [if_neg outside] at attached
    rw [if_neg outside]
    obtain ⟨connection, use⟩ := attached
    exact ⟨connection, use.held, follows _ use.holder, use.count⟩

theorem Invariant.method (invariant : Invariant device world) (method : Method)
    (sql : Option String) (flags : Int) (signal : Bool) :
    Keeps device (method.run device sql flags signal) world := by
  have plain : ∀ value, Keeps device
      (Session.executing device (pure value) sql flags signal) world := fun value =>
    invariant.executing (pure value) (fun state kept => kept) sql flags signal
  cases method with
  | execute => exact plain _
  | executeForLong => exact plain _
  | executeForString => exact plain _
  | executeForBlobFileDescriptor => exact plain _
  | executeForChangedRowCount => exact plain _
  | executeForLastInsertedRowId => exact plain _
  | executeForCursorWindow window =>
      cases window with
      | none => exact ⟨rfl, invariant⟩
      | some window =>
          exact invariant.executing (do Session.note (.cleared window); pure (.long 0))
            (fun state kept => kept.cleared window) sql flags signal

theorem Invariant.call (invariant : Invariant device world) (call : Call) :
    Keeps device (call.run device) world := by
  cases call with
  | beginTransaction mode listener flags signal =>
      exact (invariant.beginTransaction mode listener flags signal).then
  | setTransactionSuccessful => exact invariant.setTransactionSuccessful.then
  | endTransaction signal => exact (invariant.endTransaction signal).then
  | yieldTransaction throwIfUnsafe signal =>
      rw [Keeps, Call.run, ensures_bind]
      exact invariant.yieldTransaction throwIfUnsafe signal
  | prepare sql flags signal => exact invariant.prepare sql flags signal
  | execute method sql flags signal => exact invariant.method method sql flags signal

end Steps

/-! ## Runs -/

variable {device : Device} {world : World}

theorem initial_invariant : Invariant device World.initial :=
  ⟨(attached_nil rfl).mpr ⟨rfl, rfl, rfl⟩, fun _ => Or.inr ((balanced_nil rfl).mpr
    ⟨.nil, rfl, fun _ => rfl, rfl, fun _ => rfl⟩)⟩

theorem Invariant.perform (invariant : Invariant device world) (call : Call) :
    Invariant device ((session device).perform call world).2 :=
  invariant_perform ((invariant.call call).mono (fun _ _ kept => kept) fun _ _ failed => failed.2)

theorem Invariant.harmless (invariant : Invariant device world) {call : Call} {thrown : Thrown}
    (threw : ((session device).perform call world).1 = .error thrown) :
    thrown.isFault = false :=
  ((ensures_iff_perform.mp (invariant.call call)).2 thrown threw).1

theorem after_invariant (device : Device) (run : List Call) :
    Invariant device ((session device).after World.initial run) :=
  (session device).invariant_of_steps (Invariant device)
    (fun _ call invariant => invariant.perform call) World.initial run initial_invariant

theorem harmless_along (device : Device) (run : List Call) :
    (session device).Along (fun state call => ∀ thrown,
      ((session device).perform call state).1 = .error thrown → thrown.isFault = false)
      World.initial run := by
  refine (session device).along_of_invariant (Invariant device)
    (fun _ call invariant => invariant.perform call) ?_ World.initial run initial_invariant
  intro state call invariant thrown threw
  exact invariant.harmless threw

/-- In every run, whatever fails, the session has at most one connection, executes
statements on no other, gives back the one that it has, and has one between its calls
exactly while a transaction is open.  No assertion ever fails. -/
theorem one_connection (device : Device) (run : List Call) :
    holder ((session device).after World.initial run).traffic =
        some ((session device).after World.initial run).mConnection ∧
      (((session device).after World.initial run).mConnection.isSome = true ↔
        ((session device).after World.initial run).mTransactionStack ≠ []) ∧
      (((session device).after World.initial run).mConnectionUseCount =
        if ((session device).after World.initial run).mConnection.isSome then 1 else 0) ∧
      (session device).Along (fun state call => ∀ thrown,
        ((session device).perform call state).1 = .error thrown → thrown.isFault = false)
        World.initial run := by
  have attached := (after_invariant device run).attached
  have harmless := harmless_along device run
  generalize (session device).after World.initial run = world at attached
  rw [Attached] at attached
  by_cases outside : world.mTransactionStack = []
  · rw [if_pos outside] at attached
    rw [attached.held, attached.holder, attached.count]
    exact ⟨rfl, iff_of_false Bool.false_ne_true (fun within => within outside), rfl, harmless⟩
  · rw [if_neg outside] at attached
    obtain ⟨connection, use⟩ := attached
    rw [use.held, use.holder, use.count]
    exact ⟨rfl, iff_of_true rfl outside, rfl, harmless⟩

/-- What is durable is what the journal says; what was written since is pending on the
connection that is held; and no other connection is inside a transaction. -/
structure Accounted (world : World) : Prop where
  kept : world.engine.kept = world.journal.history.flatMap Past.durable
  pending : ∀ connection, world.engine.pending connection =
    if world.mConnection = some connection then some world.journal.changes else none

/-- While other sessions leave no transaction open and statements of the caller control
none, what is durable is what was written outside of transactions and in the outermost
transactions that were marked, with all transactions inside them, whose listeners did not
throw, and whose `COMMIT` was accepted.  Otherwise a statement that should have ended a
transaction failed, and the connection was given back inside the transaction. -/
theorem durable_or_spoiled (tame : device.Tame) (run : List Call) :
    Spoiled ((session device).after World.initial run).traffic ∨
      Accounted ((session device).after World.initial run) := by
  have invariant := after_invariant device run
  generalize (session device).after World.initial run = world at invariant
  refine (invariant.fine tame).imp (fun spoiled => spoiled) fun balanced => ?_
  have attached := invariant.attached
  refine ⟨balanced.kept, fun connection => ?_⟩
  have pending := balanced.pending connection
  rw [Attached] at attached
  by_cases outside : world.mTransactionStack = []
  · rw [if_pos outside] at attached
    rw [World.within, if_pos outside] at pending
    rw [attached.held]
    exact pending
  · rw [World.within, if_neg outside] at pending
    exact pending

/-- Nothing fails, and every statement writes. -/
def obliging : Device where
  getSqlStatementType sql :=
    match controlOf sql with
    | some .begin => .BEGIN
    | some .commit => .COMMIT
    | some .rollback => .ABORT
    | none => .OTHER
  isCanceled _ := false
  acquireConnection _ := some 0
  meanwhile _ _ transaction := transaction
  releaseFails _ := false
  shouldYieldConnection _ := true
  answer asked := ⟨false, .writes [asked], .nothing⟩
  controlFails _ := false
  controlEnds _ := false
  prepareFails _ := false
  callbackThrows _ := false

theorem obliging_tame : obliging.Tame where
  meanwhile _ _ := rfl
  deed asked := ⟨[asked], rfl⟩
  control sql other := by
    cases kind : controlOf sql with
    | none => rfl
    | some control =>
        rw [obliging] at other
        dsimp only at other
        rw [kind] at other
        cases control <;> cases other

/-- A transaction inside another one, which is not marked. -/
def unmarkedInside : List Call :=
  [.beginTransaction TRANSACTION_MODE_IMMEDIATE none 0 false,
    .execute .execute (some "INSERT") 0 false,
    .beginTransaction TRANSACTION_MODE_IMMEDIATE none 0 false,
    .endTransaction false,
    .setTransactionSuccessful,
    .endTransaction false]

theorem durable_or_spoiled_of_unmarkedInside :
    Spoiled ((session obliging).after World.initial unmarkedInside).traffic ∨
      Accounted ((session obliging).after World.initial unmarkedInside) :=
  durable_or_spoiled obliging_tame unmarkedInside

/-- What the outer transaction has written is not kept. -/
example : ((session obliging).after World.initial unmarkedInside).engine.kept = [] := by decide

end Session
end ModuleDatabase
