import ModuleDatabase.Session.Runs

namespace ModuleDatabase
namespace Session

open Effect

/-!
# Yielding a transaction

A transaction that yields is committed, the connection goes through the pool, and a
transaction of the same kind is begun.  This can fail at any point, and what has been
committed by then stays so.
-/

section Steps

variable {device : Device} {world next : World} {connection : SQLiteConnection}

/-- What a transaction has written is durable, or nothing of it is. -/
def Decides (connection : SQLiteConnection) (engine next : Engine) : Prop :=
  next.kept = engine.kept ∨
    ∃ changes, engine.pending connection = some changes ∧ next.kept = engine.kept ++ changes

/-- The transaction was committed, and the connection was given back after it. -/
structure Committed (connection : SQLiteConnection) (flags : Int) (engine : Engine)
    (next : World) : Prop where
  stack : next.mTransactionStack = []
  held : next.mConnection = none
  count : next.mConnectionUseCount = 0
  flags : next.mConnectionFlags = flags
  kept : ∃ changes, engine.pending connection = some changes ∧
    next.engine.kept = engine.kept ++ changes
  traffic : ∃ earlier, next.traffic =
    .released connection false :: .executed connection "COMMIT;" false :: earlier

theorem kept_rollback (connection : SQLiteConnection) (engine : Engine) (fails ends : Bool) :
    (engine.obey connection .rollback fails ends).kept = engine.kept := by
  rw [Engine.obey]
  split
  · split <;> rfl
  · rfl

theorem kept_refused {engine : Engine} {control : Control} {fails : Bool}
    (refused : engine.refuses connection control fails = true) (ends : Bool) :
    (engine.obey connection control fails ends).kept = engine.kept := by
  rw [Engine.obey, refused, if_pos rfl]
  split <;> rfl

theorem endOutermost_commits (world : World) (held : world.mConnection = some connection)
    (count : world.mConnectionUseCount = 1) (stack : world.mTransactionStack = []) :
    Ensures (endOutermost device true)
      (fun _ => Committed connection world.mConnectionFlags world.engine)
      (fun _ next => next.mTransactionStack = [] ∧
        Decides connection world.engine next.engine) world := by
  rw [endOutermost, ensures_ensuring, ensures_bind]
  refine ensures_connectionExecute_control held rfl (fun fails ends asked accepted => ?_)
    fun fails ends asked refused => ?_
  · obtain ⟨changes, pending⟩ : ∃ changes, world.engine.pending connection = some changes := by
      rw [Engine.refuses, Bool.or_eq_false_iff, Option.isNone_eq_false_iff] at accepted
      exact Option.isSome_iff_exists.mp accepted.1
    have commits : world.engine.obey connection .commit fails ends =
        { world.engine.put connection none with kept := world.engine.kept ++ changes } := by
      rw [Engine.obey, accepted, if_neg Bool.false_ne_true, Engine.carryOut, Engine.commit, pending]
    refine ensures_releaseConnection held count (fun asked => ?_) fun asked => ⟨stack, ?_⟩
    · refine ⟨stack, rfl, rfl, rfl, ⟨changes, pending, ?_⟩, world.traffic, ?_⟩
      · rw [World.disconnected, World.controlled, commits]
      · rw [World.disconnected, World.controlled, commits, accepted, Engine.put]
        dsimp only
        rw [Function.update_self]
        rfl
    · right
      refine ⟨changes, pending, ?_⟩
      rw [World.disconnected, World.controlled, commits]
  · have same := kept_refused refused ends
    exact ensures_releaseConnection held count (fun asked => ⟨stack, Or.inl same⟩)
      fun asked => ⟨stack, Or.inl same⟩

/-- Without success nothing becomes durable. -/
theorem endOutermost_rollsBack (world : World) (held : world.mConnection = some connection)
    (count : world.mConnectionUseCount = 1) (stack : world.mTransactionStack = []) :
    Ensures (endOutermost device false)
      (fun _ next => next.mTransactionStack = [] ∧ next.engine.kept = world.engine.kept)
      (fun _ next => next.mTransactionStack = [] ∧ next.engine.kept = world.engine.kept)
      world := by
  have same := kept_rollback connection world.engine
  rw [endOutermost, ensures_ensuring, ensures_bind]
  exact ensures_connectionExecute_control held rfl
    (fun fails ends _ _ => ensures_releaseConnection held count
      (fun _ => ⟨stack, same fails ends⟩) fun _ => ⟨stack, same fails ends⟩)
    fun fails ends _ _ => ensures_releaseConnection held count
      (fun _ => ⟨stack, same fails ends⟩) fun _ => ⟨stack, same fails ends⟩

/-- Nothing has happened but that questions were asked. -/
def Unchanged (world next : World) : Prop := ∃ asked, next = { world with asked := asked }

/-- The end of a transaction that yields. -/
theorem endTransactionUnchecked_yields (device : Device) (world : World) {top : Transaction}
    (stack : world.mTransactionStack = [top]) (held : world.mConnection = some connection)
    (count : world.mConnectionUseCount = 1) (unfailed : top.mChildFailed = false)
    (signal : Bool) :
    Ensures (endTransactionUnchecked device signal true)
      (fun _ => Committed connection world.mConnectionFlags world.engine)
      (fun _ next => Unchanged world next ∨
        next.mTransactionStack = [] ∧ Decides connection world.engine next.engine) world := by
  have concludes : ∀ state : World, state.mConnection = some connection →
      state.mConnectionUseCount = 1 → state.mConnectionFlags = world.mConnectionFlags →
      state.engine = world.engine →
      Ensures (conclude device top [] true true none)
        (fun _ => Committed connection world.mConnectionFlags world.engine)
        (fun _ next => Unchanged world next ∨
          next.mTransactionStack = [] ∧ Decides connection world.engine next.engine) state := by
    intro state held count flags engine
    rw [conclude, ensures_bind, ensures_modify, ensures_bind, recycleTransaction, ensures_modify,
      ensures_bind, ensures_record, ensures_bind, ← flags, ← engine]
    exact (endOutermost_commits (state.popped top [] true false) held count rfl).mono
      (fun _ _ committed => committed) fun _ _ decided => Or.inr decided
  have fails : ∀ (state : World) thrown, state.mConnection = some connection →
      state.mConnectionUseCount = 1 → state.engine = world.engine →
      Ensures (conclude device top [] true false (some thrown))
        (fun _ => Committed connection world.mConnectionFlags world.engine)
        (fun _ next => Unchanged world next ∨
          next.mTransactionStack = [] ∧ Decides connection world.engine next.engine) state := by
    intro state thrown held count engine
    rw [conclude, ensures_bind, ensures_modify, ensures_bind, recycleTransaction, ensures_modify,
      ensures_bind, ensures_record, ensures_bind, ← engine]
    exact (endOutermost_rollsBack (state.popped top [] true true) held count rfl).mono
      (fun _ _ left => Or.inr ⟨left.1, Or.inl left.2⟩)
      fun _ _ left => Or.inr ⟨left.1, Or.inl left.2⟩
  rw [endTransactionUnchecked, ensures_bind]
  refine ensures_throwIfCanceled (fun asked => ?_) fun asked => Or.inl ⟨asked, rfl⟩
  rw [ensures_bind, ensures_get, stack]
  dsimp only
  rw [ensures_bind, Bool.or_true, Bool.true_and, unfailed, Bool.not_false]
  exact ensures_callEnding (concludes _ held count rfl rfl)
    (fun listener callback => concludes _ held count rfl rfl)
    fun listener callback => fails _ _ held count rfl

/-! ## The new transaction -/

/-- A transaction of this kind was begun on a connection that came from the pool. -/
structure Begun (mode : Int) (listener : Option SQLiteTransactionListener) (flags : Int)
    (kept : List Change) (traffic : List Event) (next : World) : Prop where
  stack : next.mTransactionStack = [⟨mode, listener, false, false⟩]
  flags : next.mConnectionFlags = flags
  kept : next.engine.kept = kept
  connection : ∃ connection later, next.mConnection = some connection ∧
    next.engine.pending connection = some [] ∧
    next.traffic = later ++ .acquired connection :: traffic

/-- The connection is held although no transaction is on the stack. -/
structure Between (connection : SQLiteConnection) (kept : List Change) (next : World) :
    Prop where
  stack : next.mTransactionStack = []
  held : next.mConnection = some connection
  count : next.mConnectionUseCount = 1
  kept : next.engine.kept = kept

/-- The engine's transaction has begun on a connection that came from the pool. -/
structure Fresh (connection : SQLiteConnection) (flags : Int) (kept : List Change)
    (traffic : List Event) (next : World) : Prop extends Between connection kept next where
  flags : next.mConnectionFlags = flags
  pending : next.engine.pending connection = some []
  traffic : ∃ later, next.traffic = later ++ .acquired connection :: traffic

theorem Between.released {kept : List Change} (between : Between connection kept world) :
    Ensures (releaseIfOutermost device)
      (fun _ next => next.mTransactionStack = [] ∧ next.engine.kept = kept)
      (fun _ next => next.mTransactionStack = [] ∧ next.engine.kept = kept) world := by
  rw [releaseIfOutermost, ensures_bind, ensures_get, if_pos (by rw [between.stack]; rfl)]
  exact ensures_releaseConnection between.held between.count
    (fun _ => ⟨between.stack, between.kept⟩) fun _ => ⟨between.stack, between.kept⟩

theorem connected_begins (world : World) (stack : world.mTransactionStack = []) (mode flags : Int)
    (asked : Nat) :
    Ensures (executeIfOutermost device (beginText mode))
      (fun _ => Fresh connection flags world.engine.kept world.traffic)
      (fun _ => Between connection world.engine.kept)
      (world.connected device connection flags asked) := by
  refine ensures_executeIfOutermost stack rfl (controlOf_beginText mode)
    (fun fails ends later accepted => ?_)
    fun fails ends later refused => ⟨stack, rfl, rfl, kept_refused refused ends⟩
  have begins := accepted
  rw [Engine.refuses, Bool.or_eq_false_iff] at begins
  have engine : ((world.connected device connection flags asked).controlled connection
      (beginText mode) .begin fails ends later).engine =
      (world.connected device connection flags asked).engine.put connection (some []) := by
    change (world.connected device connection flags asked).engine.obey _ _ _ _ = _
    rw [Engine.obey, accepted, if_neg Bool.false_ne_true, Engine.carryOut, Engine.begin,
      begins.1, if_neg Bool.false_ne_true]
  refine ⟨⟨stack, rfl, rfl, ?_⟩, rfl, ?_, ⟨[_], rfl⟩⟩
  · rw [engine]
    rfl
  · rw [engine]
    exact Function.update_self _ _ _

section Begins

variable {flags : Int} {kept : List Change} {traffic : List Event}

theorem Fresh.called (fresh : Fresh connection flags kept traffic world)
    (listener : SQLiteTransactionListener) (callback : Callback) (threw : Bool) :
    Fresh connection flags kept traffic (world.called listener callback threw) := by
  obtain ⟨later, traffic⟩ := fresh.traffic
  refine ⟨⟨fresh.stack, fresh.held, fresh.count, fresh.kept⟩, fresh.flags, fresh.pending, ?_⟩
  exact ⟨_ :: later, congrArg (List.cons _) traffic⟩

theorem Fresh.announced (fresh : Fresh connection flags kept traffic world)
    (listener : Option SQLiteTransactionListener) :
    Ensures (announce device listener) (fun _ => Fresh connection flags kept traffic)
      (fun _ => Between connection kept) world := by
  cases listener with
  | none => exact fresh
  | some listener =>
      rw [announce, ensures_tryCatch]
      refine ensures_callListener (fresh.called _ _ _) ?_
      have called := fresh.called listener .onBegin true
      rw [ensures_bind]
      have left : ∀ fails ends asked, Between connection kept
          ((world.called listener .onBegin true).controlled connection "ROLLBACK;" .rollback
            fails ends asked) := fun fails ends asked =>
        ⟨called.stack, called.held, called.count,
          (kept_rollback connection _ fails ends).trans called.kept⟩
      exact ensures_executeIfOutermost called.stack called.held rfl
        (fun fails ends asked _ => left fails ends asked)
        fun fails ends asked _ => left fails ends asked

theorem Fresh.pushed (fresh : Fresh connection flags kept traffic world)
    (mode : Int) (listener : Option SQLiteTransactionListener) (pool : List Transaction) :
    Begun mode listener flags kept traffic (world.pushed mode listener pool) := by
  obtain ⟨later, traffic⟩ := fresh.traffic
  refine ⟨?_, fresh.flags, fresh.kept, connection, later, fresh.held, fresh.pending, traffic⟩
  rw [World.pushed, fresh.stack]

end Begins

theorem beginTransactionUnchecked_begins (stack : world.mTransactionStack = [])
    (apart : world.mConnection = none) (count : world.mConnectionUseCount = 0) (mode : Int)
    (listener : Option SQLiteTransactionListener) (flags : Int) (signal : Bool) :
    Ensures (beginTransactionUnchecked device mode listener flags signal)
      (fun _ => Begun mode listener flags world.engine.kept world.traffic)
      (fun _ next => next.mTransactionStack = [] ∧ next.engine.kept = world.engine.kept)
      world := by
  rw [beginTransactionUnchecked, ensures_bind]
  refine ensures_throwIfCanceled (fun asked => ?_) fun asked => ⟨stack, rfl⟩
  rw [ensures_bind, ensures_get, if_pos (by rw [stack]; rfl), ensures_bind]
  refine ensures_acquireConnection apart count (fun connection later _ => ?_)
    fun asked => ⟨stack, rfl⟩
  rw [ensures_ensuring, ensures_bind]
  refine (connected_begins { world with asked := asked } stack mode flags later).mono ?_
    fun _ _ between => between.released
  intro _ begun fresh
  rw [ensures_bind]
  refine (fresh.announced listener).mono ?_ fun _ _ between => between.released
  intro _ announced fresh
  refine ensures_push fun pool => ?_
  rw [ensures_releaseIfOutermost_nested (List.cons_ne_nil _ _)]
  exact fresh.pushed mode listener pool

/-! ## Both -/

/-- What a call of `yieldTransaction` that returns `true` has done. -/
structure Yielded (world next : World) : Prop where
  alone : ∃ top, world.mTransactionStack = [top] ∧ top.mMarkedSuccessful = false ∧
    top.mChildFailed = false ∧
    next.mTransactionStack = [⟨top.mMode, top.mListener, false, false⟩]
  flags : next.mConnectionFlags = world.mConnectionFlags
  exchanged : ∃ old new changes earlier later, world.mConnection = some old ∧
    world.engine.pending old = some changes ∧
    next.engine.kept = world.engine.kept ++ changes ∧
    next.mConnection = some new ∧ next.engine.pending new = some [] ∧
    next.traffic = later ++
      .acquired new :: .released old false :: .executed old "COMMIT;" false :: earlier

theorem yieldTransactionUnchecked_yields (invariant : Invariant device world) {top : Transaction}
    (stack : world.mTransactionStack = [top]) (unmarked : top.mMarkedSuccessful = false)
    (unfailed : top.mChildFailed = false) (signal : Bool) :
    Ensures (yieldTransactionUnchecked device signal)
      (fun yielded next => if yielded then Yielded world next else Unchanged world next)
      (fun _ next => Unchanged world next ∨ next.mTransactionStack = [] ∧
        ∃ connection, world.mConnection = some connection ∧
          Decides connection world.engine next.engine) world := by
  obtain ⟨connection, working⟩ := invariant.using (stack ▸ List.cons_ne_nil _ _)
  rw [yieldTransactionUnchecked, ensures_bind]
  refine ensures_throwIfCanceled (fun asked => ?_) fun asked => Or.inl ⟨asked, rfl⟩
  rw [ensures_bind, ensures_ask, ensures_ite]
  refine ⟨fun _ => ?_, fun _ => ⟨asked + 1, rfl⟩⟩
  rw [ensures_bind, ensures_get, stack]
  dsimp only
  rw [ensures_bind]
  have ends := endTransactionUnchecked_yields device { world with asked := asked + 1 } stack
    working.use.held working.use.count unfailed signal
  refine ends.mono ?_ ?_
  · intro _ middle committed
    obtain ⟨changes, pending, kept⟩ := committed.kept
    obtain ⟨earlier, traffic⟩ := committed.traffic
    rw [ensures_bind]
    refine (beginTransactionUnchecked_begins committed.stack committed.held committed.count
      top.mMode top.mListener _ signal).mono ?_ ?_
    · intro _ final begun
      obtain ⟨new, later, held, fresh, further⟩ := begun.connection
      refine ⟨⟨top, stack, unmarked, unfailed, begun.stack⟩, begun.flags, ?_⟩
      refine ⟨connection, new, changes, earlier, later, working.use.held, pending,
        begun.kept.trans kept, held, fresh, ?_⟩
      rw [further, traffic]
    · rintro _ final ⟨empty, same⟩
      exact Or.inr ⟨empty, connection, working.use.held, Or.inr ⟨changes, pending, same.trans kept⟩⟩
  · rintro _ next (⟨asked, rfl⟩ | ⟨empty, decides⟩)
    · exact Or.inl ⟨asked, rfl⟩
    · exact Or.inr ⟨empty, connection, working.use.held, decides⟩

end Steps

/-- What a call of `yieldTransaction` does: if it returns `true`, what the transaction wrote
is durable, the connection has gone through the pool, and a transaction of the same mode
with the same listener has been begun; if it returns `false`, nothing was done; if it
throws, nothing was done, or no transaction is open any more and what it wrote is durable
as a whole or not at all. -/
def YieldsOrNot (device : Device) (throwIfUnsafe signal : Bool) (world : World) : Prop :=
  Ensures (yieldTransaction device throwIfUnsafe signal)
    (fun yielded next => if yielded then Yielded world next else Unchanged world next)
    (fun _ next => Unchanged world next ∨ next.mTransactionStack = [] ∧
      ∃ connection, world.mConnection = some connection ∧
        Decides connection world.engine next.engine) world

/-- Every call of `yieldTransaction` in every run does this. -/
theorem yield_exact (device : Device) (run : List Call) (throwIfUnsafe signal : Bool) :
    YieldsOrNot device throwIfUnsafe signal ((session device).after World.initial run) := by
  have invariant := after_invariant device run
  generalize (session device).after World.initial run = world at invariant ⊢
  have stays : Unchanged world world := ⟨world.asked, rfl⟩
  exact invariant.ensures_yieldTransaction stays (Or.inl stays) fun top stack unmarked unfailed =>
    yieldTransactionUnchecked_yields invariant stack unmarked unfailed signal

end Session
end ModuleDatabase
