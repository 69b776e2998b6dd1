import ModuleDatabase.Session.Discipline

namespace ModuleDatabase
namespace Session

open Effect Nesting

/-!
# Transactions over whole runs

Each method takes the session from a state between two calls to a state between two calls,
whether it ends normally or by an exception; runs follow.
-/

section Steps

variable {device : Device} {world next : World} {connection : SQLiteConnection}

theorem Invariant.ask (invariant : Invariant device world) (asked : Nat) :
    Invariant device { world with asked := asked } := by
  refine ⟨?_, invariant.fine⟩
  have attached := invariant.attached
  rw [Attached] at attached ⊢
  by_cases outside : world.mTransactionStack = []
  · rw [if_pos outside] at attached
    rw [if_pos outside]
    exact ⟨attached.held, attached.holder, attached.count⟩
  · rw [if_neg outside] at attached
    rw [if_neg outside]
    obtain ⟨connection, use⟩ := attached
    exact ⟨connection, use.held, use.holder, use.count⟩

/-! ## The beginning -/

/-- The engine's transaction has begun, and the session's is not yet on the stack. -/
structure Opening (device : Device) (connection : SQLiteConnection) (world : World) : Prop where
  stack : world.mTransactionStack = []
  use : Using connection 1 world
  fine : Fine device world (Books (some connection) [] world.journal world.engine)

theorem controlOf_beginText (mode : Int) : controlOf (beginText mode) = some .begin := by
  rw [beginText]
  split
  · rfl
  · split <;> rfl

theorem settled_of_closing {journal : Journal} (closing : journal.closing = none)
    (accepted : Bool) : journal.settled accepted = journal := by
  rw [Journal.settled, closing]

theorem ensures_executeIfOutermost {sql : String} {control : Control}
    {done : PUnit → World → Prop} {failing : Thrown → World → Prop}
    (stack : world.mTransactionStack = []) (held : world.mConnection = some connection)
    (kind : controlOf sql = some control)
    (ends : ∀ fails stops asked, world.engine.refuses connection control fails = false →
      done ⟨⟩ (world.controlled connection sql control fails stops asked))
    (throws : ∀ fails stops asked, world.engine.refuses connection control fails = true →
      failing .sqlite (world.controlled connection sql control fails stops asked)) :
    Ensures (executeIfOutermost device sql) done failing world := by
  rw [executeIfOutermost, ensures_bind, ensures_get, if_pos (by rw [stack]; rfl), ensures_bind]
  exact ensures_connectionExecute_control held kind ends throws

theorem ensures_executeIfOutermost_nested {sql : String} {done : PUnit → World → Prop}
    {failing : Thrown → World → Prop} (within : world.mTransactionStack ≠ []) :
    Ensures (executeIfOutermost device sql) done failing world ↔ done ⟨⟩ world := by
  have nonempty : ¬ world.mTransactionStack.isEmpty = true := fun empty =>
    within (List.isEmpty_iff.mp empty)
  rw [executeIfOutermost, ensures_bind, ensures_get, if_neg nonempty, ensures_pure]

theorem Books.begin {journal : Journal} {engine : Engine} (books : Books none [] journal engine)
    (connection : SQLiteConnection) :
    Books (some connection) [] journal (engine.begin connection) := by
  have closed : ∀ other, engine.pending other = none := books.pending
  have begins : engine.begin connection = engine.put connection (some []) := by
    rw [Engine.begin, closed connection]
    rfl
  rw [begins]
  refine ⟨books.mirrors, books.closing, books.idle, books.kept, fun other => ?_⟩
  change Function.update engine.pending connection _ other = _
  rw [Function.update_apply, closed other, books.idle rfl]
  exact if_congr ⟨fun same => congrArg some same.symm, fun same => (Option.some.inj same).symm⟩
    rfl rfl

theorem Books.rollback {journal : Journal} {engine : Engine}
    (books : Books (some connection) [] journal engine) :
    Books none [] journal (engine.rollback connection) := by
  refine ⟨books.mirrors, books.closing, books.idle, books.kept, fun other => ?_⟩
  have before := books.pending other
  change Function.update engine.pending connection _ other = _
  rw [Function.update_apply]
  by_cases same : other = connection
  · rw [if_pos same, if_neg (Option.some_ne_none other).symm]
  · rw [if_neg fun equal => same (Option.some.inj equal).symm] at before
    rw [if_neg same, before, if_neg (Option.some_ne_none other).symm]

theorem Working.begins (working : Working device connection 1 [] world) (mode : Int) :
    Ensures (executeIfOutermost device (beginText mode)) (fun _ => Opening device connection)
      (fun thrown next => thrown.isFault = false ∧ Closing device connection next) world := by
  refine ensures_executeIfOutermost working.stack working.use.held (controlOf_beginText mode)
    (fun fails ends asked accepted => ?_) fun fails ends asked refused => ⟨rfl, ?_⟩
  · refine ⟨working.stack, working.use.controlled _ _ _ _ _, ?_⟩
    refine working.fine.step (List.suffix_cons _ _) fun _ balanced => ?_
    have books := (balanced_nil working.stack).mp balanced
    rw [World.controlled, settled_of_closing books.closing, Engine.obey, accepted]
    exact books.begin connection
  · refine ⟨working.stack, working.use.controlled _ _ _ _ _, ?_⟩
    refine working.fine.step (List.suffix_cons _ _) fun _ balanced => ?_
    have books := (balanced_nil working.stack).mp balanced
    left
    rw [World.controlled, settled_of_closing books.closing, Engine.obey, refused]
    exact books

/-- `ROLLBACK` after `onBegin` has thrown. -/
theorem Opening.rollsBack (opening : Opening device connection world) :
    Ensures (executeIfOutermost device "ROLLBACK;") (fun _ => Closing device connection)
      (fun thrown next => thrown.isFault = false ∧ Closing device connection next) world := by
  refine ensures_executeIfOutermost opening.stack opening.use.held rfl
    (fun fails ends asked accepted => ?_) fun fails ends asked refused => ⟨rfl, ?_⟩
  · refine ⟨opening.stack, opening.use.controlled _ _ _ _ _, ?_⟩
    refine opening.fine.step (List.suffix_cons _ _) fun _ books => ?_
    left
    rw [World.controlled, settled_of_closing books.closing, Engine.obey, accepted]
    exact books.rollback
  · refine ⟨opening.stack, opening.use.controlled _ _ _ _ _, ?_⟩
    refine opening.fine.step (List.suffix_cons _ _) fun _ books => ?_
    have pending : world.engine.pending connection = some world.journal.changes := by
      rw [books.pending connection, if_pos rfl]
    rw [World.controlled, settled_of_closing books.closing, Engine.obey, refused]
    cases ends with
    | true => exact Or.inl books.rollback
    | false =>
        right
        refine ⟨?_, "ROLLBACK;", world.traffic, Or.inr rfl, ?_⟩
        · change (world.engine.pending connection).isSome = true
          rw [pending]
          rfl
        · rfl

theorem Opening.called (opening : Opening device connection world)
    (listener : SQLiteTransactionListener) (callback : Callback) (threw : Bool) :
    Opening device connection (world.called listener callback threw) :=
  ⟨opening.stack, opening.use.called _ _ _, opening.fine.step (List.suffix_cons _ _)
    fun _ books => books⟩

theorem Opening.announce (opening : Opening device connection world)
    (listener : Option SQLiteTransactionListener) :
    Ensures (announce device listener) (fun _ => Opening device connection)
      (fun thrown next => thrown.isFault = false ∧ Closing device connection next) world := by
  cases listener with
  | none => exact opening
  | some listener =>
      rw [Session.announce, ensures_tryCatch]
      refine ensures_callListener (opening.called _ _ _) ?_
      rw [ensures_bind]
      refine (opening.called listener .onBegin true).rollsBack.mono ?_ fun _ _ kept => kept
      intro _ next closing
      exact ⟨rfl, closing⟩

theorem Working.called {count : Int} {stack : List Transaction}
    (working : Working device connection count stack world)
    (listener : SQLiteTransactionListener) (callback : Callback) (threw : Bool) :
    Working device connection count stack (world.called listener callback threw) :=
  ⟨working.stack, working.use.called _ _ _, working.fine.step (List.suffix_cons _ _)
    fun _ balanced => balanced⟩

theorem Working.announce {stack : List Transaction} (within : stack ≠ [])
    (working : Working device connection 1 stack world)
    (listener : Option SQLiteTransactionListener) :
    Ensures (announce device listener) (fun _ => Working device connection 1 stack)
      (fun thrown next => thrown.isFault = false ∧ Working device connection 1 stack next)
      world := by
  cases listener with
  | none => exact working
  | some listener =>
      rw [Session.announce, ensures_tryCatch]
      refine ensures_callListener (working.called _ _ _) ?_
      have called := working.called listener .onBegin true
      rw [ensures_bind, ensures_executeIfOutermost_nested (called.stack.symm ▸ within)]
      exact ⟨rfl, called⟩

/-- A new transaction is put on the stack. -/
def World.pushed (mode : Int) (listener : Option SQLiteTransactionListener)
    (pool : List Transaction) (world : World) : World :=
  { world with
    mTransactionPool := pool
    mTransactionStack := ⟨mode, listener, false, false⟩ :: world.mTransactionStack
    journal := world.journal.opened }

theorem ensures_push {mode : Int} {listener : Option SQLiteTransactionListener}
    {done : PUnit → World → Prop} {failing : Thrown → World → Prop}
    (ends : ∀ pool, done ⟨⟩ (world.pushed mode listener pool)) :
    Ensures (pushTransaction mode listener) done failing world := by
  rw [pushTransaction, ensures_bind]
  exact ensures_obtainTransaction ends

theorem ensures_releaseIfOutermost_nested {done : PUnit → World → Prop}
    {failing : Thrown → World → Prop} (within : world.mTransactionStack ≠ []) :
    Ensures (releaseIfOutermost device) done failing world ↔ done ⟨⟩ world := by
  have nonempty : ¬ world.mTransactionStack.isEmpty = true := fun empty =>
    within (List.isEmpty_iff.mp empty)
  rw [releaseIfOutermost, ensures_bind, ensures_get, if_neg nonempty, ensures_pure]

theorem Closing.released (closing : Closing device connection world) {thrown : Thrown}
    (harmless : thrown.isFault = false) :
    Ensures (releaseIfOutermost device)
      (fun _ next => thrown.isFault = false ∧ Invariant device next)
      (fun thrown next => thrown.isFault = false ∧ Invariant device next) world := by
  rw [releaseIfOutermost, ensures_bind, ensures_get, if_pos (by rw [closing.stack]; rfl)]
  exact closing.keeps.mono (fun _ _ kept => ⟨harmless, kept⟩) fun _ _ kept => kept

theorem Opening.pushed (opening : Opening device connection world) (mode : Int)
    (listener : Option SQLiteTransactionListener) (pool : List Transaction) :
    Invariant device (world.pushed mode listener pool) := by
  have within : (world.pushed mode listener pool).mTransactionStack ≠ [] := List.cons_ne_nil _ _
  refine ⟨?_, ?_⟩
  · rw [Attached, if_neg within]
    exact ⟨connection, opening.use.held, opening.use.holder, opening.use.count⟩
  · refine opening.fine.step (List.suffix_refl _) fun _ books => ?_
    rw [World.Balanced, World.within, if_neg within]
    have held : (world.pushed mode listener pool).mConnection = some connection :=
      opening.use.held
    rw [held, World.pushed, opening.stack]
    exact ⟨.cons mirrors_fresh books.mirrors, books.closing,
      fun empty => absurd empty (List.cons_ne_nil _ _), books.kept, books.pending⟩

theorem Working.pushed {stack : List Transaction} (within : stack ≠ [])
    (working : Working device connection 1 stack world) (mode : Int)
    (listener : Option SQLiteTransactionListener) (pool : List Transaction) :
    Invariant device (world.pushed mode listener pool) := by
  have before : world.mTransactionStack ≠ [] := working.stack.symm ▸ within
  have after : (world.pushed mode listener pool).mTransactionStack ≠ [] := List.cons_ne_nil _ _
  refine ⟨?_, ?_⟩
  · rw [Attached, if_neg after]
    exact ⟨connection, working.use.held, working.use.holder, working.use.count⟩
  · refine working.fine.step (List.suffix_refl _) fun _ books => ?_
    rw [World.Balanced, World.within, if_neg before] at books
    rw [World.Balanced, World.within, if_neg after]
    exact ⟨.cons mirrors_fresh books.mirrors, books.closing,
      fun empty => absurd empty (List.cons_ne_nil _ _), books.kept, books.pending⟩

theorem Invariant.beginTransactionUnchecked (invariant : Invariant device world) (mode : Int)
    (listener : Option SQLiteTransactionListener) (flags : Int) (signal : Bool) :
    Keeps device (beginTransactionUnchecked device mode listener flags signal) world := by
  rw [Keeps, Session.beginTransactionUnchecked, ensures_bind]
  refine ensures_throwIfCanceled (fun asked => ?_) fun asked => ⟨rfl, invariant.ask asked⟩
  replace invariant := invariant.ask asked
  generalize { world with asked := asked } = world at invariant
  rw [ensures_bind, ensures_get, ensures_bind]
  by_cases outside : world.mTransactionStack = []
  · rw [if_pos (by rw [outside]; rfl)]
    have apart := (attached_nil outside).mp invariant.attached
    refine ensures_acquireConnection apart.held apart.count (fun connection asked _ => ?_)
      fun asked => ⟨rfl, invariant.waited outside asked⟩
    rw [ensures_ensuring, ensures_bind]
    have connected := invariant.connected outside connection flags asked
    refine (connected.begins mode).mono ?_ fun _ _ failed => failed.2.released failed.1
    intro _ begun opening
    rw [ensures_bind]
    refine (opening.announce listener).mono ?_ fun _ _ failed => failed.2.released failed.1
    intro _ announced opening
    refine ensures_push fun pool => ?_
    rw [ensures_releaseIfOutermost_nested (List.cons_ne_nil _ _)]
    exact opening.pushed mode listener pool
  · obtain ⟨connection, working⟩ := invariant.using outside
    rw [if_neg fun empty => outside (List.isEmpty_iff.mp empty), ensures_pure, ensures_ensuring,
      ensures_bind, ensures_executeIfOutermost_nested outside, ensures_bind]
    refine (working.announce outside listener).mono ?_ ?_
    · intro _ state working
      refine ensures_push fun pool => ?_
      rw [ensures_releaseIfOutermost_nested (List.cons_ne_nil _ _)]
      exact working.pushed outside mode listener pool
    · rintro thrown state ⟨harmless, working⟩
      rw [ensures_releaseIfOutermost_nested (working.stack.symm ▸ outside)]
      exact ⟨harmless, working.invariant outside⟩

/-! ## The end -/

theorem ensures_callEnding {listener : Option SQLiteTransactionListener} {successful : Bool}
    {post : Option Thrown → World → Prop} {failing : Thrown → World → Prop}
    (silent : post none world)
    (ends : ∀ listener callback, post none (world.called listener callback false))
    (throws : ∀ listener callback,
      post (some (.listener listener)) (world.called listener callback true)) :
    Ensures (callEnding device listener successful) post failing world := by
  cases listener with
  | none => exact silent
  | some listener =>
      rw [callEnding, ensures_tryCatch, ensures_bind]
      exact ensures_callListener (ends _ _) (throws _ _)

/-- The transaction on the top of the stack is taken off it. -/
def World.popped (top : Transaction) (parent : List Transaction) (yielding interrupted : Bool)
    (world : World) : World :=
  { world with
    mTransactionPool := { top with mListener := none } :: world.mTransactionPool
    mTransactionStack := parent
    journal := (if yielding then world.journal.marked else world.journal).closed interrupted }

/-- The outermost block is over, and its last statement is still to be executed. -/
structure Concluding (connection : SQLiteConnection) (block : Block) (journal : Journal)
    (engine : Engine) : Prop where
  frames : journal.frames = []
  closing : journal.closing = some block
  kept : engine.kept = journal.history.flatMap Past.durable
  own : engine.pending connection = some journal.changes
  others : ∀ other, other ≠ connection → engine.pending other = none

structure Ending (device : Device) (connection : SQLiteConnection) (successful : Bool)
    (world : World) : Prop where
  stack : world.mTransactionStack = []
  use : Using connection 1 world
  fine : Fine device world (∃ block : Block, block.succeeds = successful ∧
    Concluding connection block world.journal world.engine)

section Popped

variable {top : Transaction} {parent : List Transaction} {journal : Journal}

theorem marked_of_frames {frame : Frame} {frames : List Frame}
    (opened : journal.frames = frame :: frames) (yielding : Bool) :
    (if yielding then journal.marked else journal) =
      { journal with frames := (if yielding then frame.mark else frame) :: frames } := by
  cases yielding with
  | true => rw [if_pos rfl, if_pos rfl, Journal.marked, opened]
  | false => rw [if_neg Bool.false_ne_true, if_neg Bool.false_ne_true, ← opened]

theorem mirrors_marked {frame : Frame} (mirrors : Mirrors top.flags frame) (yielding : Bool) :
    Mirrors ⟨top.mMarkedSuccessful || yielding, top.mChildFailed⟩
      (if yielding then frame.mark else frame) := by
  cases yielding with
  | true =>
      rw [Bool.or_true, if_pos rfl]
      exact mirrors.mark
  | false =>
      rw [Bool.or_false, if_neg Bool.false_ne_true]
      exact mirrors

/-- What becomes of the journal when the innermost block is closed. -/
theorem closed_of_mirrors
    (mirrors : List.Forall₂ (fun transaction => Mirrors transaction.flags) (top :: parent)
      journal.frames) (yielding interrupted : Bool) :
    ∃ block : Block,
      block.succeeds =
        ((top.mMarkedSuccessful || yielding) && !top.mChildFailed && !interrupted) ∧
      (parent = [] → (if yielding then journal.marked else journal).closed interrupted =
        { journal with frames := [], closing := some block }) ∧
      (∀ outer rest, parent = outer :: rest → ∃ frame frames,
        (if yielding then journal.marked else journal).closed interrupted =
          { journal with frames := frame.enclose block :: frames } ∧
        Mirrors outer.flags frame ∧
        List.Forall₂ (fun transaction => Mirrors transaction.flags) rest frames) := by
  cases opened : journal.frames with
  | nil =>
      rw [opened] at mirrors
      cases mirrors
  | cons frame frames =>
      rw [opened] at mirrors
      cases mirrors with
      | cons first others =>
          have marked := mirrors_marked first yielding
          refine ⟨_, marked.succeeds interrupted, ?_, ?_⟩
          · intro outermost
            rw [outermost] at others
            cases others
            rw [marked_of_frames opened, Journal.closed]
          · intro outer rest nested
            rw [nested] at others
            cases others with
            | cons second further =>
                exact ⟨_, _, by rw [marked_of_frames opened, Journal.closed], second, further⟩

end Popped

theorem Working.popped_outermost {top : Transaction}
    (working : Working device connection 1 [top] world) (yielding interrupted : Bool) :
    Ending device connection
      ((top.mMarkedSuccessful || yielding) && !top.mChildFailed && !interrupted)
      (world.popped top [] yielding interrupted) := by
  refine ⟨rfl, ⟨working.use.held, working.use.holder, working.use.count⟩, ?_⟩
  refine working.fine.step (List.suffix_refl _) fun _ balanced => ?_
  rw [World.Balanced, World.within, working.use.held, working.stack,
    if_neg (List.cons_ne_nil _ _)] at balanced
  obtain ⟨block, succeeds, last, -⟩ := closed_of_mirrors balanced.mirrors yielding interrupted
  rw [World.popped, last rfl]
  refine ⟨block, succeeds, rfl, rfl, balanced.kept, ?_, fun other apart => ?_⟩
  · have own := balanced.pending connection
    rw [if_pos rfl] at own
    exact own
  · have before := balanced.pending other
    rw [if_neg fun same => apart (Option.some.inj same).symm] at before
    exact before

theorem Concluding.books {block : Block} {journal : Journal} {engine : Engine}
    (concluding : Concluding connection block journal engine) (accepted : Bool)
    {kept : List Change}
    (durable : kept = engine.kept ++ (Past.ended block journal.changes accepted).durable) :
    Books none [] (journal.settled accepted) { engine.put connection none with kept := kept } := by
  rw [Journal.settled, concluding.closing]
  refine ⟨?_, rfl, fun _ => rfl, ?_, fun other => ?_⟩
  · change List.Forall₂ _ [] journal.frames
    rw [concluding.frames]
    exact .nil
  · rw [durable, concluding.kept, List.flatMap_append, List.flatMap_singleton]
  · rw [if_neg (Option.some_ne_none other).symm]
    change Function.update engine.pending connection none other = none
    rw [Function.update_apply]
    split
    · rfl
    · rename_i apart
      exact concluding.others other apart

/-- A statement that is accepted ends the transaction as it should. -/
theorem Concluding.accepted {block : Block} {journal : Journal} {engine : Engine}
    (concluding : Concluding connection block journal engine) :
    Books none [] (journal.settled true)
      (if block.succeeds then engine.commit connection else engine.rollback connection) := by
  cases succeeds : block.succeeds with
  | true =>
      rw [if_pos rfl, Engine.commit, concluding.own]
      refine concluding.books true ?_
      rw [Past.durable, succeeds]
      rfl
  | false =>
      rw [if_neg Bool.false_ne_true]
      refine concluding.books true ?_
      rw [Past.durable, succeeds]
      exact (List.append_nil _).symm

/-- A statement that is refused and ends the transaction all the same rolls it back. -/
theorem Concluding.refused {block : Block} {journal : Journal} {engine : Engine}
    (concluding : Concluding connection block journal engine) :
    Books none [] (journal.settled false) (engine.rollback connection) := by
  refine concluding.books false ?_
  rw [Past.durable, Bool.and_false]
  exact (List.append_nil _).symm

theorem Ending.controlled {successful : Bool} (ending : Ending device connection successful world)
    (fails ends : Bool) (asked : Nat) :
    Closing device connection
      (world.controlled connection (if successful then "COMMIT;" else "ROLLBACK;")
        (if successful then .commit else .rollback) fails ends asked) := by
  refine ⟨ending.stack, ending.use.controlled _ _ _ _ _, ?_⟩
  refine ending.fine.step (List.suffix_cons _ _) ?_
  rintro - ⟨block, succeeds, concluding⟩
  rw [← succeeds]
  have refuses : world.engine.refuses connection
      (if block.succeeds then .commit else .rollback) fails = fails := by
    cases block.succeeds <;> simp [Engine.refuses, concluding.own]
  rw [World.controlled, refuses]
  cases fails with
  | false =>
      left
      have accepts : world.engine.obey connection
          (if block.succeeds then .commit else .rollback) false ends =
          if block.succeeds then world.engine.commit connection
          else world.engine.rollback connection := by
        rw [Engine.obey, refuses, if_neg Bool.false_ne_true]
        cases block.succeeds <;> rfl
      rw [accepts]
      exact concluding.accepted
  | true =>
      have obeys : world.engine.obey connection
          (if block.succeeds then .commit else .rollback) true ends =
          if ends then world.engine.rollback connection else world.engine := by
        rw [Engine.obey, refuses, if_pos rfl]
        cases block.succeeds <;> rfl
      rw [obeys]
      cases ends with
      | true => exact Or.inl concluding.refused
      | false =>
          right
          refine ⟨?_, _, world.traffic, ?_, rfl⟩
          · change (world.engine.pending connection).isSome = true
            rw [concluding.own]
            rfl
          · cases block.succeeds with
            | true => exact Or.inl rfl
            | false => exact Or.inr rfl

theorem Ending.endOutermost {successful : Bool}
    (ending : Ending device connection successful world) :
    Keeps device (endOutermost device successful) world := by
  have kind : controlOf (if successful then "COMMIT;" else "ROLLBACK;") =
      some (if successful then .commit else .rollback) := by
    cases successful <;> rfl
  rw [Keeps, Session.endOutermost, ensures_ensuring, ensures_bind]
  refine ensures_connectionExecute_control ending.use.held kind
    (fun fails ends asked _ => ?_) fun fails ends asked _ => ?_
  · exact (ending.controlled fails ends asked).keeps
  · exact (ending.controlled fails ends asked).keeps.mono (fun _ _ kept => ⟨rfl, kept⟩)
      fun _ _ kept => kept

/-- What is left on the stack when a nested transaction has ended. -/
def parentsAfter (successful : Bool) (parents : List Transaction) : List Transaction :=
  if successful then parents else onTop (fun top => { top with mChildFailed := true }) parents

def World.endedNested (successful : Bool) (world : World) : World :=
  { world with mTransactionStack := parentsAfter successful world.mTransactionStack }

theorem ensures_endNested {successful : Bool} {done : PUnit → World → Prop}
    {failing : Thrown → World → Prop} :
    Ensures (endNested successful) done failing world ↔
      done ⟨⟩ (world.endedNested successful) := by
  cases successful <;> rfl

theorem Books.popped_nested {within : Option SQLiteConnection} {top outer : Transaction}
    {rest : List Transaction} {journal : Journal} {engine : Engine}
    (books : Books within (top :: outer :: rest) journal engine) (yielding interrupted : Bool) :
    Books within
      (parentsAfter ((top.mMarkedSuccessful || yielding) && !top.mChildFailed && !interrupted)
        (outer :: rest))
      ((if yielding then journal.marked else journal).closed interrupted) engine := by
  obtain ⟨block, succeeds, -, nested⟩ := closed_of_mirrors books.mirrors yielding interrupted
  obtain ⟨frame, frames, closed, mirrors, further⟩ := nested outer rest rfl
  have enclosed := mirrors.enclose block
  rw [closed, ← succeeds]
  cases ends : block.succeeds with
  | true =>
      rw [ends, Bool.not_true, Bool.or_false] at enclosed
      exact ⟨.cons enclosed further, books.closing,
        fun empty => absurd empty (List.cons_ne_nil _ _), books.kept, books.pending⟩
  | false =>
      rw [ends, Bool.not_false, Bool.or_true] at enclosed
      exact ⟨.cons enclosed further, books.closing,
        fun empty => absurd empty (List.cons_ne_nil _ _), books.kept, books.pending⟩

theorem Working.popped_nested {top outer : Transaction} {rest : List Transaction}
    (working : Working device connection 1 (top :: outer :: rest) world)
    (yielding interrupted : Bool) :
    Invariant device
      ((world.popped top (outer :: rest) yielding interrupted).endedNested
        ((top.mMarkedSuccessful || yielding) && !top.mChildFailed && !interrupted)) := by
  generalize flag : ((top.mMarkedSuccessful || yielding) && !top.mChildFailed && !interrupted) =
    successful
  have within : parentsAfter successful (outer :: rest) ≠ [] := by
    cases successful <;> exact List.cons_ne_nil _ _
  refine Working.invariant within
    ⟨rfl, ⟨working.use.held, working.use.holder, working.use.count⟩, ?_⟩
  refine working.fine.step (List.suffix_refl _) fun _ balanced => ?_
  rw [World.Balanced, World.within, working.use.held, working.stack,
    if_neg (List.cons_ne_nil _ _)] at balanced
  have books := balanced.popped_nested yielding interrupted
  rw [flag, ← working.use.held] at books
  have still : ((world.popped top (outer :: rest) yielding interrupted).endedNested
      successful).within = world.mConnection := if_neg within
  rw [World.Balanced, still]
  exact books

theorem Keeps.rethrow {body : EStateM Thrown World PUnit} {exception : Option Thrown}
    (keeps : Keeps device body world) (harmless : ∀ thrown ∈ exception, thrown.isFault = false) :
    Keeps device (do body; rethrow exception) world := by
  rw [Keeps, ensures_bind]
  refine keeps.mono (fun _ state invariant => ?_) fun _ _ failed => failed
  cases exception with
  | none => exact invariant
  | some thrown => exact ⟨harmless thrown rfl, invariant⟩

theorem Working.conclude {top : Transaction} {parent : List Transaction} {yielding : Bool}
    {exception : Option Thrown} (working : Working device connection 1 (top :: parent) world)
    (harmless : ∀ thrown ∈ exception, thrown.isFault = false) :
    Keeps device
      (conclude device top parent yielding
        ((top.mMarkedSuccessful || yielding) && !top.mChildFailed && exception.isNone) exception)
      world := by
  have quiet : exception.isNone = !exception.isSome := by cases exception <;> rfl
  rw [quiet, Keeps, Session.conclude, ensures_bind, ensures_modify, ensures_bind,
    recycleTransaction, ensures_modify, ensures_bind, ensures_record]
  cases parent with
  | nil =>
      exact (working.popped_outermost yielding exception.isSome).endOutermost.rethrow harmless
  | cons outer rest =>
      refine Keeps.rethrow ?_ harmless
      exact ensures_endNested.mpr (working.popped_nested yielding exception.isSome)

theorem Working.asked {count : Int} {stack : List Transaction}
    (working : Working device connection count stack world) (asked : Nat) :
    Working device connection count stack { world with asked := asked } :=
  ⟨working.stack, ⟨working.use.held, working.use.holder, working.use.count⟩, working.fine⟩

theorem Working.endTransactionUnchecked {top : Transaction} {parent : List Transaction}
    (working : Working device connection 1 (top :: parent) world) (signal yielding : Bool) :
    Keeps device (endTransactionUnchecked device signal yielding) world := by
  rw [Keeps, Session.endTransactionUnchecked, ensures_bind]
  refine ensures_throwIfCanceled (fun asked => ?_)
    fun asked => ⟨rfl, (working.asked asked).invariant (List.cons_ne_nil _ _)⟩
  replace working := working.asked asked
  generalize { world with asked := asked } = world at working
  rw [ensures_bind, ensures_get, working.stack]
  dsimp only
  rw [ensures_bind]
  refine ensures_callEnding (working.conclude ?_) (fun listener callback => ?_)
    fun listener callback => ?_
  · rintro thrown ⟨⟩
  · refine (working.called listener callback false).conclude ?_
    rintro thrown ⟨⟩
  · refine (working.called listener callback true).conclude ?_
    rintro thrown ⟨⟩
    rfl

end Steps

end Session
end ModuleDatabase
