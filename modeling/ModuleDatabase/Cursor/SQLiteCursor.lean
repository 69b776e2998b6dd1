import ModuleDatabase.Base.Run
import ModuleDatabase.Cursor.Filling

namespace ModuleDatabase
namespace Cursor

/-!
# A cursor shows the rows of its query

A cursor holds one window.  A move to a row that is not in it executes the query once more,
from a start position that is guessed from the capacity of the window.  The number of rows
is counted the first time.

Who uses the cursor sees neither the window nor the guesses.  As long as the query keeps
yielding the rows that it yielded when the cursor was made, or requeried, each count is the
number of these rows, and each move is to the row at that position.
-/

def NO_COUNT : Int := -1

structure SQLiteCursor where
  mWindow : Option CursorWindow := none
  mCount : Int := NO_COUNT
  mCursorWindowCapacity : Nat := 0
  mPos : Int := -1
  deriving DecidableEq, Repr

def cursorPickFillWindowStartPosition (cursorPosition cursorWindowCapacity : Int) : Int :=
  max (cursorPosition - cursorWindowCapacity / 3) 0

/-- An execution of the query: what it yields now, unless an exception is thrown before. -/
structure Execution where
  query : Query
  throws : Bool

section Model

variable (room : Room)

/-- `SQLiteQuery.fillWindow`. -/
def Execution.fillWindow (execution : Execution) (window : CursorWindow)
    (startPos requiredPos : Int) (countAllRows : Bool) : Option Int × CursorWindow :=
  if execution.throws then (none, window)
  else executeForCursorWindow room execution.query startPos requiredPos countAllRows window

namespace SQLiteCursor

variable (cursor : SQLiteCursor)

def setWindow (window : Option CursorWindow) : SQLiteCursor :=
  { cursor with mWindow := window, mCount := NO_COUNT }

/-- Also returns the window. -/
def awc_clearOrCreateWindow : CursorWindow × SQLiteCursor :=
  match cursor.mWindow with
  | none => (⟨0, 0, []⟩, cursor.setWindow (some ⟨0, 0, []⟩))
  | some win => (win.clear, { cursor with mWindow := some win.clear })

def awc_closeWindow : SQLiteCursor := cursor.setWindow none

/-- The result is false if an exception is thrown. -/
def fillWindow (execution : Execution) (requiredPos : Int) : Bool × SQLiteCursor :=
  match cursor.awc_clearOrCreateWindow with
  | (win, cursor) =>
      if cursor.mCount = NO_COUNT then
        match execution.fillWindow room win (cursorPickFillWindowStartPosition requiredPos 0)
          requiredPos true with
        | (some count, win) =>
            (true, { cursor with
              mWindow := some win
              mCount := count
              mCursorWindowCapacity := win.getNumRows })
        | (none, _) => (false, cursor.awc_closeWindow)
      else
        match execution.fillWindow room win
          (cursorPickFillWindowStartPosition requiredPos cursor.mCursorWindowCapacity)
          requiredPos false with
        | (some _, win) => (true, { cursor with mWindow := some win })
        | (none, _) => (false, cursor.awc_closeWindow)

def onMove (execution : Execution) (newPosition : Int) : Bool × SQLiteCursor :=
  match cursor.mWindow with
  | none => cursor.fillWindow room execution newPosition
  | some win =>
      if newPosition < win.mStartPos ∨ win.mStartPos + win.getNumRows ≤ newPosition then
        cursor.fillWindow room execution newPosition
      else (true, cursor)

/-- None if an exception is thrown. -/
def getCount (execution : Execution) : Option Int × SQLiteCursor :=
  if cursor.mCount = NO_COUNT then
    match cursor.fillWindow room execution 0 with
    | (true, cursor) => (some cursor.mCount, cursor)
    | (false, cursor) => (none, cursor)
  else (some cursor.mCount, cursor)

def requery (isClosed isOpen : Bool) : Bool × SQLiteCursor :=
  if isClosed then (false, cursor)
  else if !isOpen then (false, cursor)
  else (true, { cursor with
    mWindow := cursor.mWindow.map CursorWindow.clear
    mPos := -1
    mCount := NO_COUNT })

/-- The row that the window has for a position. -/
def rowAt (position : Int) : Option Row := cursor.mWindow.bind fun win => win.rowAt position

end SQLiteCursor

inductive Call where
  | getCount
  | onMove (newPosition : Int)
  | requery (isClosed isOpen : Bool)
  deriving DecidableEq, Repr

inductive Answer where
  | count (n : Int)
  /-- The row at the new position, after the move. -/
  | row (row : Option Row)
  | requeried (done : Bool)
  | threw
  deriving DecidableEq, Repr

/-- A call, and what an execution of the query would be at that time. -/
structure Event where
  call : Call
  execution : Execution

def perform (event : Event) (cursor : SQLiteCursor) : Answer × SQLiteCursor :=
  match event.call with
  | .getCount =>
      match cursor.getCount room event.execution with
      | (some count, cursor) => (.count count, cursor)
      | (none, cursor) => (.threw, cursor)
  | .onMove newPosition =>
      match cursor.onMove room event.execution newPosition with
      | (true, cursor) => (.row (cursor.rowAt newPosition), cursor)
      | (false, cursor) => (.threw, cursor)
  | .requery isClosed isOpen =>
      match cursor.requery isClosed isOpen with
      | (done, cursor) => (.requeried done, cursor)

def machine : Machine SQLiteCursor Event Answer := ⟨perform room⟩

end Model

/-! ## The rows themselves -/

/-- A cursor that is a list of rows.  A requery takes the rows of its time. -/
def plain : Machine (List Row) Event Answer where
  perform event rows :=
    match event.call with
    | .getCount => (.count rows.length, rows)
    | .onMove newPosition => (.row rows[newPosition.toNat]?, rows)
    | .requery isClosed isOpen =>
        if isClosed || !isOpen then (.requeried false, rows)
        else (.requeried true, event.execution.query.rows)

/-- Every row fits into an empty window. -/
structure Fitting (room : Room) (query : Query) : Prop where
  accepts : room.setNumColumns query.columns = true
  small : query.rows.length < 2 ^ 31
  alone : ∀ row ∈ query.rows, fits room query.columns [] row = true

/-- A call finds the rows as they were, and moves to a position that is not negative. -/
def Steady (room : Room) (rows : List Row) (event : Event) : Prop :=
  match event.call with
  | .getCount => Fitting room event.execution.query ∧ event.execution.query.rows = rows
  | .onMove newPosition => Fitting room event.execution.query ∧
      event.execution.query.rows = rows ∧ 0 ≤ newPosition ∧ newPosition < 2 ^ 31
  | .requery _ _ => True

/-- The answer is the same, except that an execution that fails throws. -/
def Same (event : Event) (answer expected : Answer) : Prop :=
  answer = expected ∨
    answer = .threw ∧ (event.execution.throws = true ∨ event.execution.query.fails = true)

/-- What a cursor holds belongs to these rows. -/
structure Shows (rows : List Row) (cursor : SQLiteCursor) : Prop where
  window : ∀ win, cursor.mWindow = some win →
    ∃ start : Nat, win.mStartPos = start ∧ win.rows <+: rows.drop start
  count : cursor.mCount = NO_COUNT ∨ cursor.mCount = rows.length

/-- The window has the row at a position, if there is one. -/
structure Placed (rows : List Row) (position : Int) (win : CursorWindow) (start : Nat) : Prop where
  startPos : win.mStartPos = start
  slice : win.rows <+: rows.drop start
  inside : position < rows.length → start ≤ position ∧ position < (start + win.rows.length : Nat)

/-- What a fill leaves: the required row and the count, or an exception that the execution
accounts for. -/
def Fills (rows : List Row) (position : Int) (execution : Execution) :
    Bool × SQLiteCursor → Prop
  | (true, cursor) => cursor.mCount = rows.length ∧
      ∃ win start, cursor.mWindow = some win ∧ Placed rows position win start
  | (false, cursor) => cursor.mWindow = none ∧ cursor.mCount = NO_COUNT ∧
      (execution.throws = true ∨ execution.query.fails = true)

/-- What `getCount` and `onMove` leave. -/
def Counts (rows : List Row) (execution : Execution) : Option Int × SQLiteCursor → Prop
  | (some count, cursor) => count = rows.length ∧ Shows rows cursor
  | (none, cursor) =>
      (execution.throws = true ∨ execution.query.fails = true) ∧ Shows rows cursor

def Moves (rows : List Row) (position : Int) (execution : Execution) :
    Bool × SQLiteCursor → Prop
  | (true, cursor) => cursor.rowAt position = rows[position.toNat]? ∧ Shows rows cursor
  | (false, cursor) =>
      (execution.throws = true ∨ execution.query.fails = true) ∧ Shows rows cursor

section Refinement

variable {room : Room} {rows : List Row} {cursor : SQLiteCursor} {execution : Execution}
  {position : Int}

theorem shows_initially (rows : List Row) : Shows rows {} where
  window := nofun
  count := Or.inl rfl

/-- The guess is never behind the required position. -/
theorem cursorPickFillWindowStartPosition_le (positive : 0 ≤ position) (capacity : Nat) :
    ∃ first : Nat, cursorPickFillWindowStartPosition position capacity = first ∧
      (first : Int) ≤ position := by
  refine ⟨(max (position - capacity / 3) 0).toNat, ?_, ?_⟩
  · rw [Int.toNat_of_nonneg (Int.le_max_right _ _)]
    rfl
  · rw [Int.toNat_of_nonneg (Int.le_max_right _ _)]
    omega

theorem executeForCursorWindow_none {query : Query} {start required : Int} {countAllRows : Bool}
    {win next : CursorWindow}
    (thrown : executeForCursorWindow room query start required countAllRows win = (none, next)) :
    query.fails = true := by
  cases fails : query.fails with
  | true => rfl
  | false =>
      rw [executeForCursorWindow, nativeExecuteForCursorWindow] at thrown
      split at thrown
      · rename_i native
        split at native
        · cases native
        · split at native
          · rw [fails, if_neg Bool.false_ne_true] at native
            cases native
          · cases native
          · cases native
      · cases thrown

/-- A fill of the window for a position that starts at a guess. -/
theorem Execution.fillWindow_placed {win next : CursorWindow} {count : Int} {first : Nat}
    {countAllRows : Bool} (fitting : Fitting room execution.query) (bound : position < 2 ^ 31)
    (guess : (first : Int) ≤ position)
    (filled : execution.fillWindow room win first position countAllRows = (some count, next)) :
    (countAllRows = true → count = execution.query.rows.length) ∧
      ∃ start, Placed execution.query.rows position next start := by
  rw [Execution.fillWindow] at filled
  split at filled
  · cases filled
  · obtain ⟨start, delivered⟩ := window_delivered fitting.accepts fitting.small (by omega) win filled
    refine ⟨delivered.counted, start, delivered.startPos, delivered.slice, fun inside => ?_⟩
    refine delivered.present guess inside ?_
    intro index row _ _ here
    exact fitting.alone row (List.mem_of_getElem? here)

theorem Execution.fillWindow_none {win next : CursorWindow} {start : Int} {countAllRows : Bool}
    (thrown : execution.fillWindow room win start position countAllRows = (none, next)) :
    execution.throws = true ∨ execution.query.fails = true := by
  rw [Execution.fillWindow] at thrown
  split at thrown
  · exact Or.inl ‹_›
  · exact Or.inr (executeForCursorWindow_none thrown)

theorem awc_clearOrCreateWindow_count (cursor : SQLiteCursor) :
    cursor.awc_clearOrCreateWindow.2.mCount = NO_COUNT ∨
      cursor.awc_clearOrCreateWindow.2.mCount = cursor.mCount := by
  rw [SQLiteCursor.awc_clearOrCreateWindow]
  split
  · exact Or.inl rfl
  · exact Or.inr rfl

theorem Shows.fillWindow (showing : Shows execution.query.rows cursor)
    (fitting : Fitting room execution.query) (positive : 0 ≤ position)
    (bound : position < 2 ^ 31) :
    Fills execution.query.rows position execution (cursor.fillWindow room execution position) := by
  rw [SQLiteCursor.fillWindow]
  have counts := awc_clearOrCreateWindow_count cursor
  generalize cursor.awc_clearOrCreateWindow = cleared at counts
  obtain ⟨win, cleared⟩ := cleared
  dsimp only at counts ⊢
  split
  · obtain ⟨first, same, guess⟩ := cursorPickFillWindowStartPosition_le positive 0
    rw [Int.ofNat_zero] at same
    rw [same]
    split
    · rename_i count next filled
      obtain ⟨counted, start, placed⟩ := Execution.fillWindow_placed fitting bound guess filled
      exact ⟨counted rfl, next, start, rfl, placed⟩
    · rename_i thrown
      exact ⟨rfl, rfl, Execution.fillWindow_none thrown⟩
  · rename_i known
    obtain ⟨first, same, guess⟩ :=
      cursorPickFillWindowStartPosition_le positive cleared.mCursorWindowCapacity
    rw [same]
    have kept : cleared.mCount = execution.query.rows.length := by
      rcases counts with unknown | unchanged
      · exact absurd unknown known
      · rw [unchanged]
        rcases showing.count with unknown | counted
        · rw [unchanged, unknown] at known
          exact absurd rfl known
        · exact counted
    split
    · rename_i count next filled
      obtain ⟨-, start, placed⟩ := Execution.fillWindow_placed fitting bound guess filled
      exact ⟨kept, next, start, rfl, placed⟩
    · rename_i thrown
      exact ⟨rfl, rfl, Execution.fillWindow_none thrown⟩

theorem Placed.shows {win : CursorWindow} {start : Nat} (placed : Placed rows position win start)
    (held : cursor.mWindow = some win) (counted : cursor.mCount = rows.length) :
    Shows rows cursor where
  window other held' := by
    rw [held] at held'
    cases held'
    exact ⟨start, placed.startPos, placed.slice⟩
  count := Or.inr counted

theorem Placed.rowAt {win : CursorWindow} {start : Nat} (placed : Placed rows position win start)
    (positive : 0 ≤ position) (held : cursor.mWindow = some win) :
    cursor.rowAt position = rows[position.toNat]? := by
  rw [SQLiteCursor.rowAt, held, Option.bind_some]
  rcases Int.lt_or_le position rows.length with inside | beyond
  · obtain ⟨reached, before⟩ := placed.inside inside
    exact rowAt_of_slice placed.startPos placed.slice reached before
  · have length := placed.slice.length_le
    rw [List.length_drop] at length
    rw [List.getElem?_eq_none (by omega), CursorWindow.rowAt, placed.startPos]
    split
    · refine List.getElem?_eq_none ?_
      omega
    · rfl

theorem shows_of_closed (closed : cursor.mWindow = none) (unknown : cursor.mCount = NO_COUNT) :
    Shows rows cursor where
  window win held := by
    rw [closed] at held
    cases held
  count := Or.inl unknown

theorem Shows.getCount (showing : Shows execution.query.rows cursor)
    (fitting : Fitting room execution.query) :
    Counts execution.query.rows execution (cursor.getCount room execution) := by
  rw [SQLiteCursor.getCount]
  split
  · have fills := showing.fillWindow fitting (Int.le_refl 0) (by decide)
    generalize cursor.fillWindow room execution 0 = filled at fills
    obtain ⟨done, filled⟩ := filled
    cases done with
    | true =>
        obtain ⟨counted, win, start, held, placed⟩ := fills
        exact ⟨counted, placed.shows held counted⟩
    | false => exact ⟨fills.2.2, shows_of_closed fills.1 fills.2.1⟩
  · rename_i known
    exact ⟨showing.count.resolve_left known, showing⟩

theorem Fills.moves (positive : 0 ≤ position) {filled : Bool × SQLiteCursor}
    (fills : Fills rows position execution filled) : Moves rows position execution filled := by
  obtain ⟨done, filled⟩ := filled
  cases done with
  | true =>
      obtain ⟨counted, win, start, held, placed⟩ := fills
      exact ⟨placed.rowAt positive held, placed.shows held counted⟩
  | false => exact ⟨fills.2.2, shows_of_closed fills.1 fills.2.1⟩

theorem Shows.onMove (showing : Shows execution.query.rows cursor)
    (fitting : Fitting room execution.query) (positive : 0 ≤ position)
    (bound : position < 2 ^ 31) :
    Moves execution.query.rows position execution (cursor.onMove room execution position) := by
  have fills := showing.fillWindow fitting positive bound
  rw [SQLiteCursor.onMove]
  split
  · exact fills.moves positive
  · rename_i win held
    split
    · exact fills.moves positive
    · rename_i inside
      obtain ⟨start, startPos, slice⟩ := showing.window win held
      rw [startPos, CursorWindow.getNumRows] at inside
      refine ⟨?_, showing⟩
      rw [SQLiteCursor.rowAt, held, Option.bind_some]
      exact rowAt_of_slice startPos slice (by omega) (by omega)

theorem shows_requery (rows : List Row) (cursor : SQLiteCursor) :
    Shows rows (cursor.requery false true).2 where
  window win held := by
    obtain ⟨old, -, rfl⟩ := Option.map_eq_some_iff.mp held
    exact ⟨0, rfl, List.nil_prefix⟩
  count := Or.inl rfl

/-- A step of the cursor beside a step of the list. -/
theorem Shows.perform (showing : Shows rows cursor) (event : Event)
    (steady : Steady room rows event) :
    Same event ((machine room).perform event cursor).1 (plain.perform event rows).1 ∧
      Shows (plain.perform event rows).2 ((machine room).perform event cursor).2 := by
  obtain ⟨call, execution⟩ := event
  cases call with
  | getCount =>
      obtain ⟨fitting, rfl⟩ := steady
      have counts := showing.getCount fitting
      dsimp only [machine, Cursor.perform, plain]
      generalize cursor.getCount room execution = counted at counts
      obtain ⟨count, next⟩ := counted
      cases count with
      | some count => exact ⟨Or.inl (congrArg Answer.count counts.1), counts.2⟩
      | none => exact ⟨Or.inr ⟨rfl, counts.1⟩, counts.2⟩
  | onMove newPosition =>
      obtain ⟨fitting, rfl, positive, bound⟩ := steady
      have moves := showing.onMove fitting positive bound
      dsimp only [machine, Cursor.perform, plain]
      generalize cursor.onMove room execution newPosition = moved at moves
      obtain ⟨done, next⟩ := moved
      cases done with
      | true => exact ⟨Or.inl (congrArg Answer.row moves.1), moves.2⟩
      | false => exact ⟨Or.inr ⟨rfl, moves.1⟩, moves.2⟩
  | requery isClosed isOpen =>
      cases isClosed with
      | true => exact ⟨Or.inl rfl, showing⟩
      | false =>
          cases isOpen with
          | false => exact ⟨Or.inl rfl, showing⟩
          | true => exact ⟨Or.inl rfl, shows_requery _ cursor⟩

/-- In every run of calls in which the query keeps yielding the rows that it yielded at the
last requery, whatever the capacity of the window: each call gets the answer of the list of
rows, or throws because its execution failed. -/
theorem cursor_is_its_rows (rows : List Row) (run : List Event)
    (steady : plain.Along (Steady room) rows run) :
    (machine room).Together plain Same {} rows run :=
  Machine.together_of_steps _ (fun cursor rows => Shows rows cursor)
    (fun _ _ event showing steady => showing.perform event steady) _ _ run (shows_initially rows)
    steady

/-- Seven rows and a window for three: a count, a move far ahead, and one back, at which the
execution fails. -/
theorem cursor_is_its_rows_seven :
    (machine threeRows).Together plain Same {} sevenRows.rows
      [⟨.getCount, ⟨sevenRows, false⟩⟩, ⟨.onMove 5, ⟨sevenRows, false⟩⟩,
        ⟨.onMove 0, ⟨sevenRows, true⟩⟩] :=
  have fitting : Fitting threeRows sevenRows := ⟨rfl, by decide, by decide⟩
  cursor_is_its_rows _ _ ⟨⟨fitting, rfl⟩, ⟨fitting, rfl, by decide, by decide⟩,
    ⟨fitting, rfl, by decide, by decide⟩, trivial⟩

end Refinement

end Cursor
end ModuleDatabase
