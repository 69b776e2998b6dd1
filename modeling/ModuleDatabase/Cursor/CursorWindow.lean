import Mathlib.Data.List.Basic

namespace ModuleDatabase
namespace Cursor

/-!
# Filling a cursor window

`nativeExecuteForCursorWindow` steps through a query and copies a contiguous part of its
rows into a window of limited size.  When the window is full before the required row has
been copied, it starts again at the row that did not fit.

The window itself belongs to the platform.  Here it is a table of values, and what it has
room for is a parameter.
-/

inductive Value where
  | null
  | integer (value : BitVec 64)
  /-- With the bits of the number. -/
  | float (value : BitVec 64)
  | text (value : String)
  | blob (value : List (BitVec 8))
  deriving DecidableEq, Repr

abbrev Row := List Value

/-- What a statement yields: rows as wide as it has columns, and then an end or an error. -/
structure Query where
  columns : Nat
  rows : List Row
  fails : Bool
  wide : ∀ row ∈ rows, row.length = columns

/-! ## The window -/

structure CursorWindow where
  mStartPos : Int
  numColumns : Nat
  rows : List Row
  deriving DecidableEq, Repr

/-- What a window accepts, by the rows that it has. -/
structure Room where
  setNumColumns : Nat → Bool
  allocRow : List Row → Bool
  put : List Row → Nat → Nat → Value → Bool

namespace CursorWindow

variable (room : Room) (window : CursorWindow)

def clear (_window : CursorWindow) : CursorWindow := ⟨0, 0, []⟩

def setNumColumns (columns : Nat) : Bool × CursorWindow :=
  if room.setNumColumns columns then (true, { window with numColumns := columns })
  else (false, window)

/-- A new row at the end, of nulls. -/
def allocRow : Bool × CursorWindow :=
  if room.allocRow window.rows then
    (true, { window with rows := window.rows ++ [List.replicate window.numColumns .null] })
  else (false, window)

def freeLastRow : CursorWindow := { window with rows := window.rows.dropLast }

/-- `putNull`, `putLong`, `putDouble`, `putString` and `putBlob`. -/
def put (value : Value) (row column : Nat) : Bool × CursorWindow :=
  if row < window.rows.length ∧ column < window.numColumns ∧
      room.put window.rows row column value = true then
    (true, { window with rows := window.rows.modify row fun values => values.set column value })
  else (false, window)

def getNumRows : Nat := window.rows.length

/-- The row that a cursor reads at a position. -/
def rowAt (position : Int) : Option Row :=
  if window.mStartPos ≤ position then window.rows[(position - window.mStartPos).toNat]? else none

end CursorWindow

section Native

variable (room : Room)

/-- The loop over the columns, from column `i` on. -/
def putColumns (iRow : Nat) : Nat → List Value → CursorWindow → Bool × CursorWindow
  | _, [], window => (true, window)
  | i, value :: values, window =>
      match window.put room value iRow i with
      | (true, window) => putColumns iRow (i + 1) values window
      | (false, window) => (false, window.freeLastRow)

def copyRowToWindow (iRow : Nat) (row : Row) (window : CursorWindow) : Bool × CursorWindow :=
  match window.allocRow room with
  | (true, window) => putColumns room iRow 0 row window
  | (false, window) => (false, window)

def setWindowNumColumns (columns : Nat) (window : CursorWindow) : Bool × CursorWindow :=
  window.clear.setNumColumns room columns

/-- The variables of the loop over the rows. -/
structure Filling where
  window : CursorWindow
  iStart : Int
  nRow : Nat
  bOk : Bool
  deriving DecidableEq, Repr

inductive Turn where
  | next (filling : Filling)
  | broke (filling : Filling)
  /-- `setNumColumns` failed, and the function returns. -/
  | returned (window : CursorWindow)
  deriving DecidableEq, Repr

/-- `if (bOk == 0 && countAllRows == 0) break; nRow++`. -/
def proceed (countAllRows : Bool) (filling : Filling) : Turn :=
  if !filling.bOk && !countAllRows then .broke filling
  else .next { filling with nRow := filling.nRow + 1 }

/-- A row that did not fit is copied into the empty window. -/
def startAgain (columns : Nat) (countAllRows : Bool) (row : Row) (filling : Filling) : Turn :=
  match setWindowNumColumns room columns filling.window with
  | (false, window) => .returned window
  | (true, window) =>
      match copyRowToWindow room 0 row window with
      | (bOk, window) => proceed countAllRows ⟨window, filling.nRow, filling.nRow, bOk⟩

def turn (columns : Nat) (iRowRequired : Int) (countAllRows : Bool) (row : Row)
    (filling : Filling) : Turn :=
  if filling.iStart ≤ filling.nRow ∧ filling.bOk = true then
    match copyRowToWindow room (filling.nRow - filling.iStart).toNat row filling.window with
    | (true, window) => .next { filling with window := window, nRow := filling.nRow + 1 }
    | (false, window) =>
        if filling.nRow ≤ iRowRequired then
          startAgain room columns countAllRows row { filling with window := window }
        else proceed countAllRows { filling with window := window, bOk := false }
  else .next { filling with nRow := filling.nRow + 1 }

inductive Ending where
  | exhausted (filling : Filling)
  | broke (filling : Filling)
  | returned (window : CursorWindow)
  deriving DecidableEq, Repr

def loop (columns : Nat) (iRowRequired : Int) (countAllRows : Bool) :
    List Row → Filling → Ending
  | [], filling => .exhausted filling
  | row :: rest, filling =>
      match turn room columns iRowRequired countAllRows row filling with
      | .next filling => loop columns iRowRequired countAllRows rest filling
      | .broke filling => .broke filling
      | .returned window => .returned window

/-- `jlong(iStart) << 32 | jlong(nRow)`. -/
def pack (iStart : Int) (nRow : Nat) : BitVec 64 :=
  BitVec.ofInt 64 iStart <<< 32 ||| BitVec.ofNat 64 nRow

/-- The result, or none if an exception is thrown. -/
def nativeExecuteForCursorWindow (query : Query) (startPos iRowRequired : Int)
    (countAllRows : Bool) (window : CursorWindow) : Option (BitVec 64) × CursorWindow :=
  match setWindowNumColumns room query.columns window with
  | (false, window) => (some 0, window)
  | (true, window) =>
      match loop room query.columns iRowRequired countAllRows query.rows
        ⟨window, startPos, 0, true⟩ with
      | .exhausted filling =>
          (if query.fails then none else some (pack filling.iStart filling.nRow), filling.window)
      | .broke filling => (some (pack filling.iStart filling.nRow), filling.window)
      | .returned window => (some 0, window)

/-- `(int) (result >> 32)` and `(int) result`. -/
def unpack (result : BitVec 64) : Int × Int :=
  (((result.sshiftRight 32).setWidth 32).toInt, (result.setWidth 32).toInt)

/-- `SQLiteConnection.executeForCursorWindow`, for a statement that can be prepared and
executed. -/
def executeForCursorWindow (query : Query) (startPos requiredPos : Int) (countAllRows : Bool)
    (window : CursorWindow) : Option Int × CursorWindow :=
  match nativeExecuteForCursorWindow room query startPos requiredPos countAllRows window with
  | (none, window) => (none, window)
  | (some result, window) =>
      (some (unpack result).2, { window with mStartPos := (unpack result).1 })

end Native

end Cursor
end ModuleDatabase
