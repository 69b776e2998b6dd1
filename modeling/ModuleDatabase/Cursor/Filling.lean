import Mathlib.Data.List.Infix
import Mathlib.Data.Nat.Bitwise
import ModuleDatabase.Cursor.CursorWindow

namespace ModuleDatabase
namespace Cursor

/-!
# What a window holds after it was filled

The rows in the window are a contiguous part of the result.  The required row is among
them exactly if every row from the start position up to it would fit into an empty window:
a row that does not stops the filling for good, even if it comes before the required one.
-/

section Copying

variable {room : Room} {columns : Nat}

/-- A window of the loop. -/
def holding (columns : Nat) (rows : List Row) : CursorWindow := ⟨0, columns, rows⟩

/-- The row fits behind these rows. -/
def fits (room : Room) (columns : Nat) (rows : List Row) (row : Row) : Bool :=
  (copyRowToWindow room rows.length row (holding columns rows)).1

theorem modify_last (rows : List Row) (row : Row) (change : Row → Row) :
    (rows ++ [row]).modify rows.length change = rows ++ [change row] := by
  induction rows with
  | nil => rfl
  | cons first rest ih =>
      rw [List.cons_append, List.length_cons, List.modify_succ_cons, ih, List.cons_append]

theorem set_middle (done : List Value) (old new : Value) (later : List Value) :
    (done ++ old :: later).set done.length new = (done ++ [new]) ++ later := by
  rw [List.set_append_right _ _ (Nat.le_refl _), Nat.sub_self, List.append_assoc]
  rfl

/-- A row of which some values have been put. -/
def partly (done : List Value) (missing : Nat) : Row := done ++ List.replicate missing Value.null

theorem put_cases (room : Room) (columns : Nat) (rows : List Row) (value : Value)
    (done : List Value) (missing : Nat) :
    (holding columns (rows ++ [partly done (missing + 1)])).put room value rows.length
        done.length = (true, holding columns (rows ++ [partly (done ++ [value]) missing])) ∨
      (holding columns (rows ++ [partly done (missing + 1)])).put room value rows.length
        done.length = (false, holding columns (rows ++ [partly done (missing + 1)])) := by
  have written : (rows ++ [partly done (missing + 1)]).modify rows.length
      (fun row => row.set done.length value) = rows ++ [partly (done ++ [value]) missing] := by
    rw [modify_last, partly, List.replicate_succ, set_middle, partly]
  rw [CursorWindow.put]
  split
  · left
    rw [← written]
    rfl
  · exact Or.inr rfl

/-- The loop over the columns completes its row, or takes it away again. -/
theorem putColumns_cases (room : Room) (columns : Nat) (rows : List Row)
    (values done : List Value) :
    putColumns room rows.length done.length values
        (holding columns (rows ++ [partly done values.length])) =
      (true, holding columns (rows ++ [done ++ values])) ∨
    putColumns room rows.length done.length values
        (holding columns (rows ++ [partly done values.length])) =
      (false, holding columns rows) := by
  induction values generalizing done with
  | nil => exact Or.inl rfl
  | cons value values ih =>
      rw [putColumns, List.length_cons]
      rcases put_cases room columns rows value done values.length with put | failed
      · have further := ih (done ++ [value])
        rw [List.length_append, List.length_singleton, List.append_assoc] at further
        rw [put]
        exact further
      · right
        rw [failed]
        change (false, holding columns (rows ++ [_]).dropLast) = _
        rw [List.dropLast_concat]

variable (room) in
/-- A row is copied as it is, or the window stays as it was. -/
theorem copyRowToWindow_eq (rows : List Row) {row : Row} (wide : row.length = columns) :
    copyRowToWindow room rows.length row (holding columns rows) =
      (fits room columns rows row,
        holding columns (if fits room columns rows row then rows ++ [row] else rows)) := by
  have outcomes : copyRowToWindow room rows.length row (holding columns rows) =
        (true, holding columns (rows ++ [row])) ∨
      copyRowToWindow room rows.length row (holding columns rows) =
        (false, holding columns rows) := by
    cases allocated : room.allocRow rows with
    | true =>
        have put := putColumns_cases room columns rows row []
        rw [List.length_nil, partly, List.nil_append, List.nil_append, wide] at put
        have window : (holding columns rows).allocRow room =
            (true, holding columns (rows ++ [List.replicate columns Value.null])) := if_pos allocated
        rw [copyRowToWindow, window]
        exact put
    | false =>
        have window : (holding columns rows).allocRow room = (false, holding columns rows) :=
          if_neg (Bool.eq_false_iff.mp allocated)
        rw [copyRowToWindow, window]
        exact Or.inr rfl
  rcases outcomes with copied | full
  · rw [fits, copied]
    rfl
  · rw [fits, full]
    rfl

end Copying

/-! ## The loop over the rows -/

section Loop

variable {room : Room} {columns : Nat} {all : List Row} {first : Nat} {required : Int}
  {countAllRows : Bool}

/-- A row that fits behind other rows fits into an empty window. -/
def Room.Shrinks (room : Room) (columns : Nat) : Prop :=
  ∀ rows row, row.length = columns → fits room columns rows row = true →
    fits room columns [] row = true

/-- `n` rows of the result have been seen, and the window holds some from `start` on. -/
structure Filled (room : Room) (columns : Nat) (all : List Row) (first : Nat) (required : Int)
    (n start : Nat) (rows : List Row) (bOk : Bool) : Prop where
  ahead : first ≤ start
  early : start = first ∨ (start : Int) ≤ required ∧ start < all.length
  slice : rows <+: all.drop start
  within : start + rows.length ≤ max n start
  going : bOk = true → n ≤ start + rows.length
  alone : room.Shrinks columns → ∀ index row, first ≤ index → index < start + rows.length →
    all[index]? = some row → fits room columns [] row = true
  full : bOk = false → required < (start + rows.length : Nat) ∨
    rows = [] ∧ (start : Int) ≤ required ∧
      ∃ row, all[start]? = some row ∧ fits room columns [] row = false

theorem prefix_snoc {rows rest : List Row} {row : Row} (before : rows <+: rest)
    (next : rest[rows.length]? = some row) : rows ++ [row] <+: rest := by
  obtain ⟨later, rfl⟩ := before
  rw [List.getElem?_append_right (Nat.le_refl _), Nat.sub_self] at next
  cases later with
  | nil => cases next
  | cons head tail =>
      cases next
      exact ⟨tail, List.append_assoc _ _ _⟩

theorem setWindowNumColumns_eq (accepts : room.setNumColumns columns = true)
    (window : CursorWindow) : setWindowNumColumns room columns window = (true, holding columns []) :=
  if_pos accepts

/-- What a turn of the loop makes of its variables. -/
def Turns (room : Room) (columns : Nat) (all : List Row) (first : Nat) (required : Int)
    (countAllRows : Bool) (n : Nat) : Turn → Prop
  | .next filling => ∃ (start : Nat) (rows : List Row) (bOk : Bool),
      filling = ⟨holding columns rows, start, n + 1, bOk⟩ ∧
        (countAllRows = false → bOk = true) ∧ Filled room columns all first required (n + 1) start rows bOk
  | .broke filling => ∃ (start : Nat) (rows : List Row),
      filling = ⟨holding columns rows, start, n, false⟩ ∧ countAllRows = false ∧
        n = start + rows.length ∧ Filled room columns all first required n start rows false
  | .returned _ => False

/-- A window that is full, or does not even hold the row that comes now. -/
theorem Filled.stops {n start : Nat} {rows : List Row}
    (filled : Filled room columns all first required n start rows false)
    (position : n = start + rows.length) :
    Turns room columns all first required countAllRows n
      (proceed countAllRows ⟨holding columns rows, start, n, false⟩) := by
  cases countAllRows with
  | false => exact ⟨start, rows, rfl, rfl, position, filled⟩
  | true =>
      refine ⟨start, rows, false, rfl, nofun, filled.ahead, filled.early, filled.slice, ?_, ?_,
        filled.alone, filled.full⟩
      · have within := filled.within
        omega
      · intro wrong
        cases wrong

/-- The row that did not fit is tried in the empty window. -/
theorem starts_again {n : Nat} {row : Row} {filling : Filling}
    (accepts : room.setNumColumns columns = true) (wide : row.length = columns)
    (here : all[n]? = some row) (needed : (filling.nRow : Int) ≤ required) (ahead : first ≤ n)
    (same : filling.nRow = n)
    (alone : room.Shrinks columns → ∀ index row, first ≤ index → index < n →
      all[index]? = some row → fits room columns [] row = true) :
    Turns room columns all first required countAllRows n
      (startAgain room columns countAllRows row filling) := by
  have copy := copyRowToWindow_eq room [] wide
  rw [List.length_nil] at copy
  rw [startAgain, setWindowNumColumns_eq accepts]
  dsimp only
  rw [copy, same]
  rw [same] at needed
  have existing : n < all.length := (List.getElem?_eq_some_iff.mp here).1
  cases copied : fits room columns [] row with
  | true =>
      refine ⟨n, [row], true, rfl, fun _ => rfl, ahead, Or.inr ⟨needed, existing⟩, ?_, ?_, ?_, ?_,
        nofun⟩
      · exact prefix_snoc (List.nil_prefix) (by rw [List.length_nil, List.getElem?_drop]; exact here)
      · rw [List.length_singleton]
        omega
      · intro _
        exact Nat.le_refl _
      · intro shrinks index other following before found
        rw [List.length_singleton] at before
        rcases Nat.lt_or_ge index n with earlier | now
        · exact alone shrinks index other following earlier found
        · have read : index = n := by omega
          rw [read, here] at found
          cases found
          exact copied
  | false =>
      have stopped : Filled room columns all first required n n [] false := by
        refine ⟨ahead, Or.inr ⟨needed, existing⟩, List.nil_prefix, ?_, nofun, alone,
          fun _ => Or.inr ?_⟩
        · rw [List.length_nil]
          omega
        · exact ⟨rfl, needed, row, here, copied⟩
      exact stopped.stops rfl

theorem Filled.turn {n start : Nat} {rows : List Row} {bOk : Bool} {row : Row}
    (filled : Filled room columns all first required n start rows bOk)
    (accepts : room.setNumColumns columns = true) (here : all[n]? = some row)
    (wide : row.length = columns) (copying : countAllRows = false → bOk = true) :
    Turns room columns all first required countAllRows n
      (turn room columns required countAllRows row ⟨holding columns rows, start, n, bOk⟩) := by
  obtain ⟨ahead, early, slice, within, going, alone, full⟩ := filled
  rw [Cursor.turn]
  by_cases copies : (start : Int) ≤ n ∧ bOk = true
  · obtain ⟨reached, ok⟩ := copies
    have last : n = start + rows.length := by
      have upTo := going ok
      omega
    have index : ((n : Int) - start).toNat = rows.length := by omega
    have there : (all.drop start)[rows.length]? = some row := by
      rw [List.getElem?_drop, ← last]
      exact here
    rw [if_pos ⟨reached, ok⟩]
    dsimp only
    rw [index, copyRowToWindow_eq room rows wide]
    cases copied : fits room columns rows row with
    | true =>
        refine ⟨start, rows ++ [row], true, ?_, fun _ => rfl, ahead, early,
          prefix_snoc slice there, ?_, ?_, ?_, ?_⟩
        · rw [ok]
          rfl
        · rw [List.length_append, List.length_singleton]
          omega
        · intro _
          rw [List.length_append, List.length_singleton]
          omega
        · intro shrinks index other following before found
          rw [List.length_append, List.length_singleton] at before
          rcases Nat.lt_or_ge index (start + rows.length) with earlier | now
          · exact alone shrinks index other following earlier found
          · have same : index = n := by omega
            rw [same, here] at found
            cases found
            exact shrinks rows row wide copied
        · intro wrong
          cases wrong
    | false =>
        dsimp only
        split
        · rename_i needed
          refine starts_again accepts wide here needed (by omega) rfl ?_
          intro shrinks index other following before
          exact alone shrinks index other following (by omega)
        · rename_i passed
          have exceeds : required < (start + rows.length : Nat) := by omega
          have stopped : Filled room columns all first required n start rows false :=
            ⟨ahead, early, slice, within, nofun, alone,
              fun _ => Or.inl exceeds⟩
          exact stopped.stops last
  · rw [if_neg copies]
    refine ⟨start, rows, bOk, rfl, copying, ahead, early, slice, by omega, ?_, alone, full⟩
    intro ok
    have later : ¬ (start : Int) ≤ n := fun reached => copies ⟨reached, ok⟩
    omega

/-- What the loop leaves when it ends. -/
def Ends (room : Room) (columns : Nat) (all : List Row) (first : Nat) (required : Int)
    (countAllRows : Bool) : Ending → Prop
  | .exhausted filling => ∃ (start : Nat) (rows : List Row) (bOk : Bool),
      filling = ⟨holding columns rows, start, all.length, bOk⟩ ∧
        (countAllRows = false → bOk = true) ∧
        Filled room columns all first required all.length start rows bOk
  | .broke filling => ∃ (n start : Nat) (rows : List Row),
      filling = ⟨holding columns rows, start, n, false⟩ ∧ countAllRows = false ∧
        n = start + rows.length ∧ n ≤ all.length ∧
        Filled room columns all first required n start rows false
  | .returned _ => False

theorem Filled.loop {n start : Nat} {rows rest : List Row} {bOk : Bool}
    (filled : Filled room columns all first required n start rows bOk)
    (accepts : room.setNumColumns columns = true) (wide : ∀ row ∈ all, row.length = columns)
    (copying : countAllRows = false → bOk = true) (left : all.drop n = rest) (seen : n ≤ all.length) :
    Ends room columns all first required countAllRows
      (loop room columns required countAllRows rest ⟨holding columns rows, start, n, bOk⟩) := by
  induction rest generalizing n start rows bOk with
  | nil =>
      have ended : n = all.length := by
        rw [List.drop_eq_nil_iff] at left
        omega
      cases ended
      exact ⟨start, rows, bOk, rfl, copying, filled⟩
  | cons row rest ih =>
      have here : all[n]? = some row := by
        rw [← List.head?_drop, left]
        rfl
      have member : row ∈ all := List.mem_of_getElem? here
      have turned := filled.turn accepts here (wide row member) copying
      have further : n < all.length := (List.getElem?_eq_some_iff.mp here).1
      rw [Cursor.loop]
      cases turns : Cursor.turn room columns required countAllRows row
          ⟨holding columns rows, start, n, bOk⟩ with
      | next filling =>
          rw [turns] at turned
          obtain ⟨start', rows', bOk', rfl, copying', filled'⟩ := turned
          refine ih filled' copying' ?_ (by omega)
          rw [← List.drop_drop, left, List.drop_one, List.tail_cons]
      | broke filling =>
          rw [turns] at turned
          obtain ⟨start', rows', rfl, complete, position, filled'⟩ := turned
          exact ⟨n, start', rows', rfl, complete, position, by omega, filled'⟩
      | returned window =>
          rw [turns] at turned
          exact turned.elim

theorem filled_initially (room : Room) (columns : Nat) (all : List Row) (first : Nat)
    (required : Int) : Filled room columns all first required 0 first [] true where
  ahead := Nat.le_refl _
  early := Or.inl rfl
  slice := List.nil_prefix
  within := by
    rw [List.length_nil]
    omega
  going _ := Nat.zero_le _
  alone _ index _ following before _ := by
    rw [List.length_nil] at before
    omega
  full := nofun

end Loop

/-! ## The result -/

theorem toNat_pack {iStart nRow : Nat} (start : iStart < 2 ^ 31) (row : nRow < 2 ^ 31) :
    (pack iStart nRow).toNat = iStart * 2 ^ 32 + nRow := by
  have high : (BitVec.ofNat 64 iStart <<< 32).toNat = iStart <<< 32 := by
    rw [BitVec.toNat_shiftLeft, BitVec.toNat_ofNat, Nat.mod_eq_of_lt (a := iStart) (by omega),
      Nat.mod_eq_of_lt]
    rw [Nat.shiftLeft_eq]
    omega
  rw [pack, BitVec.ofInt_natCast, BitVec.toNat_or, high, BitVec.toNat_ofNat,
    Nat.mod_eq_of_lt (by omega), ← Nat.shiftLeft_add_eq_or_of_lt (by omega), Nat.shiftLeft_eq]

/-- Both numbers come through the result of the native function. -/
theorem unpack_pack {iStart nRow : Nat} (start : iStart < 2 ^ 31) (row : nRow < 2 ^ 31) :
    unpack (pack iStart nRow) = ((iStart : Int), (nRow : Int)) := by
  have value := toNat_pack start row
  generalize pack iStart nRow = result at value
  have positive : result.msb = false := by
    rw [BitVec.msb_eq_decide]
    exact decide_eq_false (by omega)
  have small : ∀ (part : BitVec 64) (n : Nat), part.toNat % 2 ^ 32 = n → n < 2 ^ 31 →
      (part.setWidth 32).toInt = (n : Int) := by
    intro part n same bound
    rw [BitVec.toInt_eq_toNat_of_lt, BitVec.toNat_setWidth, same]
    rw [BitVec.toNat_setWidth, same]
    omega
  rw [unpack, BitVec.sshiftRight_eq_of_msb_false positive]
  refine Prod.ext (small _ _ ?_ start) (small _ _ ?_ row)
  · rw [BitVec.toNat_ushiftRight, value, Nat.shiftRight_eq_div_pow]
    omega
  · rw [value]
    omega

/-- What is delivered in the window for a query, where `start` is the position of its
first row. -/
structure Delivered (room : Room) (query : Query) (first : Nat) (required : Int)
    (countAllRows : Bool) (start : Nat) (count : Int) (window : CursorWindow) : Prop where
  startPos : window.mStartPos = start
  ahead : first ≤ start
  slice : window.rows <+: query.rows.drop start
  counted : countAllRows = true → count = query.rows.length
  copied : countAllRows = false → count = (start + window.rows.length : Nat) ∨
    window.rows = [] ∧ count = query.rows.length ∧ query.rows.length < start
  present : first ≤ required → required < query.rows.length →
    (∀ index row, first ≤ index → (index : Int) ≤ required → query.rows[index]? = some row →
      fits room query.columns [] row = true) →
    start ≤ required ∧ required < (start + window.rows.length : Nat)
  absent : room.Shrinks query.columns → required < (start + window.rows.length : Nat) →
    ∀ index row, first ≤ index → (index : Int) ≤ required → query.rows[index]? = some row →
      fits room query.columns [] row = true

/-- A window for three rows of any values. -/
def threeRows : Room := ⟨fun _ => true, fun rows => rows.length < 3, fun _ _ _ _ => true⟩

theorem threeRows_shrinks : threeRows.Shrinks 1 := by
  intro rows row wide _
  obtain ⟨value, rfl⟩ := List.length_eq_one_iff.mp wide
  rfl

def sevenRows : Query := ⟨1, (List.range 7).map fun n => [.integer (BitVec.ofNat 64 n)], false, by decide⟩

section Delivery

variable {room : Room} {query : Query} {first : Nat} {required : Int} {countAllRows : Bool}

theorem Filled.delivered {n start : Nat} {rows : List Row} {bOk : Bool}
    (filled : Filled room query.columns query.rows first required n start rows bOk)
    (counted : countAllRows = true → n = query.rows.length)
    (ended : bOk = true → n = query.rows.length)
    (copied : countAllRows = false → n = query.rows.length ∧ bOk = true ∨ n = start + rows.length) :
    Delivered room query first required countAllRows start n
      { holding query.columns rows with mStartPos := start } where
  startPos := rfl
  ahead := filled.ahead
  slice := filled.slice
  counted all := by rw [counted all]
  copied unshrunk := by
    have within := filled.within
    change (n : Int) = (start + rows.length : Nat) ∨ rows = [] ∧ _
    rcases copied unshrunk with ⟨whole, ok⟩ | position
    · have upTo := filled.going ok
      rcases Nat.lt_or_ge query.rows.length start with beyond | reached
      · right
        exact ⟨List.eq_nil_of_length_eq_zero (by omega), by rw [whole], beyond⟩
      · left
        omega
    · left
      rw [position]
  present following before fit := by
    change (start : Int) ≤ required ∧ required < (start + rows.length : Nat)
    have early : (start : Int) ≤ required := by
      rcases filled.early with same | earlier
      · rw [same]
        exact following
      · exact earlier.1
    refine ⟨early, ?_⟩
    cases ok : bOk with
    | true =>
        have upTo := filled.going ok
        have all := ended ok
        omega
    | false =>
        rcases filled.full ok with reached | ⟨-, -, row, read, tooBig⟩
        · exact reached
        · rw [fit start row filled.ahead early read] at tooBig
          cases tooBig
  absent shrinks held index row following upTo read := by
    change required < (start + rows.length : Nat) at held
    exact filled.alone shrinks index row following (by omega) read

theorem Filled.start_lt {n start : Nat} {rows : List Row} {bOk : Bool}
    (filled : Filled room query.columns query.rows first required n start rows bOk)
    (small : query.rows.length < 2 ^ 31) (low : first < 2 ^ 31) : start < 2 ^ 31 := by
  rcases filled.early with same | earlier
  · rw [same]
    exact low
  · exact Nat.lt_trans earlier.2 small

/-- What the window holds after the call, for every query, room and window: a contiguous
part of the rows that begins at the start position that is set, or nothing.  The number
that is returned is the number of all rows, or one greater than the position of the last
row that was copied. -/
theorem window_delivered (accepts : room.setNumColumns query.columns = true)
    (small : query.rows.length < 2 ^ 31) (low : first < 2 ^ 31) (window : CursorWindow)
    {count : Int} {next : CursorWindow}
    (returned : executeForCursorWindow room query first required countAllRows window =
      (some count, next)) :
    ∃ start, Delivered room query first required countAllRows start count next := by
  have initially := filled_initially room query.columns query.rows first required
  have ends : Ends room query.columns query.rows first required countAllRows
      (loop room query.columns required countAllRows query.rows
        ⟨holding query.columns [], first, 0, true⟩) :=
    initially.loop accepts query.wide (fun _ => rfl) List.drop_zero (Nat.zero_le _)
  rw [executeForCursorWindow, nativeExecuteForCursorWindow, setWindowNumColumns_eq accepts]
    at returned
  dsimp only at returned
  cases ended : loop room query.columns required countAllRows query.rows
      ⟨holding query.columns [], first, 0, true⟩ with
  | exhausted filling =>
      rw [ended] at ends returned
      obtain ⟨start, rows, bOk, rfl, copying, filled⟩ := ends
      dsimp only at returned
      cases failed : query.fails with
      | true =>
          rw [failed] at returned
          cases returned
      | false =>
          rw [failed, if_neg Bool.false_ne_true] at returned
          dsimp only at returned
          rw [unpack_pack (filled.start_lt small low) small] at returned
          cases returned
          exact ⟨start, filled.delivered (fun _ => rfl) (fun _ => rfl)
            fun unshrunk => Or.inl ⟨rfl, copying unshrunk⟩⟩
  | broke filling =>
      rw [ended] at ends returned
      obtain ⟨n, start, rows, rfl, all, last, seen, filled⟩ := ends
      dsimp only at returned
      rw [unpack_pack (filled.start_lt small low) (by omega)] at returned
      cases returned
      refine ⟨start, filled.delivered ?_ nofun fun _ => Or.inr last⟩
      intro counting
      rw [counting] at all
      cases all
  | returned window =>
      rw [ended] at ends
      exact ends.elim

/-- A window that has a position has the row of the result at it. -/
theorem rowAt_of_slice {rows : List Row} {window : CursorWindow} {start : Nat} {position : Int}
    (startPos : window.mStartPos = start) (slice : window.rows <+: rows.drop start)
    (reached : (start : Int) ≤ position)
    (before : position < (start + window.rows.length : Nat)) :
    window.rowAt position = rows[position.toNat]? := by
  have index : position.toNat = start + (position - start).toNat := by omega
  obtain ⟨later, whole⟩ := slice
  rw [CursorWindow.rowAt, startPos, if_pos reached, index, ← List.getElem?_drop, ← whole,
    List.getElem?_append_left (by omega)]

/-- The required row is delivered exactly if every row from the start position up to it
fits into an empty window.  A row that does not fit stops the filling for good, even if it
comes before the required one. -/
theorem required_row_delivered (shrinks : room.Shrinks query.columns)
    (accepts : room.setNumColumns query.columns = true) (small : query.rows.length < 2 ^ 31)
    (low : first < 2 ^ 31) (within : first ≤ required) (existing : required < query.rows.length)
    (window : CursorWindow) {count : Int} {next : CursorWindow}
    (returned : executeForCursorWindow room query first required countAllRows window =
      (some count, next)) :
    next.rowAt required = query.rows[required.toNat]? ↔
      ∀ index row, first ≤ index → (index : Int) ≤ required → query.rows[index]? = some row →
        fits room query.columns [] row = true := by
  obtain ⟨start, delivered⟩ := window_delivered accepts small low window returned
  constructor
  · intro read
    refine delivered.absent shrinks ?_
    rw [List.getElem?_eq_getElem (by omega), CursorWindow.rowAt, delivered.startPos] at read
    split at read
    · have inside := (List.getElem?_eq_some_iff.mp read).1
      omega
    · cases read
  · intro fit
    obtain ⟨reached, before⟩ := delivered.present within existing fit
    exact rowAt_of_slice delivered.startPos delivered.slice reached before

/-- Seven rows, and a window for three: the sixth is delivered with the two before it. -/
theorem required_row_delivered_six :
    CursorWindow.rowAt ⟨3, 1, [[.integer 3], [.integer 4], [.integer 5]]⟩ 5 =
        sevenRows.rows[(5 : Int).toNat]? ↔
      ∀ (index : Nat) row, 0 ≤ index → (index : Int) ≤ 5 → sevenRows.rows[index]? = some row →
        fits threeRows sevenRows.columns [] row = true :=
  have returned : executeForCursorWindow threeRows sevenRows (0 : Nat) 5 false ⟨0, 0, []⟩ =
      (some 6, ⟨3, 1, [[.integer 3], [.integer 4], [.integer 5]]⟩) := by decide
  required_row_delivered threeRows_shrinks rfl (by decide) (by decide) (by decide) (by decide)
    ⟨0, 0, []⟩ returned

end Delivery

end Cursor
end ModuleDatabase
