import ModuleDatabase.Migration.Repetition

namespace ModuleDatabase
namespace Migration

open Text
open Sql

/-!
# Lists of tables as sets

Two lists that name the same tables are compared, if no statement fails for the
list that names each of them once.  The order does not matter then.  What
matters is how often a table is named: with each further occurrence its rows
are copied to its backup once more, unless the backup refuses them, and they
come back as often as they have been copied.  If the new table refuses such a
backup, its rows are lost, and so are those of the tables that are restored
after it.

A backup of an earlier migration whose name is spelled differently is filled
like a backup, but neither read nor, unless the table is there, dropped.
-/

variable {V : Type}

/-- No statement fails when these tables are migrated. -/
structure Faultless (engine : Engine V) (sqls : KtAutoSqls) (dbName : String)
    (tables : List String) (conn : Conn V) : Prop where
  creates : ∀ name ∈ tables, ∀ old, conn.db.named name = some old →
    engine.fails 0 (createText (tempOf old.name) (old.schema.columns.map backupDef)) = false
  fills : ∀ name ∈ tables, ∀ old, conn.db.named name = some old →
    (filledBackup engine (conn.db.find (tempOf name)) old).isSome = true
  restores : ∀ name ∈ tables, throwsFrom engine name (recreated engine sqls dbName tables name)
    (remaining engine sqls dbName tables conn.db name) = false
  returns : ∃ next, (migrateSpecifyTable engine sqls dbName tables).run conn = .ok () next

/-- The rows of a table, on all columns but `_id`. -/
def rowsBesideId (found : Option (Table V)) : List (List (Option V)) :=
  found.elim [] fun table => table.rows.map
    (Row.project (table.schema.names.filter fun name => !sameIgnoringCase name "_id"))

/-- The same table with the same rows, up to the values of `_id`. -/
structure SameUpToId (first second : Option (Table V)) : Prop where
  shape : first.map Table.shape = second.map Table.shape
  rows : (rowsBesideId first).Perm (rowsBesideId second)

/-- The same tables are left, among them `sqlite_sequence`.  The values of `_id` are
assigned in the listed tables only. -/
structure LeavesSame (tables : List String) (first second : Database V) : Prop where
  listed : ∀ name ∈ tables, SameUpToId (first.find name) (second.find name)
  other : ∀ key, key ∉ tables.map fold → first.lookup key = second.lookup key
  sequence : first.sequence = second.sequence

/-- Both migrations return, and they leave the same tables. -/
def RunsAgree (engine : Engine V) (sqls : KtAutoSqls) (dbName : String) (tables : List String)
    (conn : Conn V) (first second : List String) : Prop :=
  ∃ next other, (migrateSpecifyTable engine sqls dbName first).run conn = .ok () next ∧
    (migrateSpecifyTable engine sqls dbName second).run conn = .ok () other ∧
    LeavesSame tables next.db other.db

/-! ## Copies in a backup -/

/-- The backup holds the rows as often in the one case as in the other: there are
none, or the table is named equally often, or the backup refuses the copy after
the last one that both make. -/
def EquallyCopied (engine : Engine V) (db : Database V) (table : String) (first second : Nat) :
    Prop :=
  ∀ old, db.named table = some old →
    old.rows = [] ∨ first = second ∨
      filledBackup engine (backedTimes engine db table (min first second)) old = none

section Copies

variable {engine : Engine V} {db : Database V} {name : String} {old : Table V}
  (named : db.named name = some old)
  (creates : engine.fails 0 (createText (tempOf old.name) (old.schema.columns.map backupDef)) =
    false)
  (fills : (filledBackup engine (db.find (tempOf name)) old).isSome = true)
include named creates

theorem backedTimes_step (times : Nat) : backedTimes engine db name (times + 1) =
    some ((filledBackup engine (backedTimes engine db name times) old).getD
      (backupBase engine (backedTimes engine db name times) old)) := by
  rw [backedTimes_succ named, backupOf, creates, if_neg Bool.false_ne_true]

/-- A refused copy leaves the backup, and is refused again. -/
theorem backedTimes_of_refused {times : Nat} {made : Table V}
    (backs : backedTimes engine db name times = some made)
    (refused : filledBackup engine (some made) old = none) (more : Nat) :
    backedTimes engine db name (times + more) = some made := by
  induction more with
  | zero => exact backs
  | succ more ih => rw [← Nat.add_assoc, backedTimes_step named creates, ih, refused]; rfl

/-- Copying no rows changes nothing. -/
theorem backedTimes_of_empty (empty : old.rows = []) {times : Nat} {made : Table V}
    (backs : backedTimes engine db name times = some made) (more : Nat) :
    backedTimes engine db name (times + more) = some made := by
  induction more with
  | zero => exact backs
  | succ more ih =>
      rw [← Nat.add_assoc, backedTimes_step named creates, ih]
      cases copies : filledBackup engine (some made) old with
      | none => rfl
      | some filled =>
          rcases Table.copyFrom_eq_some_iff.mp (Engine.copyFrom_of_copied copies) with
            ⟨-, inserted, sameName, sameSchema⟩
          rw [empty, Schema.insertAll, Option.some.injEq] at inserted
          have same : filled = made := by
            cases filled
            cases made
            cases sameName
            cases sameSchema
            cases inserted
            rfl
          rw [same]
          rfl

/-- A further turn leaves the same table with more rows, or as many. -/
theorem backedTimes_grows {times : Nat} {made : Table V}
    (backs : backedTimes engine db name times = some made) (more : Nat) :
    ∃ grown, backedTimes engine db name (times + more) = some grown ∧ grown.shape = made.shape ∧
      made.rows.length ≤ grown.rows.length := by
  induction more with
  | zero => exact ⟨made, backs, rfl, Nat.le_refl _⟩
  | succ more ih =>
      rcases ih with ⟨grown, grows, shape, atLeast⟩
      rw [← Nat.add_assoc, backedTimes_step named creates, grows]
      cases copies : filledBackup engine (some grown) old with
      | none => exact ⟨grown, rfl, shape, atLeast⟩
      | some filled =>
          rcases Engine.copied_name copies with ⟨sameName, sameSchema⟩
          have length := length_of_filled copies
          have base : (backupBase engine (some grown) old).rows = grown.rows := rfl
          rw [base] at length
          refine ⟨filled, rfl, ?_, by omega⟩
          rw [← shape, Table.shape, Table.shape, sameName, sameSchema]
          rfl

/-- A copy that is not refused is seen in the number of rows. -/
theorem backedTimes_lt {first second : Nat} {made grown filled : Table V} (later : first < second)
    (nonempty : old.rows ≠ []) (backs : backedTimes engine db name first = some made)
    (grows : backedTimes engine db name second = some grown)
    (copies : filledBackup engine (some made) old = some filled) :
    made.rows.length < grown.rows.length := by
  have next : backedTimes engine db name (first + 1) = some filled := by
    rw [backedTimes_step named creates, backs, copies]
    rfl
  rcases backedTimes_grows named creates next (second - (first + 1)) with ⟨last, ends, -, atLeast⟩
  rw [show first + 1 + (second - (first + 1)) = second by omega, grows, Option.some.injEq] at ends
  have length := length_of_filled copies
  have base : (backupBase engine (some made) old).rows = made.rows := rfl
  have positive := List.length_pos_iff.mpr nonempty
  rw [base] at length
  rw [ends]
  omega

include fills in
/-- After a turn there is a backup. -/
theorem backedTimes_one_eq : ∃ made, backedTimes engine db name 1 = some made ∧
    filledBackup engine (db.find (tempOf name)) old = some made := by
  rcases Option.isSome_iff_exists.mp fills with ⟨made, filled⟩
  refine ⟨made, ?_, filled⟩
  rw [backedTimes_step named creates 0, backedTimes_zero, filled]
  rfl

end Copies

theorem EquallyCopied.symm {engine : Engine V} {db : Database V} {table : String}
    {first second : Nat} (equally : EquallyCopied engine db table first second) :
    EquallyCopied engine db table second first := by
  intro old named
  rcases equally old named with empty | same | refused
  · exact Or.inl empty
  · exact Or.inr (Or.inl same.symm)
  · exact Or.inr (Or.inr (Nat.min_comm second first ▸ refused))

section Comparing

variable {engine : Engine V} {sqls : KtAutoSqls} {dbName : String} {tables : List String}
  {conn : Conn V} (faultless : Faultless engine sqls dbName tables conn) {name : String}
  (member : name ∈ tables)
include faultless member

/-- After some turns there is the same backup as after one, with more rows or as
many. -/
theorem Faultless.backs {old : Table V} (named : conn.db.named name = some old) {times : Nat}
    (nonempty : 0 < times) :
    ∃ made grown, backedTimes engine conn.db name 1 = some made ∧
      backedTimes engine conn.db name times = some grown ∧ grown.shape = made.shape ∧
      made.rows.length ≤ grown.rows.length := by
  have creates := faultless.creates name member old named
  rcases backedTimes_one_eq named creates (faultless.fills name member old named) with
    ⟨made, backs, -⟩
  rcases backedTimes_grows named creates backs (times - 1) with ⟨grown, grows, shape, atLeast⟩
  rw [show 1 + (times - 1) = times by omega] at grows
  exact ⟨made, grown, backs, grows, shape, atLeast⟩

/-- Rows that are equally often copied make the same backup. -/
theorem Faultless.backedTimes_eq {first second : Nat} (someFirst : 0 < first)
    (someSecond : 0 < second) (equally : EquallyCopied engine conn.db name first second) :
    backedTimes engine conn.db name first = backedTimes engine conn.db name second := by
  wlog ordered : first ≤ second generalizing first second
  · exact (this someSecond someFirst equally.symm (Nat.le_of_not_le ordered)).symm
  cases named : conn.db.named name with
  | none => rw [backedTimes_of_absent named, backedTimes_of_absent named]
  | some old =>
      have creates := faultless.creates name member old named
      rcases faultless.backs member named someFirst with ⟨-, made, -, backs, -⟩
      have split : second = first + (second - first) := by omega
      rcases equally old named with empty | same | refused
      · rw [split, backs, backedTimes_of_empty named creates empty backs]
      · rw [same]
      · rw [Nat.min_eq_left ordered, backs] at refused
        rw [split, backs, backedTimes_of_refused named creates backs refused]

/-- Rows of which as many are in the backup are equally often copied. -/
theorem Faultless.equallyCopied {first second : Nat} (someFirst : 0 < first)
    (someSecond : 0 < second)
    (counts : ((backedTimes engine conn.db name first).elim 0 fun made => made.rows.length) =
      (backedTimes engine conn.db name second).elim 0 fun made => made.rows.length) :
    EquallyCopied engine conn.db name first second := by
  wlog ordered : first ≤ second generalizing first second
  · exact (this someSecond someFirst counts.symm (Nat.le_of_not_le ordered)).symm
  intro old named
  by_contra neither
  rw [not_or, not_or] at neither
  rcases neither with ⟨nonempty, differ, copied⟩
  have creates := faultless.creates name member old named
  rcases faultless.backs member named someFirst with ⟨-, made, -, backs, -⟩
  rcases faultless.backs member named someSecond with ⟨-, grown, -, grows, -⟩
  rw [Nat.min_eq_left ordered, backs] at copied
  rcases Option.ne_none_iff_exists'.mp copied with ⟨filled, copies⟩
  have fewer := backedTimes_lt named creates (by omega) nonempty backs grows copies
  rw [backs, grows] at counts
  dsimp only [Option.elim] at counts
  omega

/-- What stands under the backup name after the second phase is the same table for
all lists, with as many rows as after one copy, or more. -/
theorem Faultless.standing {list : List String} (same : SameNames list tables) :
    (standing engine sqls dbName list conn.db name).map Table.shape =
        (remaining engine sqls dbName tables conn.db name).map Table.shape ∧
      ∀ made grown, remaining engine sqls dbName tables conn.db name = some made →
        standing engine sqls dbName list conn.db name = some grown →
          made.rows.length ≤ grown.rows.length := by
  rw [Migration.standing, remaining, recreated_congr same, ← backedTimes_one]
  cases named : conn.db.named name with
  | none =>
      rw [backedTimes_of_absent named, backedTimes_of_absent named]
      refine ⟨rfl, ?_⟩
      intro made grown first second
      rw [first] at second
      cases second
      exact Nat.le_refl _
  | some old =>
      have positive := List.count_pos_iff.mpr ((same name).mpr member)
      rcases faultless.backs member named positive with ⟨made, grown, backs, grows, shape, atLeast⟩
      rw [backs, grows, Option.some_or, Option.some_or]
      refine ⟨congrArg some shape, ?_⟩
      intro first second isMade isGrown
      cases isMade
      cases isGrown
      exact atLeast

/-- A backup that is empty after one copy stays as it is. -/
theorem Faultless.standing_of_empty {list : List String} (same : SameNames list tables)
    {made : Table V} (there : remaining engine sqls dbName tables conn.db name = some made)
    (empty : made.rows = []) :
    Migration.standing engine sqls dbName list conn.db name = some made := by
  rw [← there, Migration.standing, remaining, recreated_congr same, ← backedTimes_one]
  cases named : conn.db.named name with
  | none => rw [backedTimes_of_absent named, backedTimes_of_absent named]
  | some old =>
      have positive := List.count_pos_iff.mpr ((same name).mpr member)
      rcases backedTimes_one_eq named (faultless.creates name member old named)
        (faultless.fills name member old named) with ⟨filled, backs, copies⟩
      have sameTable : filled = made := by
        rw [remaining, ← backedTimes_one, backs, Option.some_or, Option.some.injEq] at there
        exact there
      have counts := length_of_filled copies
      rw [sameTable, empty, List.length_nil] at counts
      have noRows : old.rows = [] := List.length_eq_zero_iff.mp (by omega)
      have equally : EquallyCopied engine conn.db name (list.count name) 1 := by
        intro other also
        rw [named, Option.some.injEq] at also
        exact Or.inl (also ▸ noRows)
      rw [faultless.backedTimes_eq member positive Nat.one_pos equally]

variable {first second : List String} (sameFirst : SameNames first tables)
  (sameSecond : SameNames second tables)
include sameFirst sameSecond

theorem Faultless.standing_eq
    (equally : EquallyCopied engine conn.db name (first.count name) (second.count name)) :
    Migration.standing engine sqls dbName first conn.db name =
      Migration.standing engine sqls dbName second conn.db name := by
  have positive := List.count_pos_iff.mpr ((sameFirst name).mpr member)
  have also := List.count_pos_iff.mpr ((sameSecond name).mpr member)
  rw [Migration.standing, Migration.standing, recreated_congr sameFirst, recreated_congr sameSecond,
    faultless.backedTimes_eq member positive also equally]

theorem Faultless.equallyCopied_of_rows
    (counts : ((Migration.standing engine sqls dbName first conn.db name).elim 0
        fun made => made.rows.length) =
      (Migration.standing engine sqls dbName second conn.db name).elim 0
        fun made => made.rows.length) :
    EquallyCopied engine conn.db name (first.count name) (second.count name) := by
  have positive := List.count_pos_iff.mpr ((sameFirst name).mpr member)
  have also := List.count_pos_iff.mpr ((sameSecond name).mpr member)
  cases named : conn.db.named name with
  | none =>
      intro old present
      rw [named] at present
      cases present
  | some old =>
      rcases faultless.backs member named positive with ⟨-, made, -, backs, -⟩
      rcases faultless.backs member named also with ⟨-, grown, -, grows, -⟩
      apply faultless.equallyCopied member positive also
      rw [Migration.standing, Migration.standing, backs, grows] at counts
      rw [backs, grows]
      exact counts

end Comparing

/-! ## The rows that come back -/

theorem length_rowsBesideId (found : Option (Table V)) :
    (rowsBesideId found).length = found.elim 0 fun table => table.rows.length := by
  cases found with
  | none => rfl
  | some table => exact List.length_map _

theorem sameUpToId_of_no_rows {first second : Option (Table V)}
    (shape : first.map Table.shape = second.map Table.shape)
    (noRows : (rowsBesideId first).length = 0) (also : (rowsBesideId second).length = 0) :
    SameUpToId first second := by
  refine ⟨shape, ?_⟩
  rw [List.length_eq_zero_iff.mp noRows, List.length_eq_zero_iff.mp also]

/-- A list up to the first turn of a table. -/
def upTo (name : String) (list : List String) : List String :=
  list.takeWhile (fun other => other != name) ++ [name]

/-- The rows of a table are lost: its restoring `INSERT` throws, or an earlier one
does. -/
def lost (engine : Engine V) (sqls : KtAutoSqls) (dbName : String) (list : List String)
    (db : Database V) (name : String) : Bool :=
  hindered engine sqls dbName list db (upTo name list)

theorem upTo_of_split {name : String} {before after : List String} (first : name ∉ before) :
    upTo name (before ++ name :: after) = before ++ [name] := by
  have passes : ∀ other ∈ before, (other != name) = true := by
    intro other inside
    rw [bne_iff_ne]
    intro same
    exact first (same ▸ inside)
  rw [upTo, List.takeWhile_append_of_pos passes, List.takeWhile_cons_of_neg (by simp),
    List.append_nil]

section Carrying

variable {engine : Engine V} {sqls : KtAutoSqls} {dbName : String} {list : List String}
  {db next : Database V} (outcome : Outcome engine sqls dbName list db next) {name : String}
  (member : name ∈ list)
include outcome member

theorem Outcome.find_eq : next.find name =
    if lost engine sqls dbName list db name then recreated engine sqls dbName list name
    else (carriedFrom engine name (recreated engine sqls dbName list name)
      (standing engine sqls dbName list db name)).or (recreated engine sqls dbName list name) := by
  rcases List.eq_append_cons_of_mem member with ⟨before, after, split, first⟩
  have here : upTo name list = before ++ [name] := by rw [split, upTo_of_split first]
  rw [outcome.table before name after split first, lost, here, hindered, hindered,
    List.any_append, List.any_cons, List.any_nil, Bool.or_false]
  cases before.any fun earlier => throwsFrom engine earlier
      (recreated engine sqls dbName list earlier) (standing engine sqls dbName list db earlier) with
  | true => rfl
  | false =>
      rw [Bool.false_or, if_neg Bool.false_ne_true]
      cases throws : throwsFrom engine name (recreated engine sqls dbName list name)
          (standing engine sqls dbName list db name) with
      | false => rfl
      | true =>
          rw [throwsFrom, Bool.and_eq_true, Option.isNone_iff_eq_none] at throws
          rw [throws.2, Option.none_or, if_pos rfl]

/-- A listed table is as it is created again. -/
theorem Outcome.shape : (next.find name).map Table.shape =
    (recreated engine sqls dbName list name).map Table.shape := by
  rw [outcome.find_eq member]
  split
  · rfl
  · cases carries : carriedFrom engine name (recreated engine sqls dbName list name)
        (standing engine sqls dbName list db name) with
    | none => rfl
    | some restored =>
        rcases Option.bind_eq_some_iff.mp carries with ⟨made, -, restores⟩
        rcases Option.bind_eq_some_iff.mp restores with ⟨target, makes, copies⟩
        rcases Engine.copied_name copies with ⟨sameName, sameSchema⟩
        rw [makes, Option.some_or, Option.map_some, Option.map_some, Table.shape, Table.shape,
          sameName, sameSchema]

/-- Without a backup to read, a listed table is empty. -/
theorem Outcome.find_of_unread (unread : exactly name (standing engine sqls dbName list db name) =
    none) : next.find name = recreated engine sqls dbName list name := by
  rw [outcome.find_eq member, carriedFrom, unread, Option.bind_none, Option.none_or, ite_self]

/-- All rows of the backup come back, or none. -/
theorem Outcome.length {made : Table V}
    (read : exactly name (standing engine sqls dbName list db name) = some made) :
    (rowsBesideId (next.find name)).length =
      if lost engine sqls dbName list db name then 0 else made.rows.length := by
  have fresh : ((recreated engine sqls dbName list name).elim 0 fun table => table.rows.length) =
      0 := by
    cases makes : recreated engine sqls dbName list name with
    | none => rfl
    | some target => exact List.length_eq_zero_iff.mpr (recreated_name makes).2
  rw [length_rowsBesideId, outcome.find_eq member]
  cases loses : lost engine sqls dbName list db name with
  | true => exact fresh
  | false =>
      rw [if_neg Bool.false_ne_true, if_neg Bool.false_ne_true]
      cases carries : carriedFrom engine name (recreated engine sqls dbName list name)
          (standing engine sqls dbName list db name) with
      | none =>
          have throws : throwsFrom engine name (recreated engine sqls dbName list name)
              (standing engine sqls dbName list db name) = true := by
            rw [throwsFrom, read, carries]
            rfl
          rw [lost, hindered, upTo, List.any_append, List.any_cons, throws, Bool.true_or,
            Bool.or_true] at loses
          cases loses
      | some restored =>
          rw [carriedFrom, read, Option.bind_some] at carries
          rcases Option.bind_eq_some_iff.mp carries with ⟨target, makes, copies⟩
          have counts := Table.copyFrom_length (Engine.copyFrom_of_copied copies)
          rw [(recreated_name makes).2, List.length_nil, Nat.zero_add] at counts
          exact counts

end Carrying

/-! ## The two lists -/

/-- Two lists of the same names do the same to a database: no statement without
`IF NOT EXISTS` is executed for a repeated name, and of each table whose backup is
read, and is not empty, either both lists lose the rows or neither does, and then
they are equally often copied.  A backup that is not read, but stays, must be
equally often filled. -/
structure Interchangeable (engine : Engine V) (sqls : KtAutoSqls) (dbName : String)
    (tables : List String) (db : Database V) (first second : List String) : Prop where
  guardedFirst : Guarded engine (configured sqls dbName) first
  guardedSecond : Guarded engine (configured sqls dbName) second
  carried : ∀ name ∈ tables, ∀ made,
    exactly name (remaining engine sqls dbName tables db name) = some made →
    made.rows = [] ∨
      (lost engine sqls dbName first db name = true ∧
        lost engine sqls dbName second db name = true) ∨
      (lost engine sqls dbName first db name = false ∧
        lost engine sqls dbName second db name = false ∧
        EquallyCopied engine db name (first.count name) (second.count name))
  left : ∀ name ∈ tables, exactly name (remaining engine sqls dbName tables db name) = none →
    ((recreated engine sqls dbName tables name).filter fun made => made.name == name) = none →
    EquallyCopied engine db name (first.count name) (second.count name)

theorem exactly_map_shape (name : String) {first second : Option (Table V)}
    (same : first.map Table.shape = second.map Table.shape) :
    (exactly name first).map Table.shape = (exactly name second).map Table.shape := by
  cases first with
  | none =>
      cases second with
      | none => rfl
      | some other => cases same
  | some table =>
      cases second with
      | none => cases same
      | some other =>
          rw [Option.map_some, Option.map_some, Option.some.injEq, Table.shape, Table.shape,
            Prod.mk.injEq] at same
          rw [exactly, exactly, Option.filter, Option.filter, same.1]
          split
          · rw [Option.map_some, Option.map_some, Table.shape, Table.shape, same.1, same.2]
          · rfl

section Lists

variable {engine : Engine V} {sqls : KtAutoSqls} {dbName : String} {tables : List String}
  {conn : Conn V} (faultless : Faultless engine sqls dbName tables conn) {name : String}
  (member : name ∈ tables)
include faultless member

/-- A backup that is read after one copy is read after more of them. -/
theorem Faultless.read {list : List String} (same : SameNames list tables) {made : Table V}
    (reads : exactly name (remaining engine sqls dbName tables conn.db name) = some made) :
    ∃ grown, exactly name (Migration.standing engine sqls dbName list conn.db name) = some grown ∧
      made.rows.length ≤ grown.rows.length ∧ (made.rows = [] → grown.rows = []) := by
  rcases faultless.standing member same with ⟨shape, atLeast⟩
  have there := (Option.filter_eq_some_iff.mp reads).1
  have shapes := exactly_map_shape name shape
  rw [reads, Option.map_some] at shapes
  rcases Option.map_eq_some_iff.mp shapes with ⟨grown, alsoReads, -⟩
  have stands := (Option.filter_eq_some_iff.mp alsoReads).1
  refine ⟨grown, alsoReads, atLeast made grown there stands, ?_⟩
  intro empty
  rw [faultless.standing_of_empty member same there empty, Option.some.injEq] at stands
  rw [← stands]
  exact empty

/-- A backup that is not read after one copy is not read after more of them. -/
theorem Faultless.unread {list : List String} (same : SameNames list tables)
    (unread : exactly name (remaining engine sqls dbName tables conn.db name) = none) :
    exactly name (Migration.standing engine sqls dbName list conn.db name) = none := by
  have shapes := exactly_map_shape name (faultless.standing member same).1
  rw [unread, Option.map_none] at shapes
  exact Option.map_eq_none_iff.mp shapes

variable {first second : List String} (sameFirst : SameNames first tables)
  (sameSecond : SameNames second tables) {next other : Database V}
  (outcome : Outcome engine sqls dbName first conn.db next)
  (otherOutcome : Outcome engine sqls dbName second conn.db other)
include sameFirst sameSecond outcome otherOutcome

/-- A table whose backup is read. -/
theorem Faultless.sameUpToId_iff {made : Table V}
    (reads : exactly name (remaining engine sqls dbName tables conn.db name) = some made) :
    SameUpToId (next.find name) (other.find name) ↔
      made.rows = [] ∨
        (lost engine sqls dbName first conn.db name = true ∧
          lost engine sqls dbName second conn.db name = true) ∨
        (lost engine sqls dbName first conn.db name = false ∧
          lost engine sqls dbName second conn.db name = false ∧
          EquallyCopied engine conn.db name (first.count name) (second.count name)) := by
  have inFirst := (sameFirst name).mpr member
  have inSecond := (sameSecond name).mpr member
  rcases faultless.read member sameFirst reads with ⟨grown, readsFirst, atLeast, still⟩
  rcases faultless.read member sameSecond reads with ⟨more, readsSecond, alsoAtLeast, alsoStill⟩
  have length := outcome.length inFirst readsFirst
  have otherLength := otherOutcome.length inSecond readsSecond
  have shape : (next.find name).map Table.shape = (other.find name).map Table.shape := by
    rw [outcome.shape inFirst, otherOutcome.shape inSecond, recreated_congr sameFirst,
      recreated_congr sameSecond]
  constructor
  · rintro ⟨-, rows⟩
    by_cases empty : made.rows = []
    · exact Or.inl empty
    right
    have positive := List.length_pos_iff.mpr empty
    have counts := rows.length_eq
    rw [length, otherLength] at counts
    cases losesFirst : lost engine sqls dbName first conn.db name with
    | true =>
        cases losesSecond : lost engine sqls dbName second conn.db name with
        | true => exact Or.inl ⟨rfl, rfl⟩
        | false =>
            rw [losesFirst, losesSecond, if_pos rfl, if_neg Bool.false_ne_true] at counts
            omega
    | false =>
        cases losesSecond : lost engine sqls dbName second conn.db name with
        | true =>
            rw [losesFirst, losesSecond, if_pos rfl, if_neg Bool.false_ne_true] at counts
            omega
        | false =>
            right
            refine ⟨rfl, rfl, ?_⟩
            rw [losesFirst, losesSecond, if_neg Bool.false_ne_true, if_neg Bool.false_ne_true]
              at counts
            apply faultless.equallyCopied_of_rows member sameFirst sameSecond
            rw [(Option.filter_eq_some_iff.mp readsFirst).1,
              (Option.filter_eq_some_iff.mp readsSecond).1]
            exact counts
  · rintro (empty | ⟨losesFirst, losesSecond⟩ | ⟨losesFirst, losesSecond, equally⟩)
    · rw [still empty, List.length_nil, ite_self] at length
      rw [alsoStill empty, List.length_nil, ite_self] at otherLength
      exact sameUpToId_of_no_rows shape length otherLength
    · rw [losesFirst, if_pos rfl] at length
      rw [losesSecond, if_pos rfl] at otherLength
      exact sameUpToId_of_no_rows shape length otherLength
    · have same : next.find name = other.find name := by
        rw [outcome.find_eq inFirst, otherOutcome.find_eq inSecond, losesFirst, losesSecond,
          recreated_congr sameFirst, recreated_congr sameSecond,
          faultless.standing_eq member sameFirst sameSecond equally]
      rw [same]
      exact ⟨rfl, List.Perm.refl _⟩

/-- What is left under the name of a backup. -/
theorem Faultless.temp_eq_iff :
    next.find (tempOf name) = other.find (tempOf name) ↔
      (exactly name (remaining engine sqls dbName tables conn.db name) = none →
        ((recreated engine sqls dbName tables name).filter fun made => made.name == name) = none →
        EquallyCopied engine conn.db name (first.count name) (second.count name)) := by
  rw [outcome.temp name ((sameFirst name).mpr member),
    otherOutcome.temp name ((sameSecond name).mpr member), recreated_congr sameFirst,
    recreated_congr sameSecond]
  cases reads : exactly name (remaining engine sqls dbName tables conn.db name) with
  | some made =>
      rcases faultless.read member sameFirst reads with ⟨grown, readsFirst, -⟩
      rcases faultless.read member sameSecond reads with ⟨more, readsSecond, -⟩
      rw [readsFirst, readsSecond]
      refine iff_of_true rfl ?_
      intro impossible
      cases impossible
  | none =>
      rw [faultless.unread member sameFirst reads, faultless.unread member sameSecond reads]
      cases definition : (recreated engine sqls dbName tables name).filter
          fun made => made.name == name with
      | some made =>
          refine iff_of_true rfl ?_
          intro _ impossible
          cases impossible
      | none =>
          constructor
          · intro same _ _
            apply faultless.equallyCopied_of_rows member sameFirst sameSecond
            exact congrArg (fun found : Option (Table V) => found.elim 0 fun made =>
              made.rows.length) same
          · intro equally
            exact faultless.standing_eq member sameFirst sameSecond (equally rfl rfl)

omit member in
/-- The two outcomes are the same up to `_id` if and only if the lists are
interchangeable, as far as they return. -/
theorem Faultless.leavesSame_iff (listing : Listing engine tables)
    (sequence : next.sequence = other.sequence) :
    LeavesSame tables next other ↔
      (∀ name ∈ tables, ∀ made,
        exactly name (remaining engine sqls dbName tables conn.db name) = some made →
        made.rows = [] ∨
          (lost engine sqls dbName first conn.db name = true ∧
            lost engine sqls dbName second conn.db name = true) ∨
          (lost engine sqls dbName first conn.db name = false ∧
            lost engine sqls dbName second conn.db name = false ∧
            EquallyCopied engine conn.db name (first.count name) (second.count name))) ∧
      ∀ name ∈ tables, exactly name (remaining engine sqls dbName tables conn.db name) = none →
        ((recreated engine sqls dbName tables name).filter fun made => made.name == name) = none →
        EquallyCopied engine conn.db name (first.count name) (second.count name) := by
  have outside : ∀ name, fold (tempOf name) ∉ tables.map fold := by
    intro name inside
    rcases List.mem_map.mp inside with ⟨table, member, same⟩
    exact listing.ne_temp member name same
  constructor
  · rintro ⟨listed, others, -⟩
    constructor
    · intro name member made reads
      exact (faultless.sameUpToId_iff member sameFirst sameSecond outcome otherOutcome reads).mp
        (listed name member)
    · intro name member
      exact (faultless.temp_eq_iff member sameFirst sameSecond outcome otherOutcome).mp
        (others _ (outside name))
  · rintro ⟨carried, left⟩
    refine ⟨?_, ?_, sequence⟩
    · intro name member
      cases reads : exactly name (remaining engine sqls dbName tables conn.db name) with
      | some made =>
          exact (faultless.sameUpToId_iff member sameFirst sameSecond outcome otherOutcome
            reads).mpr (carried name member made reads)
      | none =>
          have same : next.find name = other.find name := by
            rw [outcome.find_of_unread ((sameFirst name).mpr member)
                (faultless.unread member sameFirst reads),
              otherOutcome.find_of_unread ((sameSecond name).mpr member)
                (faultless.unread member sameSecond reads),
              recreated_congr sameFirst, recreated_congr sameSecond]
          rw [same]
          exact ⟨rfl, List.Perm.refl _⟩
    · intro key unlisted
      by_cases backup : ∃ name ∈ tables, key = fold (tempOf name)
      · rcases backup with ⟨name, member, here⟩
        rw [here]
        exact (faultless.temp_eq_iff member sameFirst sameSecond outcome otherOutcome).mpr
          (left name member)
      · have apart : ∀ name ∈ tables, key ≠ fold name ∧ key ≠ fold (tempOf name) := by
          intro name member
          constructor
          · intro here
            exact unlisted (here ▸ List.mem_map_of_mem member)
          · intro here
            exact backup ⟨name, member, here⟩
        rw [outcome.other key fun name inside => apart name ((sameFirst name).mp inside),
          otherOutcome.other key fun name inside => apart name ((sameSecond name).mp inside),
          created_congr sameFirst, created_congr sameSecond]

end Lists

/-! ## Repetitions that do no harm -/

section Harmless

variable {engine : Engine V} {sqls : KtAutoSqls} {dbName : String} {tables : List String}
  {conn : Conn V} (faultless : Faultless engine sqls dbName tables conn)
include faultless

/-- Lists for which each backup is as after one copy lose nothing. -/
theorem Faultless.lost_eq_false (listing : Listing engine tables) {list : List String}
    (same : SameNames list tables)
    (single : ∀ name ∈ tables, EquallyCopied engine conn.db name (list.count name) 1)
    {name : String} (member : name ∈ tables) :
    lost engine sqls dbName list conn.db name = false := by
  apply Bool.eq_false_iff.mpr
  intro loses
  rcases List.any_eq_true.mp loses with ⟨earlier, inside, throws⟩
  have among : earlier ∈ tables := by
    rcases List.mem_append.mp inside with before | last
    · exact (same earlier).mp (List.takeWhile_subset _ before)
    · exact List.mem_singleton.mp last ▸ member
  have once : tables.count earlier = 1 := List.count_eq_one_of_mem listing.nodup among
  have stands : Migration.standing engine sqls dbName list conn.db earlier =
      remaining engine sqls dbName tables conn.db earlier := by
    rw [← standing_eq_remaining listing among]
    apply faultless.standing_eq among same fun _ => Iff.rfl
    rw [once]
    exact single earlier among
  rw [stands, recreated_congr same, faultless.restores earlier among] at throws
  cases throws

/-- Guarded lists are interchangeable if each backup is as after one copy. -/
theorem Faultless.interchangeable (listing : Listing engine tables) {first second : List String}
    (sameFirst : SameNames first tables) (sameSecond : SameNames second tables)
    (guardedFirst : Guarded engine (configured sqls dbName) first)
    (guardedSecond : Guarded engine (configured sqls dbName) second)
    (singleFirst : ∀ name ∈ tables, EquallyCopied engine conn.db name (first.count name) 1)
    (singleSecond : ∀ name ∈ tables, EquallyCopied engine conn.db name (second.count name) 1) :
    Interchangeable engine sqls dbName tables conn.db first second := by
  have equally : ∀ name ∈ tables,
      EquallyCopied engine conn.db name (first.count name) (second.count name) := by
    intro name member
    have positive := List.count_pos_iff.mpr ((sameFirst name).mpr member)
    have also := List.count_pos_iff.mpr ((sameSecond name).mpr member)
    apply faultless.equallyCopied member positive also
    rw [faultless.backedTimes_eq member positive Nat.one_pos (singleFirst name member),
      faultless.backedTimes_eq member also Nat.one_pos (singleSecond name member)]
  refine ⟨guardedFirst, guardedSecond, ?_, fun name member _ _ => equally name member⟩
  intro name member made _
  exact Or.inr (Or.inr ⟨faultless.lost_eq_false listing sameFirst singleFirst member,
    faultless.lost_eq_false listing sameSecond singleSecond member, equally name member⟩)

/-- The order of the names does not matter. -/
theorem Faultless.interchangeable_of_perm (listing : Listing engine tables)
    {first second : List String} (permFirst : first.Perm tables)
    (permSecond : second.Perm tables) :
    Interchangeable engine sqls dbName tables conn.db first second := by
  have single : ∀ list : List String, list.Perm tables →
      ∀ name ∈ tables, EquallyCopied engine conn.db name (list.count name) 1 := by
    intro list perm name member old _
    rw [perm.count_eq, List.count_eq_one_of_mem listing.nodup member]
    exact Or.inr (Or.inl rfl)
  exact faultless.interchangeable listing (fun _ => permFirst.mem_iff) (fun _ => permSecond.mem_iff)
    (guarded_of_nodup _ _ (permFirst.nodup_iff.mpr listing.nodup))
    (guarded_of_nodup _ _ (permSecond.nodup_iff.mpr listing.nodup))
    (single first permFirst) (single second permSecond)

end Harmless

/-! ## Lists that agree -/

section Counting

variable {engine : Engine V} (documented : engine.Documented) (prefixed : engine.Prefixed)
  (steady : engine.Steady) {sqls : KtAutoSqls} {dbName : String} {first second : List String}
  (plain : ∀ name ∈ first, engine.Plain name) (nonempty : first ≠ [])
  (creating : Creating engine (configured sqls dbName)) (same : SameNames first second)
  {conn : Conn V}

include same

theorem keysLeft_congr (engine : Engine V) (db : Database V) :
    keysLeft engine db first = keysLeft engine db second := by
  funext key
  have listed : (first.map fold).contains key = (second.map fold).contains key := by
    apply Bool.eq_iff_iff.mpr
    rw [List.contains_iff_mem, List.contains_iff_mem]
    exact same.keys key
  have backs : backsUp engine db first key = backsUp engine db second key := by
    apply Bool.eq_iff_iff.mpr
    simp only [backsUp, List.any_eq_true, same _]
  rw [keysLeft, keysLeft, listed, backs]

theorem backupsCount_congr (engine : Engine V) (db : Database V) :
    backupsCount engine db first = backupsCount engine db second := by
  apply Bool.eq_iff_iff.mpr
  simp only [backupsCount, List.any_eq_true, same _]

include documented prefixed steady plain nonempty creating

/-- Lists of the same names bring `sqlite_sequence` or not. -/
theorem sequence_eq_of_sameNames {next other : Conn V}
    (returns : (migrateSpecifyTable engine sqls dbName first).run conn = .ok () next)
    (otherReturns : (migrateSpecifyTable engine sqls dbName second).run conn = .ok () other) :
    next.db.sequence = other.db.sequence := by
  have alsoPlain : ∀ name ∈ second, engine.Plain name :=
    fun name member => plain name ((same name).mpr member)
  have alsoNonempty : second ≠ [] := by
    rcases List.exists_mem_of_ne_nil _ nonempty with ⟨name, member⟩
    exact List.ne_nil_of_mem ((same name).mp member)
  have ends := executes_of_migrate documented prefixed steady plain nonempty creating returns
  have otherEnds := executes_of_migrate documented prefixed steady alsoPlain alsoNonempty creating
    otherReturns
  have sequence := sequence_final_migrate documented prefixed steady plain nonempty creating
    conn
  have otherSequence := sequence_final_migrate documented prefixed steady alsoPlain alsoNonempty
    creating conn
  rw [Effect.final_of_ok returns] at sequence
  rw [Effect.final_of_ok otherReturns] at otherSequence
  rw [sequence, otherSequence, backupsCount_congr same engine conn.db,
    keysLeft_congr same engine conn.db]
  rw [keysLeft_congr same engine conn.db] at ends
  congr 2
  apply Bool.eq_iff_iff.mpr
  constructor
  · intro makes
    rcases created_of_counts makes with ⟨key, table, free, creation, autoincrement⟩
    rw [created_congr same key] at creation
    exact counts_of_created otherEnds free creation autoincrement
  · intro makes
    rcases created_of_counts makes with ⟨key, table, free, creation, autoincrement⟩
    rw [← created_congr same key] at creation
    exact counts_of_created ends free creation autoincrement

end Counting

section Whole

variable {engine : Engine V} (documented : engine.Documented) (prefixed : engine.Prefixed)
  (steady : engine.Steady)
  {sqls : KtAutoSqls} {dbName : String} {tables : List String}
  (listing : Listing engine tables) (creating : Creating engine (configured sqls dbName))
  (plainTargets : ∀ name ∈ tables, ∀ target,
    recreated engine sqls dbName tables name = some target →
    ∀ column ∈ target.schema.names, engine.Plain column)
  {conn : Conn V} (copyable : Copyable engine conn.db tables)
include documented steady listing creating plainTargets copyable

/-- What a run over a list of the same names leaves. -/
theorem outcome_of_sameNames {list : List String} (same : SameNames list tables)
    (nonempty : tables ≠ []) {next : Conn V}
    (returns : (migrateSpecifyTable engine sqls dbName list).run conn = .ok () next) :
    Outcome engine sqls dbName list conn.db next.db := by
  rcases List.exists_mem_of_ne_nil _ nonempty with ⟨name, member⟩
  apply outcome_of_run documented steady creating ?_ ?_ ?_ (same.spelled listing.spelled) returns
  · intro name member target makes
    rw [recreated_congr same] at makes
    exact plainTargets name ((same name).mp member) target makes
  · exact fun name member => copyable name ((same name).mp member)
  · exact List.ne_nil_of_mem ((same name).mpr member)

include prefixed in
theorem runsAgree_iff (faultless : Faultless engine sqls dbName tables conn)
    {first second : List String} (sameFirst : SameNames first tables)
    (sameSecond : SameNames second tables) :
    RunsAgree engine sqls dbName tables conn first second ↔
      Interchangeable engine sqls dbName tables conn.db first second := by
  by_cases nonempty : tables = []
  · -- Both lists are empty, and no statement fails.
    subst nonempty
    have emptyFirst : first = [] :=
      List.eq_nil_iff_forall_not_mem.mpr fun name inside =>
        List.not_mem_nil ((sameFirst name).mp inside)
    have emptySecond : second = [] :=
      List.eq_nil_iff_forall_not_mem.mpr fun name inside =>
        List.not_mem_nil ((sameSecond name).mp inside)
    subst emptyFirst
    subst emptySecond
    rcases faultless.returns with ⟨next, returns⟩
    refine iff_of_true ⟨next, next, returns, returns, ⟨?_, fun _ _ => rfl, rfl⟩⟩ ⟨?_, ?_, ?_, ?_⟩
    · exact fun name member => absurd member List.not_mem_nil
    · exact guarded_of_nodup _ _ List.nodup_nil
    · exact guarded_of_nodup _ _ List.nodup_nil
    · exact fun name member => absurd member List.not_mem_nil
    · exact fun name member => absurd member List.not_mem_nil
  have sequence : ∀ {next other : Conn V},
      (migrateSpecifyTable engine sqls dbName first).run conn = .ok () next →
      (migrateSpecifyTable engine sqls dbName second).run conn = .ok () other →
      next.db.sequence = other.db.sequence := by
    rcases List.exists_mem_of_ne_nil _ nonempty with ⟨name, member⟩
    apply sequence_eq_of_sameNames documented prefixed steady
      (fun name member => listing.plain name ((sameFirst name).mp member))
      (List.ne_nil_of_mem ((sameFirst name).mpr member)) creating
    intro table
    rw [sameFirst table, sameSecond table]
  have guardedFirst := returns_iff_guarded documented steady listing sameFirst creating plainTargets
    copyable nonempty faultless.returns
  have guardedSecond := returns_iff_guarded documented steady listing sameSecond creating
    plainTargets copyable nonempty faultless.returns
  constructor
  · rintro ⟨next, other, returns, otherReturns, same⟩
    have outcome := outcome_of_sameNames documented steady listing creating plainTargets copyable
      sameFirst nonempty returns
    have otherOutcome := outcome_of_sameNames documented steady listing creating plainTargets
      copyable sameSecond nonempty otherReturns
    rcases (faultless.leavesSame_iff sameFirst sameSecond outcome otherOutcome listing
      (sequence returns otherReturns)).mp same with ⟨carried, left⟩
    exact ⟨guardedFirst.mp ⟨next, returns⟩, guardedSecond.mp ⟨other, otherReturns⟩, carried, left⟩
  · rintro ⟨firstEnds, secondEnds, carried, left⟩
    rcases guardedFirst.mpr firstEnds with ⟨next, returns⟩
    rcases guardedSecond.mpr secondEnds with ⟨other, otherReturns⟩
    have outcome := outcome_of_sameNames documented steady listing creating plainTargets copyable
      sameFirst nonempty returns
    have otherOutcome := outcome_of_sameNames documented steady listing creating plainTargets
      copyable sameSecond nonempty otherReturns
    exact ⟨next, other, returns, otherReturns,
      (faultless.leavesSame_iff sameFirst sameSecond outcome otherOutcome listing
        (sequence returns otherReturns)).mpr ⟨carried, left⟩⟩

end Whole

section Sets

variable {engine : Engine V} (documented : engine.Documented) (prefixed : engine.Prefixed)
  (steady : engine.Steady) {sqls : KtAutoSqls} {dbName : String} {tables : List String}
  {conn : Conn V}
include documented prefixed steady

/-- If no statement fails for a list without repetitions, then two lists of the same
names agree if they are comparable and interchangeable, and comparable lists only
then. -/
theorem migrateSpecifyTable_set_iff (faultless : Faultless engine sqls dbName tables conn)
    {first second : List String} (sameFirst : SameNames first tables)
    (sameSecond : SameNames second tables) :
    (Comparable engine sqls dbName tables conn.db ∧
          Interchangeable engine sqls dbName tables conn.db first second →
        RunsAgree engine sqls dbName tables conn first second) ∧
      (Comparable engine sqls dbName tables conn.db →
        RunsAgree engine sqls dbName tables conn first second →
        Interchangeable engine sqls dbName tables conn.db first second) := by
  constructor
  · rintro ⟨⟨listing, creating, copyable, plainTargets⟩, interchangeable⟩
    exact (runsAgree_iff documented prefixed steady listing creating plainTargets copyable faultless
      sameFirst sameSecond).mpr interchangeable
  · rintro ⟨listing, creating, copyable, plainTargets⟩ agree
    exact (runsAgree_iff documented prefixed steady listing creating plainTargets copyable faultless
      sameFirst sameSecond).mp agree

end Sets

/-! ## Small lists -/

section Small

open Sql.Reference

theorem faultless_failing {sqls : KtAutoSqls} {tables : List String} {conn : Conn Int}
    (backs : (tables.all fun name => (conn.db.named name).all fun old =>
      (filledBackup (failing []) (conn.db.find (tempOf name)) old).isSome) = true)
    (restores : (tables.all fun name => !throwsFrom (failing []) name
      (recreated (failing []) sqls "demo" tables name)
      (remaining (failing []) sqls "demo" tables conn.db name)) = true)
    (returns : ∃ next,
      (migrateSpecifyTable (failing []) sqls "demo" tables).run conn = .ok () next) :
    Faultless (failing []) sqls "demo" tables conn where
  creates := fun _ _ _ _ => rfl
  fills := by
    intro name member old named
    exact (Option.all_eq_true _ _).mp (List.all_eq_true.mp backs name member) old named
  restores := by
    intro name member
    exact (Bool.not_eq_true' _).mp (List.all_eq_true.mp restores name member)
  returns := returns

/-- The row of `A` turns up twice if `A` is named twice. -/
theorem not_runsAgree_twice :
    Listing (failing []) ["A"] ∧ Faultless (failing []) onlyA "demo" ["A"] oneRow ∧
      SameNames ["A", "A"] ["A"] ∧
      ¬ RunsAgree (failing []) onlyA "demo" ["A"] oneRow ["A", "A"] ["A"] := by
  rcases run_oneRow with ⟨once, ends, new, found, one⟩
  refine ⟨listing_failing [] (by decide) (by decide) (by decide),
    faultless_failing (by decide +kernel) (by decide +kernel) ⟨once, ends⟩, ?_, ?_⟩
  · intro table
    simp
  · rintro ⟨next, other, returns, otherReturns, same⟩
    have twice : Effect.endsIn (migrateSpecifyTable (failing []) onlyA "demo" ["A", "A"])
        (fun next => (rowsBesideId (next.db.find "A")).length == 2) oneRow = true := by
      decide +kernel
    rw [Effect.endsIn_of_ok returns, beq_iff_eq] at twice
    rw [ends] at otherReturns
    cases otherReturns
    have counts := (same.listed "A" List.mem_cons_self).rows.length_eq
    rw [twice, length_rowsBesideId, found, Option.elim_some, one] at counts
    cases counts

/-- `A` with a row, and `B` without one. -/
def rowAndNone : Conn Int := ⟨valueTables [("A", [7]), ("B", [])], 0⟩

/-- Both are configured as they are. -/
def bothTables : KtAutoSqls := .ofEntries [valueText "A", valueText "B"] 2 (some "1:A,B") none

theorem reads_bothTables {sql : String} (member : sql ∈ configured bothTables "demo") :
    ∃ name, (failing []).prepare sql = some (.create name true valueSchema) := by
  have form : ∀ name, plain name = true →
      (failing []).prepare (valueText name) = some (.create name true valueSchema) :=
    fun name named =>
      (documented_failing []).create name _ (plain_failing named []) (defines_value [])
  rcases List.mem_cons.mp member with same | last
  · rw [same]
    exact ⟨"A", form "A" (by decide)⟩
  · rw [List.mem_singleton.mp last]
    exact ⟨"B", form "B" (by decide)⟩

theorem returns_bothTables : ∃ next,
    (migrateSpecifyTable (failing []) bothTables "demo" ["A", "B"]).run rowAndNone =
      .ok () next := by
  have evaluated : Effect.endsIn (migrateSpecifyTable (failing []) bothTables "demo" ["A", "B"])
      (fun _ => true) rowAndNone = true := by decide +kernel
  rcases Effect.exists_of_endsIn evaluated with ⟨⟨⟩, next, ends, -⟩
  exact ⟨next, ends⟩

/-- An empty table may be named twice. -/
theorem runsAgree_empty_twice :
    RunsAgree (failing []) bothTables "demo" ["A", "B"] rowAndNone ["B", "A", "B"] ["B", "A"] := by
  have listing : Listing (failing []) ["A", "B"] :=
    listing_failing [] (by decide) (by decide) (by decide)
  have faultless : Faultless (failing []) bothTables "demo" ["A", "B"] rowAndNone :=
    faultless_failing (by decide +kernel) (by decide +kernel) returns_bothTables
  have sameFirst : SameNames ["B", "A", "B"] ["A", "B"] := by
    intro table
    simp only [List.mem_cons, List.not_mem_nil]
    tauto
  have sameSecond : SameNames ["B", "A"] ["A", "B"] := by
    intro table
    simp only [List.mem_cons, List.not_mem_nil]
    tauto
  have creating : Creating (failing []) (configured bothTables "demo") := by
    intro sql member stmt reads
    rcases reads_bothTables member with ⟨name, prepared⟩
    rw [prepared, Option.some.injEq] at reads
    exact ⟨name, true, valueSchema, reads.symm⟩
  have plainTargets : ∀ name ∈ ["A", "B"], ∀ target,
      recreated (failing []) bothTables "demo" ["A", "B"] name = some target →
      ∀ column ∈ target.schema.names, (failing []).Plain column := by
    intro name _ target makes column inside
    rcases List.exists_of_findSome?_eq_some makes with ⟨sql, among, creation⟩
    rcases reads_bothTables (mem_matched.mp among).1 with ⟨other, prepared⟩
    rw [creates, prepared] at creation
    dsimp only at creation
    split at creation
    · cases creation
      rw [List.mem_singleton.mp inside]
      exact plain_failing (by decide) []
    · cases creation
  have guarded : ∀ list, Guarded (failing []) (configured bothTables "demo") list := by
    intro list sql member s _ _ name schema reads
    rcases reads_bothTables member with ⟨other, prepared⟩
    rw [prepared] at reads
    cases reads
  have single : ∀ name ∈ ["A", "B"], EquallyCopied (failing []) rowAndNone.db name
      (["B", "A", "B"].count name) 1 := by
    intro name member old named
    rcases List.mem_cons.mp member with same | last
    · exact Or.inr (Or.inl (by rw [same]; rfl))
    · left
      have empty : ((rowAndNone.db.named "B").all fun old => old.rows.isEmpty) = true := by
        decide +kernel
      rw [List.mem_singleton.mp last] at named
      exact List.isEmpty_iff.mp ((Option.all_eq_true _ _).mp empty old named)
  have alsoSingle : ∀ name ∈ ["A", "B"], EquallyCopied (failing []) rowAndNone.db name
      (["B", "A"].count name) 1 := by
    intro name member old _
    rcases List.mem_cons.mp member with same | last
    · exact Or.inr (Or.inl (by rw [same]; rfl))
    · exact Or.inr (Or.inl (by rw [List.mem_singleton.mp last]; rfl))
  exact (migrateSpecifyTable_set_iff (documented_failing []) (prefixed _) (steady_failing []) faultless
    sameFirst sameSecond).1
      ⟨⟨listing, creating, copyable_value [] _ _, plainTargets⟩,
        faultless.interchangeable listing sameFirst sameSecond (guarded _) (guarded _) single
          alsoSingle⟩

end Small

end Migration
end ModuleDatabase
