import ModuleDatabase.Migration.Leftovers
import ModuleDatabase.Migration.Passes
import ModuleDatabase.Migration.Survivors

namespace ModuleDatabase
namespace Migration

open Text
open Sql

/-!
# Lists that repeat names

A directive is written by hand, so a list of tables may name one several times.
Each phase does something for each occurrence.  The first one fills the backup
once more.  In the second one the list counts as a whole: every pass drops all
listed tables, and executes a configured statement as often as names that occur
in it are listed.  In the third one the backup of a table is gone after its
first turn, and its further turns do nothing.

Compared are lists that name the same tables.  They differ in how often a
backup is filled, in how often a statement is executed, and in the order in
which tables are restored.
-/

variable {V : Type}

/-- The two lists name the same tables. -/
def SameNames (first second : List String) : Prop := ∀ table, table ∈ first ↔ table ∈ second

theorem SameNames.keys {first second : List String} (same : SameNames first second) (key : String) :
    key ∈ first.map fold ↔ key ∈ second.map fold := by
  simp only [List.mem_map, same _]

theorem SameNames.spelled {engine : Engine V} {first second : List String}
    (same : SameNames first second) (spelled : Spelled engine second) : Spelled engine first :=
  spelled.subset fun table member => (same table).mp member

/-! ## Statements that are executed several times -/

section Repeating

variable {engine : Engine V} {statements : List String}

/-- A statement that is executed several times in a row must say `IF NOT EXISTS`. -/
def Tolerant (engine : Engine V) (statements : List String) (times : String → Nat) : Prop :=
  ∀ sql ∈ statements, ∀ name schema,
    engine.prepare sql = some (.create name false schema) → times sql ≤ 1

/-- How often a pass executes a statement. -/
def turns (list : List String) (sql : String) : Nat :=
  (list.filter fun s => contains sql (s ++ " (")).length

theorem matched_eq_replicate (statements list : List String) :
    matched statements list = statements.flatMap fun sql => List.replicate (turns list sql) sql := by
  unfold matched
  apply List.flatMap_congr
  intro sql _
  exact List.map_const'

theorem executes_cons_create {sql name : String} {ifNotExists : Bool} {schema : Schema V}
    (reads : engine.prepare sql = some (.create name ifNotExists schema)) (rest : List String)
    (present : String → Bool) :
    executes engine (sql :: rest) present =
      (!engine.fails 0 sql && (ifNotExists || !present (fold name)) &&
        executes engine rest fun key => present key || key == fold name) := by
  rw [executes, reads]

/-- A statement that creates nothing does not execute. -/
theorem executes_cons_other {sql : String}
    (other : ∀ name ifNotExists schema,
      engine.prepare sql ≠ some (.create name ifNotExists schema))
    (rest : List String) (present : String → Bool) :
    executes engine (sql :: rest) present = false := by
  unfold executes
  split
  · rename_i name ifNotExists schema reads
    exact absurd reads (other name ifNotExists schema)
  · rfl

/-- Another turn of a statement with `IF NOT EXISTS` changes nothing. -/
theorem executes_replicate {sql name : String} {schema : Schema V}
    (reads : engine.prepare sql = some (.create name true schema)) (times : Nat)
    (rest : List String) (present : String → Bool) :
    executes engine (List.replicate (times + 1) sql ++ rest) present =
      executes engine (sql :: rest) present := by
  induction times generalizing present with
  | zero => rfl
  | succ times ih =>
      have still : (fun key => (present key || key == fold name) || key == fold name) =
          fun key => present key || key == fold name := by
        funext key
        rw [Bool.or_assoc, Bool.or_self]
      rw [List.replicate_succ, List.cons_append, executes_cons_create reads, ih,
        executes_cons_create reads, executes_cons_create reads, still, Bool.true_or, Bool.and_true,
        Bool.true_or, Bool.and_true, ← Bool.and_assoc, Bool.and_self]

/-- How often a statement is executed does not matter, if it says `IF NOT EXISTS`
or is executed at most once. -/
theorem executes_of_tolerant {times : String → Nat} (tolerant : Tolerant engine statements times)
    (present : String → Bool) :
    executes engine (statements.flatMap fun sql => List.replicate (times sql) sql) present =
      executes engine (statements.filter fun sql => times sql != 0) present := by
  induction statements generalizing present with
  | nil => rfl
  | cons sql rest ih =>
      have later : Tolerant engine rest times :=
        fun other member => tolerant other (List.mem_cons_of_mem _ member)
      rw [List.flatMap_cons]
      cases count : times sql with
      | zero =>
          rw [List.filter_cons_of_neg (by rw [count]; decide)]
          exact ih later present
      | succ more =>
          rw [List.filter_cons_of_pos (by rw [count]; rfl)]
          by_cases makes : ∃ name ifNotExists schema,
              engine.prepare sql = some (.create name ifNotExists schema)
          · rcases makes with ⟨name, ifNotExists, schema, reads⟩
            have once : executes engine (List.replicate (more + 1) sql ++
                rest.flatMap fun sql => List.replicate (times sql) sql) present =
                  executes engine (sql :: rest.flatMap fun sql => List.replicate (times sql) sql)
                    present := by
              cases ifNotExists with
              | true => exact executes_replicate reads more _ present
              | false =>
                  have few := tolerant sql List.mem_cons_self name schema reads
                  have noMore : more = 0 := by omega
                  rw [noMore]
                  rfl
            rw [once, executes_cons_create reads, executes_cons_create reads, ih later]
          · have other : ∀ name ifNotExists schema,
                engine.prepare sql ≠ some (.create name ifNotExists schema) :=
              fun name ifNotExists schema reads => makes ⟨name, ifNotExists, schema, reads⟩
            rw [List.replicate_succ, List.cons_append, executes_cons_other other,
              executes_cons_other other]

/-- Statements that execute find their places free. -/
theorem tolerant_of_executes {times : String → Nat} {present : String → Bool}
    (ends : executes engine (statements.flatMap fun sql => List.replicate (times sql) sql)
      present = true) : Tolerant engine statements times := by
  intro sql member name schema reads
  by_contra several
  have split : ∃ more, times sql = more + 2 := ⟨times sql - 2, by omega⟩
  rcases split with ⟨more, count⟩
  rcases List.append_of_mem member with ⟨before, after, split⟩
  rw [split, List.flatMap_append, List.flatMap_cons, count, List.replicate_succ,
    List.replicate_succ] at ends
  generalize before.flatMap (fun sql => List.replicate (times sql) sql) = front at ends
  induction front generalizing present with
  | nil =>
      rw [List.nil_append, List.cons_append, List.cons_append, executes_cons_create reads,
        executes_cons_create reads, beq_self_eq_true, Bool.or_true] at ends
      simp only [Bool.not_true, Bool.or_false, Bool.and_false, Bool.false_and,
        Bool.false_eq_true] at ends
  | cons first rest ih =>
      rw [List.cons_append, executes] at ends
      split at ends
      · rw [Bool.and_eq_true] at ends
        exact ih ends.2
      · cases ends

end Repeating

/-! ## Two lists in the second phase -/

section Rebuilding

variable {engine : Engine V} {statements first second : List String}

theorem turns_eq_zero_congr (same : SameNames first second) (sql : String) :
    turns first sql = 0 ↔ turns second sql = 0 := by
  simp only [turns, List.length_eq_zero_iff, List.filter_eq_nil_iff, same _]

theorem mem_matched_congr (same : SameNames first second) {sql : String} :
    sql ∈ matched statements first ↔ sql ∈ matched statements second := by
  simp only [mem_matched, same _]

theorem created_append (engine : Engine V) (before after : List String) (key : String) :
    created engine (before ++ after) key =
      (created engine before key).or (created engine after key) :=
  List.findSome?_append

/-- What the matched statements create does not depend on the order of the names,
nor on how often they are listed. -/
theorem created_congr (same : SameNames first second) (key : String) :
    created engine (matched statements first) key =
      created engine (matched statements second) key := by
  induction statements with
  | nil => rfl
  | cons sql rest ih =>
      rw [matched_eq_replicate, matched_eq_replicate] at ih ⊢
      rw [List.flatMap_cons, List.flatMap_cons, created_append, created_append, ih]
      simp only [created, List.findSome?_replicate, turns_eq_zero_congr same sql]

theorem recreated_congr {sqls : KtAutoSqls} {dbName : String} (same : SameNames first second)
    (table : String) : recreated engine sqls dbName first table =
      recreated (V := V) engine sqls dbName second table :=
  created_congr same (fold table)

/-- No statement without `IF NOT EXISTS` is executed for a name that is listed
more than once. -/
def Guarded (engine : Engine V) (statements list : List String) : Prop :=
  ∀ sql ∈ statements, ∀ s, 2 ≤ list.count s → contains sql (s ++ " (") = true →
    ∀ name schema, engine.prepare sql ≠ some (.create name false schema)

theorem guarded_of_nodup (engine : Engine V) (statements : List String) {list : List String}
    (nodup : list.Nodup) : Guarded engine statements list := by
  intro sql _ s twice
  have once := List.nodup_iff_count_le_one.mp nodup s
  omega

theorem count_of_occurs {list : List String} {sql s : String}
    (occurs : contains sql (s ++ " (") = true) :
    (list.filter fun s => contains sql (s ++ " (")).count s = list.count s :=
  List.count_filter occurs

theorem count_le_turns {list : List String} {sql s : String}
    (occurs : contains sql (s ++ " (") = true) : list.count s ≤ turns list sql := by
  rw [← count_of_occurs occurs]
  exact List.count_le_length

/-- If statements tolerate a list without repetitions, then they tolerate another
one of the same names just if no repeated name stands in one that does not say
`IF NOT EXISTS`. -/
theorem tolerant_iff_guarded (same : SameNames first second)
    (tolerant : Tolerant engine statements (turns second)) :
    Tolerant engine statements (turns first) ↔ Guarded engine statements first := by
  constructor
  · intro few sql member s twice occurs name schema reads
    have count : first.count s ≤ turns first sql := count_le_turns occurs
    have bound := few sql member name schema reads
    omega
  · intro guarded sql member name schema reads
    have single : turns second sql ≤ 1 := tolerant sql member name schema reads
    by_contra several
    have nonempty : (first.filter fun s => contains sql (s ++ " (")) ≠ [] := by
      intro empty
      rw [turns, empty] at several
      exact several (Nat.zero_le 1)
    rcases List.exists_mem_of_ne_nil _ nonempty with ⟨s, inside⟩
    have both : ∀ other ∈ first.filter (fun s => contains sql (s ++ " (")),
        other ∈ second.filter (fun s => contains sql (s ++ " (")) := by
      intro other among
      have facts := List.mem_filter.mp among
      exact List.mem_filter.mpr ⟨(same other).mp facts.1, facts.2⟩
    -- The other list has one name that occurs in the statement, so it is repeated here.
    have alone := eq_singleton_of_mem single (both s inside)
    have repeated : ∀ other ∈ first.filter (fun s => contains sql (s ++ " (")), s = other := by
      intro other among
      have there := both other among
      rw [alone] at there
      exact (List.mem_singleton.mp there).symm
    have occurs := (List.mem_filter.mp inside).2
    have count : first.count s = turns first sql := by
      rw [turns, ← List.count_eq_length.mpr repeated, count_of_occurs occurs]
    exact guarded sql member s (by omega) occurs name schema reads

/-- If the statements execute for a list without repetitions, then they execute
for another one of the same names just if it is guarded. -/
theorem executes_matched_iff (same : SameNames first second) {present : String → Bool}
    (ends : executes engine (matched statements second) present = true) :
    executes engine (matched statements first) present = true ↔
      Guarded engine statements first := by
  rw [matched_eq_replicate] at ends
  have tolerant := tolerant_of_executes ends
  rw [← tolerant_iff_guarded same tolerant, matched_eq_replicate]
  constructor
  · exact tolerant_of_executes
  · intro also
    rw [executes_of_tolerant also, ← ends, executes_of_tolerant tolerant]
    congr 1
    apply List.filter_congr
    intro sql _
    simp only [bne, beq_eq_decide, turns_eq_zero_congr same sql]

theorem repeatable_congr (same : SameNames first second) :
    Repeatable engine (matched statements first) first ↔
      Repeatable engine (matched statements second) second := by
  simp only [Repeatable, mem_matched_congr same, same.keys]

/-- If a single name is repeated and guarded, then the statements can be repeated. -/
theorem repeatable_of_single {table : String} (same : SameNames first [table])
    (several : ¬ first.length ≤ 1) (guarded : Guarded engine statements first) :
    Repeatable engine (matched statements first) first := by
  have all : ∀ other ∈ first, table = other :=
    fun other member => (List.mem_singleton.mp ((same other).mp member)).symm
  have twice : 2 ≤ first.count table := by
    rw [List.count_eq_length.mpr all]
    omega
  intro sql member name schema reads
  rcases mem_matched.mp member with ⟨inside, s, among, occurs⟩
  rw [← all s among] at occurs
  exact absurd reads (guarded sql inside table twice occurs name schema)

end Rebuilding

/-! ## Runs -/

/-- The restoring `INSERT` of one of these tables throws. -/
def hindered (engine : Engine V) (sqls : KtAutoSqls) (dbName : String) (tables : List String)
    (db : Database V) (before : List String) : Bool :=
  before.any fun earlier => throwsFrom engine earlier
    (recreated engine sqls dbName tables earlier) (standing engine sqls dbName tables db earlier)

/-- What a run that returns leaves. -/
structure Outcome (engine : Engine V) (sqls : KtAutoSqls) (dbName : String) (tables : List String)
    (db next : Database V) : Prop where
  table : ∀ before name after, tables = before ++ name :: after → name ∉ before →
    next.find name =
      if hindered engine sqls dbName tables db before then recreated engine sqls dbName tables name
      else (carriedFrom engine name (recreated engine sqls dbName tables name)
        (standing engine sqls dbName tables db name)).or (recreated engine sqls dbName tables name)
  temp : ∀ name ∈ tables, next.find (tempOf name) =
    if (exactly name (standing engine sqls dbName tables db name)).isSome ||
        ((recreated engine sqls dbName tables name).filter fun made => made.name == name).isSome
      then none
    else standing engine sqls dbName tables db name
  other : ∀ key, (∀ table ∈ tables, key ≠ fold table ∧ key ≠ fold (tempOf table)) →
    next.lookup key =
      (db.lookup key).or (created engine (matched (configured sqls dbName) tables) key)

theorem backupOf_isSome (engine : Engine V) (leftover : Option (Table V)) (table : Table V) :
    (backupOf engine leftover table).isSome =
      (!engine.fails 0 (createText (tempOf table.name) (table.schema.columns.map backupDef)) ||
        leftover.isSome) := by
  rw [backupOf]
  cases engine.fails 0 (createText (tempOf table.name) (table.schema.columns.map backupDef)) <;> rfl

/-- Whether there is a backup does not depend on how often it is filled. -/
theorem backedTimes_isSome (engine : Engine V) (db : Database V) (table : String) (times : Nat) :
    (backedTimes engine db table (times + 1)).isSome = (backedTimes engine db table 1).isSome := by
  cases named : db.named table with
  | none => rw [backedTimes_of_absent named, backedTimes_of_absent named]
  | some old =>
      induction times with
      | zero => rfl
      | succ times ih =>
          have first : backedTimes engine db table 1 =
              backupOf engine (backedTimes engine db table 0) old := backedTimes_succ named 0
          rw [backedTimes_succ named, backupOf_isSome, ih, first, backupOf_isSome, ← Bool.or_assoc,
            Bool.or_self]

section Running

variable {engine : Engine V} (documented : engine.Documented) (steady : engine.Steady)
  {sqls : KtAutoSqls} {dbName : String} {tables : List String}
  (creating : Creating engine (configured sqls dbName))
  (plainTargets : ∀ name ∈ tables, ∀ target,
    recreated engine sqls dbName tables name = some target →
    ∀ column ∈ target.schema.names, engine.Plain column)
  {conn : Conn V} (copyable : Copyable engine conn.db tables) (nonempty : tables ≠ [])

include plainTargets in
theorem Between.plainShared {db mid : Database V}
    (between : Between engine sqls dbName tables db mid) : PlainShared engine mid tables := by
  intro table among backup named column inside
  rw [between.table table among] at inside
  cases makes : recreated engine sqls dbName tables table with
  | none =>
      rw [makes] at inside
      exact absurd inside List.not_mem_nil
  | some target =>
      rw [makes] at inside
      exact plainTargets table among target makes column (mem_sharedColumns.mp inside).1

include documented steady creating plainTargets copyable nonempty

/-- What a run leaves. -/
theorem outcome_of_run (spelled : Spelled engine tables) {next : Conn V}
    (returns : (migrateSpecifyTable engine sqls dbName tables).run conn = .ok () next) :
    Outcome engine sqls dbName tables conn.db next.db := by
  rcases run_phases_times documented steady spelled creating nonempty copyable with
    ⟨backed, -, phases, betweens⟩
  rw [returns] at phases
  cases rebuilds : (rebuildSpecifyTables engine sqls dbName tables).run backed with
  | error thrown last =>
      rw [rebuilds] at phases
      cases phases
  | ok done mid =>
      rw [rebuilds] at phases
      have between := betweens mid rebuilds
      rcases run_restoreTable_settled documented spelled steady (between.plainShared plainTargets)
        with ⟨last, ends, settled⟩
      dsimp only at phases
      rw [ends] at phases
      cases phases
      have named : ∀ table ∈ tables, mid.db.named (tempOf table) =
          exactly table (standing engine sqls dbName tables conn.db table) := by
        intro table among
        rw [Database.named, between.temp table among]
        rfl
      have sameBrings : ∀ table ∈ tables, brings engine mid.db table =
          carriedFrom engine table (recreated engine sqls dbName tables table)
            (standing engine sqls dbName tables conn.db table) := by
        intro table among
        rw [brings, named table among, between.table table among, carriedFrom]
      constructor
      · intro before name after split first
        have member : name ∈ tables := List.mem_iff_append.mpr ⟨_, _, split⟩
        have sameJams : before.any (jams engine mid.db) =
            hindered engine sqls dbName tables conn.db before := by
          apply any_congr_of_mem
          intro earlier inside
          have among : earlier ∈ tables := by
            rw [split]
            exact List.mem_append_left _ inside
          rw [jams, named earlier among, sameBrings earlier among, throwsFrom]
        rw [settled.table before name after split first, sameJams, sameBrings name member,
          between.table name member]
      · intro name member
        rw [settled.temp name member, named name member, Database.named, between.table name member,
          between.temp name member]
      · intro key apart
        rw [settled.other key apart, between.other key apart]

/-- A run returns if its second phase does. -/
theorem returns_iff_rebuilds (spelled : Spelled engine tables) :
    ∃ backed : Conn V,
      ((∀ table ∈ tables, backed.db.find (tempOf table) =
          backedTimes engine conn.db table (tables.count table)) ∧
        ∀ key, (∀ table ∈ tables, key ≠ fold (tempOf table)) →
          backed.db.lookup key = conn.db.lookup key) ∧
      ((∃ next, (migrateSpecifyTable engine sqls dbName tables).run conn = .ok () next) ↔
        executes engine (matched (configured sqls dbName) tables) (left tables backed.db) = true ∧
          (tables.length ≤ 1 ∨
            Repeatable engine (matched (configured sqls dbName) tables) tables)) := by
  rcases run_phases_times documented steady spelled creating nonempty copyable with
    ⟨backed, backups, phases, betweens⟩
  refine ⟨backed, backups, ?_⟩
  rw [← rebuildSpecifyTables_returns_iff documented steady spelled.plain creating nonempty backed,
    phases]
  cases rebuilds : (rebuildSpecifyTables engine sqls dbName tables).run backed with
  | error thrown last =>
      refine iff_of_false ?_ ?_
      · rintro ⟨next, impossible⟩
        cases impossible
      · rintro ⟨next, impossible⟩
        cases impossible
  | ok done mid =>
      rcases run_restoreTable_settled documented spelled steady
        ((betweens mid rebuilds).plainShared plainTargets) with ⟨last, ends, -⟩
      exact iff_of_true ⟨last, ends⟩ ⟨mid, rfl⟩

end Running

/-- If the migration returns for a list without repetitions, it returns for another
one of the same names just if that is guarded. -/
theorem returns_iff_guarded {engine : Engine V} (documented : engine.Documented)
    (steady : engine.Steady) {sqls : KtAutoSqls} {dbName : String} {tables list : List String}
    (listing : Listing engine tables) (same : SameNames list tables)
    (creating : Creating engine (configured sqls dbName))
    (plainTargets : ∀ name ∈ tables, ∀ target,
      recreated engine sqls dbName tables name = some target →
      ∀ column ∈ target.schema.names, engine.Plain column)
    {conn : Conn V} (copyable : Copyable engine conn.db tables) (nonempty : tables ≠ [])
    (returns : ∃ next, (migrateSpecifyTable engine sqls dbName tables).run conn = .ok () next) :
    (∃ next, (migrateSpecifyTable engine sqls dbName list).run conn = .ok () next) ↔
      Guarded engine (configured sqls dbName) list := by
  have spelled := same.spelled listing.spelled
  have otherTargets : ∀ name ∈ list, ∀ target,
      recreated engine sqls dbName list name = some target →
      ∀ column ∈ target.schema.names, engine.Plain column := by
    intro name member target makes
    rw [recreated_congr same] at makes
    exact plainTargets name ((same name).mp member) target makes
  have otherCopyable : Copyable engine conn.db list :=
    fun name member => copyable name ((same name).mp member)
  have anyListed : list ≠ [] := by
    rcases List.exists_mem_of_ne_nil _ nonempty with ⟨name, member⟩
    exact List.ne_nil_of_mem ((same name).mpr member)
  rcases returns_iff_rebuilds documented steady creating plainTargets copyable nonempty
    listing.spelled with ⟨backed, ⟨temps, others⟩, rebuilds⟩
  rcases returns_iff_rebuilds documented steady creating otherTargets otherCopyable anyListed spelled
    with ⟨again, ⟨otherTemps, otherOthers⟩, otherRebuilds⟩
  -- The same tables are there when the second phase starts.
  have sameLeft : left list again.db = left tables backed.db := by
    funext key
    by_cases listed : key ∈ tables.map fold
    · rw [left_of_mem ((same.keys key).mpr listed), left_of_mem listed]
    · rw [left_of_not_mem (mt (same.keys key).mp listed), left_of_not_mem listed]
      by_cases backup : ∃ table ∈ tables, key = fold (tempOf table)
      · rcases backup with ⟨table, member, here⟩
        have also := (same table).mpr member
        have first := temps table member
        have second := otherTemps table also
        have count : list.count table = (list.count table - 1) + 1 := by
          have positive := List.count_pos_iff.mpr also
          omega
        rw [List.count_eq_one_of_mem listing.nodup member] at first
        rw [count] at second
        rw [here]
        show (again.db.find (tempOf table)).isSome = (backed.db.find (tempOf table)).isSome
        rw [first, second, backedTimes_isSome]
      · rw [others key fun table member here => backup ⟨table, member, here⟩,
          otherOthers key fun table member here => backup ⟨table, (same table).mp member, here⟩]
  rcases rebuilds.mp returns with ⟨ends, several⟩
  rw [otherRebuilds, sameLeft, executes_matched_iff same ends]
  constructor
  · exact And.left
  · intro guarded
    refine ⟨guarded, ?_⟩
    by_cases short : list.length ≤ 1
    · exact Or.inl short
    right
    rcases several with single | repeatable
    · rcases List.length_eq_one_iff.mp (Nat.le_antisymm single (List.length_pos_iff.mpr nonempty))
        with ⟨table, alone⟩
      rw [alone] at same
      exact repeatable_of_single same short guarded
    · exact (repeatable_congr same).mpr repeatable

end Migration
end ModuleDatabase
