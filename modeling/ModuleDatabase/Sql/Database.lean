import ModuleDatabase.Sql.Table

namespace ModuleDatabase
namespace Sql

open Text

/-!
# Databases and statements

A database is a finite map from keys to tables, each under the key of its own
name.  Only the catalog compares names exactly; statements find a table by its
key.  The table `sqlite_sequence` is SQLite's own: it is created with the first
table that says `AUTOINCREMENT`, and stays.  What it counts is not modelled.

The statements are those that the program writes itself, and any others that a
configuration may hold.  A statement either changes the database as a whole or
fails and changes nothing.
-/

/-- A database: its tables, each under its own key. -/
structure Database (V : Type) where
  tables : AList fun _ : String => Table V
  keyed : ∀ key table, tables.lookup key = some table → fold table.name = key
  /-- `sqlite_sequence` is there. -/
  sequence : Bool
  counted : ∀ key table, tables.lookup key = some table → table.schema.autoincrement = true →
    sequence = true

namespace Database

variable {V : Type}

/-- The database without tables. -/
def empty : Database V where
  tables := ∅
  keyed := by
    intro key table found
    rw [AList.lookup_empty] at found
    cases found
  sequence := false
  counted := by
    intro key table found
    rw [AList.lookup_empty] at found
    cases found

/-- The table with this key. -/
def lookup (db : Database V) (key : String) : Option (Table V) := db.tables.lookup key

/-- The table that a statement means by a name. -/
def find (db : Database V) (name : String) : Option (Table V) := db.lookup (fold name)

/-- The database with this table, in place of one of the same key.  The first one
that says `AUTOINCREMENT` brings `sqlite_sequence` with it. -/
def put (db : Database V) (table : Table V) : Database V where
  tables := db.tables.insert (fold table.name) table
  keyed := by
    intro key other found
    by_cases same : key = fold table.name
    · subst same
      rw [AList.lookup_insert] at found
      cases found
      rfl
    · rw [AList.lookup_insert_ne same] at found
      exact db.keyed key other found
  sequence := db.sequence || table.schema.autoincrement
  counted := by
    intro key other found counts
    by_cases same : key = fold table.name
    · subst same
      rw [AList.lookup_insert] at found
      cases found
      rw [counts, Bool.or_true]
    · rw [AList.lookup_insert_ne same] at found
      rw [db.counted key other found counts, Bool.true_or]

/-- The database without the table of this name. -/
def erase (db : Database V) (name : String) : Database V where
  tables := db.tables.erase (fold name)
  keyed := by
    intro key table found
    by_cases same : key = fold name
    · subst same
      rw [AList.lookup_erase] at found
      cases found
    · rw [AList.lookup_erase_ne same] at found
      exact db.keyed key table found
  sequence := db.sequence
  counted := by
    intro key table found counts
    by_cases same : key = fold name
    · subst same
      rw [AList.lookup_erase] at found
      cases found
    · rw [AList.lookup_erase_ne same] at found
      exact db.counted key table found counts

/-- The names in the catalog. -/
def names (db : Database V) : List String := db.tables.entries.map fun entry => entry.2.name

/-- The table with this name, letter for letter. -/
def named (db : Database V) (name : String) : Option (Table V) :=
  (db.find name).filter fun table => table.name == name

/-! ## What the operations change -/

@[simp]
theorem lookup_empty (key : String) : (empty : Database V).lookup key = none :=
  AList.lookup_empty key

@[simp]
theorem sequence_put (db : Database V) (table : Table V) :
    (db.put table).sequence = (db.sequence || table.schema.autoincrement) := rfl

/-- A table in place of one with the same schema brings nothing new. -/
theorem sequence_put_of_find {db : Database V} {name : String} {before table : Table V}
    (found : db.find name = some before) (same : table.schema = before.schema) :
    (db.put table).sequence = db.sequence := by
  rw [sequence_put, same]
  cases counts : before.schema.autoincrement with
  | false => exact Bool.or_false _
  | true => rw [db.counted _ before found counts, Bool.true_or]

theorem lookup_put (db : Database V) (table : Table V) (key : String) :
    (db.put table).lookup key = if key = fold table.name then some table else db.lookup key := by
  by_cases same : key = fold table.name
  · subst same
    rw [if_pos rfl]
    exact AList.lookup_insert db.tables
  · rw [if_neg same]
    exact AList.lookup_insert_ne same

theorem lookup_erase (db : Database V) (name : String) (key : String) :
    (db.erase name).lookup key = if key = fold name then none else db.lookup key := by
  by_cases same : key = fold name
  · subst same
    rw [if_pos rfl]
    exact AList.lookup_erase (fold name) db.tables
  · rw [if_neg same]
    exact AList.lookup_erase_ne same

/-- A database that differs from another one under one key only. -/
theorem lookup_eq_ite {db before : Database V} {changed : String} {value : Option (Table V)}
    (here : db.lookup changed = value)
    (others : ∀ key, key ≠ changed → db.lookup key = before.lookup key) (key : String) :
    db.lookup key = if key = changed then value else before.lookup key := by
  by_cases same : key = changed
  · rw [if_pos same, same, here]
  · rw [if_neg same, others key same]

/-- Erasing a table that is not there changes nothing. -/
theorem erase_of_find_none {db : Database V} {name : String} (absent : db.find name = none) :
    db.erase name = db := by
  have notMem : fold name ∉ db.tables := AList.lookup_eq_none.mp absent
  have same : db.tables.erase (fold name) = db.tables := by
    apply AList.ext
    exact List.kerase_of_notMem_keys (fun member => notMem (AList.mem_keys.mpr member))
  cases db
  simpa only [erase, mk.injEq, and_true] using same

/-- A table that is found has the name, up to case. -/
theorem fold_name_of_find {db : Database V} {name : String} {table : Table V}
    (found : db.find name = some table) : fold table.name = fold name :=
  db.keyed _ _ found

theorem named_eq_some {db : Database V} {name : String} {table : Table V} :
    db.named name = some table ↔ db.find name = some table ∧ table.name = name := by
  rw [named, Option.filter_eq_some_iff, beq_iff_eq]

/-- The catalog shows the names letter for letter. -/
theorem mem_names (db : Database V) (name : String) :
    name ∈ db.names ↔ (db.named name).isSome = true := by
  constructor
  · intro member
    rcases List.mem_map.mp member with ⟨⟨key, table⟩, among, same⟩
    have found : db.tables.lookup key = some table := AList.mem_lookup_iff.mpr among
    have keyed := db.keyed key table found
    dsimp only at same
    rw [same] at keyed
    subst keyed
    exact Option.isSome_iff_exists.mpr ⟨table, named_eq_some.mpr ⟨found, same⟩⟩
  · intro present
    rcases Option.isSome_iff_exists.mp present with ⟨table, found⟩
    rcases named_eq_some.mp found with ⟨found, same⟩
    exact List.mem_map.mpr ⟨⟨fold name, table⟩, AList.mem_lookup_iff.mp found, same⟩

end Database

/-! ## Statements -/

/-- A statement; what a configuration may hold besides is `other`. -/
inductive Stmt (V : Type) where
  /-- `CREATE TABLE [IF NOT EXISTS] name (...)`. -/
  | create (name : String) (ifNotExists : Bool) (schema : Schema V)
  /-- `DROP TABLE [IF EXISTS] name`. -/
  | drop (name : String) (ifExists : Bool)
  /-- `DELETE FROM name`. -/
  | delete (name : String)
  /-- `INSERT INTO target (columns) SELECT columns FROM source`. -/
  | copy (target : String) (columns : List String) (source : String)
  | other (run : Database V → Option (Database V))

namespace Table

variable {V : Type}

/-- The table with rows inserted that are given in some of its columns. -/
def insert (table : Table V) (given : List String) (values : List (Row V)) : Option (Table V) :=
  match inserted : table.schema.insertAll given table.rows values with
  | none => none
  | some rows => some
      { table with rows := rows, apart := table.schema.insertAll_apart given table.apart inserted }

/-- `INSERT INTO self (columns) SELECT columns FROM source`. -/
def copyFrom (table : Table V) (columns : List String) (source : Table V) : Option (Table V) :=
  if columns.all fun name => table.schema.has name && source.schema.has name then
    table.insert (columns.map fold) source.rows
  else none

end Table

/-! ## What an insertion gives -/

section Insertions

variable {V : Type} {table source next : Table V} {given columns : List String}
  {values : List (Row V)}

theorem Table.insert_eq_some_iff :
    table.insert given values = some next ↔
      table.schema.insertAll given table.rows values = some next.rows ∧
        next.name = table.name ∧ next.schema = table.schema := by
  unfold Table.insert
  split
  · rename_i rejected
    rw [rejected]
    constructor
    · intro impossible
      cases impossible
    · rintro ⟨impossible, -⟩
      cases impossible
  · rename_i rows inserted
    constructor
    · intro same
      cases same
      exact ⟨inserted, rfl, rfl⟩
    · rintro ⟨same, name, schema⟩
      rw [inserted, Option.some.injEq] at same
      cases next
      subst same
      subst name
      subst schema
      rfl

/-- A copy inserts the rows of the source, and is refused if a column is
missing on either side. -/
theorem Table.copyFrom_eq_some_iff :
    table.copyFrom columns source = some next ↔
      (∀ name ∈ columns, table.schema.has name = true ∧ source.schema.has name = true) ∧
        table.schema.insertAll (columns.map fold) table.rows source.rows = some next.rows ∧
        next.name = table.name ∧ next.schema = table.schema := by
  unfold Table.copyFrom
  by_cases shared : (columns.all fun name =>
      table.schema.has name && source.schema.has name) = true
  · rw [if_pos shared, Table.insert_eq_some_iff]
    have each : ∀ name ∈ columns, table.schema.has name = true ∧
        source.schema.has name = true := by
      intro name member
      exact Bool.and_eq_true_iff.mp (List.all_eq_true.mp shared name member)
    exact (and_iff_right each).symm
  · rw [if_neg shared]
    constructor
    · intro impossible
      cases impossible
    · rintro ⟨each, -⟩
      exfalso
      apply shared
      apply List.all_eq_true.mpr
      intro name member
      exact Bool.and_eq_true_iff.mpr (each name member)

/-- The rows that were there stay, and behind them stand those of the source, on
columns that are copied. -/
theorem Table.copyFrom_rows {names : List String} (among : ∀ name ∈ names, name ∈ columns)
    (stores : table.schema.Stores names source.rows)
    (copies : table.copyFrom columns source = some next) :
    ∃ stored, next.rows = table.rows ++ stored ∧
      stored.map (Row.project names) = source.rows.map (Row.project names) :=
  table.schema.insertAll_project (fun name member => List.mem_map_of_mem (among name member))
    stores (Table.copyFrom_eq_some_iff.mp copies).2.1

theorem Table.copyFrom_numbers (copies : table.copyFrom columns source = some next) :
    ∃ stored, next.rows = table.rows ++ stored ∧ stored.length = source.rows.length ∧
      ∀ key ∈ table.schema.numbered, ∀ row ∈ stored, row key ≠ none :=
  table.schema.insertAll_numbers (Table.copyFrom_eq_some_iff.mp copies).2.1

/-- If the new rows are those of the source, no null had to be replaced. -/
theorem Table.stores_of_copyFrom (copies : table.copyFrom columns source = some next)
    {names : List String} {stored : List (Row V)} (split : next.rows = table.rows ++ stored)
    (same : (stored.map (Row.project names)).Perm (source.rows.map (Row.project names))) :
    table.schema.Stores names source.rows := by
  intro name member numbered row inside null
  rcases Table.copyFrom_numbers copies with ⟨added, apart, -, nonnull⟩
  rw [split] at apart
  have new : stored = added := List.append_cancel_left apart
  have image : row.project names ∈ stored.map (Row.project names) :=
    same.mem_iff.mpr (List.mem_map_of_mem inside)
  rcases List.mem_map.mp image with ⟨kept, among, alike⟩
  apply nonnull (fold name) numbered kept (new ▸ among)
  rw [← null]
  exact List.map_inj_left.mp alike name member

theorem Table.copyFrom_length (copies : table.copyFrom columns source = some next) :
    next.rows.length = table.rows.length + source.rows.length :=
  table.schema.insertAll_length (Table.copyFrom_eq_some_iff.mp copies).2.1

end Insertions

namespace Stmt

variable {V : Type}

/-- The effect of a statement; none if it fails. -/
def run (db : Database V) : Stmt V → Option (Database V)
  | create name ifNotExists schema =>
      match db.find name with
      | none => some (db.put (Table.empty name schema))
      | some _ => if ifNotExists then some db else none
  | drop name ifExists =>
      match db.find name with
      | some _ => some (db.erase name)
      | none => if ifExists then some db else none
  | delete name => (db.find name).map fun table => db.put table.clear
  | copy target columns source =>
      match db.find target, db.find source with
      | some table, some origin => (table.copyFrom columns origin).map db.put
      | _, _ => none
  | other run => run db

/-- `CREATE` and `INSERT` write new pages; the others here do not. -/
def writes : Stmt V → Bool
  | create .. => true
  | copy .. => true
  | _ => false

/-- The statement can change the rows of one table only. -/
def OnRows (name : String) (stmt : Stmt V) : Prop :=
  ∀ db next, run db stmt = some next →
    (∀ key, key ≠ fold name → next.lookup key = db.lookup key) ∧
      (next.find name).map Table.shape = (db.find name).map Table.shape ∧
      next.sequence = db.sequence

theorem onRows_copy (target : String) (columns : List String) (source : String) :
    OnRows target (.copy target columns source : Stmt V) := by
  intro db next runs
  rw [run] at runs
  cases found : db.find target with
  | none =>
      rw [found] at runs
      cases runs
  | some table =>
      cases origin : db.find source with
      | none =>
          rw [found, origin] at runs
          cases runs
      | some source =>
          rw [found, origin] at runs
          rcases Option.map_eq_some_iff.mp runs with ⟨filled, copies, same⟩
          rcases Table.copyFrom_eq_some_iff.mp copies with ⟨-, -, name, schema⟩
          have key := Database.fold_name_of_find found
          subst same
          refine ⟨?_, ?_, Database.sequence_put_of_find found schema⟩
          · intro other apart
            rw [Database.lookup_put, name, key, if_neg apart]
          · rw [Database.find, Database.lookup_put, name, key, if_pos rfl, Option.map_some,
              Option.map_some, Table.shape, Table.shape, name, schema]

/-- Creating a table fills its place if that is free. -/
theorem lookup_of_create {db next : Database V} {name : String} {ifNotExists : Bool}
    {schema : Schema V} (runs : run db (.create name ifNotExists schema) = some next)
    (key : String) :
    next.lookup key =
      (db.lookup key).or (if fold name = key then some (Table.empty name schema) else none) := by
  rw [run] at runs
  cases present : db.find name with
  | none =>
      rw [present] at runs
      cases runs
      rw [Database.lookup_put, Table.empty_name]
      by_cases here : fold name = key
      · have absent : db.lookup key = none := by
          rw [← here]
          exact present
        rw [absent, Option.none_or, if_pos here, if_pos here.symm]
      · rw [if_neg here, if_neg (Ne.symm here), Option.or_none]
  | some table =>
      rw [present] at runs
      have unchanged : next = db := by
        cases ifNotExists with
        | true => exact (Option.some.inj runs).symm
        | false => cases runs
      rw [unchanged]
      by_cases here : fold name = key
      · have found : db.lookup key = some table := by
          rw [← here]
          exact present
        rw [found]
        rfl
      · rw [if_neg here, Option.or_none]

/-- The first table that says `AUTOINCREMENT` brings `sqlite_sequence` with it. -/
theorem sequence_of_create {db next : Database V} {name : String} {ifNotExists : Bool}
    {schema : Schema V} (runs : run db (.create name ifNotExists schema) = some next) :
    next.sequence =
      (db.sequence || ((db.lookup (fold name)).isNone && schema.autoincrement)) := by
  rw [run] at runs
  cases present : db.find name with
  | none =>
      rw [present] at runs
      cases runs
      rw [Database.find] at present
      rw [present]
      rfl
  | some table =>
      rw [present] at runs
      have unchanged : next = db := by
        cases ifNotExists with
        | true => exact (Option.some.inj runs).symm
        | false => cases runs
      rw [Database.find] at present
      rw [unchanged, present, Option.isNone_some, Bool.false_and, Bool.or_false]

/-- `IF NOT EXISTS` never fails. -/
theorem run_create_isSome (db : Database V) (name : String) (schema : Schema V) :
    ∃ next, run db (.create name true schema) = some next := by
  rw [run]
  cases db.find name with
  | none => exact ⟨_, rfl⟩
  | some table => exact ⟨db, rfl⟩

end Stmt

end Sql
end ModuleDatabase
