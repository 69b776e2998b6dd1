import ModuleDatabase.Base.Effect
import ModuleDatabase.Sql.Database

namespace ModuleDatabase
namespace Sql

open Text

/-!
# The engine behind `execSQL` and `rawQuery`

The engine reads texts.  How it reads them is not part of the program, so it
is a parameter: `prepare` gives the statement that a text begins with, and a
legal statement that writes may still throw.  `Engine.Documented` says how it
reads the texts that the program builds.  Those laws concern plain names only,
since nothing is quoted.

Statements work on the tables; `clock` counts them, so that a failure can
depend on the moment as well as on the text.
-/

/-- A column definition `name type [DEFAULT 0] [PRIMARY KEY]`. -/
structure ColumnDef where
  name : String
  type : String
  default0 : Bool
  primaryKey : Bool
  deriving DecidableEq, Repr

namespace ColumnDef

/-- The column numbers the rows. -/
def numbered (column : ColumnDef) : Bool := column.primaryKey && fold column.type == "integer"

def text (column : ColumnDef) : String :=
  column.name ++ " " ++ column.type ++ (if column.default0 then " DEFAULT 0" else "") ++
    (if column.primaryKey then " PRIMARY KEY" else "")

end ColumnDef

/-- The queries of the program. -/
inductive Query where
  /-- `PRAGMA table_info(name)`. -/
  | tableInfo (name : String)
  /-- `SELECT * FROM name limit 1`. -/
  | selectAll (name : String)
  /-- `SELECT COUNT(*)` over the tables of the catalog with this name. -/
  | countTables (name : String)
  /-- The names of all tables, in order. -/
  | allTables
  deriving DecidableEq, Repr

/-- What the program reads from the cursor of each kind of query. -/
inductive Cursor where
  | columns (rows : List Column)
  | columnNames (names : List String)
  | count (number : Nat)
  | names (rows : List String)
  deriving DecidableEq, Repr

namespace Query

variable {V : Type}

/-- The answer to a query; none if it fails. -/
def answer (db : Database V) : Query → Option Cursor
  | tableInfo name => some (.columns ((db.find name).elim [] fun table => table.schema.columns))
  | selectAll name => (db.find name).map fun table => .columnNames table.schema.names
  | countTables name => some (.count (db.names.count name))
  | allTables => some (.names (db.names.mergeSort fun first second => first ≤ second))

end Query

/-- An engine. -/
structure Engine (V : Type) where
  /-- The word is reserved, like the name `sqlite_sequence`, which is the engine's
  own. -/
  keyword : String → Bool
  /-- The text is one that `PRAGMA table_info` shows as a type. -/
  isType : String → Bool
  /-- The value is one that an `INTEGER PRIMARY KEY` takes. -/
  isInteger : V → Bool
  /-- The first statement of a text; none is a syntax error. -/
  prepare : String → Option (Stmt V)
  prepareQuery : String → Option Query
  /-- What column definitions mean. -/
  schema : List ColumnDef → Schema V
  /-- The statement with this number and text throws although it is legal. -/
  fails : Nat → String → Bool

/-- What statements work on: the tables, and the number of statements so far. -/
structure Conn (V : Type) where
  db : Database V
  clock : Nat

/-- The exceptions that occur. -/
inductive Thrown where
  | sqlite
  | nullPointer
  | concurrentModification
  | illegalState
  deriving DecidableEq, Repr

abbrev Program (V : Type) := EStateM Thrown (Conn V)

section Programs

variable {V : Type} (engine : Engine V)

/-- `db.execSQL(sql)`. -/
def execSQL (sql : String) : Program V Unit := fun conn =>
  match engine.prepare sql with
  | none => .error .sqlite conn
  | some stmt =>
    let after := { conn with clock := conn.clock + 1 }
    if stmt.writes && engine.fails conn.clock sql then .error .sqlite after
    else
      match stmt.run conn.db with
      | none => .error .sqlite after
      | some db => .ok () { after with db := db }

/-- `db.rawQuery(sql, null)`. -/
def rawQuery (sql : String) : Program V Cursor := fun conn =>
  match (engine.prepareQuery sql).bind fun query => query.answer conn.db with
  | none => .error .sqlite conn
  | some cursor => .ok cursor conn

end Programs

/-! ## The texts of the program -/

/-- The text that copies columns from one table to another. -/
def copyText (target : String) (columns : List String) (source : String) : String :=
  "INSERT INTO " ++ target ++ " (" ++ join "," columns ++ ") SELECT " ++ join "," columns ++
    " FROM " ++ source ++ ";"

/-- The text that creates a table with the given columns. -/
def createText (name : String) (columns : List ColumnDef) : String :=
  "CREATE TABLE IF NOT EXISTS " ++ name ++ " (" ++ join "," (columns.map ColumnDef.text) ++ ");"

namespace Engine

variable {V : Type}

/-- Which statements throw depends on their texts alone. -/
def Steady (engine : Engine V) : Prop := ∀ clock sql, engine.fails clock sql = engine.fails 0 sql

/-- A name that the engine reads without quotes. -/
def Plain (engine : Engine V) (name : String) : Prop :=
  isWord name = true ∧ engine.keyword name = false

/-- Column definitions that may stand together in one table. -/
structure Defines (engine : Engine V) (columns : List ColumnDef) : Prop where
  nonempty : columns ≠ []
  plain : ∀ column ∈ columns, engine.Plain column.name
  typed : ∀ column ∈ columns, engine.isType column.type = true
  distinct : (columns.map fun column => fold column.name).Nodup
  oneKey : (columns.filter ColumnDef.primaryKey).length ≤ 1
  undefaulted : ∀ column ∈ columns, column.primaryKey = true → column.default0 = false

/-- How the engine reads the texts of the program. -/
structure Documented (engine : Engine V) : Prop where
  /-- No reserved word ends like the name of a backup. -/
  keyword_temp : ∀ name, engine.keyword (name ++ "_TEMP") = false
  keyword_from : ∀ name, sameIgnoringCase name "FROM" = true → engine.keyword name = true
  keyword_to : ∀ name, sameIgnoringCase name "TO" = true → engine.keyword name = true
  drop : ∀ name, engine.Plain name →
    engine.prepare ("DROP TABLE IF EXISTS " ++ name) = some (.drop name true)
  delete : ∀ name, engine.Plain name →
    engine.prepare ("DELETE FROM " ++ name) = some (.delete name)
  /-- Only the first statement of a text counts. -/
  copy : ∀ target columns source rest, engine.Plain target → engine.Plain source →
    columns ≠ [] → (∀ column ∈ columns, engine.Plain column) →
    engine.prepare (copyText target columns source ++ rest) = some (.copy target columns source)
  /-- A list of columns is not empty. -/
  copy_nil : ∀ target source rest, engine.Plain target → engine.Plain source →
    engine.prepare (copyText target [] source ++ rest) = none
  create : ∀ name columns, engine.Plain name → engine.Defines columns →
    engine.prepare (createText name columns) = some (.create name true (engine.schema columns))
  schema_names : ∀ columns, engine.Defines columns →
    (engine.schema columns).names = columns.map ColumnDef.name
  schema_autoincrement : ∀ columns, engine.Defines columns →
    (engine.schema columns).autoincrement = false
  schema_numbered : ∀ columns, engine.Defines columns → ∀ key,
    key ∈ (engine.schema columns).numbered ↔
      ∃ column ∈ columns, column.numbered = true ∧ fold column.name = key
  /-- Such a table has no constraint but its primary key. -/
  schema_accepts : ∀ columns, engine.Defines columns → ∀ present given values,
    (∀ column ∈ columns, column.primaryKey = true → fold column.name ∈ given →
      ∀ row ∈ present, values (fold column.name) = none ∨
        row (fold column.name) ≠ values (fold column.name)) →
    (∀ column ∈ columns, column.numbered = true → fold column.name ∈ given →
      ∀ value, values (fold column.name) = some value → engine.isInteger value = true) →
    ((engine.schema columns).accept present given values).isSome = true
  /-- What numbers the rows is an integer. -/
  schema_refuses : ∀ columns, engine.Defines columns → ∀ present given values,
    ∀ column ∈ columns, column.numbered = true → fold column.name ∈ given →
      ∀ value, values (fold column.name) = some value → engine.isInteger value = false →
        (engine.schema columns).accept present given values = none
  tableInfo : ∀ name, engine.Plain name →
    engine.prepareQuery ("PRAGMA table_info(" ++ name ++ ")") = some (.tableInfo name)
  selectAll : ∀ name, engine.Plain name →
    engine.prepareQuery ("SELECT * FROM " ++ name ++ " limit 1") = some (.selectAll name)
  countTables : ∀ name, engine.Plain name →
    engine.prepareQuery ("SELECT COUNT(*) FROM sqlite_master WHERE type='table' AND name='" ++
      name ++ "'") = some (.countTables name)
  allTables : engine.prepareQuery
    "select name from sqlite_master where type='table' order by name" = some .allTables

/-- `PRIMARY KEY` behind a column makes it the primary key. -/
structure Keyed (engine : Engine V) : Prop where
  schema_key : ∀ columns, engine.Defines columns →
    primaryKey (engine.schema columns).columns =
      (columns.filter ColumnDef.primaryKey).map fun column => fold column.name

/-- A text without an apostrophe may stand in a literal. -/
structure Literal (engine : Engine V) : Prop where
  countTables : ∀ text, '\x27' ∉ text.toList →
    engine.prepareQuery ("SELECT COUNT(*) FROM sqlite_master WHERE type='table' AND name='" ++
      text ++ "'") = some (.countTables text)

/-- The beginning of a text decides which table its statement concerns, whatever
follows. -/
structure Prefixed (engine : Engine V) : Prop where
  create : ∀ name rest stmt, engine.Plain name →
    engine.prepare ("CREATE TABLE IF NOT EXISTS " ++ name ++ " (" ++ rest) = some stmt →
    ∃ schema, stmt = .create name true schema
  insert : ∀ name rest stmt, engine.Plain name →
    engine.prepare ("INSERT INTO " ++ name ++ " (" ++ rest) = some stmt → stmt.OnRows name
  /-- A reserved word is not the name of a table. -/
  delete : ∀ name stmt, name.toList.all isWordChar = true →
    engine.prepare ("DELETE FROM " ++ name) = some stmt → engine.Plain name

theorem Plain.temp {engine : Engine V} (documented : engine.Documented) {name : String}
    (plain : engine.Plain name) : engine.Plain (name ++ "_TEMP") :=
  ⟨isWord_append plain.1 (by decide), documented.keyword_temp name⟩

end Engine

/-! ## Running statements -/

section Running

variable {V : Type} {engine : Engine V} {conn : Conn V} {sql : String}

/-- The connection after a statement. -/
def Conn.executed (conn : Conn V) (db : Database V) : Conn V :=
  { conn with clock := conn.clock + 1, db := db }

@[simp]
theorem Conn.executed_db (conn : Conn V) (db : Database V) : (conn.executed db).db = db := rfl

theorem run_execSQL_of_none (unreadable : engine.prepare sql = none) :
    (execSQL engine sql).run conn = .error .sqlite conn := by
  rw [EStateM.run, execSQL, unreadable]

theorem run_execSQL_of_some {stmt : Stmt V} {db : Database V}
    (reads : engine.prepare sql = some stmt)
    (works : (stmt.writes && engine.fails conn.clock sql) = false)
    (runs : stmt.run conn.db = some db) :
    (execSQL engine sql).run conn = .ok () (conn.executed db) := by
  rw [EStateM.run, execSQL, reads]
  dsimp only
  rw [works, if_neg Bool.false_ne_true, runs]
  rfl

/-- A statement that throws changes nothing but the clock. -/
theorem run_execSQL_of_throws {stmt : Stmt V} (reads : engine.prepare sql = some stmt)
    (throws : (stmt.writes && engine.fails conn.clock sql) = true ∨ stmt.run conn.db = none) :
    (execSQL engine sql).run conn = .error .sqlite (conn.executed conn.db) := by
  rw [EStateM.run, execSQL, reads]
  dsimp only
  cases fails : (stmt.writes && engine.fails conn.clock sql) with
  | true =>
      rw [if_pos rfl]
      rfl
  | false =>
      rcases throws with throws | failed
      · rw [fails] at throws
        cases throws
      · rw [if_neg Bool.false_ne_true, failed]
        rfl

theorem run_rawQuery_of_some {query : Query} {cursor : Cursor}
    (reads : engine.prepareQuery sql = some query) (answers : query.answer conn.db = some cursor) :
    (rawQuery engine sql).run conn = .ok cursor conn := by
  rw [EStateM.run, rawQuery, reads, Option.bind_some, answers]

theorem run_rawQuery_of_none {query : Query}
    (reads : engine.prepareQuery sql = some query) (fails : query.answer conn.db = none) :
    (rawQuery engine sql).run conn = .error .sqlite conn := by
  rw [EStateM.run, rawQuery, reads, Option.bind_some, fails]

/-- A statement leaves the database as it was, or as the statement says. -/
theorem execSQL_cases (engine : Engine V) (sql : String) (conn : Conn V) :
    (∃ next, (execSQL engine sql).run conn = .error .sqlite next ∧ next.db = conn.db) ∨
      ∃ stmt db, engine.prepare sql = some stmt ∧
        (stmt.writes && engine.fails conn.clock sql) = false ∧ stmt.run conn.db = some db ∧
        (execSQL engine sql).run conn = .ok () (conn.executed db) := by
  cases reads : engine.prepare sql with
  | none => exact Or.inl ⟨conn, run_execSQL_of_none reads, rfl⟩
  | some stmt =>
      cases fails : (stmt.writes && engine.fails conn.clock sql) with
      | true => exact Or.inl ⟨_, run_execSQL_of_throws reads (Or.inl fails), rfl⟩
      | false =>
          cases runs : stmt.run conn.db with
          | none => exact Or.inl ⟨_, run_execSQL_of_throws reads (Or.inr runs), rfl⟩
          | some db => exact Or.inr ⟨stmt, db, rfl, fails, runs, run_execSQL_of_some reads fails runs⟩

/-- What holds of a database and of what the statement makes of it holds of the
database afterwards. -/
theorem final_execSQL (relation : Database V → Database V → Prop)
    (reflexive : relation conn.db conn.db)
    (step : ∀ stmt db, engine.prepare sql = some stmt → stmt.run conn.db = some db →
      relation conn.db db) :
    relation conn.db (Effect.final (execSQL engine sql) conn).db := by
  rcases execSQL_cases engine sql conn with
    ⟨next, throws, same⟩ | ⟨stmt, db, reads, -, runs, ends⟩
  · rw [Effect.final_of_error throws, same]
    exact reflexive
  · rw [Effect.final_of_ok ends, Conn.executed_db]
    exact step stmt db reads runs

/-! ## Copying between tables -/

/-- The target of a copying statement afterwards, if failures are steady; none
if the statement throws. -/
def Engine.copied (engine : Engine V) (sql : String) (columns : List String)
    (target source : Table V) : Option (Table V) :=
  if columns = [] ∨ engine.fails 0 sql = true then none else target.copyFrom columns source

theorem Engine.copied_eq_some_iff {columns : List String} {table origin filled : Table V} :
    engine.copied sql columns table origin = some filled ↔
      columns ≠ [] ∧ engine.fails 0 sql = false ∧ table.copyFrom columns origin = some filled := by
  rw [Engine.copied, ← Bool.not_eq_true, ← and_assoc, ← not_or]
  by_cases throws : columns = [] ∨ engine.fails 0 sql = true
  · rw [if_pos throws, iff_false_right (fun both => both.1 throws)]
    exact Option.some_ne_none _ |>.symm
  · rw [if_neg throws, and_iff_right throws]

theorem Engine.copyFrom_of_copied {columns : List String} {table origin filled : Table V}
    (copies : engine.copied sql columns table origin = some filled) :
    table.copyFrom columns origin = some filled :=
  (Engine.copied_eq_some_iff.mp copies).2.2

theorem Engine.copied_name {columns : List String} {table origin filled : Table V}
    (copies : engine.copied sql columns table origin = some filled) :
    filled.name = table.name ∧ filled.schema = table.schema :=
  (Table.copyFrom_eq_some_iff.mp (Engine.copyFrom_of_copied copies)).2.2

variable (documented : engine.Documented) (steady : engine.Steady) {target source : String}
  {columns : List String} (plainTarget : engine.Plain target) (plainSource : engine.Plain source)
  (plainColumns : ∀ column ∈ columns, engine.Plain column) (rest : String)
include documented steady plainTarget plainSource plainColumns

theorem run_copyText_of_some {table origin filled : Table V}
    (foundTarget : conn.db.find target = some table)
    (foundSource : conn.db.find source = some origin)
    (copies : engine.copied (copyText target columns source ++ rest) columns table origin =
      some filled) :
    (execSQL engine (copyText target columns source ++ rest)).run conn =
      .ok () (conn.executed (conn.db.put filled)) := by
  unfold Engine.copied at copies
  split at copies
  · cases copies
  · rename_i works
    rw [not_or, Bool.not_eq_true] at works
    apply run_execSQL_of_some
      (documented.copy target columns source rest plainTarget plainSource works.1 plainColumns)
    · rw [steady, works.2]
      rfl
    · rw [Stmt.run, foundTarget, foundSource]
      dsimp only
      rw [copies]
      rfl

/-- A copy that is refused leaves the database as it was. -/
theorem run_copyText_of_none
    (refused : ∀ table origin, conn.db.find target = some table →
      conn.db.find source = some origin →
      engine.copied (copyText target columns source ++ rest) columns table origin = none) :
    ∃ next, (execSQL engine (copyText target columns source ++ rest)).run conn =
      .error .sqlite next ∧ next.db = conn.db := by
  by_cases empty : columns = []
  · subst empty
    exact ⟨conn, run_execSQL_of_none
      (documented.copy_nil target source rest plainTarget plainSource), rfl⟩
  · have reads := documented.copy target columns source rest plainTarget plainSource empty
      plainColumns
    refine ⟨_, run_execSQL_of_throws reads ?_, rfl⟩
    by_cases fails : engine.fails 0 (copyText target columns source ++ rest) = true
    · exact Or.inl (by rw [steady, fails]; rfl)
    · right
      rw [Stmt.run]
      cases foundTarget : conn.db.find target with
      | none => rfl
      | some table =>
          cases foundSource : conn.db.find source with
          | none => rfl
          | some origin =>
              have notCopied := refused table origin foundTarget foundSource
              rw [Engine.copied, if_neg (not_or.mpr ⟨empty, fails⟩)] at notCopied
              dsimp only
              rw [notCopied]
              rfl

end Running

end Sql
end ModuleDatabase
