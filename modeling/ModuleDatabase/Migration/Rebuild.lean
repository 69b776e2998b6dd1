import ModuleDatabase.Migration.Backup

namespace ModuleDatabase
namespace Migration

open Text
open Sql

/-!
# The second phase: dropping and creating

A pass drops the listed tables and executes each configured statement as often
as a listed name stands in it before ` (`.  Nothing is caught here.  If the
configuration creates tables and nothing else, a pass that returns leaves under
a listed key what the executed statements create there; under any other key it
leaves the table that was there, or what they create.

There are as many passes as tables.  A further pass that returns changes
nothing any more.
-/

variable {V : Type}

/-- The configured statements of a database. -/
def configured (sqls : KtAutoSqls) (dbName : String) : List String :=
  (ModuleReflectTool.getCreateTableSqls sqls dbName).getD []

/-- The statements that a pass executes, in order. -/
def matched (statements list : List String) : List String :=
  statements.flatMap fun sql => (list.filter fun s => contains sql (s ++ " (")).map fun _ => sql

/-- Without names nothing is matched. -/
theorem matched_nil (statements : List String) : matched statements [] = [] :=
  List.flatMap_eq_nil_iff.mpr fun _ _ => rfl

/-- The statements create tables and do nothing else. -/
def Creating (engine : Engine V) (statements : List String) : Prop :=
  ∀ sql ∈ statements, ∀ stmt, engine.prepare sql = some stmt →
    ∃ name ifNotExists schema, stmt = .create name ifNotExists schema

/-- The listed names are plain, and the configured statements create tables. -/
structure Conventional (engine : Engine V) (sqls : KtAutoSqls) (dbName : String)
    (tables : List String) : Prop where
  plain : ∀ table ∈ tables, engine.Plain table
  creating : Creating engine (configured sqls dbName)

/-- The table that a statement creates under a key. -/
def creates (engine : Engine V) (key sql : String) : Option (Table V) :=
  match engine.prepare sql with
  | some (.create name _ schema) =>
      if fold name = key then some (Table.empty name schema) else none
  | _ => none

/-- The table that statements create under a key where none is. -/
def created (engine : Engine V) (statements : List String) (key : String) : Option (Table V) :=
  statements.findSome? (creates engine key)

theorem mem_matched {statements list : List String} {sql : String} :
    sql ∈ matched statements list ↔
      sql ∈ statements ∧ ∃ s ∈ list, contains sql (s ++ " (") = true := by
  unfold matched
  rw [List.mem_flatMap]
  constructor
  · rintro ⟨statement, inside, member⟩
    rcases List.mem_map.mp member with ⟨s, among, same⟩
    subst same
    exact ⟨inside, s, List.mem_filter.mp among⟩
  · rintro ⟨inside, s, among, occurs⟩
    exact ⟨sql, inside, List.mem_map.mpr ⟨s, List.mem_filter.mpr ⟨among, occurs⟩, rfl⟩⟩

theorem creates_name {engine : Engine V} {key sql : String} {table : Table V}
    (makes : creates engine key sql = some table) : fold table.name = key := by
  unfold creates at makes
  split at makes
  · split at makes
    · rename_i here
      cases makes
      exact here
    · cases makes
  · cases makes

theorem creates_rows {engine : Engine V} {key sql : String} {table : Table V}
    (makes : creates engine key sql = some table) : table.rows = [] := by
  unfold creates at makes
  split at makes
  · split at makes
    · cases makes
      rfl
    · cases makes
  · cases makes

theorem created_cons (engine : Engine V) (sql : String) (rest : List String) (key : String) :
    created engine (sql :: rest) key = (creates engine key sql).or (created engine rest key) := by
  unfold created
  rw [List.findSome?_cons]
  cases creates engine key sql <;> rfl

section Executed

variable {engine : Engine V} {conn next : Conn V}

/-- What statements that create tables leave, if they return. -/
theorem lookup_of_executed {statements : List String} (creating : Creating engine statements)
    (ends : (statements.forM (execSQL engine)).run conn = .ok () next) (key : String) :
    next.db.lookup key = (conn.db.lookup key).or (created engine statements key) := by
  induction statements generalizing conn with
  | nil =>
      cases ends
      rw [created, List.findSome?_nil, Option.or_none]
  | cons sql rest ih =>
      have tail : Creating engine rest := fun other member =>
        creating other (List.mem_cons_of_mem _ member)
      rw [Effect.run_forM_cons] at ends
      rcases execSQL_cases engine sql conn with ⟨failed, throws, -⟩ | ⟨stmt, db, reads, -, runs, done⟩
      · rw [throws] at ends
        cases ends
      · rw [done] at ends
        rw [ih tail ends, created_cons, Conn.executed_db, ← Option.or_assoc]
        congr 1
        rcases creating sql List.mem_cons_self stmt reads with ⟨name, ifNotExists, schema, same⟩
        subst same
        rw [creates, reads, Stmt.lookup_of_create runs key]

/-- Statements of the form `CREATE TABLE IF NOT EXISTS` return, if none fails. -/
theorem run_executed {statements : List String}
    (faultless : ∀ clock sql, engine.fails clock sql = false)
    (readable : ∀ sql ∈ statements, ∃ name schema,
      engine.prepare sql = some (.create name true schema)) (conn : Conn V) :
    ∃ next, (statements.forM (execSQL engine)).run conn = .ok () next := by
  induction statements generalizing conn with
  | nil => exact ⟨conn, rfl⟩
  | cons sql rest ih =>
      rcases readable sql List.mem_cons_self with ⟨name, schema, reads⟩
      rcases Stmt.run_create_isSome conn.db name schema with ⟨db, runs⟩
      rw [Effect.run_forM_cons, run_execSQL_of_some reads (by rw [faultless]; rfl) runs]
      exact ih (fun other member => readable other (List.mem_cons_of_mem _ member)) _

end Executed

/-! ## One pass -/

/-- What a pass over a list leaves. -/
def Rebuilt (engine : Engine V) (statements list : List String) (conn next : Conn V) : Prop :=
  ∀ key, next.db.lookup key =
    if key ∈ list.map fold then created engine (matched statements list) key
    else (conn.db.lookup key).or (created engine (matched statements list) key)

/-- A further pass changes nothing. -/
theorem Rebuilt.trans {engine : Engine V} {statements list : List String}
    {first second third : Conn V} (before : Rebuilt engine statements list first second)
    (after : Rebuilt engine statements list second third) :
    Rebuilt engine statements list first third := by
  intro key
  rw [after key, before key]
  by_cases listed : key ∈ list.map fold
  · rw [if_pos listed, if_pos listed]
  · rw [if_neg listed, if_neg listed, Option.or_assoc, Option.or_self]

section Pass

variable {engine : Engine V} (documented : engine.Documented) {sqls : KtAutoSqls}
  {dbName : String} {list : List String} (plain : ∀ table ∈ list, engine.Plain table)

theorem run_buildTables (engine : Engine V) (sqls : KtAutoSqls) (dbName : String)
    (list : List String) (conn : Conn V) :
    (buildTables engine sqls dbName list).run conn =
      ((matched (configured sqls dbName) list).forM (execSQL engine)).run conn := by
  unfold buildTables configured
  cases ModuleReflectTool.getCreateTableSqls sqls dbName with
  | none => rfl
  | some statements =>
      rw [matched, Option.getD_some, ← Effect.run_forM_flatMap]
      dsimp only
      apply congrArg (fun body => EStateM.run (List.forM statements body) conn)
      funext sql state
      have filtered := Effect.run_forM_filter (fun _ => execSQL engine sql)
        (fun s => contains sql (s ++ " (")) list state
      have mapped := Effect.run_forM_map (execSQL engine) (fun _ : String => sql)
        (list.filter fun s => contains sql (s ++ " (")) state
      exact filtered.trans mapped.symm

include documented plain

/-- Dropping a list of tables. -/
theorem run_cleanTables (conn : Conn V) :
    ∃ next, (cleanTables engine list).run conn = .ok () next ∧
      ∀ key, next.db.lookup key =
        if key ∈ list.map fold then none else conn.db.lookup key := by
  apply Effect.run_forM_invariant list fun visited (state : Conn V) =>
    ∀ key, state.db.lookup key = if key ∈ visited.map fold then none else conn.db.lookup key
  · intro visited table rest state split holds
    have member : table ∈ list := List.mem_iff_append.mpr ⟨_, _, split⟩
    refine ⟨_, run_dropIfExists documented (plain table member) state, ?_⟩
    intro key
    rw [Conn.executed_db, Database.lookup_erase, holds key, List.map_append, List.map_singleton]
    by_cases here : key = fold table
    · rw [if_pos here, if_pos (List.mem_append_right _ (List.mem_singleton.mpr here))]
    · rw [if_neg here]
      congr 1
      apply propext
      rw [List.mem_append, List.mem_singleton, or_iff_left here]
  · intro key
    rfl

/-- A pass that returns. -/
theorem rebuilt_of_pass (creating : Creating engine (configured sqls dbName)) {conn next : Conn V}
    (ends : (do
        cleanTables engine list
        buildTables engine sqls dbName list : Program V Unit).run conn = .ok () next) :
    Rebuilt engine (configured sqls dbName) list conn next := by
  rcases run_cleanTables documented plain conn with ⟨cleaned, cleans, lookups⟩
  rw [EStateM.run_bind, cleans] at ends
  dsimp only at ends
  rw [run_buildTables] at ends
  have creatingMatched : Creating engine (matched (configured sqls dbName) list) :=
    fun sql member => creating sql (mem_matched.mp member).1
  intro key
  rw [lookup_of_executed creatingMatched ends key, lookups key]
  by_cases listed : key ∈ list.map fold
  · rw [if_pos listed, if_pos listed, Option.none_or]
  · rw [if_neg listed, if_neg listed]

/-! ## The whole phase -/

theorem rebuilt_of_rebuildSpecifyTables (creating : Creating engine (configured sqls dbName))
    (nonempty : list ≠ []) {conn next : Conn V}
    (ends : (rebuildSpecifyTables engine sqls dbName list).run conn = .ok () next) :
    Rebuilt engine (configured sqls dbName) list conn next := by
  rw [rebuildSpecifyTables, if_neg (fun empty => nonempty (List.isEmpty_iff.mp empty))] at ends
  exact Effect.run_forM_relation (Rebuilt engine (configured sqls dbName) list)
    (fun _ _ _ => Rebuilt.trans)
    (fun _ _ _ => rebuilt_of_pass documented plain creating) nonempty ends

/-- Nothing is thrown if the statements are of the form `CREATE TABLE IF NOT
EXISTS` and none fails. -/
theorem run_rebuildSpecifyTables (faultless : ∀ clock sql, engine.fails clock sql = false)
    (readable : ∀ sql ∈ configured sqls dbName, ∃ name schema,
      engine.prepare sql = some (.create name true schema))
    (nonempty : list ≠ []) (conn : Conn V) :
    ∃ next, (rebuildSpecifyTables engine sqls dbName list).run conn = .ok () next := by
  rw [rebuildSpecifyTables, if_neg (fun empty => nonempty (List.isEmpty_iff.mp empty))]
  have pass : ∀ state : Conn V, ∃ next, (do
      cleanTables engine list
      buildTables engine sqls dbName list : Program V Unit).run state = .ok () next := by
    intro state
    rcases run_cleanTables documented plain state with ⟨cleaned, cleans, -⟩
    rcases run_executed faultless (fun sql member => readable sql (mem_matched.mp member).1)
      cleaned with ⟨next, ends⟩
    refine ⟨next, ?_⟩
    rw [EStateM.run_bind, cleans]
    dsimp only
    rw [run_buildTables]
    exact ends
  have passes : ∃ next, (list.forM fun _ => do
      cleanTables engine list
      buildTables engine sqls dbName list : Program V Unit).run conn = .ok () next ∧ True :=
    Effect.run_forM_invariant list (fun _ (_ : Conn V) => True)
      (fun _ _ _ state _ _ => (pass state).imp fun _ ends => ⟨ends, trivial⟩) trivial
  exact passes.imp fun _ ends => ends.1

end Pass

end Migration
end ModuleDatabase
