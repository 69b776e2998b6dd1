import ModuleDatabase.Migration.Rebuild

namespace ModuleDatabase
namespace Migration

open Text
open Sql

/-!
# When the second phase returns

Nothing is caught in the second phase: it throws as soon as a statement does.
A statement that creates a table throws if its text fails, or if the table is
there and the statement does not say `IF NOT EXISTS`.  So whether a list of
such statements executes depends on the keys under which there are tables, and
on those keys only that statements without `IF NOT EXISTS` would use.

A pass drops the listed tables first.  An unlisted table that the first pass
has created is still there in the second one, which then throws if the
statement does not say `IF NOT EXISTS`.  After the second pass nothing new can
happen.
-/

variable {V : Type}

/-- Whether statements that create tables all execute, if there are tables under
some keys. -/
def executes (engine : Engine V) : List String → (String → Bool) → Bool
  | [], _ => true
  | sql :: rest, present =>
      match engine.prepare sql with
      | some (.create name ifNotExists _) =>
          !engine.fails 0 sql && (ifNotExists || !present (fold name)) &&
            executes engine rest fun key => present key || key == fold name
      | _ => false

/-- Statements without `IF NOT EXISTS` create listed tables only. -/
def Repeatable (engine : Engine V) (statements list : List String) : Prop :=
  ∀ sql ∈ statements, ∀ name schema,
    engine.prepare sql = some (.create name false schema) → fold name ∈ list.map fold

/-- The keys of the tables that are left when those of a list are dropped. -/
def left (list : List String) (db : Database V) : String → Bool :=
  fun key => !(list.map fold).contains key && (db.lookup key).isSome

theorem left_of_mem {list : List String} {key : String} (listed : key ∈ list.map fold)
    (db : Database V) : left list db key = false := by
  rw [left, List.contains_iff_mem.mpr listed]
  rfl

theorem left_of_not_mem {list : List String} {key : String} (unlisted : key ∉ list.map fold)
    (db : Database V) : left list db key = (db.lookup key).isSome := by
  have absent : (list.map fold).contains key = false :=
    Bool.eq_false_iff.mpr fun among => unlisted (List.contains_iff_mem.mp among)
  rw [left, absent]
  rfl

/-! ## Statements in a row -/

section Statements

variable {engine : Engine V} {statements : List String}

theorem run_create_isSome_eq (db : Database V) (name : String) (ifNotExists : Bool)
    (schema : Schema V) :
    (Stmt.run db (.create name ifNotExists schema)).isSome =
      (ifNotExists || !(db.lookup (fold name)).isSome) := by
  rw [Stmt.run, Database.find]
  cases db.lookup (fold name) with
  | none => exact (Bool.or_true ifNotExists).symm
  | some table => cases ifNotExists <;> rfl

/-- The statements return if and only if they execute. -/
theorem returns_iff_executes (steady : engine.Steady) (creating : Creating engine statements)
    (conn : Conn V) :
    (∃ next, (statements.forM (execSQL engine)).run conn = .ok () next) ↔
      executes engine statements (fun key => (conn.db.lookup key).isSome) = true := by
  induction statements generalizing conn with
  | nil => exact iff_of_true ⟨conn, rfl⟩ rfl
  | cons sql rest ih =>
      have tail : Creating engine rest :=
        fun other member => creating other (List.mem_cons_of_mem _ member)
      rw [Effect.returns_forM_cons_iff]
      cases reads : engine.prepare sql with
      | none =>
          rw [executes, reads, run_execSQL_of_none reads]
          refine iff_of_false ?_ Bool.false_ne_true
          rintro ⟨mid, impossible, -⟩
          cases impossible
      | some stmt =>
          rcases creating sql List.mem_cons_self stmt reads with ⟨name, ifNotExists, schema, same⟩
          subst same
          simp only [executes, reads, Bool.and_eq_true, Bool.not_eq_true']
          have throws : engine.fails 0 sql = true ∨
              Stmt.run conn.db (.create name ifNotExists schema) = none →
              ∀ mid, (execSQL engine sql).run conn ≠ .ok () mid := by
            intro reason mid ends
            have refused : ((Stmt.create name ifNotExists schema : Stmt V).writes &&
                engine.fails conn.clock sql) = true ∨
                Stmt.run conn.db (.create name ifNotExists schema) = none := by
              rw [steady]
              exact reason
            rw [run_execSQL_of_throws reads refused] at ends
            cases ends
          have known := run_create_isSome_eq conn.db name ifNotExists schema
          cases fails : engine.fails 0 sql with
          | true =>
              refine iff_of_false ?_ ?_
              · rintro ⟨mid, ends, -⟩
                exact throws (Or.inl fails) mid ends
              · rintro ⟨⟨impossible, -⟩, -⟩
                cases impossible
          | false =>
              cases runs : Stmt.run conn.db (.create name ifNotExists schema) with
              | none =>
                  rw [runs, Option.isSome_none] at known
                  refine iff_of_false ?_ ?_
                  · rintro ⟨mid, ends, -⟩
                    exact throws (Or.inr runs) mid ends
                  · rintro ⟨⟨-, free⟩, -⟩
                    rw [← known] at free
                    cases free
              | some db =>
                  have works : ((Stmt.create name ifNotExists schema : Stmt V).writes &&
                      engine.fails conn.clock sql) = false := by
                    rw [steady, fails]
                    rfl
                  have grown : (fun key => ((conn.executed db).db.lookup key).isSome) =
                      fun key => (conn.db.lookup key).isSome || key == fold name := by
                    funext key
                    rw [Conn.executed_db, Stmt.lookup_of_create runs key, Option.isSome_or]
                    congr 1
                    by_cases here : fold name = key
                    · rw [if_pos here, here, beq_self_eq_true]
                      rfl
                    · rw [if_neg here, beq_false_of_ne (Ne.symm here)]
                      rfl
                  rw [runs, Option.isSome_some] at known
                  rw [run_execSQL_of_some reads works runs, ← known, ← grown,
                    and_iff_right (And.intro rfl rfl), ← ih tail]
                  constructor
                  · rintro ⟨mid, same, returns⟩
                    cases same
                    exact returns
                  · intro returns
                    exact ⟨_, rfl, returns⟩

/-- Only the keys of statements without `IF NOT EXISTS` matter. -/
theorem executes_congr {first second : String → Bool}
    (same : ∀ sql ∈ statements, ∀ name schema,
      engine.prepare sql = some (.create name false schema) →
        first (fold name) = second (fold name)) :
    executes engine statements first = executes engine statements second := by
  induction statements generalizing first second with
  | nil => rfl
  | cons sql rest ih =>
      unfold executes
      split
      · rename_i name ifNotExists schema reads
        have later : executes engine rest (fun key => first key || key == fold name) =
            executes engine rest fun key => second key || key == fold name := by
          apply ih
          intro other member otherName otherSchema otherReads
          rw [same other (List.mem_cons_of_mem _ member) otherName otherSchema otherReads]
        rw [later]
        cases ifNotExists with
        | true => rw [Bool.true_or, Bool.true_or]
        | false => rw [same sql List.mem_cons_self name schema reads]
      · rfl

/-- A statement without `IF NOT EXISTS` that executes found its place free. -/
theorem executes_free {present : String → Bool}
    (ends : executes engine statements present = true) {sql name : String} {schema : Schema V}
    (member : sql ∈ statements) (reads : engine.prepare sql = some (.create name false schema)) :
    present (fold name) = false := by
  induction statements generalizing present with
  | nil => cases member
  | cons first rest ih =>
      unfold executes at ends
      split at ends
      · rename_i firstName ifNotExists firstSchema firstReads
        rw [Bool.and_eq_true, Bool.and_eq_true] at ends
        rcases List.mem_cons.mp member with same | later
        · rw [← same, reads] at firstReads
          cases firstReads
          simpa only [Bool.false_or, Bool.not_eq_true'] using ends.1.2
        · exact (Bool.or_eq_false_iff.mp (ih ends.2 later)).1
      · cases ends

theorem created_isSome_of_mem {sql name : String} {ifNotExists : Bool} {schema : Schema V}
    (member : sql ∈ statements)
    (reads : engine.prepare sql = some (.create name ifNotExists schema)) :
    (created engine statements (fold name)).isSome = true := by
  have here : creates engine (fold name) sql = some (Table.empty name schema) := by
    rw [creates, reads]
    exact if_pos rfl
  cases nothing : created engine statements (fold name) with
  | some table => rfl
  | none =>
      rw [List.findSome?_eq_none_iff.mp nothing sql member] at here
      cases here

end Statements

/-- The statements of a pass depend on the list by how many of its names occur in
each configured statement. -/
theorem matched_congr {statements first second : List String}
    (same : ∀ sql ∈ statements, (first.filter fun s => contains sql (s ++ " (")).length =
      (second.filter fun s => contains sql (s ++ " (")).length) :
    matched statements first = matched statements second := by
  unfold matched
  apply List.flatMap_congr
  intro sql member
  rw [List.map_const', List.map_const', same sql member]

/-! ## Passes -/

section Pass

variable {engine : Engine V} (documented : engine.Documented) (steady : engine.Steady)
  {sqls : KtAutoSqls} {dbName : String} {list : List String}
  (plain : ∀ table ∈ list, engine.Plain table) (creating : Creating engine (configured sqls dbName))
include documented steady plain creating

theorem pass_returns_iff (conn : Conn V) :
    (∃ next, (do
        cleanTables engine list
        buildTables engine sqls dbName list : Program V Unit).run conn = .ok () next) ↔
      executes engine (matched (configured sqls dbName) list) (left list conn.db) = true := by
  rcases run_cleanTables documented plain conn with ⟨cleaned, cleans, lookups⟩
  have creatingMatched : Creating engine (matched (configured sqls dbName) list) :=
    fun sql member => creating sql (mem_matched.mp member).1
  have keys : (fun key => (cleaned.db.lookup key).isSome) = left list conn.db := by
    funext key
    rw [lookups key]
    by_cases listed : key ∈ list.map fold
    · rw [if_pos listed, left_of_mem listed]
      rfl
    · rw [if_neg listed, left_of_not_mem listed]
  rw [← keys, ← returns_iff_executes steady creatingMatched cleaned]
  apply exists_congr
  intro next
  rw [EStateM.run_bind, cleans]
  dsimp only
  rw [run_buildTables]

omit documented steady plain creating in
/-- After a pass the same statements execute once more if and only if they can be
repeated. -/
theorem executes_again_iff {conn next : Conn V}
    (rebuilt : Rebuilt engine (configured sqls dbName) list conn next)
    (ends : executes engine (matched (configured sqls dbName) list) (left list conn.db) = true) :
    executes engine (matched (configured sqls dbName) list) (left list next.db) = true ↔
      Repeatable engine (matched (configured sqls dbName) list) list := by
  constructor
  · intro again sql member name schema reads
    by_contra unlisted
    have free := executes_free again member reads
    have there := created_isSome_of_mem member reads
    rw [left_of_not_mem unlisted, rebuilt (fold name), if_neg unlisted, Option.isSome_or, there,
      Bool.or_true] at free
    cases free
  · intro repeatable
    rw [← ends]
    apply executes_congr
    intro sql member name schema reads
    have listed := repeatable sql member name schema reads
    rw [left_of_mem listed, left_of_mem listed]

/-- Some passes return if and only if the statements execute, and, if there are
two of them or more, can be repeated. -/
theorem passes_return_iff {α : Type} (turns : List α) (nonempty : turns ≠ []) (conn : Conn V) :
    (∃ next, (turns.forM fun _ => do
        cleanTables engine list
        buildTables engine sqls dbName list : Program V Unit).run conn = .ok () next) ↔
      executes engine (matched (configured sqls dbName) list) (left list conn.db) = true ∧
        (turns.length ≤ 1 ∨ Repeatable engine (matched (configured sqls dbName) list) list) := by
  induction turns generalizing conn with
  | nil => exact absurd rfl nonempty
  | cons turn rest ih =>
      rw [Effect.returns_forM_cons_iff]
      constructor
      · rintro ⟨mid, turned, later⟩
        have ends := (pass_returns_iff documented steady plain creating conn).mp ⟨mid, turned⟩
        refine ⟨ends, ?_⟩
        cases rest with
        | nil => exact Or.inl (Nat.le_refl 1)
        | cons other others =>
            right
            have again := ((ih (List.cons_ne_nil _ _) mid).mp later).1
            exact (executes_again_iff (rebuilt_of_pass documented plain creating turned)
              ends).mp again
      · rintro ⟨ends, several⟩
        rcases (pass_returns_iff documented steady plain creating conn).mpr ends with
          ⟨mid, turned⟩
        refine ⟨mid, turned, ?_⟩
        cases rest with
        | nil => exact ⟨mid, rfl⟩
        | cons other others =>
            have repeatable := several.resolve_left (by simp only [List.length_cons]; omega)
            apply (ih (List.cons_ne_nil _ _) mid).mpr
            exact ⟨(executes_again_iff (rebuilt_of_pass documented plain creating turned)
              ends).mpr repeatable, Or.inr repeatable⟩

theorem rebuildSpecifyTables_returns_iff (nonempty : list ≠ []) (conn : Conn V) :
    (∃ next, (rebuildSpecifyTables engine sqls dbName list).run conn = .ok () next) ↔
      executes engine (matched (configured sqls dbName) list) (left list conn.db) = true ∧
        (list.length ≤ 1 ∨ Repeatable engine (matched (configured sqls dbName) list) list) := by
  rw [rebuildSpecifyTables, if_neg (fun empty => nonempty (List.isEmpty_iff.mp empty))]
  exact passes_return_iff documented steady plain creating list nonempty conn

end Pass

end Migration
end ModuleDatabase
