import ModuleDatabase.Migration.Conservation
import ModuleDatabase.Opening.DatabaseHelper

namespace ModuleDatabase
namespace Opening

open Text
open Sql
open Migration

/-!
# Creating all tables, or none

`onCreate` swallows the exception of a statement, inside a transaction of its
own.  That transaction ends without having been marked, and so marks the one
around it, which `SQLiteOpenHelper` takes for successful and ends.  Whether the
tables that were created before the exception stay, and whether the version is
written, is decided there.
-/

variable {V : Type}

section Fresh

variable {engine : Engine V} {sqls : KtAutoSqls} {dbName : String} {session : Session V}

/-- The exception of a configured statement is swallowed; the transaction
around is told that a child has failed. -/
theorem run_createAllTables {top : Transaction} {rest : List Transaction}
    (unmarked : top.markedSuccessful = false) (inside : session.transactions = top :: rest) :
    (createAllTables engine sqls dbName).run session =
      match ((configured sqls dbName).forM (execSQL engine)).run session.conn with
      | .ok _ last => .ok () { session with conn := last }
      | .error _ last => .ok () { session with
          conn := last
          transactions := { top with childFailed := true } :: rest } := by
  rcases session with ⟨conn, version, transactions, saved⟩
  subst inside
  unfold createAllTables configured
  cases ModuleReflectTool.getCreateTableSqls sqls dbName with
  | none => rfl
  | some tables =>
      cases tables with
      | nil => rfl
      | cons table others =>
          have begins : (beginTransaction : InSession V Unit).run
              ⟨conn, version, top :: rest, saved⟩ =
              .ok () ⟨conn, version, ⟨false, false⟩ :: top :: rest, saved⟩ := by
            rw [EStateM.run, beginTransaction]
            dsimp only
            rw [unmarked, if_neg Bool.false_ne_true]
          rw [Option.getD_some]
          dsimp only
          rw [List.isEmpty_cons, if_neg Bool.false_ne_true, EStateM.run_bind,
            Effect.run_tryCatch, EStateM.run_bind, begins]
          dsimp only
          rw [EStateM.run_bind, run_forM_onTables, EStateM.run, onTables]
          dsimp only
          cases ((table :: others).forM (execSQL engine)).run conn with
          | ok done last => cases top with | mk marked failed => cases failed <;> rfl
          | error thrown last => cases top with | mk marked failed => cases failed <;> rfl

/-- A database without a version is opened whether or not its tables could be
created.  If they could not, it is left as it was, without a version. -/
theorem run_getDatabaseLocked_fresh (engine : Engine V) (sqls : KtAutoSqls) (dbName : String)
    {newVersion : Int} (fresh : session.version = 0)
    (other : newVersion ≠ 0) (idle : session.transactions = []) :
    ∃ next, (getDatabaseLocked engine sqls dbName newVersion).run session = .ok () next ∧
      next.transactions = [] ∧
      match ((configured sqls dbName).forM (execSQL engine)).run session.conn with
      | .ok _ last => next.conn.db = last.db ∧ next.version = newVersion
      | .error _ _ => next.conn.db = session.conn.db ∧ next.version = 0 := by
  rcases session with ⟨conn, version, transactions, saved⟩
  subst fresh
  subst idle
  have creation : (createAllTables engine sqls dbName).run
      ⟨conn, 0, [⟨false, false⟩], some (conn.db, 0)⟩ = _ := run_createAllTables rfl rfl
  have unfolded : (getDatabaseLocked engine sqls dbName newVersion).run ⟨conn, 0, [], saved⟩ =
      (Effect.ensuring
        (do
          createAllTables engine sqls dbName
          setVersion newVersion
          setTransactionSuccessful) endTransaction).run
        ⟨conn, 0, [⟨false, false⟩], some (conn.db, 0)⟩ := by
    rw [getDatabaseLocked, EStateM.run_bind]
    have reads : (getVersion : InSession V Int).run ⟨conn, 0, [], saved⟩ =
        .ok 0 ⟨conn, 0, [], saved⟩ := rfl
    rw [reads]
    dsimp only
    rw [if_neg (Ne.symm other), EStateM.run_bind]
    rfl
  rw [unfolded]
  cases runs : ((configured sqls dbName).forM (execSQL engine)).run conn with
  | ok done last =>
      rw [runs] at creation
      have body : (do
          createAllTables engine sqls dbName
          setVersion newVersion
          setTransactionSuccessful : InSession V Unit).run
            ⟨conn, 0, [⟨false, false⟩], some (conn.db, 0)⟩ =
          .ok () ⟨last, newVersion, [⟨true, false⟩], some (conn.db, 0)⟩ := by
        rw [EStateM.run_bind, creation]
        rfl
      exact ⟨_, Effect.run_ensuring_of_ok body rfl, rfl, rfl, rfl⟩
  | error thrown last =>
      rw [runs] at creation
      have body : (do
          createAllTables engine sqls dbName
          setVersion newVersion
          setTransactionSuccessful : InSession V Unit).run
            ⟨conn, 0, [⟨false, false⟩], some (conn.db, 0)⟩ =
          .ok () ⟨last, newVersion, [⟨true, true⟩], some (conn.db, 0)⟩ := by
        rw [EStateM.run_bind, creation]
        rfl
      exact ⟨_, Effect.run_ensuring_of_ok body rfl, rfl, rfl, rfl⟩

end Fresh

/-! ## All or nothing -/

/-- After `onCreate` in an empty database, either all configured statements have
been applied and the version is written, or one of them has thrown, there is no
table, and the next open runs `onCreate` again. -/
theorem onCreate_all_or_nothing (engine : Engine V) (sqls : KtAutoSqls) (dbName : String)
    {newVersion : Int} (positive : 1 ≤ newVersion) {session : Session V}
    (fresh : session.version = 0) (idle : session.transactions = [])
    (empty : session.conn.db = Database.empty) :
    ∃ next, (getDatabaseLocked engine sqls dbName newVersion).run session = .ok () next ∧
      next.transactions = [] ∧
      ((∃ last, ((configured sqls dbName).forM (execSQL engine)).run session.conn = .ok () last ∧
          next.conn.db = last.db ∧ next.version = newVersion) ∨
        ((∃ thrown last, ((configured sqls dbName).forM (execSQL engine)).run session.conn =
            .error thrown last) ∧
          next.conn.db = Database.empty ∧ next.version = 0 ∧
          onVersion engine sqls dbName next.version newVersion = onCreate engine sqls dbName)) := by
  have other : newVersion ≠ 0 := by omega
  rcases run_getDatabaseLocked_fresh engine sqls dbName fresh other idle with
    ⟨next, ends, closed, left⟩
  refine ⟨next, ends, closed, ?_⟩
  cases runs : ((configured sqls dbName).forM (execSQL engine)).run session.conn with
  | ok done last =>
      rw [runs] at left
      exact Or.inl ⟨last, rfl, left.1, left.2⟩
  | error thrown last =>
      rw [runs] at left
      right
      refine ⟨⟨thrown, last, rfl⟩, left.1.trans empty, left.2, ?_⟩
      rw [left.2]
      exact if_pos rfl

section Small

open Sql.Reference

/-- A new session, with no tables. -/
def newSession : Session Int := ⟨⟨Database.empty, 0⟩, 0, [], none⟩

def twoTables : KtAutoSqls := .ofEntries [valueText "A", valueText "B"] 2 none none

/-- If the second of two tables cannot be created, there is none. -/
theorem onCreate_nothing :
    ∃ next, (getDatabaseLocked (failing [valueText "B"]) twoTables "demo" 2).run newSession =
        .ok () next ∧
      next.conn.db = Database.empty ∧ next.version = 0 := by
  have fresh : newSession.version = 0 := rfl
  have positive : (1 : Int) ≤ 2 := by decide
  rcases onCreate_all_or_nothing (failing [valueText "B"]) twoTables "demo" positive fresh rfl rfl
    with ⟨next, ends, -, ⟨last, runs, -⟩ | ⟨-, nothing, version, -⟩⟩
  · have evaluated : Effect.endsIn
        ((configured twoTables "demo").forM (execSQL (failing [valueText "B"])))
        (fun _ => true) newSession.conn = false := by decide +kernel
    rw [Effect.endsIn_of_ok runs] at evaluated
    cases evaluated
  · exact ⟨next, ends, nothing, version⟩

end Small

end Opening
end ModuleDatabase
